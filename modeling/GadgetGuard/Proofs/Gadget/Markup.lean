import GadgetGuard.Proofs.Document.Tag
import GadgetGuard.Proofs.Gadget.Attribute
import GadgetGuard.Proofs.Gadget.Content
import GadgetGuard.Proofs.Style.Plain
/-!
# The markup of sanitized pages

A tame tree holds elements, attributes and texts that a reader of its HTML cannot mistake.  The
tags that are found in a tame page are those of its elements.  What the walk leaves of an
unmarked document is tame in all that is written of it, whatever the document held before.
-/

namespace GadgetGuard

open GadgetGuard.Text

namespace Policy

variable {policy : Policy} {name : String}

/-- All names of elements and attributes are made of letters, digits and hyphens. -/
def HasPlainNames (policy : Policy) : Prop :=
  ∀ name ∈ policy.tags ++ policy.attributes, IsPlainName name

theorem HasPlainNames.of_allowsTag (hplain : policy.HasPlainNames)
    (hname : policy.allowsTag name = true) : IsPlainName name := by
  apply isPlainName_lower.1
  apply hplain
  exact List.mem_append_left _ (List.contains_iff_mem.1 hname)

theorem HasPlainNames.of_allowsAttribute (hplain : policy.HasPlainNames)
    (hname : policy.allowsAttribute name = true) : IsPlainName name := by
  apply isPlainName_lower.1
  apply hplain
  exact List.mem_append_right _ (List.contains_iff_mem.1 hname)

theorem hasPlainNames_of {tags attributes : List String}
    (hplain : ∀ name ∈ tags ++ attributes, IsPlainName name) :
    (Policy.of tags attributes).HasPlainNames := by
  intro name hname
  rw [Policy.of, ← List.map_append] at hname
  obtain ⟨written, hwritten, rfl⟩ := List.mem_map.1 hname
  exact isPlainName_lower.2 (hplain written hwritten)

theorem hasPlainNames_default : default.HasPlainNames := by
  have hnames : (defaultTags ++ defaultAttributes).all (fun name =>
      !name.toList.isEmpty && name.toList.all isNameCharacter) = true := by
    decide +kernel
  apply hasPlainNames_of
  intro name hname
  have hname' := List.all_eq_true.1 hnames name hname
  rw [Bool.and_eq_true, List.all_eq_true] at hname'
  refine ⟨?_, hname'.2⟩
  rintro rfl
  exact absurd hname'.1 (by decide)

theorem allowsTag_default_script : default.allowsTag "script" = false := by
  decide +kernel

end Policy

/-! ## Tame trees -/

/-- Whether a policy allows an element of that name and its attributes. -/
def Tag.IsAllowed (policy : Policy) : Tag → Prop
  | opening name attributes =>
    policy.allowsTag name = true ∧ ∀ a ∈ attributes, policy.allowsAttribute a.name = true
  | closing name => policy.allowsTag name = true

namespace Rose

/-- A tree of elements and attributes that a policy allows, in which text that will not be
escaped has no `<`. -/
inductive Tame (policy : Policy) : Bool → Rose Item → Prop
  | document {isRawText : Bool} {trust : Trust} {branches : List (Rose Item)}
      (hbranches : ∀ branch ∈ branches, Tame policy false branch) :
      Tame policy isRawText (.node ⟨.document, trust⟩ branches)
  | element {isRawText : Bool} {trust : Trust} {branches : List (Rose Item)} {name : String}
      {attributes : List Attribute} (hname : policy.allowsTag name = true)
      (hattributes : ∀ a ∈ attributes, policy.allowsAttribute a.name = true)
      (hbranches : ∀ branch ∈ branches,
        Tame policy (Document.rawTextElements.contains (lower name)) branch) :
      Tame policy isRawText (.node ⟨.element name attributes, trust⟩ branches)
  | text {isRawText : Bool} {trust : Trust} {content : String}
      (hcontent : isRawText = true → '<' ∉ content.toList) :
      Tame policy isRawText (.node ⟨.text content, trust⟩ [])
  | cdata {isRawText : Bool} {trust : Trust} {content : String}
      (hcontent : isRawText = true → '<' ∉ content.toList) :
      Tame policy isRawText (.node ⟨.cdata content, trust⟩ [])
  | entity {isRawText : Bool} {trust : Trust} {name : String} :
      Tame policy isRawText (.node ⟨.entity name, trust⟩ [])

namespace Tame

variable {policy : Policy} {isRawText : Bool} {tree : Rose Item}

theorem not_mem_text {content : String} (hcontent : isRawText = true → '<' ∉ content.toList) :
    '<' ∉ (if isRawText then content else Document.escapeText content).toList := by
  cases isRawText with
  | false => exact not_mem_escapeText content
  | true => exact hcontent rfl

theorem cutTags_join {branches : List (Rose Item)}
    (hbranches : ∀ branch ∈ branches, ∀ rest, cutTags ((branch.html isRawText).toList ++ rest) =
      branch.tags.map (·.text.toList) ++ cutTags rest) (rest : List Char) :
    cutTags ((String.join (branches.map (html isRawText))).toList ++ rest) =
      (branches.flatMap tags).map (·.text.toList) ++ cutTags rest := by
  rw [String.toList_join, List.flatMap_map]
  induction branches with
  | nil => rfl
  | cons branch later ih =>
    rw [List.flatMap_cons, List.flatMap_cons, List.map_append, List.append_assoc,
      List.append_assoc, hbranches branch List.mem_cons_self,
      ih fun other hother => hbranches other (List.mem_cons_of_mem _ hother)]

/-- The tags that are found in the page of a tame tree are those of its elements. -/
theorem cutTags_html (hplain : policy.HasPlainNames) (htame : Tame policy isRawText tree)
    (rest : List Char) :
    cutTags ((tree.html isRawText).toList ++ rest) =
      tree.tags.map (·.text.toList) ++ cutTags rest := by
  induction htame generalizing rest with
  | document _ ih =>
    rw [html, tags]
    exact cutTags_join ih rest
  | @element _ _ branches name attributes hname hattributes _ ih =>
    have hname' : IsPlainName name := hplain.of_allowsTag hname
    have hopening : ∀ rest, _ := cutTags_openingTag hname' fun a ha =>
      hplain.of_allowsAttribute (hattributes a ha)
    rw [html, tags]
    dsimp only
    split
    · exact hopening rest
    · rw [String.toList_append, String.toList_append, List.append_assoc, List.append_assoc,
        hopening, cutTags_join ih, cutTags_closingTag hname']
      simp [Tag.text]
  | text hcontent =>
    rw [html, tags]
    exact cutTags_append_of_not_mem rest (not_mem_text hcontent)
  | cdata hcontent =>
    rw [html, tags]
    exact cutTags_append_of_not_mem rest (not_mem_text hcontent)
  | entity =>
    rw [html, tags]
    exact cutTags_append_of_not_mem rest (not_mem_entityHtml _)

/-- A policy that tames a tree allows all its tags. -/
theorem tags_allowed (htame : Tame policy isRawText tree) :
    ∀ tag ∈ tree.tags, tag.IsAllowed policy := by
  induction htame with
  | document _ ih =>
    intro tag htag
    rw [tags] at htag
    obtain ⟨branch, hbranch, htag⟩ := List.mem_flatMap.1 htag
    exact ih branch hbranch tag htag
  | @element _ _ branches name attributes hname hattributes _ ih =>
    intro tag htag
    rw [tags] at htag
    have hcases : tag = .opening name attributes ∨ tag = .closing name ∨
        tag ∈ branches.flatMap tags := by
      dsimp only at htag
      split at htag
      · exact .inl (List.mem_singleton.1 htag)
      · simp only [List.cons_append, List.mem_cons, List.mem_append, List.not_mem_nil,
          or_false] at htag
        rcases htag with hopening | hbelow | hclosing
        · exact .inl hopening
        · exact .inr (.inr hbelow)
        · exact .inr (.inl hclosing)
    rcases hcases with rfl | rfl | hbelow
    · exact ⟨hname, hattributes⟩
    · exact hname
    · obtain ⟨branch, hbranch, htag⟩ := List.mem_flatMap.1 hbelow
      exact ih branch hbranch tag htag
  | _ =>
    intro tag htag
    rw [tags] at htag
    exact absurd htag List.not_mem_nil

end Tame

end Rose

/-! ## What the walk leaves is tame -/

namespace Sanitizer

variable {sanitizer : Sanitizer} {tree : Rose Item}

theorem not_mem_cleanedText (hstyles : ∀ css, ∃ cleaned,
    sanitizer.styleOutcome css = .clean cleaned ∧ '<' ∉ cleaned.toList) (css : String) :
    '<' ∉ (sanitizer.cleanedText css).toList := by
  obtain ⟨cleaned, houtcome, hcleaned⟩ := hstyles css
  rw [cleanedText, houtcome]
  exact hcleaned

/-- Raw text elements are scripts and styles. -/
theorem not_rawText {name : String} (hscript : sanitizer.policy.allowsTag "script" = false)
    (hname : sanitizer.policy.allowsTag name = true) (hstyle : lower name ≠ "style") :
    Document.rawTextElements.contains (lower name) = false := by
  rw [← Bool.not_eq_true, List.contains_iff_mem, Document.rawTextElements, List.mem_cons,
    List.mem_singleton]
  rintro (hname' | hname')
  · rw [← allowsTag_lower, hname', hscript] at hname
    contradiction
  · exact hstyle hname'

/-- Without marks, what stays as it is is a text or a reference. -/
theorem tame_written_of_keep {item : Item} {branches : List (Rose Item)} {policy : Policy}
    (hfate : sanitizer.fate item = .keep) (hmark : item.trust = .none) :
    (Rose.node item branches).written.Tame policy false := by
  obtain ⟨data, trust⟩ := item
  obtain rfl : trust = .none := hmark
  cases data with
  | text content =>
    rw [Rose.written]
    exact .text fun hraw => absurd hraw Bool.false_ne_true
  | cdata content =>
    rw [Rose.written]
    exact .cdata fun hraw => absurd hraw Bool.false_ne_true
  | entity name =>
    rw [Rose.written]
    exact .entity
  | element name attributes =>
    simp only [fate] at hfate
    split at hfate
    · contradiction
    · split at hfate
      · contradiction
      · contradiction
  | _ => contradiction

/-- All that is written of what the filter leaves is tame. -/
theorem tame_written_filterTree (hscript : sanitizer.policy.allowsTag "script" = false)
    (hstyles : ∀ css, ∃ cleaned,
      sanitizer.styleOutcome css = .clean cleaned ∧ '<' ∉ cleaned.toList)
    (hunmarked : ∀ item ∈ tree.labels, item.trust = .none) :
    ∀ kept ∈ sanitizer.filterTree tree, kept.written.Tame sanitizer.policy false := by
  induction tree with
  | node item branches ih =>
    have hmark : item.trust = .none := hunmarked item (Rose.mem_labels_node.2 (.inl rfl))
    have hbelow : ∀ branch ∈ (branches.flatMap sanitizer.filterTree).map Rose.written,
        branch.Tame sanitizer.policy false := by
      intro branch hbranch
      obtain ⟨kept, hkept, rfl⟩ := List.mem_map.1 hbranch
      obtain ⟨tree, htree, hkept⟩ := List.mem_flatMap.1 hkept
      apply ih tree htree _ kept hkept
      intro label hlabel
      apply hunmarked
      exact Rose.mem_labels_node.2 (.inr (List.mem_flatMap.2 ⟨tree, htree, hlabel⟩))
    intro kept hkept
    rw [filterTree] at hkept
    cases hfate : sanitizer.fate item with
    | keep =>
      rw [hfate] at hkept
      obtain rfl := List.mem_singleton.1 hkept
      exact tame_written_of_keep hfate hmark
    | drop =>
      rw [hfate] at hkept
      contradiction
    | enter item' =>
      rw [hfate] at hkept
      obtain rfl := List.mem_singleton.1 hkept
      rcases entered_data hfate with ⟨hdocument, rfl⟩ | ⟨name, attributes, _, hkept'⟩
      · obtain ⟨data, trust⟩ := item'
        obtain rfl : data = .document := hdocument
        rw [Rose.written]
        exact .document hbelow
      · rcases hkept' with ⟨hself, _⟩ | ⟨_, hname, hstyle, rfl⟩
        · rw [hmark] at hself
          contradiction
        · rw [Rose.written]
          apply Rose.Tame.element hname allowsAttribute_filteredAttributes
          rw [not_rawText hscript hname hstyle]
          exact hbelow
    | restyle item' =>
      rw [hfate] at hkept
      obtain rfl := List.mem_singleton.1 hkept
      obtain ⟨name, attributes, rfl, hname, _, rfl⟩ := restyled_data hfate
      rw [Rose.written]
      apply Rose.Tame.element hname allowsAttribute_filteredAttributes
      rw [List.map_singleton, List.forall_mem_singleton, textLeaf, Rose.written]
      apply Rose.Tame.text
      intro _
      exact not_mem_cleanedText hstyles _

end Sanitizer

namespace ContentGuard

variable {guard : ContentGuard} {gadget : Gadget} {content after : Content}
variable {document cleaned : Document}

/-- A sanitized page is the HTML of a tree that is tame in all that is written of it. -/
theorem exists_tame_tree (hdocument : content.document = some document)
    (hreachable : document.Reachable)
    (hacyclic : ¬ document.IsBelow Document.root Document.root)
    (hunmarked : ∀ id, document.trust id = .none)
    (hscript : guard.policy.allowsTag "script" = false)
    (hstyles : guard.styles = Style.conservative)
    (hbase : '<' ∉ guard.links.proxyBase.toList)
    (hwants : gadget.parameter? "sanitize" = some "1")
    (hafter : (guard.apply gadget content).value = some after)
    (hcleaned : after.document = some cleaned) :
    ∃ tree, cleaned.tree? Document.root = some tree ∧
      after.html? = some (tree.written.html false) ∧ tree.written.Tame guard.policy false := by
  have hvalue := sanitize_value_of_kept hdocument hwants hafter hcleaned
  have hstop : ((guard.sanitizer gadget).sanitize document Document.root).value.stop = none := by
    rw [hvalue]
  obtain ⟨below, kept, hshape, hwalked, hshape', hfiltered⟩ :=
    Sanitizer.sanitize_root_walked hreachable.consistent hacyclic hstop
  rw [hvalue] at hwalked hshape' hfiltered
  have hnodup := hshape'.nodup_labels hwalked.consistent
  have houtcome : ∀ css, ∃ cleaned,
      (guard.sanitizer gadget).styleOutcome css = .clean cleaned ∧ '<' ∉ cleaned.toList := by
    intro css
    rw [Sanitizer.styleOutcome, sanitizer, hstyles]
    exact Style.conservative_value hbase
  have hmarks : ∀ item ∈ ((Rose.node Document.root below).map document.item).labels,
      item.trust = .none := by
    intro item hitem
    rw [Rose.labels_map] at hitem
    obtain ⟨id, _, rfl⟩ := List.mem_map.1 hitem
    rw [Document.item, Document.exemption, hunmarked, ite_self]
  refine ⟨(Rose.node Document.root kept).map cleaned.item, hshape'.tree? hnodup, ?_, ?_⟩
  · rw [Content.html?, hcleaned, Rose.html_written]
    exact hshape'.nodeHtml? hnodup
  · apply Sanitizer.tame_written_filterTree hscript houtcome hmarks
    rw [hfiltered]
    exact List.mem_singleton_self _

/-- The tags that a reader finds in a sanitized page are those of the elements that are left,
in their order, apart from elements below texts, which are never written.  The policy allows
every one of them, and an opening tag reads as the name and the attributes that are stored.
Whatever texts, values, references and styles hold, they bring in no tag and no attribute. -/
theorem apply_writes_kept_tags (guard : ContentGuard) (gadget : Gadget)
    (content after : Content) (document cleaned : Document)
    (hdocument : content.document = some document) (hreachable : document.Reachable)
    (hacyclic : ¬ document.IsBelow Document.root Document.root)
    (hunmarked : ∀ id, document.trust id = .none)
    (hscript : guard.policy.allowsTag "script" = false) (hplain : guard.policy.HasPlainNames)
    (hstyles : guard.styles = Style.conservative)
    (hbase : '<' ∉ guard.links.proxyBase.toList)
    (hwants : gadget.parameter? "sanitize" = some "1")
    (hafter : (guard.apply gadget content).value = some after)
    (hcleaned : after.document = some cleaned) :
    ∃ html tree, after.html? = some html ∧ cleaned.tree? Document.root = some tree ∧
      cutTags html.toList = tree.written.tags.map (·.text.toList) ∧
      ∀ tag ∈ tree.written.tags, tag.IsAllowed guard.policy ∧
        ∀ name attributes, tag = .opening name attributes →
          readTag tag.text.toList = some (name, attributes) := by
  obtain ⟨tree, htree, hhtml, htame⟩ := exists_tame_tree hdocument hreachable hacyclic hunmarked
    hscript hstyles hbase hwants hafter hcleaned
  refine ⟨tree.written.html false, tree, hhtml, htree, ?_, ?_⟩
  · have hcut := htame.cutTags_html hplain []
    rw [List.append_nil, cutTags, List.append_nil] at hcut
    exact hcut
  · intro tag htag
    have hallowed := htame.tags_allowed tag htag
    refine ⟨hallowed, ?_⟩
    rintro name attributes rfl
    apply readTag_openingTag (hplain.of_allowsTag hallowed.1)
    intro a ha
    exact hplain.of_allowsAttribute (hallowed.2 a ha)

theorem apply_writes_kept_tags_draft :
    ∃ after cleaned tree,
      (standard.apply .guarded (.ofDocument .draft)).value = some after ∧
      after.document = some cleaned ∧ after.html? = some "<DIV class=\"a\"></DIV>" ∧
      cleaned.tree? Document.root = some tree ∧
      cutTags "<DIV class=\"a\"></DIV>".toList = tree.written.tags.map (·.text.toList) := by
  have hpage : (standard.apply .guarded (.ofDocument .draft)).value.bind Content.html? =
      some "<DIV class=\"a\"></DIV>" := by
    decide +kernel
  obtain ⟨sanitized, cleaned, hended, hcleaned⟩ : ∃ sanitized cleaned,
      (standard.sanitize .guarded (.ofDocument .draft)).value = (sanitized, none) ∧
        sanitized.touched.document = some cleaned := by
    rw [sanitize_value_of_document rfl, standard_stop_draft]
    exact ⟨_, _, rfl, rfl⟩
  have hafter := apply_value_of_ended Gadget.parameter?_guarded hended
  obtain ⟨html, tree, hhtml, htree, hcut, _⟩ :=
    apply_writes_kept_tags standard .guarded (.ofDocument .draft) _ .draft cleaned rfl
      Document.reachable_draft Document.not_isBelow_root_draft (fun _ => rfl)
      Policy.allowsTag_default_script Policy.hasPlainNames_default rfl (by decide)
      Gadget.parameter?_guarded hafter hcleaned
  rw [hafter, Option.bind_some, hhtml, Option.some.injEq] at hpage
  rw [hpage] at hhtml hcut
  exact ⟨_, cleaned, tree, hafter, hcleaned, hhtml, htree, hcut⟩

end ContentGuard

/-- A page whose text has an element below it. -/
def Document.nested : Document :=
  { nodes := #[⟨.document, none, [⟨1⟩]⟩, ⟨.text "x", some ⟨0⟩, [⟨2⟩]⟩,
      ⟨.element "b" [], some ⟨1⟩, []⟩]
    marks := [] }

theorem Document.reachable_nested : Document.nested.Reachable := by
  have htext : Document.Reachable _ :=
    Document.Reachable.empty.createPlain (show (NodeData.text "x").isPlain = true from rfl)
  have helement := htext.createElement "b" []
  have hfirst : Document.Reachable _ :=
    helement.append (show Document.append _ ⟨0⟩ ⟨1⟩ = .ok _ from rfl)
  have hsecond : Document.Reachable _ :=
    hfirst.append (show Document.append _ ⟨1⟩ ⟨2⟩ = .ok _ from rfl)
  exact hsecond

/-- An element below a text stays in a sanitized document, but its tags are not in the page. -/
theorem ContentGuard.apply_leaves_tags_unwritten :
    Document.nested.Reachable ∧ ¬ Document.nested.IsBelow Document.root Document.root ∧
      (∀ id, Document.nested.trust id = .none) ∧
      standard.policy.allowsTag "script" = false ∧ standard.policy.HasPlainNames ∧
      '<' ∉ standard.links.proxyBase.toList ∧
      ∃ after tree, (standard.apply .guarded (.ofDocument .nested)).value = some after ∧
        after.document = some .nested ∧ Document.nested.tree? Document.root = some tree ∧
        tree.tags = [.opening "b" [], .closing "b"] ∧ after.html? = some "x" ∧
        cutTags "x".toList ≠ tree.tags.map (·.text.toList) := by
  have hvalue : ((standard.sanitizer .guarded).sanitize .nested Document.root).value =
      ⟨.nested, none⟩ := rfl
  have hended : (standard.sanitize .guarded (.ofDocument .nested)).value =
      (.ofDocument .nested, none) := by
    rw [sanitize_value_of_document rfl, hvalue]
    rfl
  have htags : (Rose.node ⟨.document, .none⟩ [.node ⟨.text "x", .none⟩
      [.node ⟨.element "b" [], .none⟩ []]]).tags = [.opening "b" [], .closing "b"] := by
    have hvoid : lower "b" ∉ Document.voidElements := by
      decide +kernel
    simp [Rose.tags, hvoid]
  have hcut : cutTags "x".toList = [] := by
    simp [cutTags]
  refine ⟨Document.reachable_nested,
    Document.not_isBelow_of_parent? Document.reachable_nested.consistent rfl, fun _ => rfl,
    Policy.allowsTag_default_script, Policy.hasPlainNames_default, by decide,
    _, _, apply_value_of_ended Gadget.parameter?_guarded hended, rfl, rfl, htags, ?_, ?_⟩
  · decide +kernel
  · rw [hcut]
    exact fun hnone => absurd (hnone.trans (congrArg _ htags)) (by decide)

end GadgetGuard
