import GadgetGuard.Proofs.Gadget.Attribute
import GadgetGuard.Proofs.Gadget.Content
import GadgetGuard.Proofs.Link.WellFormed
import GadgetGuard.Proofs.Style.Plain
/-!
# Sanitizing again

What the walk leaves is walked to its end a second time, and keeps its outline: all of the tree
but the links that go through the proxy, which are proxied once more, and the text of styles,
which is sanitized once more.  The second walk judges what the first one has written.  So the
proof rests on two facts about the first one: the attributes that it leaves are none that it would
drop, and the links that it writes are well formed and spell no scheme.
-/

namespace GadgetGuard

open GadgetGuard.Text

/-- An attribute without the link that goes through the proxy. -/
def Attribute.outline (policy : Policy) (tag : String) (a : Attribute) : Attribute :=
  if policy.isProxied tag a.name then ⟨a.name, ""⟩ else a

theorem Attribute.name_outline (policy : Policy) (tag : String) (a : Attribute) :
    (a.outline policy tag).name = a.name := by
  rw [outline]
  split
  · rfl
  · rfl

def Item.withoutText : Item → Item
  | ⟨.text _, trust⟩ => ⟨.text "", trust⟩
  | item => item

/-- A tree without what sanitizing may change in it again: on unmarked elements the links that go
through the proxy, and below unmarked styles the text.  All other data, the shape and the marks
are part of it. -/
def Rose.outline (policy : Policy) : Rose Item → Rose Item
  | .node item branches =>
    match item.data, item.trust with
    | .document, _ | .element _ _, .self => .node item (branches.map (outline policy))
    | .element name attributes, .none =>
      .node ⟨.element name (attributes.map (·.outline policy (lower name))), .none⟩
        (if lower name = "style" then branches.map (map Item.withoutText)
          else branches.map (outline policy))
    | _, _ => .node item branches

/-- What a node is: its kind and its names, without values and texts. -/
def Item.skeleton : Item → Item
  | ⟨.element name attributes, trust⟩ =>
    ⟨.element name (attributes.map fun a => ⟨a.name, ""⟩), trust⟩
  | item => item.withoutText

namespace Rose

variable {policy : Policy} {name : String} {attributes : List Attribute} {item : Item}
variable {branches : List (Rose Item)}

/-- Of a document and of an element that is exempt itself nothing is left out. -/
theorem outline_of_exempt (hexempt : item.data = .document ∨
      ∃ name attributes, item.data = .element name attributes ∧ item.trust = .self) :
    (node item branches).outline policy = .node item (branches.map (outline policy)) := by
  obtain ⟨data, trust⟩ := item
  rcases hexempt with hdocument | ⟨name, attributes, helement, hself⟩
  · obtain rfl : data = .document := hdocument
    rw [outline]
  · obtain rfl : data = .element name attributes := helement
    obtain rfl : trust = .self := hself
    rw [outline]

theorem outline_of_element (hstyle : lower name ≠ "style") :
    (node ⟨.element name attributes, .none⟩ branches).outline policy =
      .node ⟨.element name (attributes.map (Attribute.outline policy (lower name))), .none⟩
        (branches.map (outline policy)) := by
  rw [outline]
  dsimp only
  rw [if_neg hstyle]

theorem outline_of_style (hstyle : lower name = "style") :
    (node ⟨.element name attributes, .none⟩ branches).outline policy =
      .node ⟨.element name (attributes.map (Attribute.outline policy (lower name))), .none⟩
        (branches.map (map Item.withoutText)) := by
  rw [outline]
  dsimp only
  rw [if_pos hstyle]

theorem skeleton_withoutText (item : Item) : item.withoutText.skeleton = item.skeleton := by
  obtain ⟨data, trust⟩ := item
  cases data with
  | _ => rfl

theorem skeleton_outline (trust : Trust) {tag : String} :
    Item.skeleton ⟨.element name (attributes.map (Attribute.outline policy tag)), trust⟩ =
      Item.skeleton ⟨.element name attributes, trust⟩ := by
  simp only [Item.skeleton, List.map_map, Function.comp_def, Attribute.name_outline]

/-- The outline keeps the shape of a tree and what its nodes are. -/
theorem map_skeleton_outline (tree : Rose Item) :
    (tree.outline policy).map Item.skeleton = tree.map Item.skeleton := by
  induction tree with
  | node item branches ih =>
    have hbelow : (branches.map (outline policy)).map (map Item.skeleton) =
        branches.map (map Item.skeleton) := by
      rw [List.map_map]
      exact List.map_congr_left ih
    have htexts : (branches.map (map Item.withoutText)).map (map Item.skeleton) =
        branches.map (map Item.skeleton) := by
      rw [List.map_map]
      apply List.map_congr_left
      intro branch _
      rw [Function.comp_apply, map_map]
      exact map_congr fun item _ => skeleton_withoutText item
    rw [outline]
    split
    · rw [map, map, hbelow]
    · rw [map, map, hbelow]
    next name attributes helement hmark =>
      obtain ⟨data, trust⟩ := item
      obtain rfl : data = .element name attributes := helement
      obtain rfl : trust = .none := hmark
      rw [map, map, skeleton_outline]
      split
      · rw [htexts]
      · rw [hbelow]
    · rfl

end Rose

namespace Sanitizer

variable {sanitizer : Sanitizer} {tree kept : Rose Item} {item : Item} {a : Attribute}
variable {tag name value : String} {attributes : List Attribute} {levels : Nat}

/-- Whether no link that is written is dropped when it is judged. -/
def WritesLinks (sanitizer : Sanitizer) : Prop :=
  ∀ tag a value, (sanitizer.judge tag a).value = .replace value →
    (sanitizer.judge tag ⟨lower a.name, value⟩).value ≠ .drop

/-! ## Attributes that are judged again -/

theorem judge_filteredAttributes_ne_drop (hlinks : sanitizer.WritesLinks) :
    ∀ b ∈ sanitizer.filteredAttributes tag attributes, (sanitizer.judge tag b).value ≠ .drop :=
  forall_mem_filteredAttributes (fun _ hnot => not_not.1 hnot) fun a value => hlinks tag a value

theorem map_name_outline (policy : Policy) :
    (attributes.map (Attribute.outline policy tag)).map Attribute.name =
      attributes.map Attribute.name := by
  rw [List.map_map]
  exact List.map_congr_left fun a _ => a.name_outline policy tag

/-- A new link for an attribute that is there does not show in the outline. -/
theorem map_outline_setIn {policy : Policy} (hname : name ∈ attributes.map Attribute.name)
    (hproxied : policy.isProxied tag name = true) :
    (Document.setIn name value attributes).map (Attribute.outline policy tag) =
      attributes.map (Attribute.outline policy tag) := by
  induction attributes with
  | nil => contradiction
  | cons first later ih =>
    rw [Document.setIn]
    split
    next hfirst =>
      rw [List.map_cons, List.map_cons, Attribute.outline, Attribute.outline, hfirst, hproxied]
      rfl
    next hfirst =>
      rw [List.map_cons, List.map_cons, ih]
      exact (List.mem_cons.1 hname).resolve_left (Ne.symm hfirst)

/-- Verdicts that drop nothing and only rewrite what is there keep the outline. -/
theorem map_outline_foldl (judged : List Attribute) {left : List Attribute}
    (hstays : ∀ a ∈ judged, (sanitizer.judge tag a).value ≠ .drop)
    (hnamed : ∀ a ∈ judged, ∀ value, (sanitizer.judge tag a).value = .replace value →
      lower a.name ∈ attributes.map Attribute.name)
    (hleft : left.map (Attribute.outline sanitizer.policy tag) =
      attributes.map (Attribute.outline sanitizer.policy tag)) :
    (judged.foldl (fun kept a => (sanitizer.judge tag a).value.applied a.name kept) left).map
        (Attribute.outline sanitizer.policy tag) =
      attributes.map (Attribute.outline sanitizer.policy tag) := by
  induction judged generalizing left with
  | nil => exact hleft
  | cons a later ih =>
    apply ih (fun b hb => hstays b (List.mem_cons_of_mem a hb))
      fun b hb => hnamed b (List.mem_cons_of_mem a hb)
    dsimp only
    cases hverdict : (sanitizer.judge tag a).value with
    | keep => exact hleft
    | drop => exact absurd hverdict (hstays a List.mem_cons_self)
    | replace value =>
      have hnames := congrArg (List.map Attribute.name) hleft
      rw [map_name_outline, map_name_outline] at hnames
      obtain ⟨-, -, hproxied, -⟩ := judge_eq_replace hverdict
      rw [Verdict.applied, map_outline_setIn _ _, hleft]
      · rw [hnames]
        exact hnamed a List.mem_cons_self value hverdict
      · rw [Policy.isProxied_lower, hproxied]

/-- The attributes that stay are filtered to the same attributes, apart from the links that go
through the proxy. -/
theorem map_outline_filteredAttributes (hlinks : sanitizer.WritesLinks) :
    (sanitizer.filteredAttributes tag (sanitizer.filteredAttributes tag attributes)).map
        (Attribute.outline sanitizer.policy tag) =
      (sanitizer.filteredAttributes tag attributes).map
        (Attribute.outline sanitizer.policy tag) :=
  map_outline_foldl _ (judge_filteredAttributes_ne_drop hlinks)
    (fun _ hb _ hverdict => name_mem_filteredAttributes hb hverdict) rfl

/-! ## Trees that are filtered again -/

theorem fate_of_enterable (hallowed : sanitizer.policy.allowsTag name = true)
    (hstyle : lower name ≠ "style") :
    sanitizer.fate ⟨.element name attributes, .none⟩ =
      .enter ⟨.element name (sanitizer.filteredAttributes (lower name) attributes), .none⟩ := by
  simp [fate, hallowed, hstyle]

theorem fate_of_style (hallowed : sanitizer.policy.allowsTag name = true)
    (hstyle : lower name = "style") :
    sanitizer.fate ⟨.element name attributes, .none⟩ =
      .restyle ⟨.element name (sanitizer.filteredAttributes (lower name) attributes), .none⟩ := by
  simp [fate, hallowed, hstyle]

/-- A row that is filtered tree by tree keeps its outline if each tree does. -/
theorem map_outline_flatMap {policy : Policy} {row : List (Rose Item)}
    (hrow : ∀ kept ∈ row, ∃ again, sanitizer.filterTree kept = [again] ∧
      again.outline policy = kept.outline policy) :
    (row.flatMap sanitizer.filterTree).map (Rose.outline policy) =
      row.map (Rose.outline policy) := by
  induction row with
  | nil => rfl
  | cons kept later ih =>
    obtain ⟨again, hagain, houtline⟩ := hrow kept List.mem_cons_self
    rw [List.flatMap_cons, hagain, List.singleton_append, List.map_cons, List.map_cons, houtline,
      ih fun other hother => hrow other (List.mem_cons_of_mem kept hother)]

theorem map_withoutText_textLeaf (content : String) :
    [textLeaf content].map (Rose.map Item.withoutText) = [textLeaf ""] := by
  rw [List.map_singleton, textLeaf, Rose.map]
  rfl

/-- A node that is entered is entered again, and has the same outline if its row has. -/
theorem outline_filterTree_of_enter {item' : Item} {row : List (Rose Item)}
    (hlinks : sanitizer.WritesLinks) (hfate : sanitizer.fate item = .enter item')
    (hrow : (row.flatMap sanitizer.filterTree).map (Rose.outline sanitizer.policy) =
      row.map (Rose.outline sanitizer.policy)) :
    ∃ again, sanitizer.filterTree (.node item' row) = [again] ∧
      again.outline sanitizer.policy =
        (Rose.node item' row).outline sanitizer.policy := by
  rcases entered_data hfate with ⟨hdocument, rfl⟩ |
    ⟨name, attributes, helement, ⟨hself, rfl⟩ | ⟨-, hallowed, hstyle, rfl⟩⟩
  · refine ⟨_, by rw [filterTree, hfate], ?_⟩
    rw [Rose.outline_of_exempt (.inl hdocument), Rose.outline_of_exempt (.inl hdocument), hrow]
  · refine ⟨_, by rw [filterTree, hfate], ?_⟩
    rw [Rose.outline_of_exempt (.inr ⟨name, attributes, helement, hself⟩),
      Rose.outline_of_exempt (.inr ⟨name, attributes, helement, hself⟩), hrow]
  · refine ⟨_, by rw [filterTree, fate_of_enterable hallowed hstyle], ?_⟩
    rw [Rose.outline_of_element hstyle, Rose.outline_of_element hstyle,
      map_outline_filteredAttributes hlinks, hrow]

/-- What the walk leaves of a tree it leaves again, with the same outline. -/
theorem outline_filterTree (hlinks : sanitizer.WritesLinks) :
    ∀ kept ∈ sanitizer.filterTree tree, ∃ again, sanitizer.filterTree kept = [again] ∧
      again.outline sanitizer.policy = kept.outline sanitizer.policy := by
  induction tree with
  | node item branches ih =>
    have hbelow : ((branches.flatMap sanitizer.filterTree).flatMap sanitizer.filterTree).map
        (Rose.outline sanitizer.policy) =
          (branches.flatMap sanitizer.filterTree).map (Rose.outline sanitizer.policy) := by
      apply map_outline_flatMap
      intro kept hkept
      obtain ⟨branch, hbranch, hkept⟩ := List.mem_flatMap.1 hkept
      exact ih branch hbranch kept hkept
    intro kept hkept
    rw [filterTree] at hkept
    cases hfate : sanitizer.fate item with
    | keep =>
      rw [hfate] at hkept
      obtain rfl := List.mem_singleton.1 hkept
      exact ⟨_, by rw [filterTree, hfate], rfl⟩
    | drop =>
      rw [hfate] at hkept
      contradiction
    | enter item' =>
      rw [hfate] at hkept
      obtain rfl := List.mem_singleton.1 hkept
      exact outline_filterTree_of_enter hlinks hfate hbelow
    | restyle item' =>
      rw [hfate] at hkept
      obtain rfl := List.mem_singleton.1 hkept
      obtain ⟨name, attributes, rfl, hallowed, hstyle, rfl⟩ := restyled_data hfate
      refine ⟨_, by rw [filterTree, fate_of_style hallowed hstyle], ?_⟩
      rw [Rose.outline_of_style hstyle, Rose.outline_of_style hstyle,
        map_outline_filteredAttributes hlinks, map_withoutText_textLeaf, map_withoutText_textLeaf]

/-- What is entered is entered again. -/
theorem exists_enter_again {item' : Item} (hfate : sanitizer.fate item = .enter item') :
    ∃ item'', sanitizer.fate item' = .enter item'' := by
  rcases entered_data hfate with ⟨-, rfl⟩ |
    ⟨name, attributes, -, ⟨-, rfl⟩ | ⟨-, hallowed, hstyle, rfl⟩⟩
  · exact ⟨_, hfate⟩
  · exact ⟨_, hfate⟩
  · exact ⟨_, fate_of_enterable hallowed hstyle⟩

/-- What the walk leaves of a tree that it passes it passes again. -/
theorem passes_filterTree (hcleans : ∀ css, sanitizer.Cleans css)
    (hpasses : sanitizer.Passes levels tree) :
    ∀ kept ∈ sanitizer.filterTree tree, sanitizer.Passes levels kept := by
  induction tree generalizing levels with
  | node item branches ih =>
    cases levels with
    | zero => exact absurd hpasses (by simp [Passes])
    | succ levels =>
      intro kept hkept
      rw [filterTree] at hkept
      rw [Passes] at hpasses
      cases hfate : sanitizer.fate item with
      | keep =>
        rw [hfate] at hkept
        obtain rfl := List.mem_singleton.1 hkept
        rw [Passes, hfate]
        trivial
      | drop =>
        rw [hfate] at hkept
        contradiction
      | enter item' =>
        rw [hfate] at hkept hpasses
        obtain rfl := List.mem_singleton.1 hkept
        obtain ⟨item'', hfate'⟩ := exists_enter_again hfate
        rw [Passes, hfate']
        intro kept hkept
        obtain ⟨branch, hbranch, hkept⟩ := List.mem_flatMap.1 hkept
        exact ih branch hbranch (hpasses branch hbranch) kept hkept
      | restyle item' =>
        rw [hfate] at hkept hpasses
        obtain rfl := List.mem_singleton.1 hkept
        obtain ⟨name, attributes, rfl, hallowed, hstyle, rfl⟩ := restyled_data hfate
        rw [Passes, fate_of_style hallowed hstyle]
        exact ⟨hpasses.1, hcleans _⟩

end Sanitizer

namespace ContentGuard

variable {guard : ContentGuard} {gadget : Gadget} {content once : Content}
variable {document cleaned : Document}

/-- The links that are written for a gadget of the web pass when they are judged. -/
theorem writesLinks (hlinks : guard.links = {}) (hread : gadget.specification.IsRead)
    (hweb : gadget.specification.scheme = "http" ∨ gadget.specification.scheme = "https") :
    (guard.sanitizer gadget).WritesLinks := by
  intro tag a value hverdict
  obtain ⟨hallowed, -, -, reference, hparse, -, rfl⟩ := Sanitizer.judge_eq_replace hverdict
  have hkind := SchemeKind.of_web hweb
  obtain ⟨hraw, -⟩ := UriReference.parse_eq_ok hparse
  rw [hraw]
  let origin : Link.Origin :=
    { gadget := gadget.specification, container := gadget.container, settings := guard.links }
  obtain ⟨resource, -, hrouted⟩ : ∃ resource, _ ∧ ((guard.sanitizer gadget).imageLinks a.value
      (guard.sanitizer gadget).context).value = origin.sanitized Link.imageMime resource :=
    Link.sanitizing_of_parse (hread.hasSite hkind) hkind hparse
  have hwritten : UriReference.parse (origin.sanitized Link.imageMime resource) = .ok ⟨_, none⟩ :=
    Link.parse_sanitized (congrArg Link.Settings.proxyBase hlinks) (by decide +kernel) resource
  refine Sanitizer.judge_ne_drop ?_ (hrouted ▸ hwritten) rfl
  rw [Policy.allowsAttribute_lower, hallowed]

theorem cleans_conservative (hstyles : guard.styles = Style.conservative) (css : String) :
    (guard.sanitizer gadget).Cleans css := by
  rw [Sanitizer.Cleans, Sanitizer.styleOutcome, sanitizer, hstyles]
  exact ⟨_, rfl⟩

/-- Content that was sanitized on behalf of a gadget of the web, with the links and styles of a
usual deployment, can be sanitized again.  That leaves the shape of the tree and what its nodes
are, and apart from the values of attributes that go through the proxy and the text of unmarked
styles it leaves all of the tree as it is. -/
theorem apply_is_stable (guard : ContentGuard) (gadget : Gadget) (content once : Content)
    (document cleaned : Document) (hdocument : content.document = some document)
    (hreachable : document.Reachable)
    (hacyclic : ¬ document.IsBelow Document.root Document.root)
    (hstyles : guard.styles = Style.conservative) (hlinks : guard.links = {})
    (hread : gadget.specification.IsRead)
    (hweb : gadget.specification.scheme = "http" ∨ gadget.specification.scheme = "https")
    (hwants : gadget.parameter? "sanitize" = some "1")
    (honce : (guard.apply gadget content).value = some once)
    (hcleaned : once.document = some cleaned) :
    ∃ twice again before after,
      (guard.apply gadget once).value = some twice ∧ twice.document = some again ∧
      cleaned.tree? Document.root = some before ∧ again.tree? Document.root = some after ∧
      after.map Item.skeleton = before.map Item.skeleton ∧
      after.outline guard.policy = before.outline guard.policy ∧
      again.marks = cleaned.marks := by
  have hvalue := sanitize_value_of_kept hdocument hwants honce hcleaned
  have hstop : ((guard.sanitizer gadget).sanitize document Document.root).value.stop = none := by
    rw [hvalue]
  obtain ⟨below, kept, hshape, hwalked, hshape', hfiltered⟩ :=
    Sanitizer.sanitize_root_walked hreachable.consistent hacyclic hstop
  have hpasses := (Sanitizer.sanitize_root_finishes hreachable.consistent hshape).stop_eq_none_iff.1
    hstop
  rw [hvalue] at hwalked hshape' hfiltered
  have hmem : (Rose.node Document.root kept).map cleaned.item ∈
      (guard.sanitizer gadget).filterTree ((Rose.node Document.root below).map document.item) := by
    rw [hfiltered]
    exact List.mem_singleton_self _
  have hpasses' := Sanitizer.passes_filterTree (cleans_conservative hstyles) hpasses _ hmem
  have hstop' := (Sanitizer.sanitize_root_finishes hwalked.consistent hshape').stop_eq_none_iff.2
    hpasses'
  obtain ⟨kept', hwalked', hshape'', hfiltered'⟩ :=
    Sanitizer.sanitize_shape_walked hwalked.consistent hshape' hstop'
  obtain ⟨after, hafter, houtline⟩ :=
    Sanitizer.outline_filterTree (writesLinks hlinks hread hweb) _ hmem
  rw [hfiltered', List.singleton_inj] at hafter
  obtain rfl := hafter
  have hskeleton := congrArg (Rose.map Item.skeleton) houtline
  rw [Rose.map_skeleton_outline, Rose.map_skeleton_outline] at hskeleton
  have hended : (guard.sanitize gadget once).value = _ := sanitize_value_of_document hcleaned
  rw [hstop'] at hended
  exact ⟨_, _, _, _, apply_value_of_ended hwants hended, rfl,
    hshape'.tree? (hshape'.nodup_labels hwalked.consistent),
    hshape''.tree? (hshape''.nodup_labels hwalked'.consistent), hskeleton, houtline,
    hwalked'.marks⟩

end ContentGuard

/-- A page with an image whose link goes through the proxy, and a style. -/
def Document.gallery : Document :=
  { nodes := #[⟨.document, none, [⟨1⟩, ⟨2⟩]⟩,
      ⟨.element "IMG" [⟨"src", "a.png"⟩, ⟨"onclick", "b"⟩], some ⟨0⟩, []⟩,
      ⟨.element "style" [], some ⟨0⟩, [⟨3⟩]⟩,
      ⟨.text "p \x7b\x7d", some ⟨2⟩, []⟩]
    marks := [] }

theorem Document.reachable_gallery : Document.gallery.Reachable := by
  have hdata : Document.elementData "IMG" [("src", "a.png"), ("onclick", "b")] =
      .element "IMG" [⟨"src", "a.png"⟩, ⟨"onclick", "b"⟩] := by
    decide +kernel
  have himage := Document.Reachable.empty.createElement "IMG" [("src", "a.png"), ("onclick", "b")]
  rw [hdata] at himage
  have hstyle := himage.createElement "style" []
  have htext : Document.Reachable _ :=
    hstyle.createPlain (show (NodeData.text "p \x7b\x7d").isPlain = true from rfl)
  have hfirst : Document.Reachable _ :=
    htext.append (show Document.append _ ⟨0⟩ ⟨1⟩ = .ok _ from rfl)
  have hsecond : Document.Reachable _ :=
    hfirst.append (show Document.append _ ⟨0⟩ ⟨2⟩ = .ok _ from rfl)
  have hthird : Document.Reachable _ :=
    hsecond.append (show Document.append _ ⟨2⟩ ⟨3⟩ = .ok _ from rfl)
  exact hthird

/-- A gadget from a host that is given by its address. -/
def Gadget.addressed : Gadget :=
  { specification :=
      { scheme := "http"
        authority := some ⟨"", none, some (.ipv6 ⟨0, 0, 0, 0, 0, 0, 0, 1⟩), none⟩
        path := .segments [""], query := none, fragment := none }
    container := "default"
    parameters := [("sanitize", "1")] }

theorem Gadget.isRead_addressed : Gadget.addressed.specification.IsRead := by
  obtain ⟨url, hparse, rfl⟩ : ∃ url, Url.parse "http://[::1]/" = .ok url ∧
      url = Gadget.addressed.specification :=
    Except.exists_of_toOption_map (f := id) (by decide +kernel)
  exact .parsed hparse

theorem ContentGuard.apply_is_stable_gallery :
    ∃ once cleaned twice again before after,
      (standard.apply .addressed (.ofDocument .gallery)).value = some once ∧
      once.document = some cleaned ∧
      (standard.apply .addressed once).value = some twice ∧ twice.document = some again ∧
      cleaned.tree? Document.root = some before ∧ again.tree? Document.root = some after ∧
      after.map Item.skeleton = before.map Item.skeleton ∧
      after.outline .default = before.outline .default := by
  have hwants : Gadget.addressed.parameter? "sanitize" = some "1" := by
    decide +kernel
  have hstop : ((standard.sanitizer .addressed).sanitize .gallery Document.root).value.stop =
      none := by
    decide +kernel
  obtain ⟨sanitized, cleaned, hended, hcleaned⟩ : ∃ sanitized cleaned,
      (standard.sanitize .addressed (.ofDocument .gallery)).value = (sanitized, none) ∧
        sanitized.touched.document = some cleaned := by
    rw [sanitize_value_of_document rfl, hstop]
    exact ⟨_, _, rfl, rfl⟩
  have honce := apply_value_of_ended hwants hended
  obtain ⟨twice, again, before, after, htwice, hagain, hbefore, hafter, hskeleton, houtline, _⟩ :=
    apply_is_stable standard .addressed (.ofDocument .gallery) _ .gallery cleaned rfl
      Document.reachable_gallery
      (Document.not_isBelow_of_parent? Document.reachable_gallery.consistent rfl) rfl rfl
      Gadget.isRead_addressed (.inl rfl) hwants honce hcleaned
  exact ⟨_, cleaned, twice, again, before, after, honce, hcleaned, htwice, hagain, hbefore, hafter,
    hskeleton, houtline⟩

end GadgetGuard
