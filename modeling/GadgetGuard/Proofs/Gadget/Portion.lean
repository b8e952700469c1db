import GadgetGuard.Proofs.Gadget.Markup
/-!
# What single nodes contribute to a page

The HTML of a tree is cut into portions, each written by one node.  Whether a text is escaped is
settled when it is written, by the element around it; whether it was sanitized, by the mark and
the name of that element when the walk came there.  The two agree but for one case: a style or
script that is exempt itself keeps its texts as they are, and they are written as they are.
-/

namespace GadgetGuard

open GadgetGuard.Text

/-- Whether text directly below a node is written without escaping. -/
def Item.isRawText (item : Item) : Bool :=
  match item.data with
  | .element name _ => Document.rawTextElements.contains (lower name)
  | _ => false

/-- A part of a page that is written by one node. -/
structure Portion where
  source : Item
  above : Option Item
  /-- Whether the node or one above it is exempt with everything below it. -/
  isExempt : Bool
  text : String

namespace Portion

variable {portion : Portion}

/-- Whether a leaf has written the portion outside of all that is exempt. -/
def IsExposed (portion : Portion) : Prop :=
  portion.source.data.isLeaf = true ∧ portion.isExempt = false

/-- Whether the portion stands directly in a script or style that is exempt itself. -/
def IsTrustedText (portion : Portion) : Prop :=
  ∃ item, portion.above = some item ∧ item.isRawText = true ∧ item.trust = .self

end Portion

namespace Rose

variable {tree : Rose Item} {branches : List (Rose Item)} {above : Option Item}
variable {isExempt : Bool}

/-- What the nodes of a tree write, in the order of the page. -/
def portions (above : Option Item) (isExempt : Bool) : Rose Item → List Portion
  | node item branches =>
    let isExempt := isExempt || decide (item.trust = .all)
    let portion (text : String) : Portion := ⟨item, above, isExempt, text⟩
    match item.data with
    | .document => branches.flatMap (portions (some item) isExempt)
    | .element name attributes =>
      if Document.voidElements.contains (lower name) && branches.isEmpty then
        [portion (Document.openingTag name attributes)]
      else
        portion (Document.openingTag name attributes) ::
          branches.flatMap (portions (some item) isExempt) ++
          [portion (Document.closingTag name)]
    | .text content | .cdata content =>
      [portion (if above.any Item.isRawText then content else Document.escapeText content)]
    | .entity name => [portion (Document.entityHtml name)]
    | .comment content => [portion ("<!--" ++ content ++ "-->")]
    | .other markup => [portion markup]

theorem join_flatMap {f : Rose Item → String} {g : Rose Item → List Portion}
    (hbranches : ∀ branch ∈ branches, f branch = String.join ((g branch).map Portion.text)) :
    String.join (branches.map f) = String.join ((branches.flatMap g).map Portion.text) := by
  induction branches with
  | nil => rfl
  | cons branch later ih =>
    have hlater := ih fun other hother => hbranches other (List.mem_cons_of_mem _ hother)
    rw [← String.toList_inj, String.toList_join, String.toList_join] at hlater ⊢
    rw [List.map_cons, List.flatMap_cons, hlater, hbranches branch List.mem_cons_self,
      String.toList_join, List.flatMap_cons, List.map_append, List.flatMap_append]

/-- The HTML of a tree is what its nodes write. -/
theorem html_eq_join (tree : Rose Item) (above : Option Item) (isExempt : Bool) :
    tree.html (above.any Item.isRawText) =
      String.join ((tree.portions above isExempt).map Portion.text) := by
  induction tree generalizing above isExempt with
  | node item branches ih =>
    obtain ⟨data, trust⟩ := item
    cases data with
    | document =>
      rw [html, portions]
      exact join_flatMap fun branch hbranch => ih branch hbranch (some ⟨.document, trust⟩) _
    | element name attributes =>
      have hbelow := join_flatMap fun branch hbranch =>
        ih branch hbranch (some ⟨.element name attributes, trust⟩)
          (isExempt || decide (trust = .all))
      rw [Option.any_some, Item.isRawText] at hbelow
      rw [html, portions]
      dsimp only at hbelow ⊢
      split
      · rw [List.map_singleton, ← String.toList_inj, String.toList_join]
        simp
      · rw [hbelow, ← String.toList_inj]
        simp [String.toList_join]
    | _ =>
      rw [html, portions, List.map_singleton, ← String.toList_inj, String.toList_join]
      simp

/-- A portion is written by the node at the top or by one below it. -/
theorem mem_portions {item : Item} {portion : Portion}
    (hportion : portion ∈ (node item branches).portions above isExempt) :
    (portion.source = item ∧ portion.isExempt = (isExempt || decide (item.trust = .all))) ∨
      portion ∈ branches.flatMap
        (portions (some item) (isExempt || decide (item.trust = .all))) := by
  rw [portions] at hportion
  dsimp only at hportion
  split at hportion
  · exact .inr hportion
  · split at hportion
    · rw [List.mem_singleton.1 hportion]
      exact .inl ⟨rfl, rfl⟩
    · rw [List.cons_append, List.mem_cons, List.mem_append, List.mem_singleton] at hportion
      rcases hportion with rfl | hbelow | rfl
      · exact .inl ⟨rfl, rfl⟩
      · exact .inr hbelow
      · exact .inl ⟨rfl, rfl⟩
  all_goals
    rw [List.mem_singleton.1 hportion]
    exact .inl ⟨rfl, rfl⟩

/-- Below what is exempt everything is. -/
theorem isExempt_of_mem_portions (tree : Rose Item) (above : Option Item) :
    ∀ portion ∈ tree.portions above true, portion.isExempt = true := by
  induction tree generalizing above with
  | node item branches ih =>
    intro portion hportion
    rcases mem_portions hportion with ⟨_, hexempt⟩ | hbelow
    · exact hexempt
    · obtain ⟨branch, hbranch, hportion⟩ := List.mem_flatMap.1 hbelow
      exact ih branch hbranch (some item) portion hportion

theorem isExempt_of_all {item : Item} {portion : Portion} (hall : item.trust = .all)
    (hportion : portion ∈ (node item branches).portions above isExempt) :
    portion.isExempt = true := by
  have hexempt : (isExempt || decide (item.trust = .all)) = true := by
    rw [hall]
    exact Bool.or_true isExempt
  rcases mem_portions hportion with ⟨_, hown⟩ | hbelow
  · rw [hown, hexempt]
  · rw [hexempt] at hbelow
    obtain ⟨branch, _, hportion⟩ := List.mem_flatMap.1 hbelow
    exact isExempt_of_mem_portions branch _ portion hportion

end Rose

/-! ## What the walk leaves -/

namespace Sanitizer

variable {sanitizer : Sanitizer} {tree : Rose Item} {item : Item} {branches : List (Rose Item)}
variable {above : Option Item} {portion : Portion}

/-- A leaf writes no `<` unless its text is neither escaped nor sanitized. -/
theorem inert_of_leaf {isExempt : Bool} (hleaf : item.data.isLeaf = true)
    (habove : ∀ upper, above = some upper → upper.isRawText = true → upper.trust = .self)
    (hportion : portion ∈ (Rose.node item branches).portions above isExempt) :
    portion.IsTrustedText ∨ '<' ∉ portion.text.toList := by
  have hcontent : ∀ content, (∃ upper, above = some upper ∧ upper.isRawText = true ∧
      upper.trust = .self) ∨ '<' ∉ (if above.any Item.isRawText then content
        else Document.escapeText content).toList := by
    intro content
    by_cases hraw : above.any Item.isRawText = true
    · obtain ⟨upper, hupper, hraw⟩ := (Option.any_eq_true _ _).1 hraw
      exact .inl ⟨upper, hupper, hraw, habove upper hupper hraw⟩
    · rw [if_neg hraw]
      exact .inr (not_mem_escapeText content)
  obtain ⟨data, trust⟩ := item
  rw [Rose.portions] at hportion
  cases data with
  | text content =>
    rw [List.mem_singleton.1 hportion]
    exact hcontent content
  | cdata content =>
    rw [List.mem_singleton.1 hportion]
    exact hcontent content
  | entity name =>
    rw [List.mem_singleton.1 hportion]
    exact .inr (not_mem_entityHtml name)
  | _ => contradiction

/-- What is entered is no leaf, and of what is entered only elements that are exempt themselves
hold raw text. -/
theorem rawText_of_enter {kept : Item} (hscript : sanitizer.policy.allowsTag "script" = false)
    (hfate : sanitizer.fate item = .enter kept) :
    kept.data.isLeaf = false ∧ (kept.isRawText = true → kept.trust = .self) := by
  rcases entered_data hfate with ⟨hdocument, rfl⟩ |
    ⟨name, attributes, helement, ⟨hself, rfl⟩ | ⟨_, hallowed, hstyle, rfl⟩⟩
  · rw [Item.isRawText, hdocument]
    exact ⟨rfl, fun hraw => absurd hraw Bool.false_ne_true⟩
  · rw [helement]
    exact ⟨rfl, fun _ => hself⟩
  · refine ⟨rfl, fun hraw => ?_⟩
    rw [Item.isRawText] at hraw
    dsimp only at hraw
    rw [not_rawText hscript hallowed hstyle] at hraw
    contradiction

/-- The sanitized text of a style writes no `<`. -/
theorem inert_of_textLeaf {content : String} {isExempt : Bool} (hcontent : '<' ∉ content.toList)
    (hportion : portion ∈ (textLeaf content).portions above isExempt) :
    '<' ∉ portion.text.toList := by
  rw [textLeaf, Rose.portions] at hportion
  rw [List.mem_singleton.1 hportion]
  dsimp only
  split
  · exact hcontent
  · exact not_mem_escapeText content

/-- What is left of a tree writes no `<` for its leaves, apart from those that stand directly in
a script or style that is exempt itself. -/
theorem inert_filterTree (hscript : sanitizer.policy.allowsTag "script" = false)
    (hstyles : ∀ css, ∃ cleaned,
      sanitizer.styleOutcome css = .clean cleaned ∧ '<' ∉ cleaned.toList)
    (habove : ∀ upper, above = some upper → upper.isRawText = true → upper.trust = .self) :
    ∀ kept ∈ sanitizer.filterTree tree, ∀ portion ∈ kept.portions above false,
      portion.IsExposed → portion.IsTrustedText ∨ '<' ∉ portion.text.toList := by
  induction tree generalizing above with
  | node item branches ih =>
    intro kept hkept portion hportion hexposed
    rw [filterTree] at hkept
    cases hfate : sanitizer.fate item with
    | keep =>
      rw [hfate] at hkept
      obtain rfl := List.mem_singleton.1 hkept
      rcases leaf_or_all_of_keep hfate with hleaf | hall
      · exact inert_of_leaf hleaf habove hportion
      · have hexempt := Rose.isExempt_of_all hall hportion
        rw [hexposed.2] at hexempt
        contradiction
    | drop =>
      rw [hfate] at hkept
      contradiction
    | enter item' =>
      rw [hfate] at hkept
      obtain rfl := List.mem_singleton.1 hkept
      obtain ⟨hleaf, hraw⟩ := rawText_of_enter hscript hfate
      have hmark : item'.trust ≠ .all := by
        intro hall
        have hexempt := Rose.isExempt_of_all hall hportion
        rw [hexposed.2] at hexempt
        contradiction
      rcases Rose.mem_portions hportion with ⟨hsource, _⟩ | hbelow
      · rw [Portion.IsExposed, hsource, hleaf] at hexposed
        exact absurd hexposed.1 Bool.false_ne_true
      · obtain ⟨kept, hkept, hportion⟩ := List.mem_flatMap.1 hbelow
        obtain ⟨branch, hbranch, hkept⟩ := List.mem_flatMap.1 hkept
        rw [decide_eq_false hmark] at hportion
        refine ih branch hbranch ?_ kept hkept portion hportion hexposed
        rintro upper hupper
        obtain rfl := Option.some.inj hupper
        exact hraw
    | restyle item' =>
      rw [hfate] at hkept
      obtain rfl := List.mem_singleton.1 hkept
      obtain ⟨name, attributes, rfl, _, _, rfl⟩ := restyled_data hfate
      rcases Rose.mem_portions hportion with ⟨hsource, _⟩ | hbelow
      · rw [Portion.IsExposed, hsource] at hexposed
        exact absurd hexposed.1 Bool.false_ne_true
      · rw [List.flatMap_singleton] at hbelow
        exact .inr (inert_of_textLeaf (not_mem_cleanedText hstyles _) hbelow)

end Sanitizer

namespace ContentGuard

variable {guard : ContentGuard} {gadget : Gadget} {content after : Content}
variable {document cleaned : Document}

/-- A document that is kept has the filtered tree below its root, and is written as that. -/
theorem exists_filtered_tree (hdocument : content.document = some document)
    (hreachable : document.Reachable)
    (hacyclic : ¬ document.IsBelow Document.root Document.root)
    (hwants : gadget.parameter? "sanitize" = some "1")
    (hafter : (guard.apply gadget content).value = some after)
    (hcleaned : after.document = some cleaned) :
    ∃ before tree, (guard.sanitizer gadget).filterTree before = [tree] ∧
      cleaned.tree? Document.root = some tree ∧ after.html? = some (tree.html false) := by
  have hvalue := sanitize_value_of_kept hdocument hwants hafter hcleaned
  have hstop : ((guard.sanitizer gadget).sanitize document Document.root).value.stop = none := by
    rw [hvalue]
  obtain ⟨_, kept, _, hwalked, hshape, hfiltered⟩ :=
    Sanitizer.sanitize_root_walked hreachable.consistent hacyclic hstop
  rw [hvalue] at hwalked hshape hfiltered
  have hnodup := hshape.nodup_labels hwalked.consistent
  refine ⟨_, _, hfiltered, hshape.tree? hnodup, ?_⟩
  rw [Content.html?, hcleaned]
  exact hshape.nodeHtml? hnodup

/-- A sanitized page is put together of what its nodes write.  Whatever is marked, no text, CDATA
section or reference outside of all that is exempt writes a `<`, unless it stands directly in a
script or style that is exempt itself. -/
theorem apply_leaves_inert (guard : ContentGuard) (gadget : Gadget) (content after : Content)
    (document cleaned : Document) (hdocument : content.document = some document)
    (hreachable : document.Reachable)
    (hacyclic : ¬ document.IsBelow Document.root Document.root)
    (hscript : guard.policy.allowsTag "script" = false)
    (hstyles : guard.styles = Style.conservative)
    (hbase : '<' ∉ guard.links.proxyBase.toList)
    (hwants : gadget.parameter? "sanitize" = some "1")
    (hafter : (guard.apply gadget content).value = some after)
    (hcleaned : after.document = some cleaned) :
    ∃ tree, cleaned.tree? Document.root = some tree ∧
      after.html? = some (String.join ((tree.portions none false).map Portion.text)) ∧
      ∀ portion ∈ tree.portions none false, portion.IsExposed →
        portion.IsTrustedText ∨ '<' ∉ portion.text.toList := by
  obtain ⟨before, tree, hfiltered, htree, hhtml⟩ :=
    exists_filtered_tree hdocument hreachable hacyclic hwants hafter hcleaned
  have houtcome : ∀ css, ∃ cleaned,
      (guard.sanitizer gadget).styleOutcome css = .clean cleaned ∧ '<' ∉ cleaned.toList := by
    intro css
    rw [Sanitizer.styleOutcome, sanitizer, hstyles]
    exact Style.conservative_value hbase
  refine ⟨tree, htree, ?_, ?_⟩
  · rw [hhtml, ← tree.html_eq_join none false]
    rfl
  · apply Sanitizer.inert_filterTree hscript houtcome
      fun upper hnone => absurd hnone.symm (Option.some_ne_none upper)
    rw [hfiltered]
    exact List.mem_singleton_self _

end ContentGuard

/-- A page with one element that is exempt itself, but not with the text below it. -/
def Document.trusting (name : String) : Document :=
  { nodes := #[⟨.document, none, [⟨1⟩]⟩, ⟨.element name [], some ⟨0⟩, [⟨2⟩]⟩,
      ⟨.text "<", some ⟨1⟩, []⟩]
    marks := [(⟨1⟩, .self)] }

theorem Document.reachable_trusting (name : String) : (Document.trusting name).Reachable := by
  have helement := Document.Reachable.empty.createElement name []
  have htext : Document.Reachable _ :=
    helement.createPlain (show (NodeData.text "<").isPlain = true from rfl)
  have hfirst : Document.Reachable _ :=
    htext.append (show Document.append _ ⟨0⟩ ⟨1⟩ = .ok _ from rfl)
  have hsecond : Document.Reachable _ :=
    hfirst.append (show Document.append _ ⟨1⟩ ⟨2⟩ = .ok _ from rfl)
  have hmarked : Document.Reachable _ :=
    hsecond.bypass (show Document.bypass _ ⟨1⟩ false = .ok _ from rfl)
  exact hmarked

theorem Document.not_isBelow_root_trusting (name : String) :
    ¬ (Document.trusting name).IsBelow Document.root Document.root :=
  Document.not_isBelow_of_parent? (Document.reachable_trusting name).consistent rfl

namespace ContentGuard

theorem sanitize_trusting (name : String) :
    (standard.sanitize .guarded (.ofDocument (.trusting name))).value =
      (.ofDocument (.trusting name), none) := by
  have hvalue : ((standard.sanitizer .guarded).sanitize (.trusting name) Document.root).value =
      ⟨.trusting name, none⟩ := rfl
  rw [sanitize_value_of_document rfl, hvalue]
  rfl

theorem apply_leaves_inert_trusting :
    ∃ after tree, (standard.apply .guarded (.ofDocument (.trusting "b"))).value = some after ∧
      (Document.trusting "b").tree? Document.root = some tree ∧
      after.html? = some "<b>&lt;</b>" ∧
      after.html? = some (String.join ((tree.portions none false).map Portion.text)) ∧
      ∀ portion ∈ tree.portions none false, portion.IsExposed →
        portion.IsTrustedText ∨ '<' ∉ portion.text.toList := by
  have hafter := apply_value_of_ended Gadget.parameter?_guarded (sanitize_trusting "b")
  obtain ⟨tree, htree, hhtml, hinert⟩ := apply_leaves_inert standard .guarded
    (.ofDocument (.trusting "b")) _ (.trusting "b") (.trusting "b") rfl
    (Document.reachable_trusting "b") (Document.not_isBelow_root_trusting "b")
    Policy.allowsTag_default_script rfl (by decide) Gadget.parameter?_guarded hafter rfl
  exact ⟨_, tree, hafter, htree, by decide +kernel, hhtml, hinert⟩

/-- The text of a style that is exempt itself is neither sanitized nor escaped. -/
theorem apply_leaves_trusted_style :
    (Document.trusting "style").Reachable ∧
      ¬ (Document.trusting "style").IsBelow Document.root Document.root ∧
      standard.policy = Policy.default ∧ standard.styles = Style.conservative ∧
      '<' ∉ standard.links.proxyBase.toList ∧
      Gadget.guarded.parameter? "sanitize" = some "1" ∧
      ∃ after tree portion,
        (standard.apply .guarded (.ofDocument (.trusting "style"))).value = some after ∧
        after.document = some (.trusting "style") ∧
        (Document.trusting "style").tree? Document.root = some tree ∧
        after.html? = some "<style><</style>" ∧
        portion ∈ tree.portions none false ∧ portion.IsExposed ∧ '<' ∈ portion.text.toList := by
  have hafter := apply_value_of_ended Gadget.parameter?_guarded (sanitize_trusting "style")
  have htree : (Document.trusting "style").tree? Document.root = some (.node ⟨.document, .none⟩
      [.node ⟨.element "style" [], .self⟩ [.node ⟨.text "<", .none⟩ []]]) := rfl
  have hlower : lower "style" = "style" := lower_eq_self (by simp)
  have hvoid : lower "style" ∉ Document.voidElements := by
    rw [hlower]
    decide
  have hraw : lower "style" ∈ Document.rawTextElements := by
    rw [hlower]
    decide
  refine ⟨Document.reachable_trusting "style", Document.not_isBelow_root_trusting "style", rfl, rfl,
    by decide, Gadget.parameter?_guarded, _, _,
    ⟨⟨.text "<", .none⟩, some ⟨.element "style" [], .self⟩, false, "<"⟩, hafter, rfl, htree,
    by decide +kernel, ?_, ⟨rfl, rfl⟩, by decide⟩
  simp [Rose.portions, Item.isRawText, hvoid, hraw]

end ContentGuard

end GadgetGuard
