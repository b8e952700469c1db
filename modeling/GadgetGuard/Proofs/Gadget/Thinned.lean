import GadgetGuard.Proofs.Gadget.Walk
/-!
# What every walk leaves alone

A walk only takes links away, filters attributes and hangs new texts below style elements.  That
holds of any consistent document, also of one in which nodes are below themselves and that has no
tree to filter, and however the walk ends.  `Thinned` collects it as a relation between the
document before and after, which composes and which every visit is in.
-/

namespace GadgetGuard

open GadgetGuard.Text

namespace Sanitizer

variable {sanitizer : Sanitizer} {before mid after : Document} {id child : NodeId}
variable {data : NodeData} {name : String} {attributes : List Attribute} {kept : Item}

/-- The attributes of an element are filtered once. -/
def Filters (sanitizer : Sanitizer) (before after : NodeData) : Prop :=
  ∃ name attributes, before = .element name attributes ∧
    after = .element name (sanitizer.filteredAttributes (lower name) attributes)

/-- Filtered data are those of an element of the same name. -/
theorem eq_or_element_of_filters {filtered : NodeData}
    (hfilters : Relation.ReflTransGen sanitizer.Filters data filtered) :
    filtered = data ∨ ∃ name attributes attributes', data = .element name attributes ∧
      filtered = .element name attributes' := by
  induction hfilters with
  | refl => exact .inl rfl
  | tail _ hlast ih =>
    obtain ⟨name, attributes, rfl, rfl⟩ := hlast
    rcases ih with rfl | ⟨_, first, _, rfl, helement⟩
    · exact .inr ⟨name, attributes, _, rfl, rfl⟩
    · obtain ⟨rfl, -⟩ := NodeData.element.inj helement
      exact .inr ⟨name, first, _, rfl, rfl⟩

/-- What a walk may have made of a document. -/
structure Thinned (sanitizer : Sanitizer) (before after : Document) : Prop where
  consistent : after.Consistent
  marks : after.marks = before.marks
  grows : ∀ {id}, before.contains id = true → after.contains id = true
  data : ∀ {id data}, before.data? id = some data →
    ∃ filtered, after.data? id = some filtered ∧
      Relation.ReflTransGen sanitizer.Filters data filtered
  children : ∀ {id child}, child ∈ after.children id →
    child ∈ before.children id ∨ before.contains child = false ∧
      ∃ name attributes, before.data? id = some (.element name attributes)
  new : ∀ {id}, before.contains id = false →
    after.children id = [] ∧ ∀ data, after.data? id = some data → ∃ content, data = .text content

namespace Thinned

theorem refl (hconsistent : before.Consistent) : sanitizer.Thinned before before where
  consistent := hconsistent
  marks := rfl
  grows hcontains := hcontains
  data hdata := ⟨_, hdata, .refl⟩
  children hchild := .inl hchild
  new := by
    intro id hmissing
    have hnode := Document.node?_eq_none_iff.2 hmissing
    constructor
    · rw [Document.children, hnode]
      rfl
    · intro data hdata
      rw [Document.data?, hnode] at hdata
      contradiction

/-- An element was one of the same name before. -/
theorem element_of_after (hthinned : sanitizer.Thinned before after)
    (hdata : after.data? id = some (.element name attributes)) :
    ∃ attributes', before.data? id = some (.element name attributes') ∧
      Relation.ReflTransGen sanitizer.Filters (.element name attributes')
        (.element name attributes) := by
  cases hold : before.data? id with
  | none =>
    have hmissing : before.contains id = false := by
      rw [← Document.node?_eq_none_iff]
      exact Option.map_eq_none_iff.1 hold
    obtain ⟨_, htext⟩ := (hthinned.new hmissing).2 _ hdata
    contradiction
  | some data =>
    obtain ⟨filtered, hfiltered, hfilters⟩ := hthinned.data hold
    rw [hdata, Option.some.injEq] at hfiltered
    subst hfiltered
    rcases eq_or_element_of_filters hfilters with rfl | ⟨_, first, _, rfl, helement⟩
    · exact ⟨attributes, rfl, .refl⟩
    · obtain ⟨rfl, rfl⟩ := NodeData.element.inj helement
      exact ⟨first, rfl, hfilters⟩

theorem missing_before (hthinned : sanitizer.Thinned before after)
    (hmissing : after.contains id = false) : before.contains id = false := by
  rw [Bool.eq_false_iff] at hmissing ⊢
  exact fun hcontains => hmissing (hthinned.grows hcontains)

theorem trans (hfirst : sanitizer.Thinned before mid) (hsecond : sanitizer.Thinned mid after) :
    sanitizer.Thinned before after where
  consistent := hsecond.consistent
  marks := hsecond.marks.trans hfirst.marks
  grows hcontains := hsecond.grows (hfirst.grows hcontains)
  data := by
    intro id data hdata
    obtain ⟨_, hmid, hfilters⟩ := hfirst.data hdata
    obtain ⟨filtered, hafter, hfilters'⟩ := hsecond.data hmid
    exact ⟨filtered, hafter, hfilters.trans hfilters'⟩
  children := by
    intro id child hchild
    rcases hsecond.children hchild with hmid | ⟨hmissing, name, attributes, hdata⟩
    · exact hfirst.children hmid
    · obtain ⟨first, hold, _⟩ := hfirst.element_of_after hdata
      exact .inr ⟨hfirst.missing_before hmissing, name, first, hold⟩
  new := by
    intro id hmissing
    obtain ⟨hleaf, htext⟩ := hfirst.new hmissing
    constructor
    · rw [List.eq_nil_iff_forall_not_mem]
      intro child hchild
      rcases hsecond.children hchild with hmid | ⟨_, name, attributes, hdata⟩
      · rw [hleaf] at hmid
        contradiction
      · obtain ⟨_, hcontent⟩ := htext _ hdata
        contradiction
    · intro data hdata
      cases hmid : mid.contains id with
      | false => exact (hsecond.new hmid).2 data hdata
      | true =>
        have hdata' := Document.data?_of_contains hmid
        obtain ⟨content, hcontent⟩ := htext _ hdata'
        obtain ⟨filtered, hfiltered, hfilters⟩ := hsecond.data hdata'
        rw [hdata, Option.some.injEq] at hfiltered
        subst hfiltered
        rcases eq_or_element_of_filters hfilters with rfl | ⟨_, _, _, helement, _⟩
        · exact ⟨content, hcontent⟩
        · rw [hcontent] at helement
          contradiction

/-- A node that was there keeps its mark and, attributes apart, its data. -/
theorem item (hthinned : sanitizer.Thinned before after)
    (hcontains : before.contains id = true) :
    after.item id = before.item id ∨ ∃ name attributes attributes',
      before.item id = ⟨.element name attributes, before.trust id⟩ ∧
        after.item id = ⟨.element name attributes', before.trust id⟩ := by
  have hdata := Document.data?_of_contains hcontains
  obtain ⟨filtered, hfiltered, hfilters⟩ := hthinned.data hdata
  rcases eq_or_element_of_filters hfilters with hsame | ⟨name, first, last, hfirst, hlast⟩
  · left
    apply Document.item_congr _ hthinned.marks
    rw [hfiltered, hsame, ← hdata]
  · right
    refine ⟨name, first, last, ?_, ?_⟩
    · exact Document.item_of_element (by rw [hdata, hfirst])
    · have htrust : after.trust id = before.trust id := by
        rw [Document.trust, Document.trust, hthinned.marks]
      rw [Document.item_of_element (hlast ▸ hfiltered), htrust]

/-- A way down leads over nodes from where there was a way before, or to a new node. -/
theorem way_before {Q Q' : NodeId → Prop} (hthinned : sanitizer.Thinned before after)
    (hstep : ∀ {id}, before.contains id = true → Q' id → Q id)
    (hcontains : before.contains id = true)
    (hway : Relation.ReflTransGen
      (fun parent child => Q' parent ∧ child ∈ after.children parent) id child) :
    Relation.ReflTransGen
        (fun parent child => Q parent ∧ child ∈ before.children parent) id child ∧
        before.contains child = true ∨
      before.contains child = false := by
  induction hway with
  | refl => exact .inl ⟨.refl, hcontains⟩
  | @tail parent child _ hlink ih =>
    obtain ⟨hparent, hchild⟩ := hlink
    rcases ih with ⟨hway, hold⟩ | hnew
    · cases hstored : before.contains child with
      | false => exact .inr rfl
      | true =>
        rcases hthinned.children hchild with hlisted | ⟨hmissing, _⟩
        · exact .inl ⟨hway.tail ⟨hstep hold hparent, hlisted⟩, rfl⟩
        · rw [hstored] at hmissing
          contradiction
    · rw [(hthinned.new hnew).1] at hchild
      contradiction

/-- A node that was there is only on a cycle if it was on one before. -/
theorem cycle_before {Q Q' : NodeId → Prop} (hthinned : sanitizer.Thinned before after)
    (hstep : ∀ {id}, before.contains id = true → Q' id → Q id)
    (hcontains : before.contains id = true)
    (hcycle : Relation.TransGen
      (fun parent child => Q' parent ∧ child ∈ after.children parent) id id) :
    Relation.TransGen (fun parent child => Q parent ∧ child ∈ before.children parent) id id := by
  obtain ⟨last, hway, hlast, hchild⟩ := Relation.TransGen.tail'_iff.1 hcycle
  rcases hthinned.way_before hstep hcontains hway with ⟨hold, hstored⟩ | hnew
  · rcases hthinned.children hchild with hlisted | ⟨hmissing, _⟩
    · exact .tail' hold ⟨hstep hstored hlast, hlisted⟩
    · rw [hcontains] at hmissing
      contradiction
  · rw [(hthinned.new hnew).1] at hchild
    contradiction

/-! ## Edits of the walk -/

theorem detached {parent : NodeId} (hconsistent : before.Consistent)
    (hparent : before.parent? id = some parent) :
    sanitizer.Thinned before (before.detached id parent) := by
  have hstart : sanitizer.Thinned before before := refl hconsistent
  refine
    { consistent := hconsistent.detached hparent
      marks := rfl
      grows := fun hcontains => Document.contains_detached.trans hcontains
      data := fun hdata => ⟨_, Document.data?_detached.trans hdata, .refl⟩
      children := ?_
      new := ?_ }
  · intro other child hchild
    rw [Document.children_detached] at hchild
    split at hchild
    · exact .inl (List.mem_of_mem_filter hchild)
    · exact .inl hchild
  · intro other hmissing
    obtain ⟨hleaf, htext⟩ := hstart.new hmissing
    constructor
    · rw [Document.children_detached, hleaf, List.filter_nil, ite_self]
    · intro data hdata
      exact htext data (Document.data?_detached.symm.trans hdata)

theorem filtered (hconsistent : before.Consistent)
    (hdata : before.data? id = some (.element name attributes)) :
    sanitizer.Thinned before (before.withData id
      (.element name (sanitizer.filteredAttributes (lower name) attributes))) := by
  have hstart : sanitizer.Thinned before before := refl hconsistent
  refine
    { consistent := ?_
      marks := rfl
      grows := fun hcontains => (Document.contains_withData _).trans hcontains
      data := ?_
      children := fun hchild => .inl (by rwa [Document.children_withData] at hchild)
      new := ?_ }
  · apply hconsistent.withData
    rintro rfl
    rw [hconsistent.data?_root, Option.some.injEq] at hdata
    contradiction
  · intro other data hother
    by_cases hid : other = id
    · subst hid
      rw [hdata, Option.some.injEq] at hother
      subst hother
      exact ⟨_, Document.data?_withData _ (Document.contains_of_data? hdata),
        .single ⟨name, attributes, rfl, rfl⟩⟩
    · exact ⟨data, (Document.data?_congr (Document.node?_withData _ hid)).trans hother, .refl⟩
  · intro other hmissing
    have hid : other ≠ id := by
      rintro rfl
      rw [Document.contains_of_data? hdata] at hmissing
      contradiction
    rw [Document.children_withData, Document.data?_congr (Document.node?_withData _ hid)]
    exact hstart.new hmissing

theorem withText (hconsistent : before.Consistent) (content : String)
    (hdata : before.data? id = some (.element name attributes)) :
    sanitizer.Thinned before (before.withText id content) := by
  have hcontains := Document.contains_of_data? hdata
  have hstart : sanitizer.Thinned before before := refl hconsistent
  refine
    { consistent := hconsistent.withText content hcontains
      marks := Document.marks_withText content
      grows := fun hother => (Document.contains_withText content).2 (.inr hother)
      data := ?_
      children := ?_
      new := ?_ }
  · intro other data hother
    refine ⟨data, ?_, .refl⟩
    rw [Document.data?_withText_of_contains content (Document.contains_of_data? hother), hother]
  · intro other child hchild
    rw [Document.children_withText content hcontains] at hchild
    split at hchild
    next hother =>
      rw [List.mem_singleton.1 hchild, hother]
      exact .inr ⟨Document.contains_nextId, name, attributes, hdata⟩
    · exact .inl hchild
  · intro other hmissing
    have hother : other ≠ id := by
      rintro rfl
      rw [hcontains] at hmissing
      contradiction
    obtain ⟨hleaf, htext⟩ := hstart.new hmissing
    rw [Document.children_withText content hcontains, if_neg hother, Document.data?_withText]
    refine ⟨hleaf, fun data hdata => ?_⟩
    split at hdata
    · exact ⟨content, (Option.some.inj hdata).symm⟩
    · exact htext data hdata

/-- A node that is entered is made ready. -/
theorem enter (hconsistent : before.Consistent) (hcontains : before.contains id = true)
    (hfate : sanitizer.fate (before.item id) = .enter kept) :
    sanitizer.Thinned before (before.withData id kept.data) := by
  have hdata := Document.data?_of_contains hcontains
  rcases entered_data hfate with ⟨_, rfl⟩ |
    ⟨name, attributes, helement, ⟨_, rfl⟩ | ⟨_, _, _, rfl⟩⟩
  · rw [Document.withData_self hdata]
    exact refl hconsistent
  · rw [Document.withData_self hdata]
    exact refl hconsistent
  · rw [helement] at hdata
    exact filtered hconsistent hdata

/-- A style element gets its new text and filtered attributes. -/
theorem restyle (hconsistent : before.Consistent) (hcontains : before.contains id = true)
    (hfate : sanitizer.fate (before.item id) = .restyle kept) (cleaned : String) :
    sanitizer.Thinned before ((before.withText id cleaned).withData id kept.data) := by
  obtain ⟨name, attributes, hitem, _, _, rfl⟩ := restyled_data hfate
  have hdata := Document.data?_of_contains hcontains
  rw [hitem] at hdata
  have hdata' : (before.withText id cleaned).data? id = some (.element name attributes) := by
    rw [Document.data?_withText_of_contains cleaned hcontains, hdata]
  exact (withText hconsistent cleaned hdata).trans
    (filtered (hconsistent.withText cleaned hcontains) hdata')

end Thinned

/-! ## All visits -/

theorem visitEach_thinned {levels : Nat} (ids : List NodeId) (hconsistent : before.Consistent)
    (hvisit : ∀ (document : Document) (id : NodeId), document.Consistent →
      sanitizer.Thinned document (sanitizer.visit levels document id).value.document) :
    sanitizer.Thinned before (visitEach (sanitizer.visit levels) ids before).value.document := by
  induction ids generalizing before with
  | nil => exact .refl hconsistent
  | cons id later ih =>
    have hfirst := hvisit before id hconsistent
    rw [visitEach_cons_value]
    generalize (sanitizer.visit levels before id).value = progress at hfirst ⊢
    obtain ⟨mid, _ | stop⟩ := progress
    · exact hfirst.trans (ih hfirst.consistent)
    · exact hfirst

/-- Whatever node a visit starts at and however it ends, it only thins the document out. -/
theorem visit_thinned (sanitizer : Sanitizer) (levels : Nat) (id : NodeId)
    (hconsistent : before.Consistent) :
    sanitizer.Thinned before (sanitizer.visit levels before id).value.document := by
  induction levels generalizing before id with
  | zero => exact .refl hconsistent
  | succ levels ih =>
    have hbelow : ∀ {mid : Document} (ids : List NodeId), mid.Consistent →
        sanitizer.Thinned mid (visitEach (sanitizer.visit levels) ids mid).value.document :=
      fun ids hmid => visitEach_thinned ids hmid fun _ id hdocument => ih id hdocument
    have hvisited := sanitizer.visited levels before id
    generalize (sanitizer.visit (levels + 1) before id).value = progress at hvisited ⊢
    cases hvisited with
    | stopped stop => exact .refl hconsistent
    | kept hfate => exact .refl hconsistent
    | dropped hfate hparent => exact .detached hconsistent hparent
    | entered hcontains hfate =>
      have hstart := Thinned.enter hconsistent hcontains hfate
      exact hstart.trans (hbelow _ hstart.consistent)
    | restyled cleaned hcontains hfate =>
      have hstart := Thinned.restyle hconsistent hcontains hfate cleaned
      exact hstart.trans (hbelow _ hstart.consistent)

end Sanitizer

end GadgetGuard
