import GadgetGuard.Proofs.Gadget.Sanitized
import GadgetGuard.Proofs.Gadget.Thinned
/-!
# Every element that is shown was filtered

A page shows what hangs below its root over documents and elements, apart from what is exempt
with everything below it.  A walk that comes to its end has been to all of that: each visit
either takes its node out of every list of children, or it has settled everything that the node
still shows.  Later visits only thin the document out, so what is settled stays settled.  Nothing
of this needs a tree, so it also holds of a document in which nodes are below themselves.
-/

namespace GadgetGuard

open GadgetGuard.Text

/-- Whether what is below a node is shown and not exempt with it. -/
def Item.IsOpen (item : Item) : Prop :=
  item.trust ≠ .all ∧
    (item.data = .document ∨ ∃ name attributes, item.data = .element name attributes)

/-- Whether a node is shown below another one, over nodes that are open. -/
def Document.Shows (document : Document) (upper id : NodeId) : Prop :=
  Relation.ReflTransGen
    (fun parent child => (document.item parent).IsOpen ∧ child ∈ document.children parent) upper id

theorem Document.data?_of_item {document : Document} {id : NodeId} {name : String}
    {attributes : List Attribute} {trust : Trust}
    (hitem : document.item id = ⟨.element name attributes, trust⟩) :
    document.data? id = some (.element name attributes) := by
  have hdata := congrArg Item.data hitem
  rw [item] at hdata
  cases hstored : document.data? id with
  | none =>
    rw [hstored] at hdata
    contradiction
  | some data =>
    rw [hstored] at hdata
    exact congrArg some hdata

namespace Sanitizer

variable {sanitizer : Sanitizer} {before mid after : Document} {id child shown : NodeId}
variable {kept : Item} {name : String} {attributes : List Attribute}

namespace Thinned

theorem isOpen_before (hthinned : sanitizer.Thinned before after)
    (hcontains : before.contains id = true) (hopen : (after.item id).IsOpen) :
    (before.item id).IsOpen := by
  rcases hthinned.item hcontains with hsame | ⟨name, first, last, hbefore, hafter⟩
  · rw [← hsame]
    exact hopen
  · rw [hafter] at hopen
    rw [hbefore]
    exact ⟨hopen.1, .inr ⟨name, first, rfl⟩⟩

/-- What is shown was shown before or is new. -/
theorem shows_before (hthinned : sanitizer.Thinned before after)
    (hcontains : before.contains id = true) (hshows : after.Shows id shown) :
    before.Shows id shown ∧ before.contains shown = true ∨ before.contains shown = false :=
  hthinned.way_before (fun hstored hopen => hthinned.isOpen_before hstored hopen) hcontains hshows

/-- An unmarked element was one before. -/
theorem unmarked_before (hthinned : sanitizer.Thinned before after)
    (hitem : after.item id = ⟨.element name attributes, .none⟩) :
    ∃ first, before.item id = ⟨.element name first, .none⟩ ∧
      before.data? id = some (.element name first) ∧
      Relation.ReflTransGen sanitizer.Filters (.element name first)
        (.element name attributes) := by
  have hdata := Document.data?_of_item hitem
  obtain ⟨first, hfirst, hfilters⟩ := hthinned.element_of_after hdata
  refine ⟨first, ?_, hfirst, hfilters⟩
  have htrust := (Document.item_of_element hdata).symm.trans hitem
  rw [Item.mk.injEq] at htrust
  rw [Document.item_of_element hfirst, Document.trust, ← hthinned.marks, ← Document.trust,
    htrust.2]

end Thinned

/-! ## What is settled -/

/-- Whether the attributes of a node were filtered if it is an element without a mark. -/
def Settled (sanitizer : Sanitizer) (before after : Document) (id : NodeId) : Prop :=
  ∀ name attributes, after.item id = ⟨.element name attributes, .none⟩ →
    ∃ first, before.data? id = some (.element name first) ∧
      Relation.TransGen sanitizer.Filters (.element name first) (.element name attributes)

theorem Settled.thinned (hsettled : sanitizer.Settled before mid id)
    (hthinned : sanitizer.Thinned mid after) : sanitizer.Settled before after id := by
  intro name attributes hitem
  obtain ⟨second, hmid, _, hlater⟩ := hthinned.unmarked_before hitem
  obtain ⟨first, hfirst, hfilters⟩ := hsettled name second hmid
  exact ⟨first, hfirst, hfilters.trans_left hlater⟩

theorem Settled.of_thinned (hthinned : sanitizer.Thinned before mid)
    (hsettled : sanitizer.Settled mid after id) : sanitizer.Settled before after id := by
  intro name attributes hitem
  obtain ⟨second, hsecond, hfilters⟩ := hsettled name attributes hitem
  obtain ⟨first, hfirst, hearlier⟩ := hthinned.element_of_after hsecond
  exact ⟨first, hfirst, .trans_right hearlier hfilters⟩

/-- A node that was not there before is settled, as it is no element. -/
theorem Settled.of_new (hthinned : sanitizer.Thinned mid after)
    (hnew : mid.contains id = false) : sanitizer.Settled before after id := by
  intro name attributes hitem
  obtain ⟨_, hcontent⟩ := (hthinned.new hnew).2 _ (Document.data?_of_item hitem)
  contradiction

/-- A visit leaves its node in no list of children, or it settles all that the node shows. -/
def Settles (sanitizer : Sanitizer) (before after : Document) (id : NodeId) : Prop :=
  (∀ parent, id ∉ after.children parent) ∨
    ∀ shown, after.Shows id shown → sanitizer.Settled before after shown

theorem Settles.thinned (hcontains : mid.contains id = true)
    (hsettles : sanitizer.Settles before mid id) (hthinned : sanitizer.Thinned mid after) :
    sanitizer.Settles before after id := by
  rcases hsettles with hunlisted | hsettled
  · left
    intro parent hlisted
    rcases hthinned.children hlisted with hold | ⟨hmissing, _⟩
    · exact hunlisted parent hold
    · rw [hcontains] at hmissing
      contradiction
  · right
    intro shown hshows
    rcases hthinned.shows_before hcontains hshows with ⟨hold, _⟩ | hnew
    · exact (hsettled shown hold).thinned hthinned
    · exact .of_new hthinned hnew

theorem Settles.of_thinned (hthinned : sanitizer.Thinned before mid)
    (hsettles : sanitizer.Settles mid after id) : sanitizer.Settles before after id :=
  hsettles.imp_right fun hsettled shown hshows => (hsettled shown hshows).of_thinned hthinned

/-! ## Walks that come to their end -/

/-- Whether every visit of so many levels that comes to its end settles its node. -/
def VisitsSettle (sanitizer : Sanitizer) (levels : Nat) : Prop :=
  ∀ (document : Document) (id : NodeId), document.Consistent →
    (sanitizer.visit levels document id).value.stop = none →
    sanitizer.Settles document (sanitizer.visit levels document id).value.document id

theorem visitEach_settles {levels : Nat} {ids : List NodeId}
    (hvisits : sanitizer.VisitsSettle levels) (hconsistent : before.Consistent)
    (hcontains : ∀ id ∈ ids, before.contains id = true)
    (hstop : (visitEach (sanitizer.visit levels) ids before).value.stop = none) :
    ∀ id ∈ ids, sanitizer.Settles before
      (visitEach (sanitizer.visit levels) ids before).value.document id := by
  induction ids generalizing before with
  | nil => exact fun id hid => absurd hid List.not_mem_nil
  | cons first later ih =>
    have hthinned := visit_thinned sanitizer levels first hconsistent
    have hsettles := hvisits before first hconsistent
    obtain ⟨hfirst, hothers⟩ := List.forall_mem_cons.1 hcontains
    rw [visitEach_cons_value] at hstop ⊢
    generalize (sanitizer.visit levels before first).value = progress
      at hthinned hsettles hstop ⊢
    obtain ⟨mid, _ | stop⟩ := progress
    · have hrest := visitEach_thinned later hthinned.consistent
        fun document id => visit_thinned sanitizer levels id
      intro id hid
      rcases List.mem_cons.1 hid with rfl | hid
      · exact (hsettles rfl).thinned (hthinned.grows hfirst) hrest
      · exact .of_thinned hthinned (ih hthinned.consistent
          (fun other hother => hthinned.grows (hothers other hother)) hstop id hid)
    · contradiction

/-- A visit that goes on to the children of its node settles all that the node shows. -/
theorem settled_of_row {levels : Nat} (hvisits : sanitizer.VisitsSettle levels)
    (hthinned : sanitizer.Thinned before mid) (hsettled : sanitizer.Settled before mid id)
    (hstop : (visitEach (sanitizer.visit levels) (mid.children id) mid).value.stop = none) :
    ∀ shown, (visitEach (sanitizer.visit levels) (mid.children id) mid).value.document.Shows id
        shown →
      sanitizer.Settled before
        (visitEach (sanitizer.visit levels) (mid.children id) mid).value.document shown := by
  have hrow := visitEach_settles hvisits hthinned.consistent
    (fun child hchild => hthinned.consistent.contains_child hchild) hstop
  have hrest := visitEach_thinned (mid.children id) hthinned.consistent
    fun document id => visit_thinned sanitizer levels id
  generalize (visitEach (sanitizer.visit levels) (mid.children id) mid).value.document = after
    at hrow hrest ⊢
  intro shown hshows
  rcases Relation.ReflTransGen.cases_head hshows with rfl | ⟨child, ⟨_, hlisted⟩, hshows⟩
  · exact hsettled.thinned hrest
  · rcases hrest.children hlisted with hchild | ⟨hnew, _⟩
    · rcases hrow child hchild with hunlisted | hbelow
      · exact absurd hlisted (hunlisted id)
      · exact (hbelow shown hshows).of_thinned hthinned
    · -- below a new text there is nothing else
      rcases Relation.ReflTransGen.cases_head hshows with rfl | ⟨_, ⟨_, hbelow⟩, _⟩
      · exact .of_new hrest hnew
      · rw [(hrest.new hnew).1] at hbelow
        contradiction

/-- What is left alone is not open, and is no unmarked element. -/
theorem closed_and_marked_of_keep {item : Item} (hfate : sanitizer.fate item = .keep) :
    ¬ item.IsOpen ∧ ∀ name attributes, item ≠ ⟨.element name attributes, .none⟩ := by
  rcases leaf_or_all_of_keep hfate with hleaf | hall
  · refine ⟨?_, fun name attributes hitem => ?_⟩
    · rintro ⟨_, hdocument | ⟨name, attributes, helement⟩⟩
      · rw [hdocument] at hleaf
        contradiction
      · rw [helement] at hleaf
        contradiction
    · rw [hitem] at hleaf
      contradiction
  · refine ⟨fun hopen => hopen.1 hall, fun name attributes hitem => ?_⟩
    rw [hitem] at hall
    contradiction

theorem settled_of_keep (hfate : sanitizer.fate (before.item id) = .keep) :
    ∀ shown, before.Shows id shown → sanitizer.Settled before before shown := by
  obtain ⟨hclosed, hmarked⟩ := closed_and_marked_of_keep hfate
  intro shown hshows
  rcases Relation.ReflTransGen.cases_head hshows with rfl | ⟨_, ⟨hopen, _⟩, _⟩
  · exact fun name attributes hitem => absurd hitem (hmarked name attributes)
  · exact absurd hopen hclosed

/-- A node that holds what is kept of it is settled. -/
theorem settled_of_kept (hcontains : before.contains id = true)
    (hfate : sanitizer.fate (before.item id) = .enter kept ∨
      sanitizer.fate (before.item id) = .restyle kept)
    (hmarks : mid.marks = before.marks) (hkept : mid.data? id = some kept.data) :
    sanitizer.Settled before mid id := by
  intro name attributes hitem
  have hdata := Document.data?_of_item hitem
  have hold := Document.data?_of_contains hcontains
  have htrust : before.trust id = .none := by
    have hmark := congrArg Item.trust ((Document.item_of_element hdata).symm.trans hitem)
    rw [Document.trust, ← hmarks, ← Document.trust]
    exact hmark
  rw [hkept, Option.some.injEq] at hdata
  rcases hfate with henter | hrestyle
  · rcases entered_data henter with
      ⟨hdocument, rfl⟩ | ⟨name', first, helement, ⟨hself, rfl⟩ | ⟨_, _, _, rfl⟩⟩
    · rw [hdocument] at hdata
      contradiction
    · rw [helement] at hold
      rw [Document.item_of_element hold, htrust] at hself
      contradiction
    · rw [helement] at hold
      obtain ⟨rfl, rfl⟩ := NodeData.element.inj hdata
      exact ⟨first, hold, .single ⟨_, first, rfl, rfl⟩⟩
  · obtain ⟨name', first, helement, _, _, rfl⟩ := restyled_data hrestyle
    rw [helement] at hold
    obtain ⟨rfl, rfl⟩ := NodeData.element.inj hdata
    exact ⟨first, hold, .single ⟨_, first, rfl, rfl⟩⟩

/-- A node that is not taken out is settled with all that it shows. -/
theorem settled_of_not_drop {levels : Nat} (hvisits : sanitizer.VisitsSettle levels)
    (hconsistent : before.Consistent) (hfate : sanitizer.fate (before.item id) ≠ .drop)
    (hstop : (sanitizer.visit (levels + 1) before id).value.stop = none) :
    ∀ shown, (sanitizer.visit (levels + 1) before id).value.document.Shows id shown →
      sanitizer.Settled before (sanitizer.visit (levels + 1) before id).value.document shown := by
  have hvisited := sanitizer.visited levels before id
  generalize (sanitizer.visit (levels + 1) before id).value = progress at hvisited hstop ⊢
  cases hvisited with
  | stopped stop => contradiction
  | kept hkeep => exact settled_of_keep hkeep
  | dropped hdrop hparent => exact absurd hdrop hfate
  | entered hcontains henter =>
    exact settled_of_row hvisits (.enter hconsistent hcontains henter)
      (settled_of_kept hcontains (.inl henter) (Document.marks_withData _)
        (Document.data?_withData _ hcontains)) hstop
  | restyled cleaned hcontains hrestyle =>
    have hstored : (before.withText id cleaned).contains id = true :=
      (Document.contains_withText cleaned).2 (.inr hcontains)
    refine settled_of_row hvisits (.restyle hconsistent hcontains hrestyle cleaned)
      (settled_of_kept hcontains (.inr hrestyle) ?_ (Document.data?_withData _ hstored)) hstop
    rw [Document.marks_withData, Document.marks_withText]

/-- A node that is taken out of a consistent document is in no list of children. -/
theorem unlisted_of_drop (hconsistent : before.Consistent) {levels : Nat}
    (hfate : sanitizer.fate (before.item id) = .drop)
    (hstop : (sanitizer.visit (levels + 1) before id).value.stop = none) (parent : NodeId) :
    id ∉ (sanitizer.visit (levels + 1) before id).value.document.children parent := by
  have hvisited := sanitizer.visited levels before id
  generalize (sanitizer.visit (levels + 1) before id).value = progress at hvisited hstop ⊢
  cases hvisited with
  | stopped stop => contradiction
  | kept hkeep =>
    rw [hfate] at hkeep
    contradiction
  | dropped hdrop hformer =>
    intro hlisted
    have hparent := (hconsistent.detached hformer).mem_children_iff.1 hlisted
    rw [Document.parent?_detached (Document.contains_of_parent? hformer), if_pos rfl] at hparent
    contradiction
  | entered hcontains henter =>
    rw [hfate] at henter
    contradiction
  | restyled cleaned hcontains hrestyle =>
    rw [hfate] at hrestyle
    contradiction

theorem visits_settle (sanitizer : Sanitizer) (levels : Nat) : sanitizer.VisitsSettle levels := by
  induction levels with
  | zero =>
    intro document id _ hstop
    contradiction
  | succ levels ih =>
    intro document id hconsistent hstop
    by_cases hfate : sanitizer.fate (document.item id) = .drop
    · exact .inl (unlisted_of_drop hconsistent hfate hstop)
    · exact .inr (settled_of_not_drop ih hconsistent hfate hstop)

/-- If the walk over a document comes to its end, all elements without a mark that are shown
after it had their attributes filtered. -/
theorem sanitize_root_settled {document : Document} (hconsistent : document.Consistent)
    (hstop : (sanitizer.sanitize document Document.root).value.stop = none)
    (hshows : (sanitizer.sanitize document Document.root).value.document.Shows Document.root
      shown) :
    sanitizer.Settled document (sanitizer.sanitize document Document.root).value.document
      shown := by
  have hfate : sanitizer.fate (document.item Document.root) ≠ .drop := by
    rw [fate_root hconsistent]
    exact fun hdrop => nomatch hdrop
  exact settled_of_not_drop (visits_settle sanitizer maxDepth) hconsistent hfate hstop shown hshows

end Sanitizer

end GadgetGuard
