import GadgetGuard.Proofs.Gadget.Reached
import GadgetGuard.Proofs.Gadget.Thinned
/-!
# Links that stay

The walk goes from the nodes that it enters to their children.  A visit takes no link away but
those above nodes that it comes to and has to take out, and those below a style that gets a new
text: every other node stays where it is, in any consistent document and however the visit ends.
-/

namespace GadgetGuard

open GadgetGuard.Text

namespace Sanitizer

variable {sanitizer : Sanitizer} {before after : Document} {id parent child : NodeId}
variable {name : String} {attributes : List Attribute} {trust : Trust} {levels : Nat}

/-! ## Where the walk goes -/

/-- The walk goes from a node that it enters to the children of that node. -/
def Goes (sanitizer : Sanitizer) (document : Document) (parent child : NodeId) : Prop :=
  sanitizer.Enters (document.item parent) ∧ child ∈ document.children parent

theorem enters_element : sanitizer.Enters ⟨.element name attributes, trust⟩ ↔
    trust = .self ∨ trust = .none ∧ sanitizer.policy.allowsTag name = true ∧
      lower name ≠ "style" := by
  simp [Enters]

theorem restyles_element : sanitizer.Restyles ⟨.element name attributes, trust⟩ ↔
    trust = .none ∧ sanitizer.policy.allowsTag name = true ∧ lower name = "style" := by
  simp [Restyles]

theorem fate_element_eq_drop : sanitizer.fate ⟨.element name attributes, trust⟩ = .drop ↔
    trust = .none ∧ sanitizer.policy.allowsTag name = false := by
  cases trust with
  | none =>
    by_cases hallowed : sanitizer.policy.allowsTag name = true
    · by_cases hstyle : lower name = "style"
      · simp [fate, hallowed, hstyle]
      · simp [fate, hallowed, hstyle]
    · simp [fate, hallowed]
  | self => simp [fate]
  | all => simp [fate]

theorem not_restyles_of_enters {item : Item} (henters : sanitizer.Enters item) :
    ¬ sanitizer.Restyles item := by
  obtain ⟨kept, henter⟩ := enters_iff.1 henters
  rw [restyles_iff, henter]
  rintro ⟨_, hrestyle⟩
  contradiction

theorem not_drop_of_enters {item : Item} (henters : sanitizer.Enters item) :
    sanitizer.fate item ≠ .drop := by
  obtain ⟨kept, henter⟩ := enters_iff.1 henters
  rw [henter]
  exact fun hdrop => nomatch hdrop

namespace Thinned

/-- Attributes apart, a node that was there is what it was; so the walk treats it alike. -/
theorem fate_alike (hthinned : sanitizer.Thinned before after)
    (hcontains : before.contains id = true) :
    (sanitizer.Enters (after.item id) ↔ sanitizer.Enters (before.item id)) ∧
      (sanitizer.Restyles (after.item id) ↔ sanitizer.Restyles (before.item id)) ∧
      (sanitizer.fate (after.item id) = .drop ↔ sanitizer.fate (before.item id) = .drop) := by
  rcases hthinned.item hcontains with hsame | ⟨name, first, last, hbefore, hafter⟩
  · rw [hsame]
    exact ⟨.rfl, .rfl, .rfl⟩
  · rw [hbefore, hafter, enters_element, enters_element, restyles_element, restyles_element,
      fate_element_eq_drop, fate_element_eq_drop]
    exact ⟨.rfl, .rfl, .rfl⟩

theorem goes_before (hthinned : sanitizer.Thinned before after)
    (hcontains : before.contains id = true)
    (hway : Relation.ReflTransGen (sanitizer.Goes after) id child) :
    Relation.ReflTransGen (sanitizer.Goes before) id child ∧ before.contains child = true ∨
      before.contains child = false :=
  hthinned.way_before (fun hstored henters => (hthinned.fate_alike hstored).1.1 henters) hcontains
    hway

/-- To a node that was there the walk came before if it comes there now. -/
theorem goes_of_stored (hthinned : sanitizer.Thinned before after)
    (hcontains : before.contains id = true) (hstored : before.contains child = true)
    (hway : Relation.ReflTransGen (sanitizer.Goes after) id child) :
    Relation.ReflTransGen (sanitizer.Goes before) id child := by
  rcases hthinned.goes_before hcontains hway with ⟨hold, _⟩ | hnew
  · exact hold
  · rw [hstored] at hnew
    contradiction

end Thinned

/-! ## Links that stay -/

/-- Whether every visit of so many levels leaves a node below its parent unless it comes to the
node and takes it out, or the parent gets a new text. -/
def LeavesLinks (sanitizer : Sanitizer) (levels : Nat) : Prop :=
  ∀ (document : Document) (id parent child : NodeId), document.Consistent →
    child ∈ document.children parent → ¬ sanitizer.Restyles (document.item parent) →
    (Relation.ReflTransGen (sanitizer.Goes document) id child →
      sanitizer.fate (document.item child) ≠ .drop) →
    child ∈ (sanitizer.visit levels document id).value.document.children parent

theorem visitEach_leaves_links {ids : List NodeId} (hleaves : sanitizer.LeavesLinks levels)
    (hconsistent : before.Consistent) (hchild : child ∈ before.children parent)
    (hparent : ¬ sanitizer.Restyles (before.item parent))
    (hids : ∀ id ∈ ids, before.contains id = true)
    (hstays : ∀ id ∈ ids, Relation.ReflTransGen (sanitizer.Goes before) id child →
      sanitizer.fate (before.item child) ≠ .drop) :
    child ∈ (visitEach (sanitizer.visit levels) ids before).value.document.children parent := by
  induction ids generalizing before with
  | nil => exact hchild
  | cons first later ih =>
    obtain ⟨hfirst, hlater⟩ := List.forall_mem_cons.1 hids
    obtain ⟨hstays_first, hstays_later⟩ := List.forall_mem_cons.1 hstays
    have hthinned := visit_thinned sanitizer levels first hconsistent
    have hlinked := hleaves before first parent child hconsistent hchild hparent hstays_first
    rw [visitEach_cons_value]
    generalize (sanitizer.visit levels before first).value = progress at hthinned hlinked ⊢
    obtain ⟨mid, _ | stop⟩ := progress
    · have hstored := Document.contains_of_mem_children hchild
      have hstored' := hconsistent.contains_child hchild
      refine ih hthinned.consistent hlinked ?_ (fun id hid => hthinned.grows (hlater id hid)) ?_
      · rw [(hthinned.fate_alike hstored).2.1]
        exact hparent
      · intro id hid hway
        rw [Ne, (hthinned.fate_alike hstored').2.2]
        exact hstays_later id hid (hthinned.goes_of_stored (hlater id hid) hstored' hway)
    · exact hlinked

theorem leaves_links (sanitizer : Sanitizer) (levels : Nat) : sanitizer.LeavesLinks levels := by
  induction levels with
  | zero => exact fun document id parent child _ hchild _ _ => hchild
  | succ levels ih =>
    intro before id parent child hconsistent hchild hparent hstays
    have hlisted := Document.contains_of_mem_children hchild
    have hstored := hconsistent.contains_child hchild
    have hvisited := sanitizer.visited levels before id
    generalize (sanitizer.visit (levels + 1) before id).value = progress at hvisited ⊢
    cases hvisited with
    | stopped stop => exact hchild
    | kept hfate => exact hchild
    | dropped hfate hformer =>
      have hne : child ≠ id := by
        rintro rfl
        exact hstays .refl hfate
      show child ∈ (before.detached id _).children parent
      rw [Document.children_detached]
      split
      · exact List.mem_filter.2 ⟨hchild, bne_iff_ne.2 hne⟩
      · exact hchild
    | entered hcontains hfate =>
      have hstart := Thinned.enter hconsistent hcontains hfate
      have henters : sanitizer.Enters (before.item id) := enters_iff.2 ⟨_, hfate⟩
      refine visitEach_leaves_links ih hstart.consistent ?_ ?_
        (fun other hother => hstart.consistent.contains_child hother) ?_
      · rw [Document.children_withData]
        exact hchild
      · rw [(hstart.fate_alike hlisted).2.1]
        exact hparent
      · intro other hother hway
        rw [Document.children_withData] at hother
        rw [Ne, (hstart.fate_alike hstored).2.2]
        have hold := hstart.goes_of_stored (hconsistent.contains_child hother) hstored hway
        exact hstays (.head ⟨henters, hother⟩ hold)
    | restyled cleaned hcontains hfate =>
      have hstart := Thinned.restyle hconsistent hcontains hfate cleaned
      have hne : parent ≠ id := by
        rintro rfl
        exact hparent (restyles_iff.2 ⟨_, hfate⟩)
      refine visitEach_leaves_links ih hstart.consistent ?_ ?_
        (fun other hother => hstart.consistent.contains_child hother) ?_
      · rw [Document.children_withData, Document.children_withText _ hcontains, if_neg hne]
        exact hchild
      · rw [(hstart.fate_alike hlisted).2.1]
        exact hparent
      · -- from the new text the walk does not go on
        intro other hother hway
        rw [Document.children_withData, Document.children_withText _ hcontains, if_pos rfl,
          List.mem_singleton] at hother
        subst hother
        have hmissing : before.contains before.nextId = false := Document.contains_nextId
        rcases Relation.ReflTransGen.cases_head hway with rfl | ⟨next, ⟨_, hnext⟩, _⟩
        · rw [hmissing] at hstored
          contradiction
        · rw [(hstart.new hmissing).1] at hnext
          contradiction

end Sanitizer

end GadgetGuard
