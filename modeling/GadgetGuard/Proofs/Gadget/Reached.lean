import GadgetGuard.Proofs.Gadget.Sanitized
/-!
# How far the walk goes

The walk reaches the root, the children of what it enters, and the one new text of every style
element that it rewrites.  All of this can be told from the document as it was before.  The
walk comes to its end exactly if it reaches nothing below the deepest level and every style
that it reaches is accepted.
-/

namespace GadgetGuard

open GadgetGuard.Text

namespace Sanitizer

variable {sanitizer : Sanitizer} {document : Document} {start id child : NodeId} {item : Item}
variable {depth : Nat}

/-- Whether the walk goes on to the children of a node: the root of a document, an element
that is exempt itself, or an unmarked element that is allowed and no style element. -/
def Enters (sanitizer : Sanitizer) (item : Item) : Prop :=
  item.data = .document ∨
    ∃ name attributes, item.data = .element name attributes ∧
      (item.trust = .self ∨
        item.trust = .none ∧ sanitizer.policy.allowsTag name = true ∧ lower name ≠ "style")

/-- Whether the walk replaces the content of a node: an unmarked style element that is
allowed. -/
def Restyles (sanitizer : Sanitizer) (item : Item) : Prop :=
  ∃ name attributes, item.data = .element name attributes ∧ item.trust = .none ∧
    sanitizer.policy.allowsTag name = true ∧ lower name = "style"

theorem enters_iff : sanitizer.Enters item ↔ ∃ kept, sanitizer.fate item = .enter kept := by
  obtain ⟨data, trust⟩ := item
  cases data with
  | element name attributes =>
    cases trust with
    | none =>
      by_cases hallowed : sanitizer.policy.allowsTag name = true
      · by_cases hstyle : lower name = "style"
        · simp [Enters, fate, hallowed, hstyle]
        · simp [Enters, fate, hallowed, hstyle]
      · simp [Enters, fate, hallowed]
    | self => simp [Enters, fate]
    | all => simp [Enters, fate]
  | _ => simp [Enters, fate]

theorem restyles_iff : sanitizer.Restyles item ↔ ∃ kept, sanitizer.fate item = .restyle kept := by
  constructor
  · obtain ⟨data, trust⟩ := item
    rintro ⟨name, attributes, rfl, rfl, hallowed, hstyle⟩
    simp [fate, hallowed, hstyle]
  · rintro ⟨kept, hfate⟩
    obtain ⟨name, attributes, rfl, hallowed, hstyle, _⟩ := restyled_data hfate
    exact ⟨name, attributes, rfl, rfl, hallowed, hstyle⟩

/-- What the walk can reach: a node of the document, or the text that a style element will
get. -/
inductive Place
  | node (id : NodeId)
  | newText (style : NodeId)
  deriving DecidableEq, Repr

/-- The walk from a node reaches a place so many levels below it. -/
inductive Reaches (sanitizer : Sanitizer) (document : Document) (start : NodeId) :
    Nat → Place → Prop
  | start : Reaches sanitizer document start 0 (.node start)
  | child {depth : Nat} {id child : NodeId} :
      Reaches sanitizer document start depth (.node id) →
      sanitizer.Enters (document.item id) → child ∈ document.children id →
      Reaches sanitizer document start (depth + 1) (.node child)
  | newText {depth : Nat} {id : NodeId} :
      Reaches sanitizer document start depth (.node id) →
      sanitizer.Restyles (document.item id) →
      Reaches sanitizer document start (depth + 1) (.newText id)

namespace Reaches

variable {place : Place}

/-- What is reached from a child is reached one level deeper from its parent. -/
theorem from_child (henters : sanitizer.Enters (document.item start))
    (hchild : child ∈ document.children start)
    (hreaches : sanitizer.Reaches document child depth place) :
    sanitizer.Reaches document start (depth + 1) place := by
  induction hreaches with
  | start => exact .child .start henters hchild
  | child _ henters' hchild' ih => exact .child ih henters' hchild'
  | newText _ hrestyles ih => exact .newText ih hrestyles

theorem first_step (hreaches : sanitizer.Reaches document start depth place) :
    (depth = 0 ∧ place = .node start) ∨
    (∃ rest child, depth = rest + 1 ∧ sanitizer.Enters (document.item start) ∧
      child ∈ document.children start ∧ sanitizer.Reaches document child rest place) ∨
    (depth = 1 ∧ sanitizer.Restyles (document.item start) ∧ place = .newText start) := by
  induction hreaches with
  | start => exact .inl ⟨rfl, rfl⟩
  | @child depth id next _ henters hnext ih =>
    rcases ih with ⟨rfl, hid⟩ | ⟨rest, child, rfl, hstart, hchild, hrest⟩ | ⟨_, _, hid⟩
    · obtain rfl := Place.node.inj hid
      exact .inr (.inl ⟨0, next, rfl, henters, hnext, .start⟩)
    · exact .inr (.inl ⟨rest + 1, child, rfl, hstart, hchild, .child hrest henters hnext⟩)
    · contradiction
  | @newText depth id _ hrestyles ih =>
    rcases ih with ⟨rfl, hid⟩ | ⟨rest, child, rfl, hstart, hchild, hrest⟩ | ⟨_, _, hid⟩
    · obtain rfl := Place.node.inj hid
      exact .inr (.inr ⟨rfl, hrestyles, rfl⟩)
    · exact .inr (.inl ⟨rest + 1, child, rfl, hstart, hchild, .newText hrest hrestyles⟩)
    · contradiction

/-- On the way to a place the walk passes every level above it. -/
theorem exists_at {level : Nat} (hreaches : sanitizer.Reaches document start depth place)
    (hlevel : level ≤ depth) : ∃ above, sanitizer.Reaches document start level above := by
  induction hreaches with
  | start => exact ⟨.node start, Nat.le_zero.1 hlevel ▸ .start⟩
  | child hreaches henters hchild ih =>
    rcases Nat.le_succ_iff.1 hlevel with hbefore | rfl
    · exact ih hbefore
    · exact ⟨_, .child hreaches henters hchild⟩
  | newText hreaches hrestyles ih =>
    rcases Nat.le_succ_iff.1 hlevel with hbefore | rfl
    · exact ih hbefore
    · exact ⟨_, .newText hreaches hrestyles⟩

end Reaches

/-- Whether the stylesheet sanitizer accepts every style that the walk from a node reaches. -/
def AcceptsStyles (sanitizer : Sanitizer) (document : Document) (start : NodeId) : Prop :=
  ∀ depth id, sanitizer.Reaches document start depth (.node id) →
    sanitizer.Restyles (document.item id) →
    ∃ css, document.text? id = some css ∧ sanitizer.Cleans css

/-- A walk that goes no further than its start comes to its end. -/
theorem reaches_of_leaf (henters : ¬ sanitizer.Enters (document.item start))
    (hrestyles : ¬ sanitizer.Restyles (document.item start)) (levels : Nat) :
    (∀ depth place, sanitizer.Reaches document start depth place → depth < levels + 1) ∧
      sanitizer.AcceptsStyles document start := by
  have honly : ∀ depth place, sanitizer.Reaches document start depth place →
      depth = 0 ∧ place = .node start := by
    intro depth place hreaches
    rcases hreaches.first_step with hstart | ⟨_, _, _, hstart, _, _⟩ | ⟨_, hstart, _⟩
    · exact hstart
    · exact absurd hstart henters
    · exact absurd hstart hrestyles
  constructor
  · intro depth place hreaches
    rw [(honly depth place hreaches).1]
    exact Nat.succ_pos levels
  · intro depth id hreaches hrestyled
    obtain rfl := Place.node.inj (honly depth _ hreaches).2
    exact absurd hrestyled hrestyles

/-- A walk that enters its start comes to its end if the walks from all children do. -/
theorem reaches_of_entered {levels : Nat} (henters : sanitizer.Enters (document.item start))
    (hrestyles : ¬ sanitizer.Restyles (document.item start)) :
    ((∀ depth place, sanitizer.Reaches document start depth place → depth < levels + 1) ∧
        sanitizer.AcceptsStyles document start) ↔
      ∀ child ∈ document.children start,
        (∀ depth place, sanitizer.Reaches document child depth place → depth < levels) ∧
          sanitizer.AcceptsStyles document child := by
  constructor
  · rintro ⟨hdepths, hstyles⟩ child hchild
    constructor
    · intro depth place hreaches
      exact Nat.lt_of_succ_lt_succ (hdepths _ place (hreaches.from_child henters hchild))
    · intro depth id hreaches hrestyled
      exact hstyles (depth + 1) id (hreaches.from_child henters hchild) hrestyled
  · intro hchildren
    constructor
    · intro depth place hreaches
      rcases hreaches.first_step with
        ⟨rfl, _⟩ | ⟨rest, child, rfl, _, hchild, hrest⟩ | ⟨_, hstart, _⟩
      · exact Nat.succ_pos levels
      · exact Nat.succ_lt_succ ((hchildren child hchild).1 rest place hrest)
      · exact absurd hstart hrestyles
    · intro depth id hreaches hrestyled
      rcases hreaches.first_step with
        ⟨_, hid⟩ | ⟨rest, child, _, _, hchild, hrest⟩ | ⟨_, hstart, _⟩
      · obtain rfl := Place.node.inj hid
        exact absurd hrestyled hrestyles
      · exact (hchildren child hchild).2 rest id hrest hrestyled
      · exact absurd hstart hrestyles

/-- A walk that starts at a style element goes no further than the new text. -/
theorem reaches_of_restyled {levels : Nat} {css : String}
    (henters : ¬ sanitizer.Enters (document.item start))
    (hrestyles : sanitizer.Restyles (document.item start))
    (htext : document.text? start = some css) :
    ((∀ depth place, sanitizer.Reaches document start depth place → depth < levels + 1) ∧
        sanitizer.AcceptsStyles document start) ↔
      0 < levels ∧ sanitizer.Cleans css := by
  constructor
  · rintro ⟨hdepths, hstyles⟩
    obtain ⟨_, htext', hcleans⟩ := hstyles 0 start .start hrestyles
    rw [htext, Option.some.injEq] at htext'
    exact ⟨Nat.lt_of_succ_lt_succ (hdepths 1 _ (.newText .start hrestyles)), htext' ▸ hcleans⟩
  · rintro ⟨hlevels, hcleans⟩
    constructor
    · intro depth place hreaches
      rcases hreaches.first_step with ⟨rfl, _⟩ | ⟨_, _, _, hstart, _, _⟩ | ⟨rfl, _, _⟩
      · exact Nat.succ_pos levels
      · exact absurd hstart henters
      · exact Nat.succ_lt_succ hlevels
    · intro depth id hreaches _
      rcases hreaches.first_step with ⟨_, hid⟩ | ⟨_, _, _, hstart, _, _⟩ | ⟨_, _, hid⟩
      · obtain rfl := Place.node.inj hid
        exact ⟨css, htext, hcleans⟩
      · exact absurd hstart henters
      · contradiction

/-- A walk comes to its end exactly if all that it reaches is above the level where it would
stop and the styles among it are accepted. -/
theorem passes_iff {levels : Nat} {tree : Rose NodeId} (hshape : document.HasShape tree)
    (hconsistent : document.Consistent) :
    sanitizer.Passes levels (tree.map document.item) ↔
      (∀ depth place, sanitizer.Reaches document tree.label depth place → depth < levels) ∧
        sanitizer.AcceptsStyles document tree.label := by
  induction tree generalizing levels with
  | node id below ih =>
    rw [Rose.label_node]
    cases levels with
    | zero =>
      simp only [Passes, false_iff, not_and]
      intro hdepths
      exact absurd (hdepths 0 _ .start) (Nat.lt_irrefl 0)
    | succ levels =>
      have henters : sanitizer.Enters (document.item id) ↔ _ := enters_iff
      have hrestyles : sanitizer.Restyles (document.item id) ↔ _ := restyles_iff
      rw [Rose.map, Passes]
      cases hfate : sanitizer.fate (document.item id) with
      | keep =>
        exact iff_of_true trivial (reaches_of_leaf (by simp [henters, hfate])
          (by simp [hrestyles, hfate]) levels)
      | drop =>
        exact iff_of_true trivial (reaches_of_leaf (by simp [henters, hfate])
          (by simp [hrestyles, hfate]) levels)
      | enter kept =>
        cases hshape with
        | node _ hchildren _ hbelow =>
          rw [reaches_of_entered (by simp [henters, hfate]) (by simp [hrestyles, hfate]),
            hchildren, List.forall_mem_map, List.forall_mem_map]
          refine forall₂_congr fun branch hbranch => ?_
          exact ih branch hbranch (hbelow branch hbranch)
      | restyle kept =>
        have htext := hshape.text? (hshape.nodup_labels hconsistent)
        rw [Rose.map] at htext
        exact (reaches_of_restyled (by simp [henters, hfate]) (by simp [hrestyles, hfate])
          htext).symm

/-- The walk over a whole document ends within its limit exactly if nothing is reached below
it and every style is accepted, and its end is always reported. -/
theorem sanitize_root_ends (hconsistent : document.Consistent)
    (hacyclic : ¬ document.IsBelow Document.root Document.root) :
    (sanitizer.sanitize document Document.root).value.stop ≠ some .endless ∧
      ((sanitizer.sanitize document Document.root).value.stop = none ↔
        sanitizer.AcceptsStyles document Document.root ∧
          ∀ place, ¬ sanitizer.Reaches document Document.root (maxDepth + 1) place) := by
  obtain ⟨⟨root, below⟩, hroot, hshape⟩ :=
    Document.exists_hasShape hconsistent hconsistent.contains_root hacyclic
  obtain rfl : root = Document.root := hroot
  have hfinishes : sanitizer.Finishes document Document.root below _ _ :=
    sanitize_root_finishes hconsistent hshape
  refine ⟨hfinishes.ends, ?_⟩
  rw [hfinishes.stop_eq_none_iff, passes_iff hshape hconsistent, Rose.label_node, and_comm]
  refine and_congr_right fun _ => ?_
  constructor
  · intro hdepths place hreaches
    exact Nat.lt_irrefl _ (hdepths _ place hreaches)
  · intro hlimit depth place hreaches
    by_contra hdeep
    obtain ⟨above, habove⟩ := hreaches.exists_at (Nat.not_lt.1 hdeep)
    exact hlimit above habove

end Sanitizer

end GadgetGuard
