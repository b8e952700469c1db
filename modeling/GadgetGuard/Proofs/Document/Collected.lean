import GadgetGuard.Proofs.Document.Acyclic
import GadgetGuard.Proofs.Document.Reading
/-!
# Texts that end

The text of a node is collected from all that is below it, but texts and CDATA sections stand for
themselves, and nothing is collected from below them.  No depth bounds the collection.  In a
consistent document it ends unless the node is below itself over nodes that it is collected from:
as every node has one parent, a cycle that is met on the way down has the start on it.
-/

namespace GadgetGuard.Document

variable {document : Document} {ancestor id child : NodeId} {depth : Nat}

/-- The text that a node holds itself. -/
def ownText? (document : Document) (id : NodeId) : Option String :=
  match document.data? id with
  | some (.text content) | some (.cdata content) => some content
  | _ => none

/-- The text of a node is collected from its children if it holds none itself. -/
def Collects (document : Document) (parent child : NodeId) : Prop :=
  document.ownText? parent = none ∧ child ∈ document.children parent

theorem textWithin_succ (depth : Nat) (id : NodeId) :
    document.textWithin (depth + 1) id = (document.ownText? id).or
      (joined ((document.children id).map (document.textWithin depth))) := by
  rw [textWithin, ownText?]
  cases document.data? id with
  | none => rfl
  | some data =>
    cases data with
    | _ => rfl

theorem joined_eq_none {texts : List (Option String)} (hnone : none ∈ texts) :
    joined texts = none := by
  have hmapped : texts.mapM id = none := by
    induction texts with
    | nil => contradiction
    | cons first later ih =>
      rw [List.mapM_cons]
      rcases List.mem_cons.1 hnone with rfl | hlater
      · rfl
      · rw [ih hlater]
        cases first with
        | none => rfl
        | some text => rfl
  rw [joined, hmapped, Option.map_none]

/-- The text of a node that is below itself has no end. -/
theorem textWithin_eq_none_of_cycle (hcycle : Relation.TransGen document.Collects id id) :
    document.textWithin depth id = none := by
  induction depth generalizing id with
  | zero => rfl
  | succ depth ih =>
    obtain ⟨child, hfirst, hrest⟩ := Relation.TransGen.head'_iff.1 hcycle
    have hbelow := ih (.tail' hrest hfirst)
    rw [textWithin_succ, hfirst.1, Option.none_or]
    exact joined_eq_none (List.mem_map.2 ⟨child, hfirst.2, hbelow⟩)

/-- A cycle below a node has the node on it. -/
theorem cycle_of_within (hconsistent : document.Consistent)
    (hwithin : Relation.ReflTransGen document.Collects ancestor id)
    (hcycle : Relation.TransGen document.Collects id id) :
    Relation.TransGen document.Collects ancestor ancestor := by
  have hback := back_of_cycle hconsistent (fun hcollects => hcollects.2) hwithin hcycle
  exact (Relation.TransGen.trans_right hwithin hcycle).trans_left hback

theorem contains_of_collected (hconsistent : document.Consistent)
    (hcontains : document.contains ancestor = true)
    (hwithin : Relation.ReflTransGen document.Collects ancestor id) :
    document.contains id = true := by
  induction hwithin with
  | refl => exact hcontains
  | tail _ hchild _ => exact hconsistent.contains_child hchild.2

/-- Where the way down meets no node again, the text ends before the nodes run out. -/
theorem exists_textWithin (hconsistent : document.Consistent)
    (hcontains : document.contains ancestor = true)
    (hacyclic : ¬ Relation.TransGen document.Collects ancestor ancestor) (room : Nat)
    (path : List NodeId) (hnodup : (id :: path).Nodup)
    (hdown : ∀ other ∈ id :: path, Relation.ReflTransGen document.Collects ancestor other ∧
      Relation.ReflTransGen document.Collects other id)
    (hroom : document.nodes.size ≤ path.length + room) :
    ∃ text, document.textWithin (room + 1) id = some text := by
  induction room generalizing id path with
  | zero =>
    have hlength := length_le_size_of_nodup hnodup fun other hother =>
      contains_of_collected hconsistent hcontains (hdown other hother).1
    rw [List.length_cons] at hlength
    omega
  | succ room ih =>
    rw [textWithin_succ]
    cases hown : document.ownText? id with
    | some text => exact ⟨text, rfl⟩
    | none =>
      have hbelow : ∀ child ∈ document.children id,
          ∃ text, document.textWithin (room + 1) child = some text := by
        intro child hchild
        have hstep : document.Collects id child := ⟨hown, hchild⟩
        have hwithin := (hdown id List.mem_cons_self).1.tail hstep
        have hnew : child ∉ id :: path := by
          intro hmet
          exact hacyclic (cycle_of_within hconsistent hwithin
            (.tail' (hdown child hmet).2 hstep))
        refine ih (id :: path) (List.nodup_cons.2 ⟨hnew, hnodup⟩) ?_ ?_
        · refine List.forall_mem_cons.2 ⟨⟨hwithin, .refl⟩, fun other hother => ?_⟩
          obtain ⟨hupper, hlower⟩ := hdown other hother
          exact ⟨hupper, hlower.tail hstep⟩
        · rw [List.length_cons]
          omega
      refine ⟨_, joined_eq_some_join (g := fun child =>
        (document.textWithin (room + 1) child).getD "") fun child hchild => ?_⟩
      obtain ⟨text, htext⟩ := hbelow child hchild
      rw [htext, Option.getD_some]

/-- A node has a text exactly if it is not below itself over nodes without a text. -/
theorem exists_text_iff (hconsistent : document.Consistent)
    (hcontains : document.contains id = true) :
    (∃ text, document.text? id = some text) ↔ ¬ Relation.TransGen document.Collects id id := by
  constructor
  · rintro ⟨text, htext⟩ hcycle
    rw [text?, textWithin_eq_none_of_cycle hcycle] at htext
    contradiction
  · intro hacyclic
    refine exists_textWithin hconsistent hcontains hacyclic _ [] (List.nodup_singleton id) ?_
      (Nat.le_of_eq (Nat.zero_add _).symm)
    exact List.forall_mem_singleton.2 ⟨.refl, .refl⟩

end GadgetGuard.Document
