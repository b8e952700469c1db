import Mathlib.Data.List.Nodup
/-!
# Trees with labels

What hangs below a node of a document is a tree.  Its labels are the numbers of the nodes or
what the nodes hold, so one type serves for both and relabelling leads from one to the other.
-/

namespace GadgetGuard

inductive Rose (α : Type) where
  | node (label : α) (branches : List (Rose α))

namespace Rose

variable {α β : Type}

/-- A statement holds of every tree if it holds of a node whenever it holds of what is below. -/
@[induction_eliminator]
theorem induction {motive : Rose α → Prop}
    (node : ∀ label branches, (∀ branch ∈ branches, motive branch) →
      motive (.node label branches)) (tree : Rose α) : motive tree :=
  match tree with
  | .node label branches => node label branches fun branch _ => induction node branch

def label : Rose α → α
  | node label _ => label

def branches : Rose α → List (Rose α)
  | node _ branches => branches

@[simp]
theorem label_node (label : α) (branches : List (Rose α)) :
    (node label branches).label = label := rfl

/-- All labels, each node before what is below it. -/
def labels : Rose α → List α
  | node label branches => label :: branches.flatMap labels

/-- The number of nodes on the longest way down. -/
def height : Rose α → Nat
  | node _ branches => (branches.map height).foldr max 0 + 1

def map (f : α → β) : Rose α → Rose β
  | node label branches => node (f label) (branches.map (map f))

theorem label_map (f : α → β) (tree : Rose α) : (tree.map f).label = f tree.label := by
  cases tree with
  | node label branches => rw [map, label_node, label_node]

theorem label_mem_labels (tree : Rose α) : tree.label ∈ tree.labels := by
  cases tree with
  | node label branches =>
    rw [labels]
    exact List.mem_cons_self

theorem mem_labels_node {x label : α} {branches : List (Rose α)} :
    x ∈ (node label branches).labels ↔ x = label ∨ x ∈ branches.flatMap labels := by
  rw [labels, List.mem_cons]

theorem height_lt_of_mem {label : α} {branches : List (Rose α)} {branch : Rose α}
    (hbranch : branch ∈ branches) : branch.height < (node label branches).height := by
  rw [height, Nat.lt_succ_iff]
  induction branches with
  | nil => contradiction
  | cons first rest ih =>
    rw [List.map_cons, List.foldr_cons]
    rcases List.mem_cons.1 hbranch with rfl | hrest
    · exact Nat.le_max_left _ _
    · exact Nat.le_trans (ih hrest) (Nat.le_max_right _ _)

theorem length_labels_le {branches : List (Rose α)} {branch : Rose α}
    (hbranch : branch ∈ branches) :
    branch.labels.length ≤ (branches.flatMap labels).length := by
  induction branches with
  | nil => contradiction
  | cons first rest ih =>
    rw [List.flatMap_cons, List.length_append]
    rcases List.mem_cons.1 hbranch with rfl | hrest
    · exact Nat.le_add_right _ _
    · exact Nat.le_trans (ih hrest) (Nat.le_add_left _ _)

theorem height_le_of_forall {label : α} {branches : List (Rose α)} {bound : Nat}
    (hbound : ∀ branch ∈ branches, branch.height ≤ bound) :
    (node label branches).height ≤ bound + 1 := by
  rw [height, Nat.add_le_add_iff_right]
  induction branches with
  | nil => exact Nat.zero_le _
  | cons first rest ih =>
    rw [List.map_cons, List.foldr_cons]
    refine Nat.max_le.2 ⟨hbound first List.mem_cons_self, ih ?_⟩
    exact fun branch hbranch => hbound branch (List.mem_cons_of_mem _ hbranch)

theorem height_le_length_labels (tree : Rose α) : tree.height ≤ tree.labels.length := by
  induction tree with
  | node label branches ih =>
    rw [labels, List.length_cons]
    apply height_le_of_forall
    intro branch hbranch
    exact Nat.le_trans (ih branch hbranch) (length_labels_le hbranch)

/-- Lists of trees are equal if trees with the same label at the top are. -/
theorem eq_of_map_label_eq {left right : List (Rose α)}
    (hlabels : left.map label = right.map label)
    (hequal : ∀ a ∈ left, ∀ b ∈ right, a.label = b.label → a = b) : left = right := by
  induction left generalizing right with
  | nil => exact (List.map_eq_nil_iff.1 hlabels.symm).symm
  | cons a left ih =>
    cases right with
    | nil => simp at hlabels
    | cons b right =>
      rw [List.map_cons, List.map_cons, List.cons.injEq] at hlabels
      rw [hequal a List.mem_cons_self b List.mem_cons_self hlabels.1]
      congr 1
      apply ih hlabels.2
      intro a ha b hb
      exact hequal a (List.mem_cons_of_mem _ ha) b (List.mem_cons_of_mem _ hb)

theorem labels_map (f : α → β) (tree : Rose α) : (tree.map f).labels = tree.labels.map f := by
  induction tree with
  | node label branches ih =>
    have hbelow : (branches.map fun branch => (branch.map f).labels) =
        branches.map fun branch => branch.labels.map f := List.map_congr_left ih
    rw [map, labels, labels, List.map_cons, List.flatMap_map, List.map_flatMap,
      List.flatMap_def, List.flatMap_def, hbelow]

theorem map_map {γ : Type} (g : β → γ) (f : α → β) (tree : Rose α) :
    (tree.map f).map g = tree.map (g ∘ f) := by
  induction tree with
  | node label branches ih =>
    have hbelow : (branches.map (map f)).map (map g) = branches.map (map (g ∘ f)) := by
      rw [List.map_map]
      exact List.map_congr_left ih
    rw [map, map, map, hbelow, Function.comp_apply]

/-- Only the labels of a tree matter for its relabelling. -/
theorem map_congr {f g : α → β} {tree : Rose α} (hlabels : ∀ x ∈ tree.labels, f x = g x) :
    tree.map f = tree.map g := by
  induction tree with
  | node label branches ih =>
    rw [map, map, hlabels label (mem_labels_node.2 (.inl rfl))]
    congr 1
    apply List.map_congr_left
    intro branch hbranch
    apply ih branch hbranch
    intro x hx
    exact hlabels x (mem_labels_node.2 (.inr (List.mem_flatMap.2 ⟨branch, hbranch, hx⟩)))

/-- Lists of trees that look alike are relabellings of each other if their trees are and no label
is in two of them. -/
theorem exists_map_eq_of_forall {γ : Type} [DecidableEq α] {f : α → γ} {g : β → γ}
    {left : List (Rose α)} {right : List (Rose β)} (default : β)
    (hpairs : ∀ tree ∈ left, ∀ other : Rose β, other.map g = tree.map f →
      ∃ twin : α → β, other = tree.map twin)
    (halike : right.map (map g) = left.map (map f)) (hnodup : (left.flatMap labels).Nodup) :
    ∃ twin : α → β, right = left.map (map twin) := by
  induction left generalizing right with
  | nil => exact ⟨fun _ => default, List.map_eq_nil_iff.1 halike⟩
  | cons first rest ih =>
    cases right with
    | nil => simp at halike
    | cons first' rest' =>
      rw [List.map_cons, List.map_cons, List.cons.injEq] at halike
      rw [List.flatMap_cons, List.nodup_append] at hnodup
      obtain ⟨_, hrest, hapart⟩ := hnodup
      obtain ⟨twin, rfl⟩ := hpairs first List.mem_cons_self first' halike.1
      obtain ⟨others, rfl⟩ :=
        ih (fun tree htree => hpairs tree (List.mem_cons_of_mem _ htree)) halike.2 hrest
      refine ⟨fun x => if x ∈ first.labels then twin x else others x, ?_⟩
      rw [List.map_cons, List.cons.injEq]
      refine ⟨map_congr fun x hx => (if_pos hx).symm, List.map_congr_left ?_⟩
      intro tree htree
      refine map_congr fun x hx => (if_neg fun hmem => ?_).symm
      exact hapart x hmem x (List.mem_flatMap.2 ⟨tree, htree, hx⟩) rfl

/-- A tree that looks like another one whose labels all differ is a relabelling of it. -/
theorem exists_eq_map {γ : Type} [DecidableEq α] {f : α → γ} {g : β → γ} {left : Rose α}
    {right : Rose β} (halike : right.map g = left.map f) (hnodup : left.labels.Nodup) :
    ∃ twin : α → β, right = left.map twin := by
  induction left generalizing right with
  | node label branches ih =>
    cases right with
    | node label' branches' =>
      rw [map, map, node.injEq] at halike
      rw [labels, List.nodup_cons] at hnodup
      obtain ⟨hlabel, hbelow⟩ := hnodup
      have hpairs : ∀ branch ∈ branches, ∀ other : Rose β, other.map g = branch.map f →
          ∃ twin : α → β, other = branch.map twin := by
        intro branch hbranch other hother
        exact ih branch hbranch hother ((List.nodup_flatMap.1 hbelow).1 branch hbranch)
      obtain ⟨twin, rfl⟩ := exists_map_eq_of_forall label' hpairs halike.2 hbelow
      refine ⟨fun x => if x = label then label' else twin x, ?_⟩
      rw [map, if_pos rfl, node.injEq]
      refine ⟨rfl, List.map_congr_left fun branch hbranch => map_congr fun x hx => ?_⟩
      have hne : x ≠ label := by
        rintro rfl
        exact hlabel (List.mem_flatMap.2 ⟨branch, hbranch, hx⟩)
      exact (if_neg hne).symm

/-- Trees that are relabelled alike have labels that are relabelled alike. -/
theorem eq_of_map_eq {f g : α → β} {tree : Rose α} (halike : tree.map f = tree.map g) :
    ∀ x ∈ tree.labels, f x = g x := by
  have hlabels := congrArg labels halike
  rw [labels_map, labels_map] at hlabels
  exact List.map_inj_left.1 hlabels

end Rose

end GadgetGuard
