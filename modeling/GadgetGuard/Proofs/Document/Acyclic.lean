import GadgetGuard.Proofs.Document.Shape
/-!
# Documents without cycles

Nothing keeps a node from being put below itself.  Where that has not happened to a node of a
consistent document, the way up from any node below it never passes the same node twice, so
the ways down end and the node has a shape.
-/

namespace GadgetGuard.Document

variable {document : Document} {id ancestor parent child : NodeId} {path : List NodeId}

/-- Whether a node is the ancestor or hangs somewhere below it. -/
def IsWithin (document : Document) (ancestor id : NodeId) : Prop :=
  Relation.ReflTransGen (fun parent child => child ∈ document.children parent) ancestor id

/-- Whether a node hangs below the ancestor.  A node below itself lies on a cycle. -/
def IsBelow (document : Document) (ancestor id : NodeId) : Prop :=
  Relation.TransGen (fun parent child => child ∈ document.children parent) ancestor id

/-- The way from a node up to an ancestor, the node first. -/
inductive WayUp (document : Document) (ancestor : NodeId) : List NodeId → Prop
  | top : WayUp document ancestor [ancestor]
  | step {id child : NodeId} {path : List NodeId} (hchild : child ∈ document.children id)
      (hup : WayUp document ancestor (id :: path)) :
      WayUp document ancestor (child :: id :: path)

namespace WayUp

theorem isWithin (hup : document.WayUp ancestor (id :: path)) :
    ∀ x ∈ id :: path, document.IsWithin ancestor x := by
  induction path generalizing id with
  | nil =>
    cases hup with
    | top =>
      intro x hx
      rw [List.mem_singleton.1 hx]
      exact .refl
  | cons parent path ih =>
    cases hup with
    | step hchild hup =>
      intro x hx
      rcases List.mem_cons.1 hx with rfl | hx
      · exact (ih hup parent List.mem_cons_self).tail hchild
      · exact ih hup x hx

/-- The parent of every node on the way but the last is on the rest of the way. -/
theorem parent_mem_tail (hup : document.WayUp ancestor path)
    (hconsistent : document.Consistent) {x : NodeId} (hx : x ∈ path) (hne : x ≠ ancestor)
    (hparent : x ∈ document.children parent) : parent ∈ path.tail := by
  induction hup with
  | top => exact absurd (List.mem_singleton.1 hx) hne
  | @step id child rest hchild _ ih =>
    rcases List.mem_cons.1 hx with rfl | hx
    · rw [hconsistent.parent_unique hparent hchild]
      exact List.mem_cons_self
    · exact List.mem_cons_of_mem _ (ih hx)

/-- One step further down leads to a node that is not on the way yet. -/
theorem child_not_mem (hup : document.WayUp ancestor (id :: path))
    (hconsistent : document.Consistent) (hacyclic : ¬ document.IsBelow ancestor ancestor)
    (hnodup : (id :: path).Nodup) (hchild : child ∈ document.children id) :
    child ∉ id :: path := by
  intro hmem
  by_cases hancestor : child = ancestor
  · apply hacyclic
    exact Relation.TransGen.tail' (hup.isWithin id List.mem_cons_self) (hancestor ▸ hchild)
  · have htail := hup.parent_mem_tail hconsistent hmem hancestor hchild
    exact (List.nodup_cons.1 hnodup).1 htail

theorem contains (hup : document.WayUp ancestor path) (hconsistent : document.Consistent)
    (hancestor : document.contains ancestor = true) :
    ∀ x ∈ path, document.contains x = true := by
  induction hup with
  | top =>
    intro x hx
    rw [List.mem_singleton.1 hx, hancestor]
  | step hchild _ ih =>
    intro x hx
    rcases List.mem_cons.1 hx with rfl | hx
    · exact hconsistent.contains_child hchild
    · exact ih x hx

end WayUp

/-- A node has a shape if each of its children has one. -/
theorem exists_hasShape_of_children (hconsistent : document.Consistent)
    (hcontains : document.contains id = true)
    (hchildren : ∀ child ∈ document.children id,
      ∃ shape, shape.label = child ∧ document.HasShape shape) :
    ∃ shape, shape.label = id ∧ document.HasShape shape := by
  have hbranches : ∀ ids : List NodeId, (∀ child ∈ ids, child ∈ document.children id) →
      ∃ branches : List (Rose NodeId), ids = branches.map Rose.label ∧
        ∀ branch ∈ branches, document.HasShape branch := by
    intro ids hids
    induction ids with
    | nil => exact ⟨[], rfl, by simp⟩
    | cons child rest ih =>
      obtain ⟨branch, hlabel, hbranch⟩ := hchildren child (hids child List.mem_cons_self)
      obtain ⟨branches, hlabels, hbranches⟩ :=
        ih fun c hc => hids c (List.mem_cons_of_mem _ hc)
      refine ⟨branch :: branches, by rw [List.map_cons, hlabel, hlabels], ?_⟩
      intro b hb
      rcases List.mem_cons.1 hb with rfl | hb
      · exact hbranch
      · exact hbranches b hb
  obtain ⟨branches, hlabels, hshapes⟩ := hbranches (document.children id) fun _ h => h
  refine ⟨.node id branches, rfl, .node hcontains hlabels ?_ hshapes⟩
  intro branch hbranch
  rw [← hconsistent.mem_children_iff, hlabels]
  exact List.mem_map_of_mem hbranch

/-- A node of a consistent document that is not below itself has a shape. -/
theorem exists_hasShape (hconsistent : document.Consistent)
    (hcontains : document.contains ancestor = true)
    (hacyclic : ¬ document.IsBelow ancestor ancestor) :
    ∃ shape, shape.label = ancestor ∧ document.HasShape shape := by
  -- each step down lengthens the way up, which cannot outgrow the store
  have hdown : ∀ (room : Nat) (id : NodeId) (path : List NodeId),
      document.WayUp ancestor (id :: path) → (id :: path).Nodup →
      document.nodes.size ≤ path.length + room →
      ∃ shape, shape.label = id ∧ document.HasShape shape := by
    intro room
    induction room with
    | zero =>
      intro id path hup hnodup hroom
      have hlength := length_le_size_of_nodup hnodup (hup.contains hconsistent hcontains)
      rw [List.length_cons] at hlength
      omega
    | succ room ih =>
      intro id path hup hnodup hroom
      apply exists_hasShape_of_children hconsistent
        (hup.contains hconsistent hcontains id List.mem_cons_self)
      intro child hchild
      refine ih child (id :: path) (.step hchild hup) ?_ ?_
      · exact List.nodup_cons.2
          ⟨hup.child_not_mem hconsistent hacyclic hnodup hchild, hnodup⟩
      · rw [List.length_cons]
        omega
  exact hdown document.nodes.size ancestor [] .top (List.nodup_singleton ancestor)
    (Nat.le_of_eq (Nat.zero_add _).symm)

/-- The nodes of a shape are those within its root. -/
theorem HasShape.isWithin {shape : Rose NodeId} (hshape : document.HasShape shape) :
    ∀ id ∈ shape.labels, document.IsWithin shape.label id := by
  induction shape with
  | node root branches ih =>
    cases hshape with
    | node _ hchildren _ hbranches =>
      intro id hid
      rcases Rose.mem_labels_node.1 hid with rfl | hbelow
      · exact .refl
      · obtain ⟨branch, hbranch, hid⟩ := List.mem_flatMap.1 hbelow
        have hchild : branch.label ∈ document.children root := by
          rw [hchildren]
          exact List.mem_map_of_mem hbranch
        exact .head hchild (ih branch hbranch (hbranches branch hbranch) id hid)

/-- A shape holds the children of its nodes. -/
theorem HasShape.child_mem_labels {shape : Rose NodeId} (hshape : document.HasShape shape)
    (hid : id ∈ shape.labels) (hchild : child ∈ document.children id) : child ∈ shape.labels := by
  induction shape with
  | node root branches ih =>
    cases hshape with
    | node _ hchildren _ hbranches =>
      rcases Rose.mem_labels_node.1 hid with rfl | hbelow
      · rw [hchildren] at hchild
        obtain ⟨branch, hbranch, rfl⟩ := List.mem_map.1 hchild
        exact Rose.mem_labels_node.2
          (.inr (List.mem_flatMap.2 ⟨branch, hbranch, branch.label_mem_labels⟩))
      · obtain ⟨branch, hbranch, hid⟩ := List.mem_flatMap.1 hbelow
        have hmem := ih branch hbranch (hbranches branch hbranch) hid
        exact Rose.mem_labels_node.2 (.inr (List.mem_flatMap.2 ⟨branch, hbranch, hmem⟩))

theorem HasShape.mem_labels_iff {shape : Rose NodeId} (hshape : document.HasShape shape) :
    id ∈ shape.labels ↔ document.IsWithin shape.label id := by
  refine ⟨hshape.isWithin id, fun hwithin => ?_⟩
  induction hwithin with
  | refl => exact shape.label_mem_labels
  | tail _ hchild ih => exact hshape.child_mem_labels ih hchild

/-- A node without a parent is not below itself. -/
theorem not_isBelow_of_parent? (hconsistent : document.Consistent)
    (hparent : document.parent? id = none) : ¬ document.IsBelow id id := by
  intro hbelow
  obtain ⟨parent, _, hchild⟩ := Relation.TransGen.tail'_iff.1 hbelow
  rw [hconsistent.mem_children_iff, hparent] at hchild
  contradiction

/-- As every node has one parent, the only way up from a node on a cycle leads round the cycle.  So
a node from which a way leads down to the cycle is on it. -/
theorem back_of_cycle {R : NodeId → NodeId → Prop} (hconsistent : document.Consistent)
    (hlinks : ∀ {parent child}, R parent child → child ∈ document.children parent)
    (hwithin : Relation.ReflTransGen R ancestor id) (hcycle : Relation.TransGen R id id) :
    Relation.ReflTransGen R id ancestor := by
  induction hwithin with
  | refl => exact .refl
  | tail _ hchild ih =>
    obtain ⟨above, hway, hlast⟩ := Relation.TransGen.tail'_iff.1 hcycle
    obtain rfl := hconsistent.parent_unique (hlinks hlast) (hlinks hchild)
    exact hway.trans (ih (.head' hchild hway))

end GadgetGuard.Document
