import GadgetGuard.Proofs.Document.Ancestry
/-!
# Copies end

A deep copy follows the tree below a node and only adds to the store, so what is below the node
stays the same while it is copied.  Where that tree ends, so does the copy: it yields a tree of new
nodes that look like those below the node, and leaves every node that was there as it was.
-/

namespace GadgetGuard.Document

variable {document before current extended after : Document}
variable {id other parent copy childCopy : NodeId}
variable {shape copies branch branchCopy : Rose NodeId} {done doneCopies : List (Rose NodeId)}

/-- What making a copy leaves: a new node without a parent, and every other node as it was. -/
structure Copied (before after : Document) (copy : NodeId) : Prop where
  consistent : after.Consistent
  contains_copy : after.contains copy = true
  parent?_copy : after.parent? copy = none
  fresh : before.contains copy = false
  kept : ∀ {id : NodeId}, before.contains id = true → after.node? id = before.node? id

namespace Copied

theorem contains_kept (hcopied : Copied before current copy)
    (hcontains : before.contains id = true) : current.contains id = true := by
  rw [contains_congr (hcopied.kept hcontains), hcontains]

/-- The copy of a child can be put under a copy that was made before it. -/
theorem append (hcopied : Copied before current copy)
    (hchild : Copied current extended childCopy) :
    extended.append copy childCopy = .ok (extended.attached copy childCopy) ∧
      Copied before (extended.attached copy childCopy) copy := by
  have hcontains := hchild.contains_kept hcopied.contains_copy
  have hne : ∀ {id}, current.contains id = true → id ≠ childCopy := by
    rintro id hid rfl
    rw [hchild.fresh] at hid
    contradiction
  have hfree : extended.parent? copy = none := by
    rw [parent?_congr (hchild.kept hcopied.contains_copy), hcopied.parent?_copy]
  refine ⟨append_eq_ok_iff.2
    ⟨hcontains, hchild.contains_copy, extended, .inl ⟨hchild.parent?_copy, rfl⟩, rfl⟩, ?_⟩
  exact {
    consistent := hchild.consistent.attached hcontains hchild.contains_copy hchild.parent?_copy
    contains_copy := by rw [contains_attached, hcontains]
    parent?_copy := by
      rw [parent?_attached hchild.contains_copy, if_neg (hne hcopied.contains_copy), hfree]
    fresh := hcopied.fresh
    kept := by
      intro id hid
      have hold := hcopied.contains_kept hid
      have hcopy : id ≠ copy := by
        rintro rfl
        rw [hcopied.fresh] at hid
        contradiction
      rw [node?_attached (hne hold) hcopy, hchild.kept hold, hcopied.kept hid] }

end Copied

/-! ## Copies of a shape -/

/-- What a node holds, and its mark. -/
def held (document : Document) (id : NodeId) : Option NodeData × Trust :=
  (document.data? id, document.trust id)

/-- What making a copy of a shape leaves: new nodes that look like those of the shape, and every
other number as it was. -/
structure IsCopy (before after : Document) (shape copies : Rose NodeId) : Prop where
  consistent : after.Consistent
  hasShape : after.HasShape copies
  parent? : after.parent? copies.label = none
  alike : copies.map after.held = shape.map before.held
  fresh : ∀ id ∈ copies.labels, before.contains id = false
  kept : ∀ id, id ∉ copies.labels →
    after.node? id = before.node? id ∧ after.trust id = before.trust id

namespace IsCopy

theorem not_mem (hcopy : IsCopy before after shape copies) (hcontains : before.contains id = true) :
    id ∉ copies.labels := by
  intro hmem
  rw [hcopy.fresh id hmem] at hcontains
  contradiction

theorem node? (hcopy : IsCopy before after shape copies) (hcontains : before.contains id = true) :
    after.node? id = before.node? id :=
  (hcopy.kept id (hcopy.not_mem hcontains)).1

theorem held (hcopy : IsCopy before after shape copies) (hcontains : before.contains id = true) :
    after.held id = before.held id := by
  obtain ⟨hnode, htrust⟩ := hcopy.kept id (hcopy.not_mem hcontains)
  rw [Document.held, Document.held, data?_congr hnode, htrust]

/-- The root of the copy is a new node without a parent. -/
theorem copied (hcopy : IsCopy before after shape copies) : Copied before after copies.label where
  consistent := hcopy.consistent
  contains_copy := hcopy.hasShape.contains_label
  parent?_copy := hcopy.parent?
  fresh := hcopy.fresh _ copies.label_mem_labels
  kept := hcopy.node?

/-- From a node that was there before, the way down is as it was. -/
theorem isBelow_before (hcopy : IsCopy before after shape copies) (hbefore : before.Consistent)
    (hid : id ∉ copies.labels) (hbelow : after.IsBelow id other) :
    before.IsBelow id other ∧ other ∉ copies.labels := by
  have hlink : ∀ {upper lower}, upper ∉ copies.labels → lower ∈ after.children upper →
      lower ∈ before.children upper ∧ lower ∉ copies.labels := by
    intro upper lower hupper hlower
    rw [children_congr (hcopy.kept upper hupper).1] at hlower
    exact ⟨hlower, hcopy.not_mem (hbefore.contains_child hlower)⟩
  induction hbelow with
  | single hchild =>
    obtain ⟨hold, hother⟩ := hlink hid hchild
    exact ⟨.single hold, hother⟩
  | tail _ hchild ih =>
    obtain ⟨hold, hother⟩ := hlink ih.2 hchild
    exact ⟨ih.1.tail hold, hother⟩

theorem isAcyclic (hcopy : IsCopy before after shape copies) (hbefore : before.Consistent)
    (hacyclic : before.IsAcyclic) : after.IsAcyclic := by
  intro id hbelow
  by_cases hid : id ∈ copies.labels
  · -- the root of the copy would be on the cycle, but it has no parent
    have hwithin : after.IsWithin copies.label id := hcopy.hasShape.isWithin id hid
    have hback : after.IsWithin id copies.label :=
      back_of_cycle hcopy.consistent (fun hchild => hchild) hwithin hbelow
    exact not_isBelow_of_parent? hcopy.consistent hcopy.parent?
      ((Relation.TransGen.trans_right hwithin hbelow).trans_left hback)
  · exact hacyclic id (hcopy.isBelow_before hbefore hid hbelow).1

end IsCopy

theorem held_attached : (document.attached parent id).held other = document.held other := by
  rw [held, data?_attached]
  rfl

/-- The copy of a node alone. -/
theorem cloneAlone_isCopy (hconsistent : document.Consistent)
    (hcontains : document.contains id = true) :
    ∃ after, document.cloneAlone id = .ok (after, document.nextId) ∧
      IsCopy document after (.node id []) (.node document.nextId []) := by
  obtain ⟨node, hnode⟩ := contains_iff.1 hcontains
  have hdata : document.data? id = some node.data := by
    rw [data?, hnode]
    rfl
  have hclone : document.cloneAlone id =
      .ok ((document.create node.data).1.propagateTrust id document.nextId, document.nextId) :=
    cloneAlone_eq_ok_iff.2 ⟨node.data, hdata, rfl, rfl⟩
  refine ⟨_, hclone, ?_⟩
  exact {
    consistent := hconsistent.cloneAlone hclone
    hasShape := by
      refine .node ((contains_create node.data).2 (.inl rfl)) ?_ (by simp) (by simp)
      exact (children_create node.data).trans children_nextId
    parent? := (parent?_create node.data).trans parent?_nextId
    alike := by
      have hnew : ((document.create node.data).1.propagateTrust id document.nextId).held
          document.nextId = document.held id := by
        rw [held, propagateTrust, trust_mark, if_pos rfl]
        refine Prod.ext ?_ rfl
        exact (data?_create node.data).trans ((if_pos rfl).trans hdata.symm)
      rw [Rose.map, Rose.map, hnew]
      rfl
    fresh := by
      intro other hother
      rw [Rose.labels, List.flatMap_nil, List.mem_singleton] at hother
      rw [hother, contains_nextId]
    kept := by
      intro other hother
      rw [Rose.labels, List.flatMap_nil, List.mem_singleton] at hother
      refine ⟨(node?_create node.data).trans (if_neg hother), ?_⟩
      rw [propagateTrust, trust_mark, if_neg hother]
      rfl }

theorem cloneAlone_copied (hconsistent : document.Consistent)
    (hcontains : document.contains id = true) :
    ∃ after, document.cloneAlone id = .ok (after, document.nextId) ∧
      Copied document after document.nextId := by
  obtain ⟨after, hclone, hcopy⟩ := cloneAlone_isCopy hconsistent hcontains
  exact ⟨after, hclone, hcopy.copied⟩

/-- A shape keeps its nodes when it is put under a node that is not in it. -/
theorem HasShape.attached (hshape : document.HasShape shape)
    (hcontains : document.contains parent = true) (hparent : parent ∉ shape.labels) :
    (document.attached parent shape.label).HasShape shape := by
  have hroot : shape.label ≠ parent := by
    rintro rfl
    exact hparent shape.label_mem_labels
  cases shape with
  | node root branches =>
    have hbelow : ∀ branch ∈ branches, ∀ id ∈ branch.labels,
        (document.attached parent root).node? id = document.node? id := by
      intro branch hbranch id hid
      have hmem := List.mem_flatMap.2 ⟨branch, hbranch, hid⟩
      apply node?_attached
      · rintro rfl
        exact hshape.root_not_mem_branches hmem
      · rintro rfl
        exact hparent (Rose.mem_labels_node.2 (.inr hmem))
    cases hshape with
    | node hstored hchildren hparents hbranches =>
      rw [Rose.label_node] at hroot ⊢
      refine .node ?_ ?_ ?_ ?_
      · rw [contains_attached, hstored]
      · rw [children_attached hcontains, if_neg hroot, hchildren]
      · intro branch hbranch
        rw [parent?_congr (hbelow branch hbranch _ branch.label_mem_labels),
          hparents branch hbranch]
      · intro branch hbranch
        exact (hbranches branch hbranch).congr (hbelow branch hbranch)

/-- A tree can be put under a node that has a shape; it is the last branch then. -/
theorem HasShape.append_branch {root : NodeId} {branches : List (Rose NodeId)}
    (hshape : document.HasShape (.node root branches)) (hbranch : document.HasShape branch)
    (hapart : ∀ id ∈ (Rose.node root branches).labels, id ∉ branch.labels) :
    (document.attached root branch.label).HasShape (.node root (branches ++ [branch])) := by
  have hroot := hshape.root_not_mem_branches
  have hstored : document.contains root = true := hshape.contains_label
  have hnew : ∀ id ∈ (Rose.node root branches).labels, id ≠ branch.label := by
    rintro id hid rfl
    exact hapart _ hid branch.label_mem_labels
  have hbelow : ∀ old ∈ branches, ∀ id ∈ old.labels,
      (document.attached root branch.label).node? id = document.node? id := by
    intro old hold id hid
    have hmem := List.mem_flatMap.2 ⟨old, hold, hid⟩
    apply node?_attached (hnew id (Rose.mem_labels_node.2 (.inr hmem)))
    rintro rfl
    exact hroot hmem
  cases hshape with
  | node _ hchildren hparents hbranches =>
    refine .node ?_ ?_ ?_ ?_
    · rw [contains_attached, hstored]
    · rw [children_attached hstored, if_pos rfl, hchildren, List.map_append, List.map_singleton]
    · intro old hold
      rcases List.mem_append.1 hold with hold | hlast
      · rw [parent?_congr (hbelow old hold _ old.label_mem_labels), hparents old hold]
      · rw [List.mem_singleton.1 hlast, parent?_attached hbranch.contains_label, if_pos rfl]
    · intro old hold
      rcases List.mem_append.1 hold with hold | hlast
      · exact (hbranches old hold).congr (hbelow old hold)
      · rw [List.mem_singleton.1 hlast]
        exact hbranch.attached hstored (hapart root (Rose.mem_labels_node.2 (.inl rfl)))

/-- The copy of a branch is put under the copy of its parent, after those made before. -/
theorem IsCopy.append {root copy : NodeId}
    (hcopy : IsCopy document current (.node root done) (.node copy doneCopies))
    (hbranch : IsCopy current extended branch branchCopy)
    (hstored : ∀ id ∈ branch.labels, document.contains id = true) :
    extended.append copy branchCopy.label = .ok (extended.attached copy branchCopy.label) ∧
      IsCopy document (extended.attached copy branchCopy.label) (.node root (done ++ [branch]))
        (.node copy (doneCopies ++ [branchCopy])) := by
  have hold : ∀ id ∈ (Rose.node copy doneCopies).labels, current.contains id = true :=
    hcopy.hasShape.contains_labels
  obtain ⟨happend, hcopied⟩ := hcopy.copied.append hbranch.copied
  have hlabels : ∀ id, id ∈ (Rose.node copy (doneCopies ++ [branchCopy])).labels ↔
      id ∈ (Rose.node copy doneCopies).labels ∨ id ∈ branchCopy.labels := by
    intro id
    rw [Rose.labels, Rose.labels, List.flatMap_append, List.flatMap_singleton, ← List.cons_append,
      List.mem_append]
  refine ⟨happend, ?_⟩
  exact {
    consistent := hcopied.consistent
    hasShape := by
      have hshape : extended.HasShape (.node copy doneCopies) :=
        hcopy.hasShape.congr fun id hid => hbranch.node? (hold id hid)
      exact hshape.append_branch hbranch.hasShape fun id hid => hbranch.not_mem (hold id hid)
    parent? := hcopied.parent?_copy
    alike := by
      have hearlier : (Rose.node copy doneCopies).map extended.held =
          (Rose.node root done).map document.held :=
        (Rose.map_congr fun id hid => hbranch.held (hold id hid)).trans hcopy.alike
      have hlast : branchCopy.map extended.held = branch.map document.held :=
        hbranch.alike.trans (Rose.map_congr fun id hid => hcopy.held (hstored id hid))
      have hsame : (extended.attached copy branchCopy.label).held = extended.held :=
        funext fun _ => held_attached
      rw [Rose.map, Rose.map, Rose.node.injEq] at hearlier
      rw [hsame, Rose.map, Rose.map, List.map_append, List.map_append, List.map_singleton,
        List.map_singleton, hearlier.1, hearlier.2, hlast]
    fresh := by
      intro id hid
      rcases (hlabels id).1 hid with hid | hid
      · exact hcopy.fresh id hid
      · rw [← Bool.not_eq_true]
        intro hcontains
        exact hbranch.not_mem (hcopy.copied.contains_kept hcontains) hid
    kept := by
      intro id hid
      rw [hlabels, not_or] at hid
      obtain ⟨hnode, htrust⟩ := hbranch.kept id hid.2
      obtain ⟨hnode', htrust'⟩ := hcopy.kept id hid.1
      refine ⟨?_, htrust.trans htrust'⟩
      rw [node?_attached, hnode, hnode']
      · rintro rfl
        exact hid.2 branchCopy.label_mem_labels
      · rintro rfl
        exact hid.1 (Rose.mem_labels_node.2 (.inl rfl)) }

/-! ## Deep copies -/

theorem cloneAlone_of_missing (hmissing : document.contains id = false) :
    document.cloneAlone id = .error (.unknownNode id) := by
  rw [cloneAlone, data?, node?_eq_none_iff.2 hmissing]
  rfl

/-- A sequence of steps succeeds if each of them does, given those that were taken before. -/
theorem foldlM_succeeds {α : Type} {P : List α → Document → Prop} {items : List α}
    (done : List α) {step : Document → α → ExceptT DocumentError Option Document}
    (hstep : ∀ {done : List α} {item : α} {current : Document}, item ∈ items → P done current →
      ∃ after, (step current item).run = some (.ok after) ∧ P (done ++ [item]) after)
    (hbefore : P done before) :
    ∃ after, (items.foldlM step before).run = some (.ok after) ∧ P (done ++ items) after := by
  induction items generalizing before done with
  | nil => exact ⟨before, rfl, by rwa [List.append_nil]⟩
  | cons item items ih =>
    obtain ⟨middle, hfirst, hmiddle⟩ := hstep List.mem_cons_self hbefore
    obtain ⟨after, hrest, hafter⟩ :=
      ih (done ++ [item]) (fun hitem => hstep (List.mem_cons_of_mem item hitem)) hmiddle
    refine ⟨after, ?_, by rwa [List.append_assoc] at hafter⟩
    rw [List.foldlM_cons, ExceptT.run_bind, hfirst]
    exact hrest

/-- Copies what hangs below a child and puts the copy under another node. -/
def copyUnder (depth : Nat) (parent : NodeId) (current : Document) (child : NodeId) :
    ExceptT DocumentError Option Document := do
  let (extended, childCopy) ← cloneWithin depth current child
  ExceptT.mk (some (extended.append parent childCopy))

theorem copyUnder_eq_ok {depth : Nat} {parent child : NodeId} {after : Document}
    (hcopy : (cloneWithin depth current child).run = some (.ok (extended, childCopy)))
    (happend : extended.append parent childCopy = .ok after) :
    (copyUnder depth parent current child).run = some (.ok after) := by
  rw [copyUnder, ExceptT.run_bind, hcopy]
  exact congrArg some happend

theorem run_cloneWithin_succ {depth : Nat} {start : Document}
    (halone : document.cloneAlone id = .ok (start, copy)) :
    (cloneWithin (depth + 1) document id).run =
      ((start.children id).foldlM (copyUnder depth copy) start >>=
        fun finished => pure (finished, copy)).run := by
  rw [cloneWithin, halone]
  rfl

theorem cloneWithin_succ_eq_ok {depth : Nat} {start after : Document}
    (halone : document.cloneAlone id = .ok (start, copy))
    (hfold : ((start.children id).foldlM (copyUnder depth copy) start).run = some (.ok after)) :
    (cloneWithin (depth + 1) document id).run = some (.ok (after, copy)) := by
  rw [run_cloneWithin_succ halone, ExceptT.run_bind, hfold]
  rfl

/-- The deep copy of a node with a shape is a copy of the shape. -/
theorem HasShape.cloneWithin_isCopy (hshape : document.HasShape shape)
    (hconsistent : document.Consistent) {depth : Nat} (hdepth : shape.height ≤ depth) :
    ∃ after copies,
      (document.cloneWithin depth shape.label).run = some (.ok (after, copies.label)) ∧
        IsCopy document after shape copies := by
  induction shape generalizing document depth with
  | node root branches ih =>
    cases depth with
    | zero => simp [Rose.height] at hdepth
    | succ depth =>
      cases hshape with
      | node hcontains hchildren _ hbranches =>
        obtain ⟨start, halone, hstart⟩ := cloneAlone_isCopy hconsistent hcontains
        -- the branches that are done have copies under the copy of the root
        have hstep : ∀ {done : List (Rose NodeId)} {branch : Rose NodeId} {current : Document},
            branch ∈ branches →
            (∃ doneCopies, IsCopy document current (.node root done)
              (.node document.nextId doneCopies)) →
            ∃ after, (copyUnder depth document.nextId current branch.label).run =
                some (.ok after) ∧
              ∃ doneCopies, IsCopy document after (.node root (done ++ [branch]))
                (.node document.nextId doneCopies) := by
          rintro done branch current hbranch ⟨doneCopies, hcopy⟩
          have hstored := (hbranches branch hbranch).contains_labels
          have hplace : current.HasShape branch :=
            (hbranches branch hbranch).congr fun id hid => hcopy.node? (hstored id hid)
          have hlower := Nat.lt_of_lt_of_le (Rose.height_lt_of_mem hbranch) hdepth
          obtain ⟨extended, branchCopy, hclone, hbranchCopy⟩ :=
            ih branch hbranch hplace hcopy.consistent (Nat.le_of_lt_succ hlower)
          obtain ⟨happend, hcopy⟩ := hcopy.append hbranchCopy hstored
          exact ⟨_, copyUnder_eq_ok hclone happend, _, hcopy⟩
        obtain ⟨after, hfold, doneCopies, hafter⟩ := foldlM_succeeds
          (P := fun done current => ∃ doneCopies, IsCopy document current (.node root done)
            (.node document.nextId doneCopies))
          [] hstep ⟨[], hstart⟩
        refine ⟨after, .node document.nextId doneCopies, cloneWithin_succ_eq_ok halone ?_, hafter⟩
        rw [Rose.label_node, Rose.label_node, children_congr (hstart.node? hcontains), hchildren,
          List.foldlM_map]
        exact hfold

/-- A number that was not given out cannot be copied. -/
theorem clone_of_missing (hmissing : document.contains id = false) (deep : Bool) :
    (document.clone id deep).run = some (.error (.unknownNode id)) := by
  have halone := cloneAlone_of_missing hmissing
  cases deep with
  | false => exact congrArg some halone
  | true =>
    rw [clone, if_pos rfl, cloneWithin, halone]
    rfl

/-- A copy ends, unless it is a deep one of a node below itself. -/
theorem clone_isCopy (hconsistent : document.Consistent) (hcontains : document.contains id = true)
    {deep : Bool} (hacyclic : deep = true → ¬ document.IsBelow id id) :
    ∃ after shape copies, shape.label = id ∧ (deep = true → document.HasShape shape) ∧
      (document.clone id deep).run = some (.ok (after, copies.label)) ∧
      IsCopy document after shape copies := by
  cases deep with
  | false =>
    obtain ⟨after, halone, hcopy⟩ := cloneAlone_isCopy hconsistent hcontains
    exact ⟨after, .node id [], .node document.nextId [], rfl, nofun, congrArg some halone, hcopy⟩
  | true =>
    obtain ⟨shape, rfl, hshape⟩ := exists_hasShape hconsistent hcontains (hacyclic rfl)
    have hheight := hshape.height_le_size (hshape.nodup_labels hconsistent)
    obtain ⟨after, copies, hclone, hcopy⟩ :=
      hshape.cloneWithin_isCopy hconsistent (Nat.le_succ_of_le hheight)
    exact ⟨after, shape, copies, rfl, fun _ => hshape, hclone, hcopy⟩

theorem IsAcyclic.clone {deep : Bool} (hacyclic : document.IsAcyclic)
    (hconsistent : document.Consistent)
    (hclone : (document.clone id deep).run = some (.ok (after, copy))) : after.IsAcyclic := by
  cases hcontains : document.contains id with
  | false =>
    rw [clone_of_missing hcontains] at hclone
    exact nomatch Option.some.inj hclone
  | true =>
    obtain ⟨other, shape, copies, -, -, hother, hcopy⟩ :=
      clone_isCopy hconsistent hcontains fun _ => hacyclic id
    have hpair : (after, copy) = (other, copies.label) :=
      Except.ok.inj (Option.some.inj (hclone.symm.trans hother))
    obtain rfl : after = other := congrArg Prod.fst hpair
    exact hcopy.isAcyclic hconsistent hacyclic

end GadgetGuard.Document
