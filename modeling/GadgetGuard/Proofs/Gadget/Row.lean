import GadgetGuard.Proofs.Document.Acyclic
import GadgetGuard.Proofs.Gadget.Step
/-!
# What the walk leaves of a row

The walk edits one store while it goes through it.  `Walked` says what it leaves of a row of
siblings: which trees stay and that they are the filtered ones, that nothing else in the store
has changed but the list of the parent's children, and that every node that stays was there
before or is new.  Rows compose, since a later visit does not come near what an earlier one has
left.
-/

namespace GadgetGuard

open GadgetGuard.Text

namespace Sanitizer

variable {sanitizer : Sanitizer} {before mid after : Document} {parent id : NodeId}
variable {tree : Rose NodeId} {forest kept below branches : List (Rose NodeId)}

/-- What the walk over a row of trees below one parent leaves. -/
structure Walked (sanitizer : Sanitizer) (before after : Document) (parent : NodeId)
    (forest kept : List (Rose NodeId)) : Prop where
  consistent : after.Consistent
  marks : after.marks = before.marks
  grows : ∀ id, before.contains id = true → after.contains id = true
  frame : ∀ id, before.contains id = true → id ∉ forest.flatMap Rose.labels → id ≠ parent →
    after.node? id = before.node? id
  parent_data : after.data? parent = before.data? parent
  parent_link : after.parent? parent = before.parent? parent
  children : ∀ earlier later,
    before.children parent = earlier ++ forest.map Rose.label ++ later →
      after.children parent = earlier ++ kept.map Rose.label ++ later
  shapes : ∀ tree ∈ kept, after.HasShape tree
  parents : ∀ tree ∈ kept, after.parent? tree.label = some parent
  origin : ∀ id ∈ kept.flatMap Rose.labels,
    id ∈ forest.flatMap Rose.labels ∨ before.contains id = false
  filtered : kept.map (Rose.map after.item) =
    (forest.map (Rose.map before.item)).flatMap sanitizer.filterTree

namespace Walked

theorem nil (hconsistent : before.Consistent) :
    sanitizer.Walked before before parent [] [] where
  consistent := hconsistent
  marks := rfl
  grows _ hcontains := hcontains
  frame _ _ _ _ := rfl
  parent_data := rfl
  parent_link := rfl
  children _ _ hchildren := hchildren
  shapes _ htree := absurd htree List.not_mem_nil
  parents _ htree := absurd htree List.not_mem_nil
  origin _ hid := absurd hid List.not_mem_nil
  filtered := rfl

theorem keep (hconsistent : before.Consistent) (hforest : before.HasForest parent [tree])
    (hfate : sanitizer.fate (before.item tree.label) = .keep) :
    sanitizer.Walked before before parent [tree] [tree] where
  consistent := hconsistent
  marks := rfl
  grows _ hcontains := hcontains
  frame _ _ _ _ := rfl
  parent_data := rfl
  parent_link := rfl
  children _ _ hchildren := hchildren
  shapes := hforest.shapes
  parents := hforest.parents
  origin _ hid := .inl hid
  filtered := by
    cases tree with
    | node root branches =>
      rw [Rose.label_node] at hfate
      rw [List.map_singleton, List.flatMap_singleton, Rose.map, filterTree, hfate]

theorem drop (hconsistent : before.Consistent) (hforest : before.HasForest parent [tree])
    (hfate : sanitizer.fate (before.item tree.label) = .drop) :
    sanitizer.Walked before (before.detached tree.label parent) parent [tree] [] := by
  have hparent := hforest.parents tree (List.mem_singleton.2 rfl)
  have hmem : tree.label ∈ [tree].flatMap Rose.labels :=
    List.mem_flatMap.2 ⟨tree, List.mem_singleton.2 rfl, tree.label_mem_labels⟩
  have hcontains := hforest.contains_labels hmem
  have hne : parent ≠ tree.label := by
    rintro rfl
    exact hforest.parent_not_mem hmem
  refine
    { consistent := hconsistent.detached hparent
      marks := rfl
      grows := fun id hid => by rw [Document.contains_detached, hid]
      frame := fun id _ hid hne => Document.node?_detached (fun h => hid (h ▸ hmem)) hne
      parent_data := Document.data?_detached
      parent_link := by rw [Document.parent?_detached hcontains, if_neg hne]
      children := ?_
      shapes := fun _ htree => absurd htree List.not_mem_nil
      parents := fun _ htree => absurd htree List.not_mem_nil
      origin := fun _ hid => absurd hid List.not_mem_nil
      filtered := ?_ }
  · intro earlier later hchildren
    have hnodup := hconsistent.nodup_children parent
    rw [hchildren, List.map_singleton, List.append_assoc, List.singleton_append,
      List.nodup_middle, List.nodup_cons, List.mem_append, not_or] at hnodup
    have hstays : ∀ ids : List NodeId, tree.label ∉ ids →
        ids.filter (· != tree.label) = ids := by
      intro ids hids
      rw [List.filter_eq_self]
      intro id hid
      rw [bne_iff_ne]
      rintro rfl
      exact hids hid
    rw [Document.children_detached, if_pos rfl, hchildren, List.map_singleton,
      List.filter_append, List.filter_append, hstays earlier hnodup.1.1,
      hstays later hnodup.1.2]
    simp
  · cases tree with
    | node root branches =>
      rw [Rose.label_node] at hfate
      rw [List.map_singleton, List.flatMap_singleton, Rose.map, filterTree, hfate]
      rfl

theorem origin_singleton (hwalked : sanitizer.Walked before after parent [tree] kept) :
    ∀ id ∈ kept.flatMap Rose.labels, id ∈ tree.labels ∨ before.contains id = false := by
  intro id hid
  have horigin := hwalked.origin id hid
  rwa [List.flatMap_singleton] at horigin

/-- The later visits of a row do not come near what the first one has left. -/
theorem node?_kept {rest first later : List (Rose NodeId)}
    (hforest : before.HasForest parent (tree :: rest))
    (hcontains : before.contains parent = true)
    (hfirst : sanitizer.Walked before mid parent [tree] first)
    (hlater : sanitizer.Walked mid after parent rest later) :
    ∀ id ∈ first.flatMap Rose.labels, after.node? id = mid.node? id := by
  have hnodup := hforest.nodup
  rw [List.flatMap_cons, List.nodup_append] at hnodup
  intro id hid
  obtain ⟨kept, hkept, hlabel⟩ := List.mem_flatMap.1 hid
  apply hlater.frame id ((hfirst.shapes kept hkept).contains_labels id hlabel)
  · intro hrest
    cases hfirst.origin_singleton id hid with
    | inl htree => exact hnodup.2.2 id htree id hrest rfl
    | inr hnew =>
      have hold : before.contains id = true := hforest.contains_labels
        (List.flatMap_cons ▸ List.mem_append_right _ hrest)
      rw [hnew] at hold
      contradiction
  · rintro rfl
    cases hfirst.origin_singleton id hid with
    | inl htree =>
      apply hforest.parent_not_mem
      rw [List.flatMap_cons]
      exact List.mem_append_left _ htree
    | inr hnew =>
      rw [hnew] at hcontains
      contradiction

/-- The first visit of a row leaves the other trees as they were. -/
theorem node?_rest {rest first : List (Rose NodeId)}
    (hforest : before.HasForest parent (tree :: rest))
    (hfirst : sanitizer.Walked before mid parent [tree] first) :
    ∀ id ∈ rest.flatMap Rose.labels, mid.node? id = before.node? id := by
  have hnodup := hforest.nodup
  have hparent := hforest.parent_not_mem
  rw [List.flatMap_cons, List.nodup_append] at hnodup
  rw [List.flatMap_cons, List.mem_append, not_or] at hparent
  intro id hid
  apply hfirst.frame
  · exact hforest.contains_labels (List.flatMap_cons ▸ List.mem_append_right _ hid)
  · rw [List.flatMap_singleton]
    exact fun htree => hnodup.2.2 id htree id hid rfl
  · rintro rfl
    exact hparent.2 hid

/-- Trees are relabelled alike by stores that agree on their nodes. -/
theorem map_item_congr (hmarks : after.marks = before.marks)
    (hnodes : ∀ id ∈ forest.flatMap Rose.labels, after.node? id = before.node? id) :
    forest.map (Rose.map after.item) = forest.map (Rose.map before.item) := by
  apply List.map_congr_left
  intro tree htree
  apply Rose.map_congr
  intro id hid
  exact Document.item_congr
    (Document.data?_congr (hnodes id (List.mem_flatMap.2 ⟨tree, htree, hid⟩))) hmarks

/-- A tree is walked before the rest of its row. -/
theorem cons {rest first later : List (Rose NodeId)}
    (hforest : before.HasForest parent (tree :: rest))
    (hcontains : before.contains parent = true)
    (hfirst : sanitizer.Walked before mid parent [tree] first)
    (hlater : sanitizer.Walked mid after parent rest later) :
    sanitizer.Walked before after parent (tree :: rest) (first ++ later) := by
  have hstays := node?_kept hforest hcontains hfirst hlater
  refine
    { consistent := hlater.consistent
      marks := hlater.marks.trans hfirst.marks
      grows := fun id hid => hlater.grows id (hfirst.grows id hid)
      frame := ?_
      parent_data := hlater.parent_data.trans hfirst.parent_data
      parent_link := hlater.parent_link.trans hfirst.parent_link
      children := ?_
      shapes := ?_
      parents := ?_
      origin := ?_
      filtered := ?_ }
  · intro id hid hlabels hne
    rw [List.flatMap_cons, List.mem_append, not_or] at hlabels
    rw [hlater.frame id (hfirst.grows id hid) hlabels.2 hne]
    apply hfirst.frame id hid _ hne
    rw [List.flatMap_singleton]
    exact hlabels.1
  · intro earlier after' hchildren
    have hmid := hfirst.children earlier (rest.map Rose.label ++ after')
      (by rw [hchildren]; simp)
    rw [List.map_append, ← List.append_assoc]
    exact hlater.children _ _ (by rw [hmid]; simp)
  · intro kept hkept
    cases List.mem_append.1 hkept with
    | inl hkept =>
      apply (hfirst.shapes kept hkept).congr
      intro id hid
      exact hstays id (List.mem_flatMap.2 ⟨kept, hkept, hid⟩)
    | inr hkept => exact hlater.shapes kept hkept
  · intro kept hkept
    cases List.mem_append.1 hkept with
    | inl hkept =>
      have hlabel : kept.label ∈ first.flatMap Rose.labels :=
        List.mem_flatMap.2 ⟨kept, hkept, kept.label_mem_labels⟩
      rw [Document.parent?_congr (hstays _ hlabel), hfirst.parents kept hkept]
    | inr hkept => exact hlater.parents kept hkept
  · intro id hid
    rw [List.flatMap_append, List.mem_append] at hid
    rw [List.flatMap_cons, List.mem_append, or_assoc]
    cases hid with
    | inl hid =>
      cases hfirst.origin_singleton id hid with
      | inl htree => exact .inl htree
      | inr hnew => exact .inr (.inr hnew)
    | inr hid =>
      cases hlater.origin id hid with
      | inl hrest => exact .inr (.inl hrest)
      | inr hnew =>
        refine .inr (.inr ?_)
        rw [Bool.eq_false_iff] at hnew ⊢
        exact fun hold => hnew (hfirst.grows id hold)
  · rw [List.map_append, map_item_congr hlater.marks hstays, hfirst.filtered, hlater.filtered,
      map_item_congr hfirst.marks (node?_rest hforest hfirst), ← List.flatMap_append,
      ← List.map_append, List.singleton_append]

end Walked

end Sanitizer

end GadgetGuard
