import GadgetGuard.Proofs.Gadget.Row
/-!
# The walk computes the filter

A node is readied before the walk goes below it, and it stays above what the walk leaves there.
An induction over the shape carries `Walked` through every visit that does not stop, and says
at the same time which visits stop.
-/

namespace GadgetGuard

open GadgetGuard.Text

namespace Sanitizer

variable {sanitizer : Sanitizer} {before mid after : Document} {parent id : NodeId}
variable {tree : Rose NodeId} {forest kept below branches : List (Rose NodeId)}

/-! ## Going below one node -/

/-- What is done to a node before the walk goes below it: it holds what is kept of it, and
its children are those that will be visited. -/
structure Readied (before mid : Document) (id : NodeId) (kept : Item)
    (below branches : List (Rose NodeId)) : Prop where
  consistent : mid.Consistent
  marks : mid.marks = before.marks
  grows : ∀ other, before.contains other = true → mid.contains other = true
  frame : ∀ other, before.contains other = true → other ≠ id →
    other ∉ below.flatMap Rose.labels → mid.node? other = before.node? other
  link : mid.parent? id = before.parent? id
  item : mid.item id = kept
  children : mid.children id = branches.map Rose.label
  forest : mid.HasForest id branches
  origin : ∀ other ∈ branches.flatMap Rose.labels,
    other ∈ below.flatMap Rose.labels ∨ before.contains other = false

/-- A node stays above what the walk leaves below it. -/
theorem Readied.wrap {item : Item} (hreadied : Readied before mid id item below branches)
    (hforest : before.HasForest parent [.node id below])
    (hcontains : before.contains parent = true)
    (hwalked : sanitizer.Walked mid after id branches kept)
    (hfiltered : sanitizer.filterTree ((Rose.node id below).map before.item) =
      [.node item ((branches.map (Rose.map mid.item)).flatMap sanitizer.filterTree)]) :
    sanitizer.Walked before after parent [.node id below] [.node id kept] := by
  have hframe : ∀ other, before.contains other = true →
      other ∉ [Rose.node id below].flatMap Rose.labels →
        after.node? other = before.node? other := by
    intro other hother hlabels
    rw [List.flatMap_singleton, Rose.labels, List.mem_cons, not_or] at hlabels
    rw [hwalked.frame other (hreadied.grows other hother) _ hlabels.1]
    · exact hreadied.frame other hother hlabels.1 hlabels.2
    · intro hbranches
      cases hreadied.origin other hbranches with
      | inl hbelow => exact hlabels.2 hbelow
      | inr hnew =>
        rw [hnew] at hother
        contradiction
  have hparent := hframe parent hcontains hforest.parent_not_mem
  have hid : before.contains id = true := hforest.contains_labels (by
    rw [List.flatMap_singleton, Rose.labels]
    exact List.mem_cons_self)
  have hchildren : after.children id = kept.map Rose.label := by
    simpa using hwalked.children [] [] (by simpa using hreadied.children)
  refine
    { consistent := hwalked.consistent
      marks := hwalked.marks.trans hreadied.marks
      grows := fun other hother => hwalked.grows other (hreadied.grows other hother)
      frame := fun other hother hlabels _ => hframe other hother hlabels
      parent_data := Document.data?_congr hparent
      parent_link := Document.parent?_congr hparent
      children := ?_
      shapes := ?_
      parents := ?_
      origin := ?_
      filtered := ?_ }
  · intro earlier later hlist
    rw [Document.children_congr hparent, hlist]
    rfl
  · intro tree htree
    rw [List.mem_singleton.1 htree]
    exact .node (hwalked.grows id (hreadied.grows id hid)) hchildren hwalked.parents
      hwalked.shapes
  · intro tree htree
    rw [List.mem_singleton.1 htree, Rose.label_node, hwalked.parent_link, hreadied.link]
    exact hforest.parents _ (List.mem_singleton.2 rfl)
  · intro other hother
    rw [List.flatMap_singleton, Rose.labels, List.mem_cons] at hother ⊢
    rcases hother with rfl | hother
    · exact .inl (.inl rfl)
    · cases hwalked.origin other hother with
      | inl hbranches =>
        cases hreadied.origin other hbranches with
        | inl hbelow => exact .inl (.inr hbelow)
        | inr hnew => exact .inr hnew
      | inr hnew =>
        refine .inr ?_
        rw [Bool.eq_false_iff] at hnew ⊢
        exact fun hold => hnew (hreadied.grows other hold)
  · have hitem : after.item id = item := by
      rw [← hreadied.item]
      exact Document.item_congr hwalked.parent_data hwalked.marks
    rw [List.map_singleton, List.map_singleton, List.flatMap_singleton, hfiltered, Rose.map,
      hitem, hwalked.filtered]

theorem node?_below (hshape : before.HasShape (.node id below)) (data : NodeData) :
    ∀ other ∈ below.flatMap Rose.labels,
      (before.withData id data).node? other = before.node? other := by
  intro other hother
  apply Document.node?_withData
  rintro rfl
  exact hshape.root_not_mem_branches hother

/-- A node that is entered keeps its children and gets the data that are kept of it. -/
theorem readied_enter {item : Item} (hconsistent : before.Consistent)
    (hshape : before.HasShape (.node id below))
    (hfate : sanitizer.fate (before.item id) = .enter item) :
    Readied before (before.withData id item.data) id item below below := by
  have hcontains := hshape.contains_label
  have hdata := Document.data?_of_contains hcontains
  have hnodes := node?_below hshape item.data
  have hforest := hshape.hasForest hconsistent
  rw [Rose.label_node] at hcontains hdata
  refine
    { consistent := ?_
      marks := rfl
      grows := fun other hother => by rw [Document.contains_withData, hother]
      frame := fun other _ hne _ => Document.node?_withData _ hne
      link := Document.parent?_withData _
      item := ?_
      children := ?_
      forest :=
        { shapes := fun tree htree => (hforest.shapes tree htree).congr fun other hother =>
            hnodes other (List.mem_flatMap.2 ⟨tree, htree, hother⟩)
          parents := fun tree htree => by
            rw [Document.parent?_withData, hforest.parents tree htree]
          nodup := hforest.nodup
          parent_not_mem := hforest.parent_not_mem }
      origin := fun other hother => .inl hother }
  · apply hconsistent.withData
    rintro rfl
    rw [hconsistent.data?_root, Option.some.injEq] at hdata
    rcases kept_data hfate with ⟨_, rfl⟩ | ⟨name, _, _, helement, _⟩
    · exact hdata.symm
    · rw [helement] at hdata
      contradiction
  · rcases kept_data hfate with ⟨_, rfl⟩ | ⟨name, _, attributes, helement, hkept, htrust⟩
    · rw [Document.withData_self hdata]
    · obtain ⟨data, trust⟩ := item
      obtain rfl : data = .element name attributes := hkept
      rw [helement] at hdata
      rw [Document.item_of_element hdata] at htrust
      rw [Document.item_of_element (Document.data?_withData _ hcontains)]
      exact congrArg (Item.mk _) htrust.symm
  · cases hshape with
    | node _ hchildren _ _ => rw [Document.children_withData, hchildren]

/-- A style element is left with one new text below it. -/
theorem readied_restyle {item : Item} (hconsistent : before.Consistent)
    (hshape : before.HasShape (.node id below))
    (hfate : sanitizer.fate (before.item id) = .restyle item) (cleaned : String) :
    Readied before ((before.withText id cleaned).withData id item.data) id item below
      [.node before.nextId []] := by
  have hcontains := hshape.contains_label
  rw [Rose.label_node] at hcontains
  have hnew := Document.ne_nextId_of_contains hcontains
  obtain ⟨name, attributes, helement, _, _, hkept⟩ := restyled_data hfate
  generalize sanitizer.filteredAttributes (lower name) attributes = filtered at hkept
  subst hkept
  have hdata := Document.data?_of_contains hcontains
  rw [helement] at hdata
  have htrust := Document.item_of_element hdata
  rw [helement, Item.mk.injEq] at htrust
  have hroot : id ≠ Document.root := by
    rintro rfl
    rw [hconsistent.data?_root, Option.some.injEq] at hdata
    contradiction
  have hstored : (before.withText id cleaned).contains id = true :=
    (Document.contains_withText _).2 (.inr hcontains)
  have hlabels : ∀ other ∈ before.children id, other ∈ below.flatMap Rose.labels := by
    cases hshape with
    | node _ hchildren _ _ =>
      intro other hother
      rw [hchildren] at hother
      obtain ⟨tree, htree, rfl⟩ := List.mem_map.1 hother
      exact List.mem_flatMap.2 ⟨tree, htree, tree.label_mem_labels⟩
  have hid : id ∉ before.children id :=
    fun hmem => hshape.root_not_mem_branches (hlabels id hmem)
  have hmid : ((before.withText id cleaned).withData id (.element name filtered)).Consistent :=
    (hconsistent.withText cleaned hcontains).withData fun h => absurd h hroot
  have hleaf : ((before.withText id cleaned).withData id (.element name filtered)).HasShape
      (.node before.nextId []) := by
    refine .node ?_ ?_ (fun _ hbranch => absurd hbranch List.not_mem_nil)
      (fun _ hbranch => absurd hbranch List.not_mem_nil)
    · rw [Document.contains_withData, Document.contains_withText]
      exact .inl rfl
    · rw [Document.children_withData, Document.children_withText _ hcontains, if_neg hnew.symm,
        Document.children_nextId]
      rfl
  refine
    { consistent := hmid
      marks := by rw [Document.marks_withData, Document.marks_withText]
      grows := ?_
      frame := ?_
      link := ?_
      item := ?_
      children := ?_
      forest := hleaf.hasForest_singleton hmid ?_
      origin := ?_ }
  · intro other hother
    rw [Document.contains_withData, Document.contains_withText]
    exact .inr hother
  · intro other hother hne hbelow
    rw [Document.node?_withData _ hne, Document.node?_withText _ hne
      (fun hmem => hbelow (hlabels other hmem)) (Document.ne_nextId_of_contains hother)]
  · rw [Document.parent?_withData, Document.parent?_withText, if_neg hnew, if_neg hid]
  · rw [Document.item_of_element (Document.data?_withData _ hstored), Document.trust,
      Document.marks_withData, Document.marks_withText, ← Document.trust, ← htrust.2]
  · rw [Document.children_withData, Document.children_withText _ hcontains, if_pos rfl]
    rfl
  · rw [Document.parent?_withData, Rose.label_node, Document.parent?_withText, if_pos rfl]
  · intro other hother
    rw [List.flatMap_singleton, Rose.labels, List.flatMap_nil, List.mem_singleton] at hother
    rw [hother]
    exact .inr Document.contains_nextId

theorem item_newText {content : String} {data : NodeData} (hnew : id ≠ before.nextId) :
    ((before.withText id content).withData id data).item before.nextId =
      ⟨.text content, .none⟩ := by
  apply Document.item_of_text
  rw [Document.data?_congr (Document.node?_withData _ hnew.symm), Document.data?_withText,
    if_pos rfl]

/-! ## The whole walk -/

/-- How the walk over a row of trees ends: it passes all of them or stops. -/
structure Finishes (sanitizer : Sanitizer) (before : Document) (parent : NodeId)
    (forest : List (Rose NodeId)) (passes : Prop) (progress : Progress) : Prop where
  ends : progress.stop ≠ some .endless
  stop_eq_none_iff : progress.stop = none ↔ passes
  walked : progress.stop = none →
    ∃ kept, sanitizer.Walked before progress.document parent forest kept

theorem Finishes.of_stop {passes : Prop} {stop : Stop} (hends : stop ≠ .endless)
    (hpasses : ¬ passes) : sanitizer.Finishes before parent forest passes ⟨after, some stop⟩ where
  ends hstop := hends (Option.some.inj hstop)
  stop_eq_none_iff := by simp [hpasses]
  walked hstop := by simp at hstop

theorem Finishes.of_walked {passes : Prop}
    (hwalked : sanitizer.Walked before after parent forest kept) (hpasses : passes) :
    sanitizer.Finishes before parent forest passes ⟨after, none⟩ where
  ends := by simp
  stop_eq_none_iff := by simp [hpasses]
  walked _ := ⟨kept, hwalked⟩

theorem visitEach_cons_value {levels : Nat} (ids : List NodeId) :
    (visitEach (sanitizer.visit levels) (id :: ids) before).value =
      (afterwards (sanitizer.visit levels before id).value
        (visitEach (sanitizer.visit levels) ids)).value := rfl

/-- A row is walked to its end if every tree of it is. -/
theorem visitEach_finishes {levels : Nat} (hconsistent : before.Consistent)
    (hforest : before.HasForest parent forest)
    (hvisit : ∀ tree ∈ forest, ∀ document : Document, document.Consistent →
      document.HasForest parent [tree] → tree.map document.item = tree.map before.item →
      sanitizer.Finishes document parent [tree] (sanitizer.Passes levels (tree.map document.item))
        (sanitizer.visit levels document tree.label).value) :
    sanitizer.Finishes before parent forest
      (∀ tree ∈ forest, sanitizer.Passes levels (tree.map before.item))
      (visitEach (sanitizer.visit levels) (forest.map Rose.label) before).value := by
  induction forest generalizing before with
  | nil => exact .of_walked (.nil hconsistent) (fun _ htree => absurd htree List.not_mem_nil)
  | cons tree rest ih =>
    have hcontains := hforest.contains_parent hconsistent List.mem_cons_self
    have hfirst := hvisit tree List.mem_cons_self before hconsistent
      ((hforest.shapes tree List.mem_cons_self).hasForest_singleton hconsistent
        (hforest.parents tree List.mem_cons_self)) rfl
    rw [List.map_cons, visitEach_cons_value]
    generalize (sanitizer.visit levels before tree.label).value = progress at hfirst ⊢
    obtain ⟨mid, _ | stop⟩ := progress
    · obtain ⟨first, hwalked⟩ := hfirst.walked rfl
      have hnodes := Walked.node?_rest hforest hwalked
      have hitems : ∀ other ∈ rest, other.map mid.item = other.map before.item := by
        intro other hother
        apply Rose.map_congr
        intro id hid
        exact Document.item_congr (Document.data?_congr
          (hnodes id (List.mem_flatMap.2 ⟨other, hother, hid⟩))) hwalked.marks
      have hrest : mid.HasForest parent rest :=
        { shapes := fun other hother =>
            (hforest.shapes other (List.mem_cons_of_mem _ hother)).congr fun id hid =>
              hnodes id (List.mem_flatMap.2 ⟨other, hother, hid⟩)
          parents := fun other hother => by
            rw [Document.parent?_congr (hnodes _ (List.mem_flatMap.2
              ⟨other, hother, other.label_mem_labels⟩))]
            exact hforest.parents other (List.mem_cons_of_mem _ hother)
          nodup := (List.nodup_append.1 (List.flatMap_cons ▸ hforest.nodup)).2.1
          parent_not_mem := fun hmem => hforest.parent_not_mem
            (List.flatMap_cons ▸ List.mem_append_right _ hmem) }
      have hlater := ih hwalked.consistent hrest fun other hother document hdocument hsingle hmap =>
        hvisit other (List.mem_cons_of_mem _ hother) document hdocument hsingle
          (hmap.trans (hitems other hother))
      have hpasses : sanitizer.Passes levels (tree.map before.item) :=
        hfirst.stop_eq_none_iff.1 rfl
      rw [afterwards_none]
      refine ⟨hlater.ends, ?_, ?_⟩
      · rw [hlater.stop_eq_none_iff, List.forall_mem_cons]
        constructor
        · intro hall
          refine ⟨hpasses, fun other hother => ?_⟩
          rw [← hitems other hother]
          exact hall other hother
        · rintro ⟨_, hall⟩ other hother
          rw [hitems other hother]
          exact hall other hother
      · intro hstop
        obtain ⟨later, hwalked'⟩ := hlater.walked hstop
        exact ⟨first ++ later, hwalked.cons hforest hcontains hwalked'⟩
    · refine .of_stop (fun hstop => hfirst.ends (congrArg some hstop)) ?_
      intro hall
      have hstop := hfirst.stop_eq_none_iff.2 (hall tree List.mem_cons_self)
      contradiction

/-- The visit of a node finishes as the visits below it do. -/
theorem Readied.finishes {item : Item} {passes passesBelow : Prop} {progress : Progress}
    (hreadied : Readied before mid id item below branches)
    (hforest : before.HasForest parent [.node id below])
    (hcontains : before.contains parent = true)
    (hbelow : sanitizer.Finishes mid id branches passesBelow progress)
    (hpasses : passes ↔ passesBelow)
    (hfiltered : sanitizer.filterTree ((Rose.node id below).map before.item) =
      [.node item ((branches.map (Rose.map mid.item)).flatMap sanitizer.filterTree)]) :
    sanitizer.Finishes before parent [.node id below] passes progress where
  ends := hbelow.ends
  stop_eq_none_iff := hbelow.stop_eq_none_iff.trans hpasses.symm
  walked hstop := by
    obtain ⟨kept, hwalked⟩ := hbelow.walked hstop
    exact ⟨[.node id kept], hreadied.wrap hforest hcontains hwalked hfiltered⟩

theorem filterTree_textLeaf {content : String} :
    sanitizer.filterTree (.node ⟨.text content, .none⟩ []) = [textLeaf content] := by
  rw [filterTree]
  rfl

theorem passes_textLeaf {levels : Nat} {content : String} :
    sanitizer.Passes levels (.node ⟨.text content, .none⟩ []) ↔ 0 < levels := by
  cases levels with
  | zero => simp [Passes]
  | succ levels => simp [Passes, fate]

theorem finishes_keep {levels : Nat} (hconsistent : before.Consistent)
    (hforest : before.HasForest parent [tree])
    (hfate : sanitizer.fate (before.item tree.label) = .keep) :
    sanitizer.Finishes before parent [tree] (sanitizer.Passes levels (tree.map before.item))
      (sanitizer.visit levels before tree.label).value := by
  cases tree with
  | node id below =>
    rw [Rose.label_node] at hfate ⊢
    cases levels with
    | zero => exact .of_stop (by simp) (by simp [Passes])
    | succ levels =>
      have hcontains : before.contains id = true :=
        (hforest.shapes _ (List.mem_singleton.2 rfl)).contains_label
      rw [visit_value hcontains, hfate, Rose.map, Passes, hfate]
      exact .of_walked (.keep hconsistent hforest hfate) trivial

theorem finishes_drop {levels : Nat} (hconsistent : before.Consistent)
    (hforest : before.HasForest parent [tree])
    (hfate : sanitizer.fate (before.item tree.label) = .drop) :
    sanitizer.Finishes before parent [tree] (sanitizer.Passes (levels + 1) (tree.map before.item))
      (sanitizer.visit (levels + 1) before tree.label).value := by
  have hcontains := (hforest.shapes tree (List.mem_singleton.2 rfl)).contains_label
  have hremove : before.remove tree.label = .ok (before.detached tree.label parent) :=
    Document.remove_eq_ok_iff.2 ⟨parent, hforest.parents tree (List.mem_singleton.2 rfl),
      hforest.contains_parent hconsistent (List.mem_singleton.2 rfl), rfl⟩
  have hwalked := Walked.drop hconsistent hforest hfate
  rw [visit_value hcontains, hfate, outcome, hremove]
  cases tree with
  | node id below =>
    rw [Rose.label_node] at hfate
    rw [Rose.map, Passes, hfate]
    exact .of_walked hwalked trivial

/-- A node that is entered is walked like the row of its children. -/
theorem finishes_enter {levels : Nat} {item : Item} (hconsistent : before.Consistent)
    (hforest : before.HasForest parent [.node id below])
    (hfate : sanitizer.fate (before.item id) = .enter item)
    (hvisit : ∀ tree ∈ below, ∀ document : Document, document.Consistent →
      document.HasForest id [tree] →
      sanitizer.Finishes document id [tree] (sanitizer.Passes levels (tree.map document.item))
        (sanitizer.visit levels document tree.label).value) :
    sanitizer.Finishes before parent [.node id below]
      (sanitizer.Passes (levels + 1) ((Rose.node id below).map before.item))
      (sanitizer.visit (levels + 1) before id).value := by
  have hshape := hforest.shapes _ (List.mem_singleton.2 rfl)
  have hcontains : before.contains id = true := hshape.contains_label
  have hreadied := readied_enter hconsistent hshape hfate
  have hitems := Walked.map_item_congr hreadied.marks (node?_below hshape item.data)
  have hbelow : sanitizer.Finishes (before.withData id item.data) id below _
      (visitEach (sanitizer.visit levels) (below.map Rose.label) _).value :=
    visitEach_finishes hreadied.consistent hreadied.forest
      fun tree htree document hdocument hsingle _ => hvisit tree htree document hdocument hsingle
  have hchildren : before.children id = below.map Rose.label := by
    rw [← hreadied.children, Document.children_withData]
  rw [visit_value hcontains, hfate, outcome, hchildren]
  refine hreadied.finishes hforest
    (hforest.contains_parent hconsistent (List.mem_singleton.2 rfl)) hbelow ?_ ?_
  · rw [Rose.map, Passes, hfate, ← hitems, List.forall_mem_map]
  · rw [Rose.map, filterTree, hfate, hitems]

/-- The new text of a style element stays, if the walk may go as deep as that. -/
theorem finishes_newText {levels : Nat} {new : NodeId} {cleaned : String}
    (hconsistent : mid.Consistent) (hforest : mid.HasForest id [.node new []])
    (hitem : mid.item new = ⟨.text cleaned, .none⟩) :
    sanitizer.Finishes mid id [.node new []] (0 < levels)
      (visitEach (sanitizer.visit levels) [new] mid).value := by
  have hfinishes : sanitizer.Finishes mid id [.node new []]
      (∀ tree ∈ [Rose.node new []], sanitizer.Passes levels (tree.map mid.item))
      (visitEach (sanitizer.visit levels) [new] mid).value := by
    refine visitEach_finishes hconsistent hforest ?_
    intro tree htree document hdocument hsingle hsame
    obtain rfl := List.mem_singleton.1 htree
    rw [Rose.map, Rose.map, List.map_nil, hitem, Rose.node.injEq] at hsame
    apply finishes_keep hdocument hsingle
    rw [Rose.label_node, hsame.1]
    rfl
  rw [List.forall_mem_singleton, Rose.map, hitem, List.map_nil, passes_textLeaf] at hfinishes
  exact hfinishes

/-- A style element gets its sanitized text, or the walk stops. -/
theorem finishes_restyle {levels : Nat} {item : Item} (hconsistent : before.Consistent)
    (hforest : before.HasForest parent [.node id below])
    (hfate : sanitizer.fate (before.item id) = .restyle item) :
    sanitizer.Finishes before parent [.node id below]
      (sanitizer.Passes (levels + 1) ((Rose.node id below).map before.item))
      (sanitizer.visit (levels + 1) before id).value := by
  have hshape := hforest.shapes _ (List.mem_singleton.2 rfl)
  have hcontains : before.contains id = true := hshape.contains_label
  have htext := hshape.text? (hshape.nodup_labels hconsistent)
  have hpasses : sanitizer.Passes (levels + 1) ((Rose.node id below).map before.item) ↔
      0 < levels ∧ sanitizer.Cleans ((Rose.node id below).map before.item).text := by
    rw [Rose.map, Passes, hfate]
  rw [Rose.label_node] at htext
  rw [visit_value hcontains, hfate, outcome, htext, hpasses]
  dsimp only
  cases houtcome : sanitizer.styleOutcome ((Rose.node id below).map before.item).text with
  | clean cleaned =>
    have hreadied := readied_restyle hconsistent hshape hfate cleaned
    have hitem : ((before.withText id cleaned).withData id item.data).item before.nextId =
        ⟨.text cleaned, .none⟩ :=
      item_newText (Document.ne_nextId_of_contains hcontains)
    refine hreadied.finishes hforest
      (hforest.contains_parent hconsistent (List.mem_singleton.2 rfl))
      (finishes_newText hreadied.consistent hreadied.forest hitem) ?_ ?_
    · exact and_iff_left ⟨cleaned, houtcome⟩
    · rw [Rose.map] at houtcome ⊢
      rw [filterTree, hfate, cleanedText, houtcome, List.map_singleton,
        List.flatMap_singleton, Rose.map, hitem, List.map_nil, filterTree_textLeaf]
  | rejected reason =>
    refine .of_stop (by simp) ?_
    rintro ⟨_, cleaned, hclean⟩
    rw [houtcome] at hclean
    contradiction
  | crashed =>
    refine .of_stop (by simp) ?_
    rintro ⟨_, cleaned, hclean⟩
    rw [houtcome] at hclean
    contradiction

/-- A visit below a parent computes the filter or stops. -/
theorem visit_finishes {levels : Nat} (hconsistent : before.Consistent)
    (hforest : before.HasForest parent [tree]) :
    sanitizer.Finishes before parent [tree] (sanitizer.Passes levels (tree.map before.item))
      (sanitizer.visit levels before tree.label).value := by
  induction tree generalizing before parent levels with
  | node id below ih =>
    cases levels with
    | zero => exact .of_stop (by simp) (by simp [Passes])
    | succ levels =>
      cases hfate : sanitizer.fate (before.item id) with
      | keep => exact finishes_keep hconsistent hforest hfate
      | drop => exact finishes_drop hconsistent hforest hfate
      | enter item =>
        apply finishes_enter hconsistent hforest hfate
        intro tree htree document hdocument hsingle
        exact ih tree htree hdocument hsingle
      | restyle item => exact finishes_restyle hconsistent hforest hfate

end Sanitizer

end GadgetGuard
