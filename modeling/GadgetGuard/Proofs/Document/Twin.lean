import GadgetGuard.Proofs.Document.Session
/-!
# Deep copies are twins

A deep copy of a node that is not below itself consists of new nodes only.  Each of them is the
twin of one node below the original: it holds the same, has the same mark and its children are the
twins of the children, in order.  Nothing else changes, so both are written alike.
-/

namespace GadgetGuard.Document

variable {document before after : Document} {id other : NodeId} {shape : Rose NodeId}

theorem item_of_held (hheld : after.held other = before.held id) :
    after.item other = before.item id := by
  obtain ⟨hdata, htrust⟩ := Prod.mk.inj hheld
  rw [item, item, exemption, exemption, isElement, isElement, tagName?, tagName?, hdata, htrust]

/-- The children of a twin are the twins of the children. -/
theorem HasShape.children_twin {twin : NodeId → NodeId} (hshape : document.HasShape shape)
    (htwins : after.HasShape (shape.map twin)) :
    ∀ source ∈ shape.labels,
      after.children (twin source) = (document.children source).map twin := by
  induction shape with
  | node root branches ih =>
    rw [Rose.map] at htwins
    cases hshape with
    | node _ hchildren _ hbranches =>
      cases htwins with
      | node _ hchildren' _ hbranches' =>
        intro source hsource
        rcases Rose.mem_labels_node.1 hsource with rfl | hbelow
        · rw [hchildren, hchildren', List.map_map, List.map_map]
          exact List.map_congr_left fun branch _ => branch.label_map twin
        · obtain ⟨branch, hbranch, hsource⟩ := List.mem_flatMap.1 hbelow
          exact ih branch hbranch (hbranches branch hbranch)
            (hbranches' _ (List.mem_map_of_mem hbranch)) source hsource

/-- The deep copy of a node that is not below itself ends.  The copy is detached and consists of
new nodes.  What is below it are the twins of what is below the node, one for each: a twin holds the
same and has the same mark, and its children are the twins of the children in order.  Every node
that was there before holds the same, has the same mark and hangs in the same place, and the copy is
written like the node. -/
theorem clone_is_faithful (hreachable : document.Reachable)
    (hcontains : document.contains id = true) (hacyclic : ¬ document.IsBelow id id) :
    ∃ after copy, ∃ twin : NodeId → NodeId,
      (document.clone id true).run = some (.ok (after, copy)) ∧
      twin id = copy ∧ after.parent? copy = none ∧
      (∀ node, after.IsWithin copy node ↔
        ∃ source, document.IsWithin id source ∧ twin source = node) ∧
      (∀ source other, document.IsWithin id source → document.IsWithin id other →
        twin source = twin other → source = other) ∧
      (∀ source, document.IsWithin id source →
        document.contains (twin source) = false ∧ after.contains (twin source) = true ∧
        after.data? (twin source) = document.data? source ∧
        after.children (twin source) = (document.children source).map twin ∧
        after.trust (twin source) = document.trust source) ∧
      (∀ node, document.contains node = true →
        after.node? node = document.node? node ∧ after.trust node = document.trust node) ∧
      ∃ html, document.nodeHtml? id = some html ∧ after.nodeHtml? copy = some html ∧
        after.nodeHtml? id = some html := by
  obtain ⟨after, shape, copies, rfl, hdeep, hclone, hcopy⟩ :=
    clone_isCopy hreachable.consistent hcontains fun (_ : true = true) => hacyclic
  have hshape := hdeep rfl
  have hnodup := hshape.nodup_labels hreachable.consistent
  obtain ⟨twin, rfl⟩ := Rose.exists_eq_map hcopy.alike hnodup
  have hstored := hshape.contains_labels
  have htwins := hcopy.hasShape
  have hlabels := Rose.labels_map twin shape
  have hheld : ∀ source ∈ shape.labels, after.held (twin source) = document.held source := by
    have halike := hcopy.alike
    rw [Rose.map_map] at halike
    exact Rose.eq_of_map_eq halike
  have hmem : ∀ {source}, source ∈ shape.labels → twin source ∈ (shape.map twin).labels :=
    fun hsource => hlabels ▸ List.mem_map_of_mem hsource
  have hdistinct := htwins.nodup_labels hcopy.consistent
  refine ⟨after, _, twin, hclone, (shape.label_map twin).symm, hcopy.parent?, ?_, ?_, ?_, ?_, ?_⟩
  · intro node
    rw [← htwins.mem_labels_iff, hlabels, List.mem_map]
    simp only [hshape.mem_labels_iff]
  · intro source other hsource hother htwin
    rw [hlabels] at hdistinct
    exact List.inj_on_of_nodup_map hdistinct (hshape.mem_labels_iff.2 hsource)
      (hshape.mem_labels_iff.2 hother) htwin
  · intro source hsource
    have hsource := hshape.mem_labels_iff.2 hsource
    obtain ⟨hdata, htrust⟩ := Prod.mk.inj (hheld source hsource)
    exact ⟨hcopy.fresh _ (hmem hsource), htwins.contains_labels _ (hmem hsource), hdata,
      hshape.children_twin htwins source hsource, htrust⟩
  · intro node hnode
    exact hcopy.kept node (hcopy.not_mem hnode)
  · have hsame : after.HasShape shape := hshape.congr fun id hid => hcopy.node? (hstored id hid)
    have hitems : (shape.map twin).map after.item = shape.map document.item := by
      rw [Rose.map_map]
      exact Rose.map_congr fun source hsource => item_of_held (hheld source hsource)
    have hitems' : shape.map after.item = shape.map document.item :=
      Rose.map_congr fun source hsource => item_of_held (hcopy.held (hstored source hsource))
    refine ⟨_, hshape.nodeHtml? hnodup, ?_, ?_⟩
    · rw [htwins.nodeHtml? hdistinct, hitems]
    · rw [hsame.nodeHtml? hnodup, hitems']

/-- A trusted element in a paragraph, whose mark was passed on to the next number as well. -/
def marksAhead : List Operation :=
  [.createElement "p" [], .createElement "b" [], .append ⟨1⟩ ⟨2⟩, .bypass ⟨2⟩ true,
    .propagateTrust ⟨2⟩ ⟨3⟩]

theorem clone_is_faithful_marked_ahead :
    ∃ document, run empty marksAhead = some document ∧ document.contains ⟨1⟩ = true ∧
      ¬ document.IsBelow ⟨1⟩ ⟨1⟩ ∧ document.trust ⟨3⟩ = .all ∧
      ∃ after, (document.clone ⟨1⟩ true).run = some (.ok (after, ⟨3⟩)) ∧
        after.trust ⟨3⟩ = .none ∧ after.nodeHtml? ⟨3⟩ = some "<p><b></b></p>" := by
  have hcopies : Throughout Operation.CopiesTree empty marksAhead :=
    ⟨trivial, fun _ _ => ⟨trivial, fun _ _ => ⟨trivial, fun _ _ => ⟨trivial, fun _ _ =>
      ⟨trivial, fun _ _ => trivial⟩⟩⟩⟩⟩
  obtain ⟨document, hrun, hreachable⟩ := exists_run .empty hcopies
  refine ⟨document, hrun, ?_⟩
  obtain rfl := Option.some.inj hrun
  have hacyclic : ¬ IsBelow _ ⟨1⟩ ⟨1⟩ := not_isBelow_of_parent? hreachable.consistent rfl
  obtain ⟨after, copy, twin, hclone, rfl, _, _, _, htwins, _, html, hhtml, hcopy, _⟩ :=
    clone_is_faithful hreachable rfl hacyclic
  have hnumber : twin ⟨1⟩ = ⟨3⟩ := congrArg Prod.snd (Except.ok.inj (Option.some.inj hclone)).symm
  have hwritten : html = "<p><b></b></p>" := Option.some.inj (hhtml.symm.trans (by decide +kernel))
  refine ⟨rfl, hacyclic, rfl, after, hnumber ▸ hclone, ?_, ?_⟩
  · exact hnumber ▸ (htwins ⟨1⟩ .refl).2.2.2.2
  · rw [← hnumber, hcopy, hwritten]

end GadgetGuard.Document
