import GadgetGuard.Gadget.Content
import GadgetGuard.Proofs.Gadget.Walk
/-!
# Sanitized documents

The walk starts at the root of a document, which is never taken out.  If it comes to its end,
the tree below the root is the filtered one and no node outside that tree has changed.
-/

namespace GadgetGuard

namespace Sanitizer

variable {sanitizer : Sanitizer} {document : Document}

theorem fate_root (hconsistent : document.Consistent) :
    sanitizer.fate (document.item Document.root) = .enter (document.item Document.root) := by
  rw [fate, Document.item_data hconsistent.data?_root]

/-- The walk over a document is the walk over the children of its root. -/
theorem sanitize_root_value (hconsistent : document.Consistent) :
    (sanitizer.sanitize document Document.root).value =
      (visitEach (sanitizer.visit maxDepth) (document.children Document.root)
        document).value := by
  have hdata := Document.data?_of_contains hconsistent.contains_root
  rw [sanitize, visit_value hconsistent.contains_root, fate_root hconsistent, outcome,
    Document.withData_self hdata]

theorem sanitize_root_finishes {below : List (Rose NodeId)} (hconsistent : document.Consistent)
    (hshape : document.HasShape (.node Document.root below)) :
    sanitizer.Finishes document Document.root below
      (sanitizer.Passes (maxDepth + 1) ((Rose.node Document.root below).map document.item))
      (sanitizer.sanitize document Document.root).value := by
  have hbelow : sanitizer.Finishes document Document.root below _
      (visitEach (sanitizer.visit maxDepth) (below.map Rose.label) document).value :=
    visitEach_finishes hconsistent (hshape.hasForest hconsistent)
      fun _ _ _ hother hsingle _ => visit_finishes hother hsingle
  cases hshape with
  | node _ hchildren _ _ =>
    rw [sanitize_root_value hconsistent, hchildren, Rose.map, Passes, fate_root hconsistent,
      List.forall_mem_map]
    exact hbelow

/-- A walk that comes to its end leaves a tree below the root, and that is the filtered one. -/
theorem sanitize_shape_walked {below : List (Rose NodeId)} (hconsistent : document.Consistent)
    (hshape : document.HasShape (.node Document.root below))
    (hstop : (sanitizer.sanitize document Document.root).value.stop = none) :
    ∃ kept,
      sanitizer.Walked document (sanitizer.sanitize document Document.root).value.document
        Document.root below kept ∧
      (sanitizer.sanitize document Document.root).value.document.HasShape
        (.node Document.root kept) ∧
      sanitizer.filterTree ((Rose.node Document.root below).map document.item) =
        [(Rose.node Document.root kept).map
          (sanitizer.sanitize document Document.root).value.document.item] := by
  obtain ⟨kept, hwalked⟩ := (sanitize_root_finishes hconsistent hshape).walked hstop
  generalize (sanitizer.sanitize document Document.root).value.document = after at hwalked ⊢
  have hchildren : after.children Document.root = kept.map Rose.label := by
    cases hshape with
    | node _ hchildren _ _ => simpa using hwalked.children [] [] (by simpa using hchildren)
  have hitem : after.item Document.root = document.item Document.root :=
    Document.item_congr hwalked.parent_data hwalked.marks
  refine ⟨kept, hwalked, ?_, ?_⟩
  · exact .node (hwalked.grows _ hconsistent.contains_root) hchildren hwalked.parents
      hwalked.shapes
  · rw [Rose.map, filterTree, fate_root hconsistent, Rose.map, hitem, hwalked.filtered]

theorem sanitize_root_walked (hconsistent : document.Consistent)
    (hacyclic : ¬ document.IsBelow Document.root Document.root)
    (hstop : (sanitizer.sanitize document Document.root).value.stop = none) :
    ∃ below kept, document.HasShape (.node Document.root below) ∧
      sanitizer.Walked document (sanitizer.sanitize document Document.root).value.document
        Document.root below kept ∧
      (sanitizer.sanitize document Document.root).value.document.HasShape
        (.node Document.root kept) ∧
      sanitizer.filterTree ((Rose.node Document.root below).map document.item) =
        [(Rose.node Document.root kept).map
          (sanitizer.sanitize document Document.root).value.document.item] := by
  obtain ⟨⟨root, below⟩, hroot, hshape⟩ :=
    Document.exists_hasShape hconsistent hconsistent.contains_root hacyclic
  obtain rfl : root = Document.root := hroot
  obtain ⟨kept, hwalked⟩ := sanitize_shape_walked hconsistent hshape hstop
  exact ⟨below, kept, hshape, hwalked⟩

/-- Below a root that is not below itself the walk, if it comes to its end, leaves the filtered
tree.  Marks stay as they are, and so does every node outside the tree of the root. -/
theorem sanitize_root_filters (sanitizer : Sanitizer) (document : Document)
    (hreachable : document.Reachable)
    (hacyclic : ¬ document.IsBelow Document.root Document.root)
    (hstop : (sanitizer.sanitize document Document.root).value.stop = none) :
    ∃ before after,
      document.tree? Document.root = some before ∧
      (sanitizer.sanitize document Document.root).value.document.tree? Document.root =
        some after ∧
      sanitizer.filterTree before = [after] ∧
      (sanitizer.sanitize document Document.root).value.document.marks = document.marks ∧
      ∀ id, document.contains id = true → ¬ document.IsWithin Document.root id →
        (sanitizer.sanitize document Document.root).value.document.node? id =
          document.node? id := by
  have hconsistent := hreachable.consistent
  obtain ⟨below, kept, hshape, hwalked, hshape', hfiltered⟩ :=
    sanitize_root_walked hconsistent hacyclic hstop
  refine ⟨_, _, hshape.tree? (hshape.nodup_labels hconsistent),
    hshape'.tree? (hshape'.nodup_labels hwalked.consistent), hfiltered, hwalked.marks, ?_⟩
  intro id hcontains houtside
  apply hwalked.frame id hcontains
  · intro hmem
    apply houtside
    exact hshape.isWithin id (Rose.mem_labels_node.2 (.inr hmem))
  · rintro rfl
    exact houtside .refl

end Sanitizer

/-- A page with a script and a comment beside an element in capitals. -/
def Document.draft : Document :=
  { nodes := #[⟨.document, none, [⟨1⟩, ⟨2⟩, ⟨3⟩]⟩,
      ⟨.element "DIV" [⟨"class", "a"⟩, ⟨"onclick", "b"⟩], some ⟨0⟩, []⟩,
      ⟨.comment "c", some ⟨0⟩, []⟩,
      ⟨.element "script" [], some ⟨0⟩, []⟩]
    marks := [] }

theorem Document.reachable_draft : Document.draft.Reachable := by
  have hdata : Document.elementData "DIV" [("Class", "a"), ("onclick", "b")] =
      .element "DIV" [⟨"class", "a"⟩, ⟨"onclick", "b"⟩] := by
    decide +kernel
  have helement := Document.Reachable.empty.createElement "DIV" [("Class", "a"), ("onclick", "b")]
  rw [hdata] at helement
  have hcomment : Document.Reachable _ :=
    helement.createPlain (show (NodeData.comment "c").isPlain = true from rfl)
  have hscript := hcomment.createElement "script" []
  have hfirst : Document.Reachable _ :=
    hscript.append (show Document.append _ ⟨0⟩ ⟨1⟩ = .ok _ from rfl)
  have hsecond : Document.Reachable _ :=
    hfirst.append (show Document.append _ ⟨0⟩ ⟨2⟩ = .ok _ from rfl)
  have hthird : Document.Reachable _ :=
    hsecond.append (show Document.append _ ⟨0⟩ ⟨3⟩ = .ok _ from rfl)
  exact hthird

/-- A deployment with the policy and the stylesheet sanitizer that come with it. -/
def ContentGuard.standard : ContentGuard :=
  { policy := .default, styles := Style.conservative, links := {} }

/-- A gadget whose request wants its content sanitized. -/
def Gadget.guarded : Gadget :=
  { specification :=
      { scheme := "http", authority := some ⟨"", none, some (.domain "a"), none⟩
        path := .segments [""], query := none, fragment := none }
    container := "default"
    parameters := [("sanitize", "1")] }

theorem Document.not_isBelow_root_draft : ¬ Document.draft.IsBelow Document.root Document.root :=
  Document.not_isBelow_of_parent? Document.reachable_draft.consistent rfl

theorem Gadget.parameter?_guarded : Gadget.guarded.parameter? "sanitize" = some "1" := by
  decide +kernel

theorem ContentGuard.standard_stop_draft :
    ((ContentGuard.standard.sanitizer .guarded).sanitize .draft Document.root).value.stop =
      none := by
  decide +kernel

theorem Sanitizer.sanitize_root_filters_draft :
    let sanitizer := ContentGuard.standard.sanitizer Gadget.guarded
    Document.draft.Reachable ∧ ¬ Document.draft.IsBelow Document.root Document.root ∧
      (sanitizer.sanitize Document.draft Document.root).value.stop = none ∧
      ∃ before after,
        Document.draft.tree? Document.root = some before ∧
        (sanitizer.sanitize Document.draft Document.root).value.document.tree? Document.root =
          some after ∧
        sanitizer.filterTree before = [after] := by
  intro sanitizer
  have hstop : (sanitizer.sanitize Document.draft Document.root).value.stop = none :=
    ContentGuard.standard_stop_draft
  obtain ⟨before, after, hbefore, hafter, hfiltered, _, _⟩ :=
    Sanitizer.sanitize_root_filters sanitizer Document.draft Document.reachable_draft
      Document.not_isBelow_root_draft hstop
  exact ⟨Document.reachable_draft, Document.not_isBelow_root_draft, hstop, before, after, hbefore,
    hafter, hfiltered⟩

end GadgetGuard
