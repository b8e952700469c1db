import Mathlib.Data.List.Nodup
import Mathlib.Data.List.Perm.Subperm
import Mathlib.Logic.Relation
import GadgetGuard.Document.Html
import GadgetGuard.Proofs.Document.Consistency
import GadgetGuard.Proofs.Document.Rose
/-!
# The tree below a node

A shape is the tree of the numbers below a node, and the tree of a node says what these
nodes hold.  Below a node of a consistent document that is not below itself hangs exactly one
shape, and no number occurs in it twice (`exists_hasShape`).  Whatever is read from a document
to a depth that covers its store is read from that shape.
-/

namespace GadgetGuard

open GadgetGuard.Text

/-- What a node holds and how far it is exempt from sanitizing. -/
structure Item where
  data : NodeData
  trust : Trust
  deriving DecidableEq, Repr

namespace Document

variable {document before after : Document} {id parent child : NodeId}
variable {shape other : Rose NodeId} {branches : List (Rose NodeId)}

/-- The mark that counts for a node.  Marks of nodes that are no elements mean nothing. -/
def exemption (document : Document) (id : NodeId) : Trust :=
  if document.isElement id then document.trust id else .none

def item (document : Document) (id : NodeId) : Item :=
  { data := (document.data? id).getD .document, trust := document.exemption id }

theorem item_of_element {name : String} {attributes : List Attribute}
    (hdata : document.data? id = some (.element name attributes)) :
    document.item id = ⟨.element name attributes, document.trust id⟩ := by
  rw [item, exemption, isElement, tagName?, hdata]
  rfl

theorem item_of_text {content : String} (hdata : document.data? id = some (.text content)) :
    document.item id = ⟨.text content, .none⟩ := by
  rw [item, exemption, isElement, tagName?, hdata]
  rfl

theorem item_congr (hdata : after.data? id = before.data? id)
    (hmarks : after.marks = before.marks) : after.item id = before.item id := by
  rw [item, item, exemption, exemption, isElement, isElement, tagName?, tagName?, trust, trust,
    hdata, hmarks]

/-- The tree below a node, to the given depth. -/
def treeWithin (document : Document) : Nat → NodeId → Option (Rose Item)
  | 0, _ => none
  | depth + 1, id =>
    if document.contains id then
      ((document.children id).mapM (treeWithin document depth)).map
        (.node (document.item id))
    else none

/-- The tree below a node.  There is none for a node that is below itself. -/
def tree? (document : Document) (id : NodeId) : Option (Rose Item) :=
  document.treeWithin (document.nodes.size + 1) id

/-- A list of different nodes is not longer than the store is large. -/
theorem length_le_size_of_nodup {ids : List NodeId} (hnodup : ids.Nodup)
    (hcontains : ∀ id ∈ ids, document.contains id = true) :
    ids.length ≤ document.nodes.size := by
  have hindices : (ids.map NodeId.index).Nodup := by
    refine hnodup.map ?_
    rintro ⟨_⟩ ⟨_⟩ rfl
    rfl
  have hbound : ids.map NodeId.index ⊆ List.range document.nodes.size := by
    intro index hindex
    obtain ⟨id, hid, rfl⟩ := List.mem_map.1 hindex
    have hstored := hcontains id hid
    rw [Document.contains, decide_eq_true_iff] at hstored
    exact List.mem_range.2 hstored
  calc
    ids.length = (ids.map NodeId.index).length := (List.length_map _).symm
    _ ≤ (List.range document.nodes.size).length := (hindices.subperm hbound).length_le
    _ = document.nodes.size := List.length_range

/-- The numbers below a node are the labels of the shape, in the order of the children, and
all links upward are in place. -/
inductive HasShape (document : Document) : Rose NodeId → Prop
  | node {id : NodeId} {branches : List (Rose NodeId)}
      (hcontains : document.contains id = true)
      (hchildren : document.children id = branches.map Rose.label)
      (hparents : ∀ branch ∈ branches, document.parent? branch.label = some id)
      (hbranches : ∀ branch ∈ branches, HasShape document branch) :
      HasShape document (.node id branches)

namespace HasShape

theorem contains_label (hshape : document.HasShape shape) :
    document.contains shape.label = true := by
  cases hshape with
  | node hcontains _ _ _ => exact hcontains

theorem contains_labels (hshape : document.HasShape shape) :
    ∀ id ∈ shape.labels, document.contains id = true := by
  induction shape with
  | node root branches ih =>
    cases hshape with
    | node hcontains _ _ hbranches =>
      intro id hid
      rcases Rose.mem_labels_node.1 hid with rfl | hbelow
      · exact hcontains
      · obtain ⟨branch, hbranch, hid⟩ := List.mem_flatMap.1 hbelow
        exact ih branch hbranch (hbranches branch hbranch) id hid

/-- A shape only depends on the nodes in it. -/
theorem congr (hshape : before.HasShape shape)
    (hnodes : ∀ id ∈ shape.labels, after.node? id = before.node? id) :
    after.HasShape shape := by
  induction shape with
  | node root branches ih =>
    cases hshape with
    | node hcontains hchildren hparents hbranches =>
      have hbelow : ∀ branch ∈ branches, ∀ id ∈ branch.labels,
          after.node? id = before.node? id := by
        intro branch hbranch id hid
        apply hnodes
        exact Rose.mem_labels_node.2 (.inr (List.mem_flatMap.2 ⟨branch, hbranch, hid⟩))
      have hroot : after.node? root = before.node? root :=
        hnodes root (Rose.mem_labels_node.2 (.inl rfl))
      refine .node ?_ ?_ ?_ ?_
      · rw [contains_congr hroot, hcontains]
      · rw [children_congr hroot, hchildren]
      · intro branch hbranch
        rw [parent?_congr (hbelow branch hbranch _ branch.label_mem_labels),
          hparents branch hbranch]
      · intro branch hbranch
        exact ih branch hbranch (hbranches branch hbranch) (hbelow branch hbranch)

/-- There is only one shape below a node. -/
theorem unique (hshape : document.HasShape shape) (hother : document.HasShape other)
    (hlabel : shape.label = other.label) : shape = other := by
  induction shape generalizing other with
  | node root branches ih =>
    cases hshape with
    | node _ hchildren _ hbranches =>
      cases hother with
      | @node otherRoot others _ hchildren' _ hbranches' =>
        obtain rfl : root = otherRoot := hlabel
        congr 1
        apply Rose.eq_of_map_label_eq (hchildren.symm.trans hchildren')
        intro left hleft right hright hlabel
        exact ih left hleft (hbranches left hleft) (hbranches' right hright) hlabel

/-- The shape below any node of a shape is part of it. -/
theorem exists_subshape (hshape : document.HasShape shape) (hid : id ∈ shape.labels) :
    ∃ sub, sub.label = id ∧ document.HasShape sub ∧ sub.height ≤ shape.height := by
  induction shape with
  | node root branches ih =>
    rcases Rose.mem_labels_node.1 hid with rfl | hbelow
    · exact ⟨_, rfl, hshape, Nat.le_refl _⟩
    · obtain ⟨branch, hbranch, hid⟩ := List.mem_flatMap.1 hbelow
      cases hshape with
      | node _ _ _ hbranches =>
        obtain ⟨sub, hlabel, hsub, hheight⟩ := ih branch hbranch (hbranches branch hbranch) hid
        exact ⟨sub, hlabel, hsub,
          Nat.le_trans hheight (Nat.le_of_lt (Rose.height_lt_of_mem hbranch))⟩

/-- No node of a shape is below itself. -/
theorem root_not_mem_branches (hshape : document.HasShape (.node id branches)) :
    id ∉ branches.flatMap Rose.labels := by
  intro hbelow
  obtain ⟨branch, hbranch, hid⟩ := List.mem_flatMap.1 hbelow
  have hlower : branch.height < (Rose.node id branches).height := Rose.height_lt_of_mem hbranch
  cases hshape with
  | node hcontains hchildren hparents hbranches =>
    obtain ⟨sub, hlabel, hsub, hheight⟩ := (hbranches branch hbranch).exists_subshape hid
    have hsame : sub = .node id branches :=
      hsub.unique (.node hcontains hchildren hparents hbranches) hlabel
    rw [hsame] at hheight
    exact absurd hlower (Nat.not_lt.2 hheight)

/-- Only the root of a shape has its parent elsewhere. -/
theorem parent_mem_labels (hshape : document.HasShape shape) (hid : id ∈ shape.labels)
    (hroot : id ≠ shape.label) : ∃ parent ∈ shape.labels, document.parent? id = some parent := by
  induction shape with
  | node root branches ih =>
    rcases Rose.mem_labels_node.1 hid with rfl | hbelow
    · contradiction
    · obtain ⟨branch, hbranch, hid⟩ := List.mem_flatMap.1 hbelow
      cases hshape with
      | node _ _ hparents hbranches =>
        by_cases hlabel : id = branch.label
        · refine ⟨root, Rose.mem_labels_node.2 (.inl rfl), ?_⟩
          rw [hlabel, hparents branch hbranch]
        · obtain ⟨parent, hparent, hlink⟩ :=
            ih branch hbranch (hbranches branch hbranch) hid hlabel
          exact ⟨parent, Rose.mem_labels_node.2
            (.inr (List.mem_flatMap.2 ⟨branch, hbranch, hparent⟩)), hlink⟩

/-- Of two shapes with a node in common one holds the root of the other. -/
theorem label_mem_labels_of_common (hshape : document.HasShape shape)
    (hother : document.HasShape other) (hid : id ∈ shape.labels) (hid' : id ∈ other.labels) :
    shape.label ∈ other.labels ∨ other.label ∈ shape.labels := by
  induction shape with
  | node root branches ih =>
    rcases Rose.mem_labels_node.1 hid with rfl | hbelow
    · exact .inl hid'
    · obtain ⟨branch, hbranch, hid⟩ := List.mem_flatMap.1 hbelow
      have hlift : ∀ x ∈ branch.labels, x ∈ (Rose.node root branches).labels := by
        intro x hx
        exact Rose.mem_labels_node.2 (.inr (List.mem_flatMap.2 ⟨branch, hbranch, hx⟩))
      cases hshape with
      | node _ _ hparents hbranches =>
        cases ih branch hbranch (hbranches branch hbranch) hid with
        | inl hroot =>
          by_cases hlabel : branch.label = other.label
          · exact .inr (hlift _ (hlabel ▸ branch.label_mem_labels))
          · obtain ⟨parent, hparent, hlink⟩ := hother.parent_mem_labels hroot hlabel
            rw [hparents branch hbranch, Option.some.injEq] at hlink
            exact .inl (hlink ▸ hparent)
        | inr hroot => exact .inr (hlift _ hroot)

/-- The children of a consistent document are listed once, so no number occurs twice. -/
theorem nodup_labels (hshape : document.HasShape shape) (hconsistent : document.Consistent) :
    shape.labels.Nodup := by
  induction shape with
  | node root branches ih =>
    have hroot := hshape.root_not_mem_branches
    cases hshape with
    | node _ hchildren hparents hbranches =>
      rw [Rose.labels, List.nodup_cons, List.nodup_flatMap]
      refine ⟨hroot, fun branch hbranch => ih branch hbranch (hbranches branch hbranch), ?_⟩
      have hnodup : (branches.map Rose.label).Nodup :=
        hchildren ▸ hconsistent.nodup_children root
      refine (List.pairwise_map.1 hnodup).imp_of_mem ?_
      intro left right hleft hright hne id hid hid'
      -- a root in a sibling's shape would bring the common parent down into that shape
      have hapart : ∀ a ∈ branches, ∀ b ∈ branches, a.label ≠ b.label →
          a.label ∉ b.labels := by
        intro a ha b hb hlabel hmem
        obtain ⟨parent, hparent, hlink⟩ := (hbranches b hb).parent_mem_labels hmem hlabel
        rw [hparents a ha, Option.some.injEq] at hlink
        exact hroot (List.mem_flatMap.2 ⟨b, hb, hlink ▸ hparent⟩)
      rcases (hbranches left hleft).label_mem_labels_of_common (hbranches right hright)
        hid hid' with hmem | hmem
      · exact hapart left hleft right hright hne hmem
      · exact hapart right hright left hleft (Ne.symm hne) hmem

/-- The node above a shape is not in it. -/
theorem parent_not_mem (hshape : document.HasShape shape) (hconsistent : document.Consistent)
    (hparent : document.parent? shape.label = some parent) : parent ∉ shape.labels := by
  intro hmem
  obtain ⟨sub, rfl, hsub, hheight⟩ := hshape.exists_subshape hmem
  have hchild := hconsistent.mem_children_iff.2 hparent
  cases hsub with
  | @node root branches _ hchildren _ hbranches =>
    rw [Rose.label_node, hchildren] at hchild
    obtain ⟨branch, hbranch, hlabel⟩ := List.mem_map.1 hchild
    have hlower : branch.height < (Rose.node root branches).height :=
      Rose.height_lt_of_mem hbranch
    rw [(hbranches branch hbranch).unique hshape hlabel] at hlower
    exact absurd hlower (Nat.not_lt.2 hheight)

/-- A shape without repetitions is not higher than the store is large. -/
theorem height_le_size (hshape : document.HasShape shape) (hnodup : shape.labels.Nodup) :
    shape.height ≤ document.nodes.size :=
  Nat.le_trans shape.height_le_length_labels
    (length_le_size_of_nodup hnodup hshape.contains_labels)

end HasShape

/-- Trees that hang side by side below one node. -/
structure HasForest (document : Document) (parent : NodeId) (forest : List (Rose NodeId)) :
    Prop where
  shapes : ∀ tree ∈ forest, document.HasShape tree
  parents : ∀ tree ∈ forest, document.parent? tree.label = some parent
  nodup : (forest.flatMap Rose.labels).Nodup
  parent_not_mem : parent ∉ forest.flatMap Rose.labels

theorem HasShape.hasForest (hshape : document.HasShape (.node id branches))
    (hconsistent : document.Consistent) : document.HasForest id branches where
  shapes := by
    cases hshape with
    | node _ _ _ hbranches => exact hbranches
  parents := by
    cases hshape with
    | node _ _ hparents _ => exact hparents
  nodup := by
    have hnodup := hshape.nodup_labels hconsistent
    rw [Rose.labels, List.nodup_cons] at hnodup
    exact hnodup.2
  parent_not_mem := hshape.root_not_mem_branches

theorem HasShape.hasForest_singleton (hshape : document.HasShape shape)
    (hconsistent : document.Consistent)
    (hparent : document.parent? shape.label = some parent) :
    document.HasForest parent [shape] where
  shapes tree htree := List.mem_singleton.1 htree ▸ hshape
  parents tree htree := List.mem_singleton.1 htree ▸ hparent
  nodup := by
    rw [List.flatMap_singleton]
    exact hshape.nodup_labels hconsistent
  parent_not_mem := by
    rw [List.flatMap_singleton]
    exact hshape.parent_not_mem hconsistent hparent

theorem HasForest.contains_labels {forest : List (Rose NodeId)}
    (hforest : document.HasForest parent forest) (hid : id ∈ forest.flatMap Rose.labels) :
    document.contains id = true := by
  obtain ⟨tree, htree, hid⟩ := List.mem_flatMap.1 hid
  exact (hforest.shapes tree htree).contains_labels id hid

theorem HasForest.contains_parent {forest : List (Rose NodeId)}
    (hforest : document.HasForest parent forest) (hconsistent : document.Consistent)
    (htree : shape ∈ forest) : document.contains parent = true :=
  contains_of_mem_children (hconsistent.mem_children_iff.2 (hforest.parents shape htree))

end Document

end GadgetGuard
