import GadgetGuard.Proofs.Document.Shape
/-!
# Reading documents through their trees

The text of a node, its HTML and the tree below it are read from the store to a depth that is
larger than the store.  For a node with a shape that depth is never reached, and what is read
is a function of the tree.
-/

namespace GadgetGuard

open GadgetGuard.Text

namespace Rose

/-- What the texts of a tree hold, one after the other. -/
def text : Rose Item → String
  | node item branches =>
    match item.data with
    | .text content | .cdata content => content
    | _ => String.join (branches.map text)

/-- A tree as HTML.  Text that stands directly in an element of raw text is not escaped. -/
def html (isRawText : Bool) : Rose Item → String
  | node item branches =>
    match item.data with
    | .document => String.join (branches.map (html false))
    | .element name attributes =>
      if Document.voidElements.contains (lower name) && branches.isEmpty then
        Document.openingTag name attributes
      else
        Document.openingTag name attributes ++
          String.join (branches.map (html (Document.rawTextElements.contains (lower name)))) ++
          Document.closingTag name
    | .text content | .cdata content =>
      if isRawText then content else Document.escapeText content
    | .entity name => Document.entityHtml name
    | .comment content => "<!--" ++ content ++ "-->"
    | .other markup => markup

end Rose

namespace Document

variable {document : Document} {id : NodeId} {shape : Rose NodeId}

theorem mapM_eq_some_map {α β γ : Type} {f : β → Option γ} {g : α → β} {h : α → γ}
    {items : List α} (hitems : ∀ item ∈ items, f (g item) = some (h item)) :
    (items.map g).mapM f = some (items.map h) := by
  induction items with
  | nil => rfl
  | cons item items ih =>
    rw [List.map_cons, List.mapM_cons, hitems item List.mem_cons_self,
      ih fun i hi => hitems i (List.mem_cons_of_mem _ hi)]
    rfl

theorem joined_eq_some_join {α : Type} {f : α → Option String} {g : α → String}
    {items : List α} (hitems : ∀ item ∈ items, f item = some (g item)) :
    joined (items.map f) = some (String.join (items.map g)) := by
  rw [joined, mapM_eq_some_map (f := id) hitems]
  rfl

theorem item_data {data : NodeData} (hdata : document.data? id = some data) :
    (document.item id).data = data := by
  rw [item, hdata, Option.getD_some]

theorem data?_of_contains (hcontains : document.contains id = true) :
    document.data? id = some (document.item id).data := by
  obtain ⟨node, hnode⟩ := contains_iff.1 hcontains
  rw [item, data?, hnode]
  rfl

namespace HasShape

theorem treeWithin (hshape : document.HasShape shape) {depth : Nat}
    (hdepth : shape.height ≤ depth) :
    document.treeWithin depth shape.label = some (shape.map document.item) := by
  induction shape generalizing depth with
  | node root branches ih =>
    cases depth with
    | zero => simp [Rose.height] at hdepth
    | succ depth =>
      cases hshape with
      | node hcontains hchildren _ hbranches =>
        have hbelow : ∀ branch ∈ branches,
            document.treeWithin depth branch.label = some (branch.map document.item) := by
          intro branch hbranch
          have hlower := Nat.lt_of_lt_of_le (Rose.height_lt_of_mem hbranch) hdepth
          exact ih branch hbranch (hbranches branch hbranch) (Nat.le_of_lt_succ hlower)
        rw [Document.treeWithin, Rose.label_node, if_pos hcontains, hchildren,
          mapM_eq_some_map hbelow, Rose.map]
        rfl

theorem tree? (hshape : document.HasShape shape) (hnodup : shape.labels.Nodup) :
    document.tree? shape.label = some (shape.map document.item) :=
  hshape.treeWithin (Nat.le_succ_of_le (hshape.height_le_size hnodup))

theorem textWithin (hshape : document.HasShape shape) {depth : Nat}
    (hdepth : shape.height ≤ depth) :
    document.textWithin depth shape.label = some (shape.map document.item).text := by
  induction shape generalizing depth with
  | node root branches ih =>
    cases depth with
    | zero => simp [Rose.height] at hdepth
    | succ depth =>
      cases hshape with
      | node hcontains hchildren _ hbranches =>
        have hbelow : ∀ branch ∈ branches, document.textWithin depth branch.label =
            some (branch.map document.item).text := by
          intro branch hbranch
          have hlower := Nat.lt_of_lt_of_le (Rose.height_lt_of_mem hbranch) hdepth
          exact ih branch hbranch (hbranches branch hbranch) (Nat.le_of_lt_succ hlower)
        have hjoined : joined ((document.children root).map (document.textWithin depth)) =
            some (String.join ((branches.map (Rose.map document.item)).map Rose.text)) := by
          rw [hchildren, List.map_map, List.map_map]
          exact joined_eq_some_join hbelow
        rw [Document.textWithin, Rose.label_node, data?_of_contains hcontains, Rose.map,
          Rose.text]
        cases (document.item root).data with
        | text content => rfl
        | cdata content => rfl
        | _ => exact hjoined

theorem text? (hshape : document.HasShape shape) (hnodup : shape.labels.Nodup) :
    document.text? shape.label = some (shape.map document.item).text :=
  hshape.textWithin (Nat.le_succ_of_le (hshape.height_le_size hnodup))

theorem htmlWithin (hshape : document.HasShape shape) {depth : Nat} (isRawText : Bool)
    (hdepth : shape.height ≤ depth) :
    document.htmlWithin depth isRawText shape.label =
      some ((shape.map document.item).html isRawText) := by
  induction shape generalizing depth isRawText with
  | node root branches ih =>
    cases depth with
    | zero => simp [Rose.height] at hdepth
    | succ depth =>
      cases hshape with
      | node hcontains hchildren _ hbranches =>
        have hbelow : ∀ isRaw, ∀ branch ∈ branches,
            document.htmlWithin depth isRaw branch.label =
              some ((branch.map document.item).html isRaw) := by
          intro isRaw branch hbranch
          have hlower := Nat.lt_of_lt_of_le (Rose.height_lt_of_mem hbranch) hdepth
          exact ih branch hbranch (hbranches branch hbranch) isRaw (Nat.le_of_lt_succ hlower)
        have hjoined : ∀ isRaw,
            joined ((document.children root).map (document.htmlWithin depth isRaw)) =
              some (String.join ((branches.map (Rose.map document.item)).map
                (Rose.html isRaw))) := by
          intro isRaw
          rw [hchildren, List.map_map, List.map_map]
          exact joined_eq_some_join (hbelow isRaw)
        have hempty : (document.children root).isEmpty =
            (branches.map (Rose.map document.item)).isEmpty := by
          rw [hchildren, List.isEmpty_map, List.isEmpty_map]
        rw [Document.htmlWithin, Rose.label_node, data?_of_contains hcontains, Rose.map,
          Rose.html]
        cases (document.item root).data with
        | document => exact hjoined false
        | element name attributes =>
          simp only [hempty, hjoined]
          split
          · rfl
          · rfl
        | _ => rfl

theorem nodeHtml? (hshape : document.HasShape shape) (hnodup : shape.labels.Nodup) :
    document.nodeHtml? shape.label = some ((shape.map document.item).html false) :=
  hshape.htmlWithin false (Nat.le_succ_of_le (hshape.height_le_size hnodup))

end HasShape

end Document

end GadgetGuard
