import GadgetGuard.Document.Edit
/-!
# What an edit changes

Every edit is stated by the nodes that it leaves: the node under each number after the edit
in terms of the nodes before it.  Later modules use these equations and never look at how the
store is kept.
-/

namespace GadgetGuard.Document

open GadgetGuard.Text

variable {document before after : Document} {id other parent child : NodeId}

theorem contains_iff : document.contains id = true ↔ ∃ node, document.node? id = some node := by
  rw [contains, decide_eq_true_iff]
  constructor
  · intro hindex
    exact ⟨document.nodes[id.index], Array.getElem?_eq_getElem hindex⟩
  · rintro ⟨node, hnode⟩
    exact (Array.getElem?_eq_some_iff.1 hnode).1

theorem node?_eq_none_iff : document.node? id = none ↔ document.contains id = false := by
  simp [contains, node?]

/-- A store is known by its nodes and its marks. -/
theorem eq_of_node? (hnodes : ∀ id, after.node? id = before.node? id)
    (hmarks : after.marks = before.marks) : after = before := by
  cases before with
  | mk nodes marks =>
    cases after with
    | mk nodes' marks' =>
      rw [mk.injEq]
      refine ⟨Array.ext_getElem? ?_, hmarks⟩
      intro index
      exact hnodes ⟨index⟩

/-- Two stores with the same node under a number agree on all that is read from it. -/
theorem contains_congr (hnode : after.node? id = before.node? id) :
    after.contains id = before.contains id := by
  rw [Bool.eq_iff_iff, contains_iff, contains_iff, hnode]

theorem data?_congr (hnode : after.node? id = before.node? id) :
    after.data? id = before.data? id := by
  rw [data?, data?, hnode]

theorem parent?_congr (hnode : after.node? id = before.node? id) :
    after.parent? id = before.parent? id := by
  rw [parent?, parent?, hnode]

theorem children_congr (hnode : after.node? id = before.node? id) :
    after.children id = before.children id := by
  rw [children, children, hnode]

theorem contains_of_mem_children (hchild : child ∈ document.children id) :
    document.contains id = true := by
  cases hnode : document.node? id with
  | none => simp [children, hnode] at hchild
  | some node => exact contains_iff.2 ⟨node, hnode⟩

theorem contains_of_parent? (hparent : document.parent? child = some parent) :
    document.contains child = true := by
  cases hnode : document.node? child with
  | none => simp [parent?, hnode] at hparent
  | some node => exact contains_iff.2 ⟨node, hnode⟩

theorem contains_of_data? {data : NodeData} (hdata : document.data? id = some data) :
    document.contains id = true := by
  cases hnode : document.node? id with
  | none => simp [data?, hnode] at hdata
  | some node => exact contains_iff.2 ⟨node, hnode⟩

/-! ## Creating and changing one node -/

/-- The number that the next node will have. -/
def nextId (document : Document) : NodeId := ⟨document.nodes.size⟩

theorem contains_nextId : document.contains document.nextId = false := by
  simp [contains, nextId]

theorem parent?_nextId : document.parent? document.nextId = none := by
  rw [parent?, node?_eq_none_iff.2 contains_nextId]
  rfl

theorem children_nextId : document.children document.nextId = [] := by
  rw [children, node?_eq_none_iff.2 contains_nextId]
  rfl

theorem ne_nextId_of_contains (hcontains : document.contains id = true) :
    id ≠ document.nextId := by
  rintro rfl
  rw [contains_nextId] at hcontains
  contradiction

theorem node?_create (data : NodeData) : (document.create data).1.node? id =
    if id = document.nextId then some ⟨data, none, []⟩ else document.node? id := by
  cases id with
  | mk index => simp [create, node?, nextId, Array.getElem?_push]

@[simp]
theorem marks_create (data : NodeData) : (document.create data).1.marks = document.marks := rfl

theorem children_create (data : NodeData) :
    (document.create data).1.children id = document.children id := by
  rw [children, children, node?_create]
  by_cases hnew : id = document.nextId
  · have hmissing : document.node? document.nextId = none :=
      node?_eq_none_iff.2 contains_nextId
    rw [if_pos hnew, hnew, hmissing]
    rfl
  · rw [if_neg hnew]

theorem parent?_create (data : NodeData) :
    (document.create data).1.parent? id = document.parent? id := by
  rw [parent?, parent?, node?_create]
  by_cases hnew : id = document.nextId
  · have hmissing : document.node? document.nextId = none :=
      node?_eq_none_iff.2 contains_nextId
    rw [if_pos hnew, hnew, hmissing]
    rfl
  · rw [if_neg hnew]

theorem data?_create (data : NodeData) : (document.create data).1.data? id =
    if id = document.nextId then some data else document.data? id := by
  rw [data?, node?_create]
  by_cases hnew : id = document.nextId
  · rw [if_pos hnew, if_pos hnew]
    rfl
  · rw [if_neg hnew, if_neg hnew, data?]

theorem data?_create_of_contains (data : NodeData) (hcontains : document.contains id = true) :
    (document.create data).1.data? id = document.data? id := by
  rw [data?_create, if_neg (ne_nextId_of_contains hcontains)]

theorem contains_create (data : NodeData) : (document.create data).1.contains id = true ↔
    id = document.nextId ∨ document.contains id = true := by
  rw [contains_iff, contains_iff, node?_create]
  by_cases hnew : id = document.nextId
  · rw [if_pos hnew]
    simp [hnew]
  · rw [if_neg hnew]
    simp [hnew]

theorem node?_modify (change : Node → Node) :
    (document.modify other change).node? id =
      if id = other then (document.node? id).map change else document.node? id := by
  obtain ⟨index⟩ := id
  obtain ⟨otherIndex⟩ := other
  by_cases hindex : otherIndex = index
  · subst hindex
    simp [modify, node?, Array.getElem?_modify]
  · have hne : index ≠ otherIndex := Ne.symm hindex
    simp [modify, node?, Array.getElem?_modify, hindex, hne]

@[simp]
theorem marks_modify (change : Node → Node) :
    (document.modify id change).marks = document.marks := rfl

@[simp]
theorem contains_modify (change : Node → Node) :
    (document.modify other change).contains id = document.contains id := by
  simp [modify, contains]

theorem children_modify (change : Node → Node)
    (hchange : ∀ node, (change node).children = node.children) :
    (document.modify other change).children id = document.children id := by
  rw [children, children, node?_modify]
  by_cases hother : id = other
  · rw [if_pos hother, Option.map_map]
    congr 2
    funext node
    exact hchange node
  · rw [if_neg hother]

theorem parent?_modify (change : Node → Node)
    (hchange : ∀ node, (change node).parent = node.parent) :
    (document.modify other change).parent? id = document.parent? id := by
  rw [parent?, parent?, node?_modify]
  by_cases hother : id = other
  · rw [if_pos hother]
    cases document.node? id with
    | none => rfl
    | some node => exact hchange node
  · rw [if_neg hother]

theorem data?_modify (change : Node → Node)
    (hchange : ∀ node, (change node).data = node.data) :
    (document.modify other change).data? id = document.data? id := by
  rw [data?, data?, node?_modify]
  by_cases hother : id = other
  · rw [if_pos hother, Option.map_map]
    congr 1
    funext node
    exact hchange node
  · rw [if_neg hother]

theorem parent?_setParent (link : Option NodeId) (hcontains : document.contains other = true) :
    (document.setParent other link).parent? id =
      if id = other then link else document.parent? id := by
  obtain ⟨node, hnode⟩ := contains_iff.1 hcontains
  rw [parent?, setParent, node?_modify]
  by_cases hother : id = other
  · subst hother
    simp [hnode]
  · rw [if_neg hother, if_neg hother, parent?]

@[simp]
theorem marks_setParent (link : Option NodeId) :
    (document.setParent id link).marks = document.marks := rfl

@[simp]
theorem contains_setParent (link : Option NodeId) :
    (document.setParent other link).contains id = document.contains id :=
  contains_modify _

@[simp]
theorem children_setParent (link : Option NodeId) :
    (document.setParent other link).children id = document.children id :=
  children_modify _ fun _ => rfl

@[simp]
theorem data?_setParent (link : Option NodeId) :
    (document.setParent other link).data? id = document.data? id :=
  data?_modify _ fun _ => rfl

/-! ## Taking nodes out and putting them in -/

/-- The store after a node was taken out from under its parent. -/
def detached (document : Document) (id parent : NodeId) : Document :=
  (document.modify parent fun node =>
    { node with children := node.children.filter (· != id) }).setParent id none

theorem remove_eq_ok_iff : document.remove id = .ok after ↔
    ∃ parent, document.parent? id = some parent ∧ document.contains parent = true ∧
      after = document.detached id parent := by
  unfold remove parent?
  cases hnode : document.node? id with
  | none => simp
  | some node =>
    cases hparent : node.parent with
    | none => simp [hparent]
    | some parent =>
      by_cases hcontains : document.contains parent = true
      · simp only [hparent, Option.bind_some, Option.some.injEq, exists_eq_left', hcontains,
          if_true, true_and, Except.ok.injEq]
        exact eq_comm
      · simp [hparent, hcontains]

/-- The store after a node without a parent became the last child of another one. -/
def attached (document : Document) (parent child : NodeId) : Document :=
  (document.setParent child (some parent)).modify parent fun node =>
    { node with children := node.children ++ [child] }

theorem append_eq_ok_iff : document.append parent child = .ok after ↔
    document.contains parent = true ∧ document.contains child = true ∧
      ∃ freed, (document.parent? child = none ∧ freed = document ∨
        document.remove child = .ok freed) ∧ after = freed.attached parent child := by
  unfold append
  cases hparent : document.contains parent with
  | false => simp
  | true =>
    cases hchild : document.contains child with
    | false => simp
    | true =>
      cases hlink : document.parent? child with
      | none =>
        have hstays : ∀ freed, document.remove child ≠ .ok freed := by
          intro freed hremove
          obtain ⟨_, hparent', _⟩ := remove_eq_ok_iff.1 hremove
          rw [hlink] at hparent'
          contradiction
        simp only [hstays, or_false, true_and]
        constructor
        · intro hattach
          exact ⟨document, rfl, (Except.ok.inj hattach).symm⟩
        · rintro ⟨_, rfl, rfl⟩
          rfl
      | some former =>
        cases hremove : document.remove child with
        | error cause => simp [bind, Except.bind]
        | ok freed =>
          simp only [reduceCtorEq, false_and, false_or, true_and, Except.ok.injEq]
          constructor
          · intro hattach
            exact ⟨freed, rfl, (Except.ok.inj hattach).symm⟩
          · rintro ⟨_, rfl, rfl⟩
            rfl

theorem children_detached : (document.detached other parent).children id =
    if id = parent then (document.children id).filter (· != other)
    else document.children id := by
  rw [detached, children_setParent, children, children, node?_modify]
  by_cases hparent : id = parent
  · rw [if_pos hparent, if_pos hparent]
    cases document.node? id with
    | none => rfl
    | some node => rfl
  · rw [if_neg hparent, if_neg hparent]

theorem parent?_detached (hcontains : document.contains other = true) :
    (document.detached other parent).parent? id =
      if id = other then none else document.parent? id := by
  rw [detached, parent?_setParent none (by simpa using hcontains)]
  congr 1
  exact parent?_modify _ fun _ => rfl

@[simp]
theorem data?_detached : (document.detached other parent).data? id = document.data? id := by
  rw [detached, data?_setParent]
  exact data?_modify _ fun _ => rfl

@[simp]
theorem contains_detached :
    (document.detached other parent).contains id = document.contains id := by
  simp [detached]

theorem node?_detached (hid : id ≠ other) (hparent : id ≠ parent) :
    (document.detached other parent).node? id = document.node? id := by
  rw [detached, setParent, node?_modify, if_neg hid, node?_modify, if_neg hparent]

theorem children_attached (hcontains : document.contains parent = true) :
    (document.attached parent child).children id =
      if id = parent then document.children id ++ [child] else document.children id := by
  obtain ⟨node, hnode⟩ := contains_iff.1 hcontains
  by_cases hparent : id = parent
  · subst hparent
    by_cases hchild : id = child
    · subst hchild
      simp [attached, children, setParent, node?_modify, hnode]
    · simp [attached, children, setParent, node?_modify, hnode, hchild]
  · rw [if_neg hparent, attached, children, node?_modify, if_neg hparent, ← children,
      children_setParent]

theorem parent?_attached (hcontains : document.contains child = true) :
    (document.attached parent child).parent? id =
      if id = child then some parent else document.parent? id := by
  rw [← parent?_setParent (some parent) hcontains]
  exact parent?_modify _ fun _ => rfl

@[simp]
theorem data?_attached : (document.attached parent child).data? id = document.data? id := by
  calc
    (document.attached parent child).data? id =
        (document.setParent child (some parent)).data? id := data?_modify _ fun _ => rfl
    _ = document.data? id := data?_setParent _

/-- Moving nodes about changes no data. -/
theorem data?_of_remove (hremove : document.remove other = .ok after) :
    after.data? id = document.data? id := by
  obtain ⟨former, _, _, rfl⟩ := remove_eq_ok_iff.1 hremove
  exact data?_detached

theorem data?_of_append (happend : document.append parent child = .ok after) :
    after.data? id = document.data? id := by
  obtain ⟨_, _, freed, hfreed, rfl⟩ := append_eq_ok_iff.1 happend
  rw [data?_attached]
  rcases hfreed with ⟨_, rfl⟩ | hremove
  · rfl
  · exact data?_of_remove hremove

@[simp]
theorem contains_attached :
    (document.attached parent child).contains id = document.contains id := by
  simp [attached]

@[simp]
theorem marks_attached : (document.attached parent child).marks = document.marks := rfl

theorem node?_attached (hchild : id ≠ child) (hparent : id ≠ parent) :
    (document.attached parent child).node? id = document.node? id := by
  rw [attached, node?_modify, if_neg hparent, setParent, node?_modify, if_neg hchild]

/-! ## Replacing data and text -/

/-- The store with other data in one node. -/
def withData (document : Document) (id : NodeId) (data : NodeData) : Document :=
  document.modify id fun node => { node with data }

@[simp]
theorem children_withData (data : NodeData) :
    (document.withData other data).children id = document.children id :=
  children_modify _ fun _ => rfl

@[simp]
theorem parent?_withData (data : NodeData) :
    (document.withData other data).parent? id = document.parent? id :=
  parent?_modify _ fun _ => rfl

@[simp]
theorem contains_withData (data : NodeData) :
    (document.withData other data).contains id = document.contains id :=
  contains_modify _

@[simp]
theorem marks_withData (data : NodeData) :
    (document.withData id data).marks = document.marks := rfl

theorem node?_withData (data : NodeData) (hother : id ≠ other) :
    (document.withData other data).node? id = document.node? id := by
  rw [withData, node?_modify, if_neg hother]

theorem withData_self {data : NodeData} (hdata : document.data? id = some data) :
    document.withData id data = document := by
  refine eq_of_node? (fun other => ?_) rfl
  rw [withData, node?_modify]
  by_cases hother : other = id
  · subst hother
    obtain ⟨node, hnode, rfl⟩ := Option.map_eq_some_iff.1 hdata
    rw [if_pos rfl, hnode]
    rfl
  · rw [if_neg hother]

theorem withData_withData (data later : NodeData) :
    (document.withData id data).withData id later = document.withData id later := by
  refine eq_of_node? (fun other => ?_) rfl
  rw [withData, withData, withData, node?_modify, node?_modify, node?_modify]
  by_cases hother : other = id
  · rw [if_pos hother, if_pos hother, if_pos hother, Option.map_map]
    rfl
  · rw [if_neg hother, if_neg hother, if_neg hother]

theorem data?_withData (data : NodeData) (hcontains : document.contains id = true) :
    (document.withData id data).data? id = some data := by
  obtain ⟨node, hnode⟩ := contains_iff.1 hcontains
  rw [data?, withData, node?_modify, if_pos rfl, hnode]
  rfl

theorem modifyAttributes_eq_ok_iff (change : List Attribute → List Attribute) :
    document.modifyAttributes id change = .ok after ↔
      ∃ name attributes, document.data? id = some (.element name attributes) ∧
        after = document.withData id (.element name (change attributes)) := by
  unfold modifyAttributes
  cases hdata : document.data? id with
  | none => simp
  | some data =>
    cases data with
    | element name attributes =>
      simp only [Except.ok.injEq, Option.some.injEq, NodeData.element.injEq]
      constructor
      · rintro rfl
        exact ⟨name, attributes, ⟨rfl, rfl⟩, rfl⟩
      · rintro ⟨_, _, ⟨rfl, rfl⟩, rfl⟩
        rfl
    | _ => simp

theorem data?_of_modifyAttributes {change : List Attribute → List Attribute}
    (hother : id ≠ other) (hmodify : document.modifyAttributes other change = .ok after) :
    after.data? id = document.data? id := by
  obtain ⟨_, _, _, rfl⟩ := (modifyAttributes_eq_ok_iff change).1 hmodify
  exact data?_congr (node?_withData _ hother)

theorem modifyAttributes_of_removeAttribute {name : String} {found : Bool}
    (hremove : document.removeAttribute id name = .ok (after, found)) :
    document.modifyAttributes id (fun attributes =>
      attributes.filter fun a => !equalIgnoringCase a.name name) = .ok after := by
  rw [removeAttribute] at hremove
  cases hmodify : document.modifyAttributes id fun attributes =>
      attributes.filter fun a => !equalIgnoringCase a.name name with
  | error cause =>
    rw [hmodify] at hremove
    contradiction
  | ok changed =>
    rw [hmodify] at hremove
    exact congrArg Except.ok (congrArg Prod.fst (Except.ok.inj hremove))

theorem removeAttribute_eq_ok {name : String} {found : Bool}
    (hremove : document.removeAttribute id name = .ok (after, found)) :
    ∃ change, document.modifyAttributes id change = .ok after :=
  ⟨_, modifyAttributes_of_removeAttribute hremove⟩

/-- The store after the children of a node were all taken out. -/
def cleared (document : Document) (id : NodeId) : Document :=
  (document.children id).foldl (fun d child => d.setParent child none)
    (document.modify id fun node => { node with children := [] })

theorem node?_foldl_setParent (ids : List NodeId) :
    (ids.foldl (fun d child => d.setParent child none) document).node? id =
      if id ∈ ids then (document.node? id).map fun node => { node with parent := none }
      else document.node? id := by
  induction ids generalizing document with
  | nil => simp
  | cons first rest ih =>
    rw [List.foldl_cons, ih, setParent, node?_modify]
    by_cases hrest : id ∈ rest
    · by_cases hfirst : id = first
      · simp [hfirst, Option.map_map, Function.comp_def]
      · simp [hrest, hfirst]
    · by_cases hfirst : id = first
      · subst hfirst
        simp [hrest]
      · simp [hrest, hfirst]

theorem nextId_foldl_setParent (ids : List NodeId) :
    (ids.foldl (fun d child => d.setParent child none) document).nextId = document.nextId := by
  induction ids generalizing document with
  | nil => rfl
  | cons first rest ih =>
    rw [List.foldl_cons, ih]
    simp [setParent, modify, nextId]

theorem marks_foldl_setParent (ids : List NodeId) :
    (ids.foldl (fun d child => d.setParent child none) document).marks = document.marks := by
  induction ids generalizing document with
  | nil => rfl
  | cons first rest ih => rw [List.foldl_cons, ih, marks_setParent]

theorem node?_cleared : (document.cleared other).node? id =
    (document.node? id).map fun node =>
      { node with
        parent := if id ∈ document.children other then none else node.parent
        children := if id = other then [] else node.children } := by
  rw [cleared, node?_foldl_setParent, node?_modify]
  cases document.node? id with
  | none => simp
  | some node =>
    by_cases hother : id = other
    · by_cases hchild : id ∈ document.children other
      · simp [hother, hother ▸ hchild]
      · simp [hother, hother ▸ hchild]
    · by_cases hchild : id ∈ document.children other
      · simp [hother, hchild]
      · simp [hother, hchild]

@[simp]
theorem nextId_cleared : (document.cleared id).nextId = document.nextId := by
  rw [cleared, nextId_foldl_setParent]
  simp [modify, nextId]

@[simp]
theorem marks_cleared : (document.cleared id).marks = document.marks := by
  rw [cleared, marks_foldl_setParent, marks_modify]

@[simp]
theorem contains_cleared : (document.cleared other).contains id = document.contains id := by
  rw [Bool.eq_iff_iff, contains_iff, contains_iff, node?_cleared]
  cases document.node? id with
  | none => simp
  | some node => simp

theorem children_cleared : (document.cleared other).children id =
    if id = other then [] else document.children id := by
  rw [children, node?_cleared, Option.map_map, children]
  by_cases hother : id = other
  · rw [if_pos hother]
    cases document.node? id with
    | none => rfl
    | some node => simp [hother]
  · rw [if_neg hother]
    simp only [hother, if_false, Function.comp_def]
    rfl

theorem parent?_cleared : (document.cleared other).parent? id =
    if id ∈ document.children other then none else document.parent? id := by
  rw [parent?, node?_cleared, parent?]
  cases document.node? id with
  | none => simp
  | some node => rfl

theorem data?_cleared : (document.cleared other).data? id = document.data? id := by
  rw [data?, node?_cleared, data?, Option.map_map]
  rfl

/-- The store after one text took the place of all children of a node. -/
def withText (document : Document) (id : NodeId) (content : String) : Document :=
  ((document.cleared id).create (.text content)).1.attached id document.nextId

/-- The text of any node in the store can be replaced. -/
theorem setText_eq_ok (content : String) (hcontains : document.contains id = true) :
    document.setText id content = .ok (document.withText id content) := by
  have hnew : ((document.cleared id).create (.text content)).2 = document.nextId :=
    nextId_cleared
  have happend : ((document.cleared id).create (.text content)).1.append id document.nextId =
      .ok (document.withText id content) := by
    refine append_eq_ok_iff.2 ⟨?_, ?_, _, .inl ⟨?_, rfl⟩, rfl⟩
    · exact (contains_create _).2 (.inr (by rw [contains_cleared, hcontains]))
    · exact (contains_create _).2 (.inl nextId_cleared.symm)
    · rw [parent?_create, parent?_cleared, parent?_nextId, ite_self]
  rw [setText, hcontains, ← happend]
  exact congrArg (((document.cleared id).create (.text content)).1.append id) hnew

theorem setText_eq_ok_iff {content : String} : document.setText id content = .ok after ↔
    document.contains id = true ∧ after = document.withText id content := by
  cases hcontains : document.contains id with
  | true =>
    rw [setText_eq_ok content hcontains, Except.ok.injEq]
    exact ⟨fun hafter => ⟨rfl, hafter.symm⟩, fun hafter => hafter.2.symm⟩
  | false =>
    rw [setText, hcontains]
    simp

theorem children_withText (content : String) (hcontains : document.contains other = true) :
    (document.withText other content).children id =
      if id = other then [document.nextId] else document.children id := by
  rw [withText, children_attached ((contains_create _).2 (.inr (by simpa using hcontains))),
    children_create, children_cleared]
  by_cases hother : id = other
  · rw [if_pos hother, if_pos hother, if_pos hother, List.nil_append]
  · rw [if_neg hother, if_neg hother, if_neg hother]

theorem parent?_withText (content : String) : (document.withText other content).parent? id =
    if id = document.nextId then some other
    else if id ∈ document.children other then none else document.parent? id := by
  rw [withText, parent?_attached ((contains_create _).2 (.inl nextId_cleared.symm)),
    parent?_create, parent?_cleared]

theorem data?_withText (content : String) : (document.withText other content).data? id =
    if id = document.nextId then some (.text content) else document.data? id := by
  rw [withText, data?_attached, data?_create, nextId_cleared, data?_cleared]

theorem data?_withText_of_contains (content : String) (hcontains : document.contains id = true) :
    (document.withText other content).data? id = document.data? id := by
  rw [data?_withText, if_neg (ne_nextId_of_contains hcontains)]

theorem contains_withText (content : String) :
    (document.withText other content).contains id = true ↔
      id = document.nextId ∨ document.contains id = true := by
  rw [withText, contains_attached, contains_create, nextId_cleared, contains_cleared]

@[simp]
theorem marks_withText (content : String) :
    (document.withText id content).marks = document.marks := by
  rw [withText, marks_attached, marks_create, marks_cleared]

theorem node?_withText (content : String) (hother : id ≠ other)
    (hchild : id ∉ document.children other) (hnew : id ≠ document.nextId) :
    (document.withText other content).node? id = document.node? id := by
  rw [withText, node?_attached hnew hother, node?_create, nextId_cleared, if_neg hnew,
    node?_cleared]
  simp [hother, hchild]

/-! ## Marks and copies of single nodes -/

theorem contains_of_isElement (helement : document.isElement id = true) :
    document.contains id = true := by
  rw [isElement, tagName?] at helement
  cases hdata : document.data? id with
  | none =>
    rw [hdata] at helement
    contradiction
  | some data => exact contains_of_data? hdata

theorem lookup_filter_ne {marks : List (NodeId × Trust)} (hother : other ≠ id) :
    (marks.filter (·.1 != id)).lookup other = marks.lookup other := by
  induction marks with
  | nil => rfl
  | cons entry marks ih =>
    by_cases hentry : entry.1 = id
    · have hskip : (other == entry.1) = false := beq_eq_false_iff_ne.2 (hentry ▸ hother)
      rw [List.filter_cons_of_neg (by simp [hentry]), ih, List.lookup_cons, hskip]
    · rw [List.filter_cons_of_pos (by simp [hentry]), List.lookup_cons, List.lookup_cons, ih]

theorem trust_mark (trust : Trust) :
    (document.mark id trust).trust other = if other = id then trust else document.trust other := by
  have hunmarked : (document.marks.filter (·.1 != id)).lookup id = none := by
    rw [List.lookup_eq_none_iff]
    intro entry hentry
    have hne := (List.mem_filter.1 hentry).2
    rw [bne_comm] at hne
    simpa using hne
  rw [Document.trust, mark]
  by_cases hother : other = id
  · subst hother
    rw [if_pos rfl]
    by_cases htrust : trust = .none
    · rw [if_pos htrust, hunmarked, htrust]
      rfl
    · rw [if_neg htrust, List.lookup_cons_self]
      rfl
  · rw [if_neg hother, Document.trust]
    by_cases htrust : trust = .none
    · rw [if_pos htrust, lookup_filter_ne hother]
    · rw [if_neg htrust, List.lookup_cons, beq_eq_false_iff_ne.2 hother, lookup_filter_ne hother]

theorem bypass_eq_ok_iff {includingChildren : Bool} :
    document.bypass id includingChildren = .ok after ↔ document.isElement id = true ∧
      after = document.mark id (if includingChildren then .all else .self) := by
  cases helement : document.isElement id with
  | true =>
    rw [bypass, if_pos helement, Except.ok.injEq]
    exact ⟨fun hafter => ⟨rfl, hafter.symm⟩, fun hafter => hafter.2.symm⟩
  | false =>
    rw [bypass, helement]
    simp

theorem cloneAlone_eq_ok_iff {copy : NodeId} : document.cloneAlone id = .ok (after, copy) ↔
    ∃ data, document.data? id = some data ∧
      after = (document.create data).1.propagateTrust id document.nextId ∧
      copy = document.nextId := by
  rw [cloneAlone]
  cases hdata : document.data? id with
  | none => simp
  | some data =>
    have hnew : (document.create data).2 = document.nextId := rfl
    simp only [hnew, Except.ok.injEq, Prod.mk.injEq, Option.some.injEq, exists_eq_left']
    exact and_congr eq_comm eq_comm

theorem data?_of_cloneAlone {original copy : NodeId} (hcontains : document.contains id = true)
    (hclone : document.cloneAlone original = .ok (after, copy)) :
    after.data? id = document.data? id := by
  obtain ⟨data, _, rfl, _⟩ := cloneAlone_eq_ok_iff.1 hclone
  exact data?_create_of_contains data hcontains

end GadgetGuard.Document
