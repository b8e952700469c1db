import GadgetGuard.Proofs.Document.Twin
/-!
# Changes of a document step by step

The operations that change a document in place, one node after the other, so that one that fails
half way could leave what was changed until then.  None does: on a consistent document each either
checks everything before its first change or cannot fail any more after it, so it leaves what the
operation at once leaves, and the document before if that fails.
-/

namespace GadgetGuard

open GadgetGuard.Text

/-- A change of a document in place.  It leaves a document also if it fails, and nothing at all if
it does not end. -/
abbrev Edit (α : Type) : Type :=
  ExceptT DocumentError (StateT Document Option) α

namespace Edit

variable {α β : Type} {document : Document} {id : NodeId}

def perform (edit : Edit α) (document : Document) :
    Option (Except DocumentError α × Document) :=
  StateT.run (ExceptT.run edit) document

/-! ## The operations -/

def node (id : NodeId) : Edit Node := do
  match (← get).node? id with
  | some node => return node
  | none => throw (.unknownNode id)

def update (id : NodeId) (change : Node → Node) : Edit Unit := do
  let _ ← node id
  modify (·.modify id change)

def create (data : NodeData) : Edit NodeId := do
  let (extended, id) := (← get).create data
  set extended
  return id

def remove (id : NodeId) : Edit Unit := do
  match (← node id).parent with
  | none => throw (.detached id)
  | some parent =>
    update parent fun node => { node with children := node.children.filter (· != id) }
    update id fun node => { node with parent := none }

def append (parent child : NodeId) : Edit Unit := do
  let _ ← node parent
  if (← node child).parent.isSome then remove child
  update child fun node => { node with parent := some parent }
  update parent fun node => { node with children := node.children ++ [child] }

/-- Changes the attributes of an element. -/
def updateAttributes (id : NodeId) (change : List Attribute → List Attribute) : Edit Unit := do
  match (← node id).data with
  | .element name attributes =>
    update id fun node => { node with data := .element name (change attributes) }
  | _ => throw (.notAnElement id)

def setText (id : NodeId) (content : String) : Edit Unit := do
  let children := (← node id).children
  update id fun node => { node with children := [] }
  forM children fun child => update child fun node => { node with parent := none }
  let text ← create (.text content)
  append id text

def cloneAlone (id : NodeId) : Edit NodeId := do
  let copy ← create (← node id).data
  modify (·.propagateTrust id copy)
  return copy

/-- Copies a node with everything below it, to the given depth. -/
def cloneWithin : Nat → NodeId → Edit NodeId
  | 0, _ => ExceptT.mk fun _ => none
  | depth + 1, id => do
    let copy ← cloneAlone id
    forM (← node id).children fun child => do append copy (← cloneWithin depth child)
    return copy

def clone (id : NodeId) (deep : Bool) : Edit NodeId := do
  if deep then cloneWithin ((← get).nodes.size + 1) id else cloneAlone id

def bypass (id : NodeId) (includingChildren : Bool) : Edit Unit := do
  if (← get).isElement id then
    modify (·.mark id (if includingChildren then .all else .self))
  else throw (.notAnElement id)

def propagateTrust (source target : NodeId) : Edit Unit :=
  modify (·.propagateTrust source target)

/-! ## Running edits -/

theorem perform_bind (edit : Edit α) (next : α → Edit β) :
    (edit >>= next).perform document =
      (edit.perform document).bind fun (outcome, after) =>
        match outcome with
        | .ok value => (next value).perform after
        | .error cause => some (.error cause, after) := by
  rw [perform, ExceptT.run_bind, StateT.run_bind]
  congr 1
  funext ⟨outcome, after⟩
  cases outcome with
  | ok value => rfl
  | error cause => rfl

theorem perform_bind_of_ok {edit : Edit α} {next : α → Edit β} {value : α} {middle : Document}
    (hfirst : edit.perform document = some (.ok value, middle)) :
    (edit >>= next).perform document = (next value).perform middle := by
  rw [perform_bind, hfirst]
  rfl

theorem perform_bind_of_error {edit : Edit α} {next : α → Edit β} {cause : DocumentError}
    {middle : Document} (hfirst : edit.perform document = some (.error cause, middle)) :
    (edit >>= next).perform document = some (.error cause, middle) := by
  rw [perform_bind, hfirst]
  rfl

theorem perform_bind_of_none {edit : Edit α} {next : α → Edit β}
    (hfirst : edit.perform document = none) : (edit >>= next).perform document = none := by
  rw [perform_bind, hfirst]
  rfl

theorem perform_node_eq : (node id).perform document = (match document.node? id with
    | some stored => pure stored
    | none => throw (.unknownNode id) : Edit Node).perform document := rfl

theorem perform_node {stored : Node} (hnode : document.node? id = some stored) :
    (node id).perform document = some (.ok stored, document) := by
  rw [perform_node_eq, hnode]
  rfl

theorem perform_node_of_missing (hmissing : document.contains id = false) :
    (node id).perform document = some (.error (.unknownNode id), document) := by
  rw [perform_node_eq, Document.node?_eq_none_iff.2 hmissing]
  rfl

theorem perform_update (change : Node → Node) (hcontains : document.contains id = true) :
    (update id change).perform document = some (.ok (), document.modify id change) := by
  obtain ⟨stored, hnode⟩ := Document.contains_iff.1 hcontains
  rw [update, perform_bind_of_ok (perform_node hnode)]
  rfl

theorem perform_create (data : NodeData) :
    (create data).perform document = some (.ok document.nextId, (document.create data).1) := rfl

theorem perform_forM_update {ids : List NodeId} (change : Node → Node)
    (hids : ∀ id ∈ ids, document.contains id = true) :
    (forM ids fun id => update id change : Edit Unit).perform document =
      some (.ok (), ids.foldl (fun d id => d.modify id change) document) := by
  induction ids generalizing document with
  | nil => rfl
  | cons first rest ih =>
    have hrest : ∀ id ∈ rest, (document.modify first change).contains id = true :=
      fun id hid => (Document.contains_modify change).trans (hids id (List.mem_cons_of_mem _ hid))
    rw [List.forM_cons, perform_bind_of_ok (perform_update change (hids first List.mem_cons_self)),
      ih hrest]
    rfl

/-! ## What the operations leave -/

/-- All or nothing: what an operation leaves is the document before if it fails. -/
def leaves (document : Document) :
    Except DocumentError Document → Except DocumentError Unit × Document
  | .ok after => (.ok (), after)
  | .error cause => (.error cause, document)

variable {parent child : NodeId}

theorem perform_remove (hconsistent : document.Consistent) :
    (remove id).perform document = some (leaves document (document.remove id)) := by
  cases hcontains : document.contains id with
  | false =>
    rw [remove, perform_bind_of_error (perform_node_of_missing hcontains), Document.remove,
      Document.node?_eq_none_iff.2 hcontains]
    rfl
  | true =>
    obtain ⟨stored, hnode⟩ := Document.contains_iff.1 hcontains
    rw [remove, perform_bind_of_ok (perform_node hnode)]
    cases hlink : stored.parent with
    | none =>
      rw [Document.remove, hnode]
      simp only [hlink]
      rfl
    | some parent =>
      have hparent : document.parent? id = some parent := by
        rw [Document.parent?, hnode]
        exact hlink
      have hstored : document.contains parent = true :=
        Document.contains_of_mem_children (hconsistent.mem_children_iff.2 hparent)
      rw [Document.remove_eq_ok_iff.2 ⟨parent, hparent, hstored, rfl⟩]
      simp only
      rw [perform_bind_of_ok (perform_update _ hstored),
        perform_update _ ((Document.contains_modify _).trans hcontains)]
      rfl

theorem perform_append (hconsistent : document.Consistent) :
    (append parent child).perform document =
      some (leaves document (document.append parent child)) := by
  cases hparent : document.contains parent with
  | false =>
    rw [append, perform_bind_of_error (perform_node_of_missing hparent), Document.append, hparent]
    rfl
  | true =>
    obtain ⟨above, habove⟩ := Document.contains_iff.1 hparent
    rw [append, perform_bind_of_ok (perform_node habove)]
    cases hchild : document.contains child with
    | false =>
      rw [perform_bind_of_error (perform_node_of_missing hchild), Document.append, hparent, hchild]
      rfl
    | true =>
      obtain ⟨stored, hnode⟩ := Document.contains_iff.1 hchild
      have hlink : document.parent? child = stored.parent := by
        rw [Document.parent?, hnode]
        rfl
      -- the two updates that put the child in place
      have hattach : ∀ freed : Document, (∀ id, freed.contains id = document.contains id) →
          (do update child fun node => { node with parent := some parent }
              update parent fun node => { node with children := node.children ++ [child] } :
            Edit Unit).perform freed = some (.ok (), freed.attached parent child) := by
        intro freed hsame
        rw [perform_bind_of_ok (perform_update _ ((hsame child).trans hchild)),
          perform_update _ ((Document.contains_modify _).trans ((hsame parent).trans hparent))]
        rfl
      rw [perform_bind_of_ok (perform_node hnode)]
      cases hformer : stored.parent with
      | none =>
        rw [hformer] at hlink
        rw [Document.append_eq_ok_iff.2 ⟨hparent, hchild, document, .inl ⟨hlink, rfl⟩, rfl⟩]
        exact hattach document fun _ => rfl
      | some former =>
        rw [hformer] at hlink
        have hstored : document.contains former = true :=
          Document.contains_of_mem_children (hconsistent.mem_children_iff.2 hlink)
        have hremove := Document.remove_eq_ok_iff.2 ⟨former, hlink, hstored, rfl⟩
        have hremoved : (remove child).perform document =
            some (.ok (), document.detached child former) := by
          rw [perform_remove hconsistent, hremove]
          rfl
        rw [Document.append_eq_ok_iff.2 ⟨hparent, hchild, _, .inr hremove, rfl⟩]
        refine (perform_bind_of_ok hremoved).trans ?_
        exact hattach _ fun _ => Document.contains_detached

theorem perform_updateAttributes (change : List Attribute → List Attribute) :
    (updateAttributes id change).perform document =
      some (leaves document (document.modifyAttributes id change)) := by
  cases hcontains : document.contains id with
  | false =>
    rw [updateAttributes, perform_bind_of_error (perform_node_of_missing hcontains),
      Document.modifyAttributes, Document.data?, Document.node?_eq_none_iff.2 hcontains]
    rfl
  | true =>
    obtain ⟨stored, hnode⟩ := Document.contains_iff.1 hcontains
    have hdata : document.data? id = some stored.data := by
      rw [Document.data?, hnode]
      rfl
    rw [updateAttributes, perform_bind_of_ok (perform_node hnode), Document.modifyAttributes, hdata]
    cases stored.data with
    | element name attributes =>
      simp only
      rw [perform_update _ hcontains]
      rfl
    | _ => rfl

theorem perform_setText (content : String) (hconsistent : document.Consistent) :
    (setText id content).perform document =
      some (leaves document (document.setText id content)) := by
  cases hcontains : document.contains id with
  | false =>
    rw [setText, perform_bind_of_error (perform_node_of_missing hcontains), Document.setText,
      hcontains]
    rfl
  | true =>
    obtain ⟨stored, hnode⟩ := Document.contains_iff.1 hcontains
    have hchildren : document.children id = stored.children := by
      rw [Document.children, hnode]
      rfl
    have hstored : ∀ child ∈ stored.children,
        (document.modify id fun node => { node with children := [] }).contains child = true := by
      intro child hchild
      rw [← hchildren] at hchild
      exact (Document.contains_modify _).trans (hconsistent.contains_child hchild)
    have hset := Document.setText_eq_ok content hcontains
    have happend : ((document.cleared id).create (.text content)).1.append id
        (document.cleared id).nextId = .ok (document.withText id content) := by
      rw [Document.setText, hcontains] at hset
      exact hset
    rw [hset, setText, perform_bind_of_ok (perform_node hnode),
      perform_bind_of_ok (perform_update _ hcontains),
      perform_bind_of_ok (perform_forM_update _ hstored), ← hchildren,
      perform_bind_of_ok (perform_create _)]
    refine (perform_append ((hconsistent.cleared id).create (.text content))).trans ?_
    exact congrArg (fun outcome => some (leaves _ outcome)) happend

theorem perform_bypass {includingChildren : Bool} :
    (bypass id includingChildren).perform document =
      some (leaves document (document.bypass id includingChildren)) := by
  have hget : (bypass id includingChildren).perform document =
      (if document.isElement id then
        modify (·.mark id (if includingChildren then .all else .self))
      else throw (.notAnElement id) : Edit Unit).perform document := rfl
  rw [hget, Document.bypass]
  cases document.isElement id with
  | true => rfl
  | false => rfl

/-! ## Copies -/

theorem perform_cloneAlone {data : NodeData} (hdata : document.data? id = some data) :
    (cloneAlone id).perform document =
      some (.ok document.nextId, (document.create data).1.propagateTrust id document.nextId) := by
  obtain ⟨stored, hnode, rfl⟩ := Option.map_eq_some_iff.1 hdata
  rw [cloneAlone, perform_bind_of_ok (perform_node hnode), perform_bind_of_ok (perform_create _)]
  rfl

/-- A copy that is made in place fares like one that is made at once: both have no end, or both
succeed and leave the same. -/
def ClonesAlike (depth : Nat) (document : Document) (id : NodeId) : Prop :=
  (Document.cloneWithin depth document id).run = none ∧
      (cloneWithin depth id).perform document = none ∨
  ∃ after copy, (Document.cloneWithin depth document id).run = some (.ok (after, copy)) ∧
    (cloneWithin depth id).perform document = some (.ok copy, after) ∧
    document.Copied after copy

/-- Copies what hangs below a child and puts the copy under another node. -/
def copyUnder (depth : Nat) (parent child : NodeId) : Edit Unit := do
  append parent (← cloneWithin depth child)

theorem perform_copyUnder {depth : Nat} {copy : NodeId} {current : Document}
    (halike : ClonesAlike depth current child) (hcopied : document.Copied current copy) :
    ((Document.copyUnder depth copy current child).run = none ∧
      (copyUnder depth copy child).perform current = none) ∨
    ∃ after, (Document.copyUnder depth copy current child).run = some (.ok after) ∧
      (copyUnder depth copy child).perform current = some (.ok (), after) ∧
      document.Copied after copy := by
  rcases halike with ⟨hnone, hnone'⟩ | ⟨extended, childCopy, hclone, hclone', hchild⟩
  · refine .inl ⟨?_, perform_bind_of_none hnone'⟩
    rw [Document.copyUnder, ExceptT.run_bind, hnone]
    rfl
  · obtain ⟨happend, hafter⟩ := hcopied.append hchild
    refine .inr ⟨_, Document.copyUnder_eq_ok hclone happend, ?_, hafter⟩
    rw [copyUnder, perform_bind_of_ok hclone', perform_append hchild.consistent, happend]
    rfl

theorem perform_forM_copyUnder {depth : Nat} {copy : NodeId} {current : Document}
    (halike : ∀ {current : Document} {child : NodeId}, current.Consistent →
      current.contains child = true → ClonesAlike depth current child)
    {children : List NodeId} (hchildren : ∀ child ∈ children, document.contains child = true)
    (hcopied : document.Copied current copy) :
    ((children.foldlM (Document.copyUnder depth copy) current).run = none ∧
      (forM children (copyUnder depth copy)).perform current = none) ∨
    ∃ after, (children.foldlM (Document.copyUnder depth copy) current).run = some (.ok after) ∧
      (forM children (copyUnder depth copy)).perform current = some (.ok (), after) ∧
      document.Copied after copy := by
  induction children generalizing current with
  | nil => exact .inr ⟨current, rfl, rfl, hcopied⟩
  | cons child children ih =>
    have hcontains := hcopied.contains_kept (hchildren child List.mem_cons_self)
    rw [List.foldlM_cons, List.forM_cons, ExceptT.run_bind]
    rcases perform_copyUnder (halike hcopied.consistent hcontains) hcopied with
      ⟨hnone, hnone'⟩ | ⟨middle, hfirst, hfirst', hmiddle⟩
    · refine .inl ⟨?_, perform_bind_of_none hnone'⟩
      rw [hnone]
      rfl
    · rw [hfirst, perform_bind_of_ok hfirst']
      exact ih (fun other hother => hchildren other (List.mem_cons_of_mem _ hother)) hmiddle

theorem clonesAlike (depth : Nat) (hconsistent : document.Consistent)
    (hcontains : document.contains id = true) : ClonesAlike depth document id := by
  induction depth generalizing document id with
  | zero => exact .inl ⟨rfl, rfl⟩
  | succ depth ih =>
    obtain ⟨start, halone, hstart⟩ := Document.cloneAlone_copied hconsistent hcontains
    obtain ⟨data, hdata, hsame, -⟩ := Document.cloneAlone_eq_ok_iff.1 halone
    have halone' : (cloneAlone id).perform document = some (.ok document.nextId, start) := by
      rw [perform_cloneAlone hdata, hsame]
    obtain ⟨stored, hnode⟩ := Document.contains_iff.1 (hstart.contains_kept hcontains)
    have hlisted : start.children id = stored.children := by
      rw [Document.children, hnode]
      rfl
    have hchildren : ∀ child ∈ stored.children, document.contains child = true := by
      intro child hchild
      rw [← hlisted, Document.children_congr (hstart.kept hcontains)] at hchild
      exact hconsistent.contains_child hchild
    rw [ClonesAlike, Document.run_cloneWithin_succ halone, hlisted, cloneWithin,
      perform_bind_of_ok halone', perform_bind_of_ok (perform_node hnode), ExceptT.run_bind]
    rcases perform_forM_copyUnder ih hchildren hstart with
      ⟨hnone, hnone'⟩ | ⟨after, hfold, hfold', hafter⟩
    · refine .inl ⟨?_, perform_bind_of_none hnone'⟩
      rw [hnone]
      rfl
    · refine .inr ⟨after, document.nextId, ?_, perform_bind_of_ok hfold', hafter⟩
      rw [hfold]
      rfl

theorem perform_clone_deep :
    (clone id true).perform document =
      (cloneWithin (document.nodes.size + 1) id).perform document := rfl

theorem perform_clone_alone :
    (clone id false).perform document = (cloneAlone id).perform document := rfl

theorem perform_clone_of_missing (deep : Bool) (hmissing : document.contains id = false) :
    (clone id deep).perform document = some (.error (.unknownNode id), document) := by
  have halone : (cloneAlone id).perform document = some (.error (.unknownNode id), document) :=
    perform_bind_of_error (perform_node_of_missing hmissing)
  cases deep with
  | false => exact halone
  | true =>
    rw [perform_clone_deep, cloneWithin]
    exact perform_bind_of_error halone

theorem perform_clone {deep : Bool} (hconsistent : document.Consistent) :
    (do let _ ← clone id deep : Edit Unit).perform document =
      ((document.clone id deep).run.map (Except.map Prod.fst)).map (leaves document) := by
  cases hcontains : document.contains id with
  | false =>
    rw [perform_bind_of_error (perform_clone_of_missing deep hcontains),
      Document.clone_of_missing hcontains]
    rfl
  | true =>
    cases deep with
    | false =>
      obtain ⟨after, halone, _⟩ := Document.cloneAlone_copied hconsistent hcontains
      obtain ⟨data, hdata, hsame, -⟩ := Document.cloneAlone_eq_ok_iff.1 halone
      have hclone : (document.clone id false).run = some (.ok (after, document.nextId)) :=
        congrArg some halone
      rw [perform_bind_of_ok (perform_clone_alone.trans (perform_cloneAlone hdata)), hclone, hsame]
      rfl
    | true =>
      have hdeep : (document.clone id true).run =
          (Document.cloneWithin (document.nodes.size + 1) document id).run := rfl
      rcases clonesAlike (document.nodes.size + 1) hconsistent hcontains with
        ⟨hnone, hnone'⟩ | ⟨after, copy, hclone, hclone', _⟩
      · rw [perform_bind_of_none (perform_clone_deep.trans hnone'), hdeep, hnone]
        rfl
      · rw [perform_bind_of_ok (perform_clone_deep.trans hclone'), hdeep, hclone]
        rfl

end Edit

end GadgetGuard
