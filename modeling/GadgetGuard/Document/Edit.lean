import GadgetGuard.Document.Basic
/-!
# Editing documents

Nodes are created detached and put in place afterwards. An edit that fails names the node
at fault. Copying a node copies its mark of trust as well.
-/

namespace GadgetGuard

open GadgetGuard.Text

namespace Document

/-- Adds a detached node. -/
def create (document : Document) (data : NodeData) : Document × NodeId :=
  ({ document with nodes := document.nodes.push ⟨data, none, []⟩ }, ⟨document.nodes.size⟩)

/-- An element with its attribute names in lower case. -/
def elementData (name : String) (attributes : List (String × String)) : NodeData :=
  .element name (attributes.map fun (name, value) => ⟨lower name, value⟩)

/-- Changes one node; a number that was not given out changes nothing. -/
def modify (document : Document) (id : NodeId) (change : Node → Node) : Document :=
  { document with nodes := document.nodes.modify id.index change }

def setParent (document : Document) (id : NodeId) (parent : Option NodeId) : Document :=
  document.modify id fun node => { node with parent }

/-- Takes a node, and with it everything below, away from its parent. -/
def remove (document : Document) (id : NodeId) : Except DocumentError Document :=
  match document.node? id with
  | none => .error (.unknownNode id)
  | some node =>
    match node.parent with
    | none => .error (.detached id)
    | some parent =>
      if document.contains parent then
        .ok ((document.modify parent fun node =>
          { node with children := node.children.filter (· != id) }).setParent id none)
      else .error (.unknownNode parent)

/-- Makes a node the last child of another one. It leaves its former parent first. -/
def append (document : Document) (parent child : NodeId) : Except DocumentError Document :=
  if !document.contains parent then .error (.unknownNode parent)
  else if !document.contains child then .error (.unknownNode child)
  else do
    let freed ← if (document.parent? child).isSome then document.remove child else pure document
    return (freed.setParent child (some parent)).modify parent fun node =>
      { node with children := node.children ++ [child] }

/-- Changes the attributes of an element. -/
def modifyAttributes (document : Document) (id : NodeId)
    (change : List Attribute → List Attribute) : Except DocumentError Document :=
  match document.data? id with
  | none => .error (.unknownNode id)
  | some (.element name attributes) =>
    .ok (document.modify id fun node => { node with data := .element name (change attributes) })
  | some _ => .error (.notAnElement id)

/-- Replaces the value of the first attribute of that name, or adds one at the end. -/
def setIn (name value : String) : List Attribute → List Attribute
  | [] => [⟨name, value⟩]
  | a :: attributes =>
    if a.name = name then ⟨a.name, value⟩ :: attributes else a :: setIn name value attributes

def setAttribute (document : Document) (id : NodeId) (name value : String) :
    Except DocumentError Document :=
  document.modifyAttributes id (setIn (lower name) value)

/-- Removes every attribute of that name, and tells whether there was one. -/
def removeAttribute (document : Document) (id : NodeId) (name : String) :
    Except DocumentError (Document × Bool) := do
  let isNamed (a : Attribute) := equalIgnoringCase a.name name
  let changed ← document.modifyAttributes id (·.filter (! isNamed ·))
  return (changed, (document.attributes id).any isNamed)

/-- Takes all children of a node away and puts one text in their place. -/
def setText (document : Document) (id : NodeId) (content : String) :
    Except DocumentError Document :=
  if !document.contains id then .error (.unknownNode id)
  else
    let emptied := document.modify id fun node => { node with children := [] }
    let freed := (document.children id).foldl (fun d child => d.setParent child none) emptied
    let (extended, text) := freed.create (.text content)
    extended.append id text

/-- Sets or, with `Trust.none`, takes away the mark of a node. -/
def mark (document : Document) (id : NodeId) (trust : Trust) : Document :=
  let others := document.marks.filter (·.1 != id)
  { document with marks := if trust = .none then others else (id, trust) :: others }

/-- Exempts an element from sanitizing, alone or with everything below it. -/
def bypass (document : Document) (id : NodeId) (includingChildren : Bool) :
    Except DocumentError Document :=
  if document.isElement id then
    .ok (document.mark id (if includingChildren then .all else .self))
  else .error (.notAnElement id)

/-- Gives one node the mark of another. -/
def propagateTrust (document : Document) (source target : NodeId) : Document :=
  document.mark target (document.trust source)

/-- Copies a node without its children. -/
def cloneAlone (document : Document) (id : NodeId) : Except DocumentError (Document × NodeId) :=
  match document.data? id with
  | none => .error (.unknownNode id)
  | some data =>
    let (extended, copy) := document.create data
    .ok (extended.propagateTrust id copy, copy)

/-- Copies a node with everything below it, to the given depth. -/
def cloneWithin : Nat → Document → NodeId → ExceptT DocumentError Option (Document × NodeId)
  | 0, _, _ => ExceptT.mk none
  | depth + 1, document, id => do
    let (start, copy) ← ExceptT.mk (some (document.cloneAlone id))
    let finished ← (start.children id).foldlM (fun current child => do
      let (extended, childCopy) ← cloneWithin depth current child
      ExceptT.mk (some (extended.append copy childCopy))) start
    return (finished, copy)

/-- Copies a node, alone or with everything below it, and returns the detached copy. There
is no copy of a node that is below itself. -/
def clone (document : Document) (id : NodeId) (deep : Bool) :
    ExceptT DocumentError Option (Document × NodeId) :=
  if deep then cloneWithin (document.nodes.size + 1) document id
  else ExceptT.mk (some (document.cloneAlone id))

end Document

end GadgetGuard
