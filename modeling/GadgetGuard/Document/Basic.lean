import GadgetGuard.Text.Ascii
/-!
# Documents

A document is a store of nodes that refer to each other by number. A node taken out of the
tree stays in the store, so a number once given is valid for good. Trust in elements is kept
beside the nodes, under the same numbers.
-/

namespace GadgetGuard

open GadgetGuard.Text

/-- The place of a node in its document, counted in order of creation. The count has no bound
here; as a number of 32 bits it is the same for up to `2 ^ 32` nodes. -/
structure NodeId where
  index : Nat
  deriving DecidableEq, Repr

def NodeId.toString (id : NodeId) : String :=
  "NodeId(" ++ Nat.repr id.index ++ ")"

/-- Names are kept in lower case. -/
structure Attribute where
  name : String
  value : String
  deriving DecidableEq, Repr

inductive NodeData
  | document
  /-- The name of an element keeps its case. -/
  | element (name : String) (attributes : List Attribute)
  | text (content : String)
  | cdata (content : String)
  /-- A reference such as `&nbsp;`, by its name alone. -/
  | entity (name : String)
  | comment (content : String)
  /-- Anything else that markup can hold, as it is written. -/
  | other (markup : String)
  deriving DecidableEq, Repr

structure Node where
  data : NodeData
  parent : Option NodeId
  children : List NodeId
  deriving DecidableEq, Repr

/-- How far an element is exempt from sanitizing. -/
inductive Trust
  | none
  /-- The element itself, but not what is below it. -/
  | self
  /-- The element and everything below it. -/
  | all
  deriving DecidableEq, Repr

inductive DocumentError
  | unknownNode (id : NodeId)
  | detached (id : NodeId)
  | notAnElement (id : NodeId)
  deriving DecidableEq, Repr

def DocumentError.message : DocumentError → String
  | unknownNode id => "node " ++ id.toString ++ " does not exist in this document"
  | detached id => "node " ++ id.toString ++ " has no parent"
  | notAnElement id => "node " ++ id.toString ++ " is not an element"

structure Document where
  nodes : Array Node
  /-- The elements with a mark of trust. -/
  marks : List (NodeId × Trust)
  deriving Repr

namespace Document

def root : NodeId := ⟨0⟩

def empty : Document :=
  { nodes := #[⟨.document, none, []⟩], marks := [] }

def node? (document : Document) (id : NodeId) : Option Node :=
  document.nodes[id.index]?

def contains (document : Document) (id : NodeId) : Bool :=
  id.index < document.nodes.size

def data? (document : Document) (id : NodeId) : Option NodeData :=
  (document.node? id).map (·.data)

def parent? (document : Document) (id : NodeId) : Option NodeId :=
  (document.node? id).bind (·.parent)

def children (document : Document) (id : NodeId) : List NodeId :=
  ((document.node? id).map (·.children)).getD []

def tagName? (document : Document) (id : NodeId) : Option String :=
  match document.data? id with
  | some (.element name _) => some name
  | _ => none

def isElement (document : Document) (id : NodeId) : Bool :=
  (document.tagName? id).isSome

def attributes (document : Document) (id : NodeId) : List Attribute :=
  match document.data? id with
  | some (.element _ attributes) => attributes
  | _ => []

/-- The value of the first attribute of that name. -/
def attribute? (document : Document) (id : NodeId) (name : String) : Option String :=
  ((document.attributes id).find? (fun a => equalIgnoringCase a.name name)).map (·.value)

/-- The first element below the root. -/
def documentElement? (document : Document) : Option NodeId :=
  (document.children root).find? document.isElement

/-- An element without a mark is not trusted. -/
def trust (document : Document) (id : NodeId) : Trust :=
  (document.marks.lookup id).getD .none

end Document

end GadgetGuard
