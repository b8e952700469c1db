import GadgetGuard.Decimal.Binary64
/-!
# JSON values

The members of an object are kept in the order of their names, and no name occurs twice.
Values can be laid over one another: an overlay replaces what it meets, and defaults fill
what is missing.
-/

namespace GadgetGuard

open GadgetGuard.Decimal

inductive Json
  | null
  | boolean (value : Bool)
  | integer (value : Int)
  | real (value : Binary64)
  | string (value : String)
  | array (items : List Json)
  | object (members : List (String × Json))
  deriving Repr

namespace Json

abbrev Member := String × Json

mutual

def decEq : (left right : Json) → Decidable (left = right)
  | .null, .null => isTrue rfl
  | .boolean a, .boolean b => decidable_of_iff (a = b) (by simp)
  | .integer a, .integer b => decidable_of_iff (a = b) (by simp)
  | .real a, .real b => decidable_of_iff (a = b) (by simp)
  | .string a, .string b => decidable_of_iff (a = b) (by simp)
  | .array a, .array b =>
    match decEqItems a b with
    | isTrue h => isTrue (by rw [h])
    | isFalse h => isFalse (by simpa using h)
  | .object a, .object b =>
    match decEqMembers a b with
    | isTrue h => isTrue (by rw [h])
    | isFalse h => isFalse (by simpa using h)
  | .null, .boolean _ | .null, .integer _ | .null, .real _ | .null, .string _
  | .null, .array _ | .null, .object _ | .boolean _, .null | .boolean _, .integer _
  | .boolean _, .real _ | .boolean _, .string _ | .boolean _, .array _
  | .boolean _, .object _ | .integer _, .null | .integer _, .boolean _
  | .integer _, .real _ | .integer _, .string _ | .integer _, .array _
  | .integer _, .object _ | .real _, .null | .real _, .boolean _ | .real _, .integer _
  | .real _, .string _ | .real _, .array _ | .real _, .object _ | .string _, .null
  | .string _, .boolean _ | .string _, .integer _ | .string _, .real _
  | .string _, .array _ | .string _, .object _ | .array _, .null | .array _, .boolean _
  | .array _, .integer _ | .array _, .real _ | .array _, .string _ | .array _, .object _
  | .object _, .null | .object _, .boolean _ | .object _, .integer _ | .object _, .real _
  | .object _, .string _ | .object _, .array _ => isFalse (by simp)

def decEqItems : (left right : List Json) → Decidable (left = right)
  | [], [] => isTrue rfl
  | [], _ :: _ => isFalse (by simp)
  | _ :: _, [] => isFalse (by simp)
  | a :: left, b :: right =>
    match decEq a b, decEqItems left right with
    | isTrue h, isTrue hrest => isTrue (by rw [h, hrest])
    | isFalse h, _ => isFalse (by simp [h])
    | _, isFalse hrest => isFalse (by simp [hrest])

def decEqMembers : (left right : List (String × Json)) → Decidable (left = right)
  | [], [] => isTrue rfl
  | [], _ :: _ => isFalse (by simp)
  | _ :: _, [] => isFalse (by simp)
  | (name, a) :: left, (name', b) :: right =>
    match decEq a b, decEqMembers left right with
    | isTrue h, isTrue hrest =>
      decidable_of_iff (name = name') (by simp [h, hrest])
    | isFalse h, _ => isFalse (by simp [h])
    | _, isFalse hrest => isFalse (by simp [hrest])

end

instance : DecidableEq Json := decEq

def isNumber : Json → Bool
  | integer _ | real _ => true
  | _ => false

def isObject : Json → Bool
  | object _ => true
  | _ => false

/-- The members of an object; any other value has none. -/
def members : Json → List Member
  | object members => members
  | _ => []

def get? (value : Json) (name : String) : Option Json :=
  value.members.lookup name

/-- Sets a member, in the place where its name belongs. -/
def insertMember (name : String) (value : Json) : List Member → List Member
  | [] => [(name, value)]
  | m :: members =>
    if name < m.1 then (name, value) :: m :: members
    else if name = m.1 then (name, value) :: members
    else m :: insertMember name value members

/-- An object with the given members; of several values of one name the last counts. -/
def ofMembers (members : List Member) : Json :=
  object (members.foldl (fun sorted m => insertMember m.1 m.2 sorted) [])

mutual

/-- Lays one value over another. Objects merge member by member, arrays are joined, and
anything else is replaced. -/
def merge (base : Json) : Json → Json
  | object overlay =>
    match base with
    | object members => object (mergeMembers members overlay)
    | _ => object overlay
  | array overlay =>
    match base with
    | array items => array (items ++ overlay)
    | _ => array overlay
  | overlay => overlay
termination_by structural overlay => overlay

def mergeMembers (base : List Member) : List Member → List Member
  | [] => base
  | (name, value) :: overlay =>
    let merged := match base.lookup name with
      | some existing => existing.merge value
      | none => value
    mergeMembers (insertMember name merged base) overlay
termination_by structural overlay => overlay

end

mutual

/-- Adds the members that an object lacks, at every depth. -/
def withDefaults (value : Json) : Json → Json
  | object defaults =>
    match value with
    | object members => object (fillMembers members defaults)
    | _ => value
  | _ => value
termination_by structural defaults => defaults

def fillMembers (members : List Member) : List Member → List Member
  | [] => members
  | (name, default) :: defaults =>
    let filled := match members.lookup name with
      | some existing => existing.withDefaults default
      | none => default
    fillMembers (insertMember name filled members) defaults
termination_by structural defaults => defaults

end

end Json

end GadgetGuard
