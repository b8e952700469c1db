import GadgetGuard.Proofs.Document.Name
import GadgetGuard.Proofs.Document.Session
/-!
# Attributes as a map

An element keeps its attributes in a list, in which a name may stand several times.  A look at a
name passes over case, a change compares it with the stored names as they are, and a removal takes
all of its entries.  As the stored names are in lower case, the three agree: the attributes are a
map from names in lower case to values, which starts with the first value of each name.  It is
changed by these calls alone, whatever else is done with the document in between.
-/

namespace GadgetGuard

open GadgetGuard.Text

/-! ## Calls -/

/-- A call that has to do with the attributes of one element. -/
inductive AttributeCall
  | read (name : String)
  | set (name value : String)
  | remove (name : String)
  deriving DecidableEq, Repr

inductive AttributeAnswer
  | value (value? : Option String)
  | done
  /-- Whether there was something to remove. -/
  | removed (found : Bool)
  deriving DecidableEq, Repr

namespace Document

/-- An operation that neither sets nor removes an attribute of the node. -/
def Operation.SparesAttributes (id : NodeId) : Operation → Prop
  | .setAttribute other _ _ | .removeAttribute other _ => other ≠ id
  | _ => True

/-- What is done with a document in which one element is looked at: a call on the attributes of the
element, or an operation that spares them. -/
inductive Use (element : NodeId)
  | call (call : AttributeCall)
  | operate (operation : Operation) (hspares : operation.SparesAttributes element)

/-- Whether this is anything but a deep copy, which may have no end. -/
def Use.IsShallow {element : NodeId} : Use element → Prop
  | .operate (.clone _ deep) _ => deep = false
  | _ => True

end Document

/-! ## Maps -/

/-- Values under names in lower case. -/
abbrev AttributeMap : Type :=
  Std.ExtHashMap String String

namespace AttributeMap

variable {attributes : List Attribute} {map : AttributeMap}

/-- Adds a value unless its name has one already. -/
def insertFirst (map : AttributeMap) (given : String × String) : AttributeMap :=
  map.insertIfNew (lower given.1) given.2

/-- The first value that is given for each name. -/
def ofFirst (given : List (String × String)) : AttributeMap :=
  given.foldl insertFirst ∅

/-- What a map answers to a call, and the map after the call. -/
def perform (map : AttributeMap) : AttributeCall → AttributeAnswer × AttributeMap
  | .read name => (.value map[lower name]?, map)
  | .set name value => (.done, map.insert (lower name) value)
  | .remove name => (.removed (map.contains (lower name)), map.erase (lower name))

/-- The answers of a map to the calls. -/
def answers {element : NodeId} : AttributeMap → List (Document.Use element) →
    List AttributeAnswer
  | _, [] => []
  | map, .call call :: uses => (map.perform call).1 :: (map.perform call).2.answers uses
  | map, .operate _ _ :: uses => map.answers uses

theorem getElem?_insertFirst (given : String × String) (name : String) :
    (map.insertFirst given)[lower name]? =
      map[lower name]?.or (if lower given.1 = lower name then some given.2 else none) := by
  rw [insertFirst, Std.ExtHashMap.getElem?_insertIfNew]
  by_cases hname : lower given.1 = lower name
  · by_cases hmem : lower name ∈ map
    · simp [hname, hmem]
    · simp [hname, hmem]
  · simp [hname]

/-- The attribute that a given name and value are stored as. -/
def stored (given : String × String) : Attribute :=
  ⟨lower given.1, given.2⟩

theorem getElem?_foldl_insertFirst (given : List (String × String)) (name : String) :
    (given.foldl insertFirst map)[lower name]? =
      map[lower name]?.or ((entriesOf name (given.map stored)).head?.map (·.value)) := by
  -- for any map, as what it holds already wins over what is still to come
  induction given generalizing map with
  | nil => exact Option.or_none.symm
  | cons first later ih =>
    rw [List.foldl_cons, ih, getElem?_insertFirst, Option.or_assoc, List.map_cons, entriesOf_cons]
    congr 1
    rw [stored, lower_lower]
    split
    · rfl
    · rw [Option.none_or]

/-- A list of attributes stands for a map if it is read as the map is, and keeps its names in lower
case. -/
structure Represents (attributes : List Attribute) (map : AttributeMap) : Prop where
  hasLowerNames : HasLowerNames attributes
  value_eq (name : String) : (entriesOf name attributes).head?.map (·.value) = map[lower name]?

namespace Represents

theorem ofFirst (given : List (String × String)) :
    Represents (given.map stored) (.ofFirst given) where
  hasLowerNames := Document.hasLowerNames_elementData "" (given.map stored)
    (rfl : Document.elementData "" given = _)
  value_eq name := by
    rw [AttributeMap.ofFirst, getElem?_foldl_insertFirst, Std.ExtHashMap.getElem?_empty,
      Option.none_or]

theorem setIn (hmap : Represents attributes map) (name value : String) :
    Represents (Document.setIn (lower name) value attributes) (map.insert (lower name) value) where
  hasLowerNames := hmap.hasLowerNames.setIn name value
  value_eq other := by
    rw [Std.ExtHashMap.getElem?_insert, beq_eq_decide]
    by_cases hother : lower name = lower other
    · rw [hother, entriesOf_setIn value hmap.hasLowerNames]
      simp
    · rw [entriesOf_setIn_of_ne value hother, hmap.value_eq other]
      simp [hother]

theorem remove (hmap : Represents attributes map) (name : String) :
    Represents (attributes.filter fun a => !equalIgnoringCase a.name name)
      (map.erase (lower name)) where
  hasLowerNames := hmap.hasLowerNames.filter _
  value_eq other := by
    rw [Std.ExtHashMap.getElem?_erase]
    by_cases hother : lower name = lower other
    · rw [entriesOf_filter_of_eq attributes hother]
      simp [hother]
    · rw [entriesOf_filter_of_ne attributes hother, hmap.value_eq other]
      simp [hother]

theorem any_eq (hmap : Represents attributes map) (name : String) :
    (attributes.any fun a => equalIgnoringCase a.name name) = map.contains (lower name) := by
  rw [Std.ExtHashMap.contains_eq_isSome_getElem?, ← hmap.value_eq, Option.isSome_map, entriesOf,
    List.head?_filter, List.isSome_find?]

end Represents

end AttributeMap

namespace Document

variable {document after : Document} {id : NodeId} {map : AttributeMap}

/-! ## Documents -/

/-- What a document answers to a call on the attributes of a node, and the document after the call,
which is the one before if the call fails. -/
def perform (document : Document) (id : NodeId) :
    AttributeCall → Except DocumentError AttributeAnswer × Document
  | .read name => (.ok (.value (document.attribute? id name)), document)
  | .set name value =>
    match document.setAttribute id name value with
    | .ok after => (.ok .done, after)
    | .error cause => (.error cause, document)
  | .remove name =>
    match document.removeAttribute id name with
    | .ok (after, found) => (.ok (.removed found), after)
    | .error cause => (.error cause, document)

/-- The node is an element, and its attributes stand for the map. -/
def HasAttributes (document : Document) (id : NodeId) (map : AttributeMap) : Prop :=
  ∃ tag attributes, document.data? id = some (.element tag attributes) ∧
    AttributeMap.Represents attributes map

namespace HasAttributes

theorem hasLowerNames (hattributes : document.HasAttributes id map) :
    HasLowerNames (document.attributes id) := by
  obtain ⟨tag, attributes, hdata, hmap⟩ := hattributes
  rw [Document.attributes, hdata]
  exact hmap.hasLowerNames

theorem attribute?_eq (hattributes : document.HasAttributes id map) (name : String) :
    document.attribute? id name = map[lower name]? := by
  obtain ⟨tag, attributes, hdata, hmap⟩ := hattributes
  rw [Document.attribute?_eq, Document.attributes, hdata]
  exact hmap.value_eq name

theorem setAttribute (hattributes : document.HasAttributes id map) (name value : String) :
    ∃ after, document.setAttribute id name value = .ok after ∧
      after.HasAttributes id (map.insert (lower name) value) := by
  obtain ⟨tag, attributes, hdata, hmap⟩ := hattributes
  refine ⟨_, (modifyAttributes_eq_ok_iff _).2 ⟨tag, attributes, hdata, rfl⟩, tag, _,
    data?_withData _ (contains_of_data? hdata), hmap.setIn name value⟩

theorem removeAttribute (hattributes : document.HasAttributes id map) (name : String) :
    ∃ after, document.removeAttribute id name = .ok (after, map.contains (lower name)) ∧
      after.HasAttributes id (map.erase (lower name)) := by
  obtain ⟨tag, attributes, hdata, hmap⟩ := hattributes
  have hmodify := (modifyAttributes_eq_ok_iff fun attributes =>
    attributes.filter fun a => !equalIgnoringCase a.name name).2 ⟨tag, attributes, hdata, rfl⟩
  refine ⟨_, ?_, tag, _, data?_withData _ (contains_of_data? hdata), hmap.remove name⟩
  rw [Document.removeAttribute, hmodify, Document.attributes, hdata, ← hmap.any_eq]
  rfl

/-- A call is answered as by the map, and what it leaves stands for the map after it. -/
theorem perform (hattributes : document.HasAttributes id map) (call : AttributeCall) :
    ∃ after, document.perform id call = (.ok (map.perform call).1, after) ∧
      after.HasAttributes id (map.perform call).2 := by
  cases call with
  | read name =>
    refine ⟨document, ?_, hattributes⟩
    rw [Document.perform, hattributes.attribute?_eq]
    rfl
  | set name value =>
    obtain ⟨after, hset, hafter⟩ := hattributes.setAttribute name value
    refine ⟨after, ?_, hafter⟩
    rw [Document.perform, hset]
    rfl
  | remove name =>
    obtain ⟨after, hremove, hafter⟩ := hattributes.removeAttribute name
    refine ⟨after, ?_, hafter⟩
    rw [Document.perform, hremove]
    rfl

theorem create (document : Document) (tag : String) (given : List (String × String)) :
    (document.create (elementData tag given)).1.HasAttributes document.nextId
      (.ofFirst given) :=
  ⟨tag, _, (data?_create _).trans (if_pos rfl), .ofFirst given⟩

end HasAttributes

/-! ## Other operations -/

theorem data?_of_clone {original copy : NodeId} {data : NodeData} {deep : Bool}
    (hdata : document.data? id = some data)
    (hclone : (document.clone original deep).run = some (.ok (after, copy))) :
    after.data? id = some data := by
  cases deep with
  | false =>
    exact (data?_of_cloneAlone (contains_of_data? hdata) (Option.some.inj hclone)).trans hdata
  | true =>
    refine cloneWithin_preserves (P := fun document => document.data? id = some data) ?_ ?_ hdata
      hclone
    · exact fun hbefore hcopy =>
        (data?_of_cloneAlone (contains_of_data? hbefore) hcopy).trans hbefore
    · exact fun hbefore happend => (data?_of_append happend).trans hbefore

/-- The data of a node stays as it is as long as its own attributes are spared. -/
theorem Operation.data?_of_apply {operation : Operation} {data : NodeData}
    (hspares : operation.SparesAttributes id) (hdata : document.data? id = some data)
    (happly : operation.apply document = some after) : after.data? id = some data := by
  have hcontains := contains_of_data? hdata
  refine apply_keeps (P := fun document => document.data? id = some data) hdata
    (fun {after} houtcome => ?_) happly
  cases operation with
  | createElement name attributes =>
    obtain rfl := Except.ok.inj (Option.some.inj houtcome)
    exact (data?_create_of_contains _ hcontains).trans hdata
  | createPlain other hplain =>
    obtain rfl := Except.ok.inj (Option.some.inj houtcome)
    exact (data?_create_of_contains _ hcontains).trans hdata
  | append parent child => exact (data?_of_append (Option.some.inj houtcome)).trans hdata
  | remove other => exact (data?_of_remove (Option.some.inj houtcome)).trans hdata
  | setAttribute other name value =>
    exact (data?_of_modifyAttributes hspares.symm (Option.some.inj houtcome)).trans hdata
  | removeAttribute other name =>
    obtain ⟨found, hremove⟩ := exists_of_map_fst (Option.some.inj houtcome)
    obtain ⟨change, hmodify⟩ := removeAttribute_eq_ok hremove
    exact (data?_of_modifyAttributes hspares.symm hmodify).trans hdata
  | setText other content =>
    obtain ⟨_, rfl⟩ := setText_eq_ok_iff.1 (Option.some.inj houtcome)
    exact (data?_withText_of_contains content hcontains).trans hdata
  | clone other deep =>
    obtain ⟨copy, hclone⟩ := exists_of_clone houtcome
    exact data?_of_clone hdata hclone
  | bypass other includingChildren =>
    obtain ⟨_, rfl⟩ := bypass_eq_ok_iff.1 (Option.some.inj houtcome)
    exact hdata
  | propagateTrust source target =>
    obtain rfl := Except.ok.inj (Option.some.inj houtcome)
    exact hdata

theorem HasAttributes.apply {operation : Operation} (hattributes : document.HasAttributes id map)
    (hspares : operation.SparesAttributes id) (happly : operation.apply document = some after) :
    after.HasAttributes id map := by
  obtain ⟨tag, attributes, hdata, hmap⟩ := hattributes
  exact ⟨tag, attributes, operation.data?_of_apply hspares hdata happly, hmap⟩

/-! ## Uses of an element -/

variable {element : NodeId} {uses : List (Use element)}

/-- The answers to the calls in their order and the document in the end, if every operation in
between ends. -/
def answers? : Document → List (Use element) →
    Option (List (Except DocumentError AttributeAnswer) × Document)
  | document, [] => some ([], document)
  | document, .call call :: uses => do
    let (answer, after) := document.perform element call
    let (answers, last) ← answers? after uses
    return (answer :: answers, last)
  | document, .operate operation _ :: uses => do
    let after ← operation.apply document
    answers? after uses

/-- Each call is answered as by the map and changes the attributes as it changes the map, and what
is done in between leaves them alone. -/
theorem HasAttributes.answers_eq {answers : List (Except DocumentError AttributeAnswer)}
    {last : Document} (hattributes : document.HasAttributes element map)
    (hanswers : document.answers? uses = some (answers, last)) :
    answers = (map.answers uses).map .ok ∧ ∃ final, last.HasAttributes element final := by
  -- the document and the map move on together, and stand for each other after every use
  induction uses generalizing document map answers with
  | nil =>
    obtain ⟨rfl, rfl⟩ := Prod.mk.inj (Option.some.inj hanswers)
    exact ⟨rfl, map, hattributes⟩
  | cons use uses ih =>
    cases use with
    | call call =>
      obtain ⟨after, hperform, hafter⟩ := hattributes.perform call
      rw [Document.answers?, hperform] at hanswers
      obtain ⟨⟨later, last'⟩, hlater, hjoined⟩ := Option.bind_eq_some_iff.1 hanswers
      obtain ⟨rfl, rfl⟩ := Prod.mk.inj (Option.some.inj hjoined)
      obtain ⟨rfl, hlast⟩ := ih hafter hlater
      exact ⟨rfl, hlast⟩
    | operate operation hspares =>
      rw [answers?] at hanswers
      obtain ⟨after, happly, hlater⟩ := Option.bind_eq_some_iff.1 hanswers
      exact ih (hattributes.apply hspares happly) hlater

/-- Every operation but a deep copy ends. -/
theorem Use.exists_apply {operation : Operation} {hspares : operation.SparesAttributes element}
    (hshallow : (Use.operate operation hspares).IsShallow) :
    ∃ after, operation.apply document = some after := by
  cases operation with
  | clone id deep =>
    obtain rfl : deep = false := hshallow
    exact ⟨_, rfl⟩
  | _ => exact ⟨_, rfl⟩

theorem exists_answers (hshallow : ∀ use ∈ uses, use.IsShallow) :
    ∃ answers last, document.answers? uses = some (answers, last) := by
  induction uses generalizing document with
  | nil => exact ⟨[], document, rfl⟩
  | cons use uses ih =>
    obtain ⟨hfirst, hrest⟩ := List.forall_mem_cons.1 hshallow
    cases use with
    | call call =>
      obtain ⟨answers, last, hlater⟩ : ∃ answers last,
          (document.perform element call).2.answers? uses = some (answers, last) := ih hrest
      exact ⟨(document.perform element call).1 :: answers, last,
        Option.bind_eq_some_iff.2 ⟨(answers, last), hlater, rfl⟩⟩
    | operate operation hspares =>
      obtain ⟨after, happly⟩ : ∃ after, operation.apply document = some after :=
        Use.exists_apply hfirst
      obtain ⟨answers, last, hlater⟩ : ∃ answers last,
          after.answers? uses = some (answers, last) := ih hrest
      exact ⟨answers, last, Option.bind_eq_some_iff.2 ⟨after, happly, hlater⟩⟩

theorem Reachable.perform (hreachable : document.Reachable) (call : AttributeCall) :
    (document.perform id call).2.Reachable := by
  cases call with
  | read name => exact hreachable
  | set name value =>
    rw [Document.perform]
    split
    next hset => exact hreachable.setAttribute hset
    · exact hreachable
  | remove name =>
    rw [Document.perform]
    split
    next hremove => exact hreachable.removeAttribute hremove
    · exact hreachable

theorem Reachable.of_answers {answers : List (Except DocumentError AttributeAnswer)}
    {last : Document} (hreachable : document.Reachable)
    (hanswers : document.answers? uses = some (answers, last)) : last.Reachable := by
  induction uses generalizing document answers with
  | nil =>
    obtain ⟨_, rfl⟩ := Prod.mk.inj (Option.some.inj hanswers)
    exact hreachable
  | cons use uses ih =>
    cases use with
    | call call =>
      obtain ⟨⟨later, last'⟩, hlater, hjoined⟩ := Option.bind_eq_some_iff.1 hanswers
      obtain ⟨_, rfl⟩ := Prod.mk.inj (Option.some.inj hjoined)
      exact ih (hreachable.perform call) hlater
    | operate operation hspares =>
      obtain ⟨after, happly, hlater⟩ := Option.bind_eq_some_iff.1 hanswers
      exact ih (Operation.apply_reachable hreachable happly) hlater

/-- The attributes of an element are a map from names in lower case to values, which starts with
the first value that is given for each name.  Whatever the calls on the element are, in any case,
and whatever is done with the document in between, every call succeeds and is answered as by the
map.  All stored names stay in lower case: those of the element, and those of the whole document if
it was made by operations.  Calls always end, and so does everything else but deep copies. -/
theorem attributes_answer_as_map {created : Document} {tag : String}
    {given : List (String × String)}
    (hcreate : document.create (elementData tag given) = (created, element))
    (uses : List (Use element)) :
    ((∀ use ∈ uses, use.IsShallow) →
      ∃ answers last, created.answers? uses = some (answers, last)) ∧
    ∀ answers last, created.answers? uses = some (answers, last) →
      answers = ((AttributeMap.ofFirst given).answers uses).map .ok ∧
      HasLowerNames (last.attributes element) ∧
      (document.Reachable → last.NamesInLowerCase) := by
  obtain ⟨rfl, rfl⟩ := Prod.mk.inj hcreate
  refine ⟨exists_answers, fun answers last hanswers => ?_⟩
  obtain ⟨halike, final, hfinal⟩ := (HasAttributes.create document tag given).answers_eq hanswers
  refine ⟨halike, hfinal.hasLowerNames, fun hreachable => ?_⟩
  exact ((hreachable.createElement tag given).of_answers hanswers).namesInLowerCase

/-- An element for which a name was given twice. -/
def doubled : Document :=
  (empty.create (elementData "a" [("Rel", "x"), ("REL", "y")])).1

/-- Calls with the name in different cases, and a copy that is made before the value changes. -/
def mixedCalls : List (Use ⟨1⟩) :=
  [.call (.read "rel"), .operate (.clone ⟨1⟩ false) trivial, .call (.set "rEl" "z"),
    .call (.read "REL"), .call (.remove "rel"), .call (.read "Rel"), .call (.remove "rel")]

theorem attributes_answer_as_map_repeated :
    empty.create (elementData "a" [("Rel", "x"), ("REL", "y")]) = (doubled, ⟨1⟩) ∧
      ∃ last, doubled.answers? mixedCalls =
        some ([.ok (.value (some "x")), .ok .done, .ok (.value (some "z")), .ok (.removed true),
          .ok (.value none), .ok (.removed false)], last) ∧
      HasLowerNames (last.attributes ⟨1⟩) ∧ last.NamesInLowerCase := by
  have hcreate : empty.create (elementData "a" [("Rel", "x"), ("REL", "y")]) = (doubled, ⟨1⟩) := rfl
  have hshallow : ∀ use ∈ mixedCalls, use.IsShallow := by
    simp [mixedCalls, Use.IsShallow]
  have hfolded : ∀ name ∈ ["rel", "Rel", "REL", "rEl"], lower name = "rel" := by decide +kernel
  have hmap : (AttributeMap.ofFirst [("Rel", "x"), ("REL", "y")]).answers mixedCalls =
      [.value (some "x"), .done, .value (some "z"), .removed true, .value none,
        .removed false] := by
    simp [mixedCalls, AttributeMap.answers, AttributeMap.perform, AttributeMap.ofFirst,
      AttributeMap.insertFirst, hfolded, Std.ExtHashMap.getElem_insertIfNew]
  obtain ⟨hends, halike⟩ := attributes_answer_as_map hcreate mixedCalls
  obtain ⟨answers, last, hanswers⟩ := hends hshallow
  obtain ⟨rfl, hlower, hnames⟩ := halike answers last hanswers
  rw [hmap] at hanswers
  exact ⟨hcreate, last, hanswers, hlower, hnames .empty⟩

end Document

end GadgetGuard
