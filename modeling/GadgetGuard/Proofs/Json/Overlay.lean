import Mathlib.Data.List.Sort
import GadgetGuard.Proofs.Json.Defaults
/-!
# Values laid over one another

What an object holds under a name after another one was laid over it depends only on what both
held under that name.  Nothing new comes up: texts and names of members are those of the two
values.
-/

namespace GadgetGuard.Json

/-- The items of a list; any other value has none. -/
def items : Json → List Json
  | array items => items
  | _ => []

/-- Values that hold no other values. -/
def isScalar : Json → Bool
  | array _ | object _ => false
  | _ => true

/-- What a name holds after an object was laid over another, by what both held. -/
def laidOver : Option Json → Option Json → Option Json
  | some existing, some overlay => some (existing.merge overlay)
  | some existing, none => some existing
  | none, overlay => overlay

/-- All texts in a value and all names of members in it are among the given ones. -/
inductive Within (texts names : String → Prop) : Json → Prop
  | null : Within texts names .null
  | boolean (value : Bool) : Within texts names (.boolean value)
  | integer (value : Int) : Within texts names (.integer value)
  | real (value : Decimal.Binary64) : Within texts names (.real value)
  | string {value : String} (htext : texts value) : Within texts names (.string value)
  | array {items : List Json} (hitems : ∀ item ∈ items, Within texts names item) :
      Within texts names (.array items)
  | object {members : List Member} (hnames : ∀ m ∈ members, names m.1)
      (hvalues : ∀ m ∈ members, Within texts names m.2) : Within texts names (.object members)

/-- A property that passes from lists and objects to what is in them, and back to lists of such
values and to objects that take over a member. -/
structure IsHereditary (good : Json → Prop) : Prop where
  array {elements : List Json} (helements : ∀ element ∈ elements, good element) :
    good (.array elements)
  item {elements : List Json} {element : Json} (hvalue : good (.array elements))
    (helement : element ∈ elements) : good element
  member {members : List Member} {m : Member} (hvalue : good (.object members))
    (hm : m ∈ members) : good m.2
  insert {members entries : List Member} {m : Member} {value : Json}
    (hmembers : good (.object members)) (hentries : good (.object entries)) (hm : m ∈ entries)
    (hvalue : good value) : good (.object (insertMember m.1 value members))

variable {value base overlay content : Json} {name other : String} {members entries : List Member}
variable {elements : List Json} {texts names : String → Prop}

theorem exists_of_isObject (hvalue : value.isObject = true) :
    ∃ members, value = .object members := by
  cases value with
  | object members => exact ⟨members, rfl⟩
  | _ => contradiction

/-- A statement holds of every value if it holds of scalars, and of a list or an object whenever it
holds of what is in it. -/
@[elab_as_elim]
theorem induction_on_content {motive : Json → Prop}
    (scalar : ∀ value, value.isScalar = true → motive value)
    (array : ∀ elements, (∀ element ∈ elements, motive element) → motive (.array elements))
    (object : ∀ members, (∀ m ∈ members, motive m.2) → motive (.object members)) :
    ∀ value, motive value
  | .object members => object members fun m _ => induction_on_content scalar array object m.2
  | .array elements => array elements fun element _ =>
      induction_on_content scalar array object element
  | .null => scalar _ rfl
  | .boolean _ => scalar _ rfl
  | .integer _ => scalar _ rfl
  | .real _ => scalar _ rfl
  | .string _ => scalar _ rfl
termination_by value => sizeOf value
decreasing_by
  · rename_i hmember
    have hsize := List.sizeOf_lt_of_mem hmember
    cases m
    simp at hsize ⊢
    omega
  · rename_i hmember
    have hsize := List.sizeOf_lt_of_mem hmember
    simp
    omega

/-! ## Laying one value over another -/

theorem merge_array (base : Json) (elements : List Json) :
    base.merge (.array elements) = .array (base.items ++ elements) := by
  cases base with
  | _ => rfl

theorem merge_object_of_not_object (hbase : base.isObject = false) :
    base.merge (.object entries) = .object entries := by
  cases base with
  | object members => contradiction
  | _ => rfl

theorem isObject_merge_object (base : Json) (entries : List Member) :
    (base.merge (.object entries)).isObject = true := by
  cases base with
  | _ => rfl

theorem lookup_mergeMembers (hnames : (entries.map Prod.fst).Nodup) :
    (mergeMembers members entries).lookup name =
      laidOver (members.lookup name) (entries.lookup name) := by
  induction entries generalizing members with
  | nil =>
    rw [mergeMembers]
    cases members.lookup name with
    | none => rfl
    | some existing => rfl
  | cons m entries ih =>
    obtain ⟨hfirst, hrest⟩ := List.nodup_cons.1 hnames
    rw [mergeMembers, ih hrest, lookup_insertMember, lookup_cons]
    by_cases hname : name = m.1
    · rw [if_pos hname, if_pos hname, hname, lookup_eq_none_iff.2 hfirst]
      cases members.lookup m.1 with
      | none => rfl
      | some existing => rfl
    · rw [if_neg hname, if_neg hname]

theorem get?_merge_object (hbase : base.isObject = true)
    (hnames : (entries.map Prod.fst).Nodup) (name : String) :
    (base.merge (.object entries)).get? name = laidOver (base.get? name) (entries.lookup name) := by
  obtain ⟨members, rfl⟩ := exists_of_isObject hbase
  exact lookup_mergeMembers hnames

namespace IsHereditary

variable {good : Json → Prop}

theorem mergeMembers (hgood : IsHereditary good) {whole : List Member}
    (hmembers : good (.object members)) (hwhole : good (.object whole)) (hentries : entries ⊆ whole)
    (hmerged : ∀ m ∈ entries, ∀ existing : Json, good existing → good (existing.merge m.2)) :
    good (.object (Json.mergeMembers members entries)) := by
  induction entries generalizing members with
  | nil => exact hmembers
  | cons m entries ih =>
    obtain ⟨hm, hrest⟩ := List.cons_subset.1 hentries
    obtain ⟨hover, hlater⟩ := List.forall_mem_cons.1 hmerged
    rw [Json.mergeMembers]
    refine ih (hgood.insert hmembers hwhole hm ?_) hrest hlater
    cases hlookup : members.lookup m.1 with
    | none => exact hgood.member hwhole hm
    | some existing => exact hover existing (hgood.member hmembers (mem_of_lookup hlookup))

/-- What holds of two values holds of one laid over the other. -/
theorem merge (hgood : IsHereditary good) (hbase : good base) (hoverlay : good overlay) :
    good (base.merge overlay) := by
  induction overlay using induction_on_content generalizing base with
  | scalar overlay hscalar =>
    cases overlay with
    | array | object => contradiction
    | _ => exact hoverlay
  | array elements =>
    rw [merge_array]
    refine hgood.array fun element helement => ?_
    obtain hbelow | habove := List.mem_append.1 helement
    · cases base with
      | array items => exact hgood.item hbase hbelow
      | _ => contradiction
    · exact hgood.item hoverlay habove
  | object entries ih =>
    cases base with
    | object members =>
      exact hgood.mergeMembers hbase hoverlay (List.Subset.refl _) fun m hm existing hexisting =>
        ih m hm hexisting (hgood.member hoverlay hm)
    | _ => exact hoverlay

theorem of_get? (hgood : IsHereditary good) (hvalue : good value)
    (hcontent : value.get? name = some content) : good content := by
  cases value with
  | object members => exact hgood.member hvalue (mem_of_lookup hcontent)
  | _ => contradiction

end IsHereditary

/-! ## Order -/

/-- Members that are in the order of their names are the same if they say the same of each name. -/
theorem eq_of_lookup (hmembers : (members.map Prod.fst).Pairwise (· < ·))
    (hentries : (entries.map Prod.fst).Pairwise (· < ·))
    (hsame : ∀ name, members.lookup name = entries.lookup name) : members = entries := by
  have hnodup : (members.map Prod.fst).Nodup := hmembers.imp ne_of_lt
  have hnodup' : (entries.map Prod.fst).Nodup := hentries.imp ne_of_lt
  have hmember : ∀ m : Member, m ∈ members ↔ m ∈ entries := by
    intro m
    constructor
    · intro hm
      exact mem_of_lookup ((hsame m.1).symm.trans (lookup_of_mem hnodup hm))
    · intro hm
      exact mem_of_lookup ((hsame m.1).trans (lookup_of_mem hnodup' hm))
  have hperm : members.Perm entries :=
    (List.perm_ext_iff_of_nodup (.of_map _ hnodup) (.of_map _ hnodup')).2 hmember
  refine hperm.eq_of_pairwise ?_ (List.pairwise_map.1 hmembers) (List.pairwise_map.1 hentries)
  intro a b _ _ hlt hgt
  exact absurd hgt (not_lt_of_gt hlt)

theorem IsOrdered.pairwise_names (hvalue : value.IsOrdered) :
    (value.members.map Prod.fst).Pairwise (· < ·) := by
  cases hvalue with
  | object hnames _ => exact hnames
  | _ => exact .nil

theorem pairwise_mergeMembers (hmembers : (members.map Prod.fst).Pairwise (· < ·)) :
    ((mergeMembers members entries).map Prod.fst).Pairwise (· < ·) := by
  induction entries generalizing members with
  | nil => exact hmembers
  | cons m entries ih =>
    rw [mergeMembers]
    exact ih (pairwise_insertMember hmembers)

theorem isHereditary_isOrdered : IsHereditary IsOrdered where
  array := .array
  item hvalue helement := by
    cases hvalue with
    | array hitems => exact hitems _ helement
  member hvalue hm := by
    cases hvalue with
    | object _ hvalues => exact hvalues _ hm
  insert hmembers _ _ hvalue := hmembers.insertMember hvalue

theorem IsOrdered.merge (hbase : base.IsOrdered) (hoverlay : overlay.IsOrdered) :
    (base.merge overlay).IsOrdered :=
  isHereditary_isOrdered.merge hbase hoverlay

theorem merge_nil_of_isOrdered (hvalue : (Json.object entries).IsOrdered) :
    (Json.object []).merge (.object entries) = .object entries := by
  refine congrArg Json.object (eq_of_lookup (pairwise_mergeMembers .nil) hvalue.pairwise_names ?_)
  exact fun name => lookup_mergeMembers hvalue.nodup_names

/-- A value with neither members nor items has nothing to keep when another one is laid over it. -/
theorem merge_of_empty (hmembers : base.members = []) (hitems : base.items = [])
    (hoverlay : overlay.IsOrdered) : base.merge overlay = overlay := by
  cases hoverlay with
  | object hnames hvalues =>
    cases base with
    | object members =>
      obtain rfl : members = [] := hmembers
      exact merge_nil_of_isOrdered (.object hnames hvalues)
    | _ => rfl
  | array =>
    rw [merge_array, hitems]
    rfl
  | _ => rfl

/-- To set a member before the object is laid over another one is to set it afterwards, laid over
what the other one has under that name. -/
theorem merge_insertMember (hmembers : (members.map Prod.fst).Pairwise (· < ·))
    (hentries : (entries.map Prod.fst).Pairwise (· < ·)) :
    mergeMembers members (insertMember name value entries) =
      insertMember name ((members.lookup name).elim value (·.merge value))
        (mergeMembers members entries) := by
  have hinserted : ((insertMember name value entries).map Prod.fst).Pairwise (· < ·) :=
    pairwise_insertMember hentries
  refine eq_of_lookup (pairwise_mergeMembers hmembers)
    (pairwise_insertMember (pairwise_mergeMembers hmembers)) fun other => ?_
  rw [lookup_mergeMembers (hinserted.imp ne_of_lt), lookup_insertMember, lookup_insertMember,
    lookup_mergeMembers (hentries.imp ne_of_lt)]
  split
  next heq =>
    subst heq
    cases members.lookup other with
    | none => rfl
    | some existing => rfl
  next => rfl

/-! ## Texts and names -/

namespace Within

theorem of_forall (htexts : ∀ text, texts text) (hnames : ∀ name, names name) (value : Json) :
    value.Within texts names := by
  induction value using induction_on_content with
  | scalar value hvalue =>
    cases value with
    | array | object => contradiction
    | string text => exact .string (htexts text)
    | _ => constructor
  | array elements ih => exact .array ih
  | object members ih => exact .object (fun m _ => hnames m.1) ih

theorem insertMember (hmembers : (Json.object members).Within texts names) (hname : names name)
    (hvalue : value.Within texts names) :
    (Json.object (Json.insertMember name value members)).Within texts names := by
  cases hmembers with
  | object hnames hvalues =>
    refine .object (fun m hm => ?_) fun m hm => ?_
    · obtain rfl | hm := mem_insertMember hm
      · exact hname
      · exact hnames m hm
    · obtain rfl | hm := mem_insertMember hm
      · exact hvalue
      · exact hvalues m hm

theorem isHereditary (texts names : String → Prop) : IsHereditary (Within texts names) where
  array := .array
  item hvalue helement := by
    cases hvalue with
    | array hitems => exact hitems _ helement
  member hvalue hm := by
    cases hvalue with
    | object _ hvalues => exact hvalues _ hm
  insert hmembers hentries hm hvalue := by
    cases hentries with
    | object hnames _ => exact hmembers.insertMember (hnames _ hm) hvalue

theorem merge (hbase : base.Within texts names) (hoverlay : overlay.Within texts names) :
    (base.merge overlay).Within texts names :=
  (isHereditary texts names).merge hbase hoverlay

theorem of_get? (hvalue : value.Within texts names) (hcontent : value.get? name = some content) :
    content.Within texts names :=
  (isHereditary texts names).of_get? hvalue hcontent

end Within

end GadgetGuard.Json
