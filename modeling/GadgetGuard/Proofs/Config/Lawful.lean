import Mathlib.Data.List.Nodup
import GadgetGuard.Config.Format
import GadgetGuard.Proofs.Json.Defaults
/-!
# Formats that go with their defaults

A format is lawful if it reads what it writes, and if a value reads the same after it was
completed by what was read from it.  A value that cannot be read does not become readable by
being completed with anything.  A record is lawful if its fields are, if each of them sets
nothing but itself and if what they write is all there is to know of the record, so the laws of a
configuration follow from those of its parts.
-/

namespace GadgetGuard.Config

open GadgetGuard.Json (Member)

structure Format.Lawful {α : Type} (format : Format α) : Prop where
  isOrdered_write : ∀ content, (format.write content).IsOrdered
  read_write : ∀ content, format.read (format.write content) = .ok content
  completed : ∀ {value : Json} {content : α}, value.IsOrdered →
    (∀ other, format.read value = .ok other → other = content) →
    (format.read (value.withDefaults (format.write content))).toOption =
      (format.read value).toOption

namespace Format

variable {α : Type} {format : Format α}

theorem Lawful.write_injective (hformat : format.Lawful) {left right : α}
    (hwrite : format.write left = format.write right) : left = right := by
  have hleft := hformat.read_write left
  rw [hwrite, hformat.read_write right] at hleft
  exact (Except.ok.inj hleft).symm

/-- Only objects can be completed, so a format that writes none has little to satisfy. -/
theorem lawful_of_not_object (hobject : ∀ content, (format.write content).isObject = false)
    (hordered : ∀ content, (format.write content).IsOrdered)
    (hread : ∀ content, format.read (format.write content) = .ok content) : format.Lawful where
  isOrdered_write := hordered
  read_write := hread
  completed := by
    intro value content _ _
    rw [Json.withDefaults_not_object (hobject content)]

theorem text_lawful : text.Lawful :=
  lawful_of_not_object (fun _ => rfl) .string fun _ => rfl

theorem flag_lawful : flag.Lawful :=
  lawful_of_not_object (fun _ => rfl) .boolean fun _ => rfl

theorem readNatural_integer {limit content : Nat} (name : String) (hcontent : content ≤ limit) :
    readNatural limit name (.integer content) = .ok content := by
  rw [readNatural, if_pos ⟨Int.natCast_nonneg content, Int.ofNat_le.2 hcontent⟩,
    Int.toNat_natCast]

theorem word16_lawful : word16.Lawful := by
  refine lawful_of_not_object (fun _ => rfl) (fun content => .integer _) fun content => ?_
  have hread := readNatural_integer "u16" (Nat.le_pred_of_lt content.toNat_lt)
  calc
    word16.read (word16.write content) = .ok (UInt16.ofNat content.toNat) :=
      congrArg (Except.map UInt16.ofNat) hread
    _ = .ok content := congrArg Except.ok UInt16.ofNat_toNat

theorem word64_lawful : word64.Lawful := by
  refine lawful_of_not_object (fun _ => rfl) (fun content => .integer _) fun content => ?_
  have hread := readNatural_integer "u64" (Nat.le_pred_of_lt content.toNat_lt)
  calc
    word64.read (word64.write content) = .ok (UInt64.ofNat content.toNat) :=
      congrArg (Except.map UInt64.ofNat) hread
    _ = .ok content := congrArg Except.ok UInt64.ofNat_toNat

theorem mapM_read_write (hformat : format.Lawful) (contents : List α) :
    (contents.map format.write).mapM format.read = .ok contents := by
  induction contents with
  | nil => rfl
  | cons content contents ih =>
    rw [List.map_cons, List.mapM_cons, hformat.read_write, ih]
    rfl

theorem listOf_lawful (hformat : format.Lawful) : (listOf format).Lawful := by
  refine lawful_of_not_object (fun _ => rfl) (fun contents => .array fun item hitem => ?_)
    fun contents => mapM_read_write hformat contents
  obtain ⟨content, _, rfl⟩ := List.mem_map.1 hitem
  exact hformat.isOrdered_write content

theorem choice_lawful {choices : List (String × α)} {nameOf : α → String}
    (hchoices : ∀ content, choices.lookup (nameOf content) = some content) :
    (choice choices nameOf).Lawful := by
  refine lawful_of_not_object (fun _ => rfl) (fun content => .string _) fun content => ?_
  simp only [choice, hchoices]

end Format

variable {ρ α : Type}

namespace Field

/-- What a field holds, as it is written, after it was set to a value that fits. -/
def outcome? (field : Field ρ) (current : ρ) (value : Json) : Option (Option Json) :=
  (field.update value current).toOption.map field.write

/-- What it takes for a field of a record to go with its default. -/
structure Lawful (record : Record ρ) (field : Field ρ) : Prop where
  isOrdered_write : ∀ {current content}, field.write current = some content → content.IsOrdered
  outcome?_congr : ∀ left right value, field.outcome? left value = field.outcome? right value
  outcome?_write : ∀ {current content}, field.write current = some content →
    ∀ base, field.outcome? base content = some (some content)
  completed : ∀ {value : Json} {current base : ρ} {content : Json}, value.IsOrdered →
    field.write current = some content →
    (∀ other, field.outcome? base value = some other → other = some content) →
    field.outcome? base (value.withDefaults content) = field.outcome? base value
  write_other : ∀ {value current after}, field.update value current = .ok after →
    ∀ other ∈ record.fields, other.name ≠ field.name → other.write after = other.write current
  write_initial : ∀ {current}, field.write current = none → field.write record.initial = none

variable {record : Record ρ} {name : String} {format : Format α}

theorem exists_of_map_eq_ok {ε β : Type} {result : Except ε α} {f : α → β} {after : β}
    (hmap : result.map f = .ok after) : ∃ content, f content = after := by
  cases result with
  | error cause => contradiction
  | ok content => exact ⟨content, Except.ok.inj hmap⟩

theorem update_required {get : ρ → α} {set : α → ρ → ρ} (value : Json) (current : ρ) :
    (required name format get set).update value current =
      (format.read value).map fun content => set content current := by
  change (format.read value).bind (fun content => .ok (set content current)) = _
  cases format.read value with
  | error cause => rfl
  | ok content => rfl

theorem outcome?_required {get : ρ → α} {set : α → ρ → ρ}
    (hget : ∀ content current, get (set content current) = content) (current : ρ)
    (value : Json) : (required name format get set).outcome? current value =
      (format.read value).toOption.map fun content => some (format.write content) := by
  rw [outcome?, update_required]
  cases format.read value with
  | error cause => rfl
  | ok content => exact congrArg (fun content => some (some (format.write content))) (hget _ _)

theorem required_lawful {get : ρ → α} {set : α → ρ → ρ} (hformat : format.Lawful)
    (hget : ∀ content current, get (set content current) = content)
    (hothers : ∀ content current, ∀ other ∈ record.fields, other.name ≠ name →
      other.write (set content current) = other.write current) :
    (required name format get set).Lawful record where
  isOrdered_write := by
    intro current content hcontent
    rw [← Option.some.inj hcontent]
    exact hformat.isOrdered_write _
  outcome?_congr := by
    intro left right value
    rw [outcome?_required hget, outcome?_required hget]
  outcome?_write := by
    intro current content hcontent base
    rw [← Option.some.inj hcontent, outcome?_required hget, hformat.read_write]
    rfl
  completed := by
    intro value current base content hvalue hcontent hsame
    rw [← Option.some.inj hcontent, outcome?_required hget, outcome?_required hget,
      hformat.completed hvalue]
    intro other hother
    rw [outcome?_required hget, hother] at hsame
    apply hformat.write_injective
    exact Option.some.inj ((hsame _ rfl).trans hcontent.symm)
  write_other := by
    intro value current after hafter
    rw [update_required] at hafter
    obtain ⟨content, rfl⟩ := exists_of_map_eq_ok hafter
    exact hothers content current
  write_initial := by
    intro current hnone
    contradiction

theorem outcome?_optional_null {get : ρ → Option α} {set : Option α → ρ → ρ}
    (hget : ∀ content current, get (set content current) = content) (current : ρ) :
    (optional name format get set).outcome? current .null = some none := by
  rw [outcome?, optional]
  exact congrArg some (congrArg (Option.map format.write) (hget none current))

theorem update_optional {get : ρ → Option α} {set : Option α → ρ → ρ} {value : Json}
    (hvalue : value ≠ .null) (current : ρ) : (optional name format get set).update value current =
      (format.read value).map fun content => set (some content) current := by
  cases value with
  | null => contradiction
  | _ => rfl

theorem outcome?_optional {get : ρ → Option α} {set : Option α → ρ → ρ}
    (hget : ∀ content current, get (set content current) = content) {value : Json}
    (hvalue : value ≠ .null) (current : ρ) :
    (optional name format get set).outcome? current value =
      (format.read value).toOption.map fun content => some (format.write content) := by
  rw [outcome?, update_optional hvalue]
  cases format.read value with
  | error cause => rfl
  | ok content =>
    exact congrArg some (congrArg (Option.map format.write) (hget (some content) current))

/-- A field may be left out where it has no value if it has none initially and no value is
written like a missing one. -/
theorem optional_lawful {get : ρ → Option α} {set : Option α → ρ → ρ} (hformat : format.Lawful)
    (hnull : ∀ content, format.write content ≠ .null)
    (hget : ∀ content current, get (set content current) = content)
    (hothers : ∀ content current, ∀ other ∈ record.fields, other.name ≠ name →
      other.write (set content current) = other.write current)
    (hinitial : get record.initial = none) :
    (optional name format get set).Lawful record where
  isOrdered_write := by
    intro current content hcontent
    obtain ⟨held, _, rfl⟩ := Option.map_eq_some_iff.1 hcontent
    exact hformat.isOrdered_write held
  outcome?_congr := by
    intro left right value
    by_cases hvalue : value = .null
    · rw [hvalue, outcome?_optional_null hget, outcome?_optional_null hget]
    · rw [outcome?_optional hget hvalue, outcome?_optional hget hvalue]
  outcome?_write := by
    intro current content hcontent base
    obtain ⟨held, _, rfl⟩ := Option.map_eq_some_iff.1 hcontent
    rw [outcome?_optional hget (hnull held), hformat.read_write]
    rfl
  completed := by
    intro value current base content hvalue hcontent hsame
    obtain ⟨held, _, rfl⟩ := Option.map_eq_some_iff.1 hcontent
    by_cases hnull : value = .null
    · rw [hnull, Json.withDefaults_of_not_object rfl]
    · rw [outcome?_optional hget (Json.withDefaults_ne_null hnull),
        outcome?_optional hget hnull, hformat.completed hvalue]
      intro other hother
      rw [outcome?_optional hget hnull, hother] at hsame
      apply hformat.write_injective
      exact Option.some.inj (hsame _ rfl)
  write_other := by
    intro value current after hafter
    by_cases hnull : value = .null
    · subst hnull
      rw [← Except.ok.inj hafter]
      exact hothers none current
    · rw [update_optional hnull] at hafter
      obtain ⟨content, rfl⟩ := exists_of_map_eq_ok hafter
      exact hothers (some content) current
  write_initial := fun _ => congrArg (Option.map format.write) hinitial

/-- What a field writes leaves no choice for what is carried from one record into another. -/
def Determines (field : Field ρ) (carry : ρ → ρ → ρ) : Prop :=
  ∀ {left right}, field.write left = field.write right → carry left = carry right

theorem required_determines {get : ρ → α} {set : α → ρ → ρ} (hformat : format.Lawful) :
    (required name format get set).Determines fun source => set (get source) := by
  intro left right hwrite
  exact congrArg set (hformat.write_injective (Option.some.inj hwrite))

theorem optional_determines {get : ρ → Option α} {set : Option α → ρ → ρ}
    (hformat : format.Lawful) :
    (optional name format get set).Determines fun source => set (get source) := by
  intro left right hwrite
  exact congrArg set (Option.map_injective (fun _ _ => hformat.write_injective) hwrite)

theorem carry_eq_of_write_eq {fields : List (Field ρ)} {carries : List (ρ → ρ → ρ)}
    (hcarries : List.Forall₂ Determines fields carries) {left right : ρ}
    (hwrite : ∀ field ∈ fields, field.write left = field.write right) :
    ∀ carry ∈ carries, carry left = carry right := by
  induction hcarries with
  | nil => exact List.forall_mem_nil _
  | cons hfield _ ih =>
    obtain ⟨hfirst, hrest⟩ := List.forall_mem_cons.1 hwrite
    exact List.forall_mem_cons.2 ⟨hfield hfirst, ih hrest⟩

variable {field : Field ρ} {current : ρ} {members : List Member} {m : Member}

/-- What a field holds, as it is written, after the members of an object were set. -/
def outcomeIn? (field : Field ρ) (current : ρ) (members : List Member) : Option (Option Json) :=
  match members.lookup field.name with
  | some value => field.outcome? current value
  | none => some (field.write current)

theorem outcomeIn?_of_lookup {value : Json} (hlookup : members.lookup field.name = some value) :
    field.outcomeIn? current members = field.outcome? current value := by
  rw [outcomeIn?, hlookup]

theorem outcomeIn?_of_missing (hlookup : members.lookup field.name = none) :
    field.outcomeIn? current members = some (field.write current) := by
  rw [outcomeIn?, hlookup]

theorem outcomeIn?_cons : field.outcomeIn? current (m :: members) =
    if field.name = m.1 then field.outcome? current m.2
    else field.outcomeIn? current members := by
  rw [outcomeIn?, Json.lookup_cons]
  by_cases hname : field.name = m.1
  · rw [if_pos hname, if_pos hname]
  · rw [if_neg hname, if_neg hname, outcomeIn?]

theorem Lawful.outcomeIn?_congr (hfield : field.Lawful record) {next : ρ}
    (hwrite : field.write next = field.write current) :
    field.outcomeIn? next members = field.outcomeIn? current members := by
  rw [outcomeIn?, outcomeIn?, hwrite]
  split
  · exact hfield.outcome?_congr _ _ _
  · rfl

end Field

namespace Record

structure Lawful (record : Record ρ) : Prop where
  nodup_names : (record.fields.map Field.name).Nodup
  fields : ∀ field ∈ record.fields, field.Lawful record
  ext : ∀ {left right : ρ},
    (∀ field ∈ record.fields, field.write left = field.write right) → left = right

variable {record : Record ρ} {current next : ρ} {members : List Member} {m : Member}
variable {field : Field ρ}

/-- A record is known from what its fields write if carrying the value of every field over
makes one record into the other. -/
theorem ext_of_determines {carries : List (ρ → ρ → ρ)} {left right : ρ}
    (hcarries : List.Forall₂ Field.Determines record.fields carries)
    (hall : ∀ source base, carries.foldl (fun base carry => carry source base) base = source)
    (hwrite : ∀ field ∈ record.fields, field.write left = field.write right) : left = right := by
  have hcarry := Field.carry_eq_of_write_eq hcarries hwrite
  calc
    left = carries.foldl (fun base carry => carry left base) left := (hall left left).symm
    _ = carries.foldl (fun base carry => carry right base) left :=
      List.foldl_ext _ _ _ fun base carry hmember => congrFun (hcarry carry hmember) base
    _ = right := hall right left

theorem field?_eq_some {name : String} (hfind : record.field? name = some field) :
    field ∈ record.fields ∧ field.name = name := by
  rw [field?] at hfind
  exact ⟨List.mem_of_find?_eq_some hfind, by simpa using List.find?_some hfind⟩

namespace Lawful

theorem setMember_of_field (hrecord : record.Lawful) (hfield : field ∈ record.fields)
    (hname : field.name = m.1) : record.setMember current m = field.update m.2 current := by
  cases hfind : record.field? m.1 with
  | none =>
    have hnone := List.find?_eq_none.1 hfind field hfield
    exact absurd (beq_iff_eq.2 hname) hnone
  | some found =>
    obtain ⟨hmember, hfound⟩ := field?_eq_some hfind
    obtain rfl : found = field := List.inj_on_of_nodup_map hrecord.nodup_names hmember hfield
      (hfound.trans hname.symm)
    rw [setMember, hfind]

theorem setMember_of_no_field (hname : ∀ field ∈ record.fields, field.name ≠ m.1) :
    record.setMember current m = .ok current := by
  have hfind : record.field? m.1 = none := by
    refine List.find?_eq_none.2 fun field hfield hfound => ?_
    exact hname field hfield (beq_iff_eq.1 hfound)
  rw [setMember, hfind]

theorem setMember_eq_ok (hrecord : record.Lawful) (hset : record.setMember current m = .ok next)
    (hfield : field ∈ record.fields) :
    field.name = m.1 ∧ field.outcome? current m.2 = some (field.write next) ∨
      field.name ≠ m.1 ∧ field.write next = field.write current := by
  by_cases hname : field.name = m.1
  · rw [hrecord.setMember_of_field hfield hname] at hset
    rw [Field.outcome?, hset]
    exact .inl ⟨hname, rfl⟩
  · refine .inr ⟨hname, ?_⟩
    by_cases hknown : ∃ other ∈ record.fields, other.name = m.1
    · obtain ⟨other, hother, hsame⟩ := hknown
      rw [hrecord.setMember_of_field hother hsame] at hset
      exact (hrecord.fields other hother).write_other hset field hfield (hsame ▸ hname)
    · rw [setMember_of_no_field fun other hother hsame => hknown ⟨other, hother, hsame⟩] at hset
      rw [Except.ok.inj hset]

theorem setMember_eq_error (hrecord : record.Lawful) {cause : FormatError}
    (hset : record.setMember current m = .error cause) :
    ∃ field ∈ record.fields, field.name = m.1 ∧ field.outcome? current m.2 = none := by
  by_cases hknown : ∃ other ∈ record.fields, other.name = m.1
  · obtain ⟨field, hfield, hname⟩ := hknown
    rw [hrecord.setMember_of_field hfield hname] at hset
    refine ⟨field, hfield, hname, ?_⟩
    rw [Field.outcome?, hset]
    rfl
  · rw [setMember_of_no_field fun other hother hsame => hknown ⟨other, hother, hsame⟩] at hset
    contradiction

/-- Setting the members of an object sets every field to the member of its name. -/
theorem foldlM_eq_ok (hrecord : record.Lawful) (hnames : (members.map Prod.fst).Nodup)
    {after : ρ} (hfold : members.foldlM record.setMember current = .ok after)
    (hfield : field ∈ record.fields) :
    field.outcomeIn? current members = some (field.write after) := by
  induction members generalizing current with
  | nil =>
    obtain rfl := Except.ok.inj hfold
    rfl
  | cons m members ih =>
    obtain ⟨hfirst, hrest⟩ := List.nodup_cons.1 hnames
    rw [List.foldlM_cons] at hfold
    cases hset : record.setMember current m with
    | error cause =>
      rw [hset] at hfold
      contradiction
    | ok next =>
      rw [hset] at hfold
      have hlater := ih hrest hfold
      rw [Field.outcomeIn?_cons]
      obtain ⟨hname, houtcome⟩ | ⟨hname, hwrite⟩ := hrecord.setMember_eq_ok hset hfield
      · -- no later member has the same name
        have hmissing := Json.lookup_eq_none_iff.2 (hname ▸ hfirst)
        rw [if_pos hname, houtcome, ← hlater, Field.outcomeIn?_of_missing hmissing]
      · rw [if_neg hname, ← hlater, (hrecord.fields field hfield).outcomeIn?_congr hwrite]

/-- Setting the members of an object fails only at a member that does not fit its field. -/
theorem foldlM_eq_error (hrecord : record.Lawful) (hnames : (members.map Prod.fst).Nodup)
    {cause : FormatError} (hfold : members.foldlM record.setMember current = .error cause) :
    ∃ field ∈ record.fields, field.outcomeIn? current members = none := by
  induction members generalizing current with
  | nil => contradiction
  | cons m members ih =>
    obtain ⟨hfirst, hrest⟩ := List.nodup_cons.1 hnames
    rw [List.foldlM_cons] at hfold
    cases hset : record.setMember current m with
    | error reason =>
      obtain ⟨field, hfield, hname, houtcome⟩ := hrecord.setMember_eq_error hset
      exact ⟨field, hfield, by rw [Field.outcomeIn?_cons, if_pos hname, houtcome]⟩
    | ok next =>
      rw [hset] at hfold
      obtain ⟨field, hfield, houtcome⟩ := ih hrest hfold
      refine ⟨field, hfield, ?_⟩
      rw [Field.outcomeIn?_cons]
      obtain ⟨hname, _⟩ | ⟨hname, hwrite⟩ := hrecord.setMember_eq_ok hset hfield
      · have hmissing := Json.lookup_eq_none_iff.2 (hname ▸ hfirst)
        rw [Field.outcomeIn?_of_missing hmissing] at houtcome
        contradiction
      · rw [if_neg hname, ← (hrecord.fields field hfield).outcomeIn?_congr hwrite, houtcome]

/-- An object is read as the record in which each field holds what its member says. -/
theorem read_eq_ok_iff (hrecord : record.Lawful) {value : Json}
    (hobject : value.isObject = true) (hordered : value.IsOrdered) (content : ρ) :
    record.read value = .ok content ↔ ∀ field ∈ record.fields,
      field.outcomeIn? record.initial value.members = some (field.write content) := by
  cases value with
  | object members =>
    constructor
    · intro hread field hfield
      exact hrecord.foldlM_eq_ok hordered.nodup_names hread hfield
    · intro houtcomes
      rw [read]
      cases hfold : members.foldlM record.setMember record.initial with
      | error cause =>
        obtain ⟨field, hfield, hfails⟩ := hrecord.foldlM_eq_error hordered.nodup_names hfold
        exact nomatch hfails.symm.trans (houtcomes field hfield)
      | ok after =>
        refine congrArg Except.ok (hrecord.ext fun field hfield => ?_)
        have houtcome := hrecord.foldlM_eq_ok hordered.nodup_names hfold hfield
        exact Option.some.inj (houtcome.symm.trans (houtcomes field hfield))
  | _ => contradiction

theorem exists_of_read_eq_error (hrecord : record.Lawful) {value : Json}
    (hobject : value.isObject = true) (hordered : value.IsOrdered) {cause : FormatError}
    (hread : record.read value = .error cause) :
    ∃ field ∈ record.fields, field.outcomeIn? record.initial value.members = none := by
  cases value with
  | object members => exact hrecord.foldlM_eq_error hordered.nodup_names hread
  | _ => contradiction

end Lawful

/-! ## What a record writes -/

/-- The members that a record writes, in the order of its fields. -/
def written (record : Record ρ) (content : ρ) : List Member :=
  record.fields.filterMap fun field =>
    (field.write content).map fun value => (field.name, value)

theorem mem_written_iff {content : ρ} : m ∈ record.written content ↔
    ∃ field ∈ record.fields, field.name = m.1 ∧ field.write content = some m.2 := by
  rw [written, List.mem_filterMap]
  refine exists_congr fun field => and_congr_right fun _ => ?_
  rw [Option.map_eq_some_iff]
  constructor
  · rintro ⟨value, hvalue, rfl⟩
    exact ⟨rfl, hvalue⟩
  · rintro ⟨hname, hvalue⟩
    exact ⟨m.2, hvalue, Prod.ext hname rfl⟩

theorem names_written_sublist (fields : List (Field ρ)) (content : ρ) :
    ((fields.filterMap fun field =>
      (field.write content).map fun value => (field.name, value)).map Prod.fst).Sublist
        (fields.map Field.name) := by
  induction fields with
  | nil => exact .slnil
  | cons field fields ih =>
    rw [List.filterMap_cons, List.map_cons]
    cases field.write content with
    | none => exact ih.cons field.name
    | some value => exact ih.cons_cons field.name

namespace Lawful

theorem nodup_written (hrecord : record.Lawful) (content : ρ) :
    ((record.written content).map Prod.fst).Nodup :=
  (names_written_sublist record.fields content).nodup hrecord.nodup_names

theorem lookup_written (hrecord : record.Lawful) (content : ρ) (hfield : field ∈ record.fields) :
    (record.written content).lookup field.name = field.write content := by
  cases hwrite : field.write content with
  | some value =>
    exact Json.lookup_of_mem (hrecord.nodup_written content)
      (mem_written_iff.2 ⟨field, hfield, rfl, hwrite⟩)
  | none =>
    refine Json.lookup_eq_none_iff.2 fun hname => ?_
    obtain ⟨m, hmember, hname⟩ := List.mem_map.1 hname
    obtain ⟨other, hother, hsame, hvalue⟩ := mem_written_iff.1 hmember
    obtain rfl : other = field := List.inj_on_of_nodup_map hrecord.nodup_names hother hfield
      (hsame.trans hname)
    rw [hwrite] at hvalue
    contradiction

theorem get?_write (hrecord : record.Lawful) (content : ρ) (hfield : field ∈ record.fields) :
    (record.write content).get? field.name = field.write content := by
  rw [← hrecord.lookup_written content hfield]
  exact Json.get?_ofMembers (hrecord.nodup_written content)

theorem isOrdered_write (hrecord : record.Lawful) (content : ρ) :
    (record.write content).IsOrdered := by
  refine .ofMembers fun m hmember => ?_
  obtain ⟨field, hfield, _, hvalue⟩ := mem_written_iff.1 hmember
  exact (hrecord.fields field hfield).isOrdered_write hvalue

/-- A field that finds its own default, or finds nothing where it writes nothing, holds what it
held. -/
theorem outcomeIn?_of_default (hrecord : record.Lawful) (hfield : field ∈ record.fields)
    {content : ρ} (hlookup : members.lookup field.name = field.write content) :
    field.outcomeIn? record.initial members = some (field.write content) := by
  have hlawful := hrecord.fields field hfield
  cases hwrite : field.write content with
  | some value =>
    rw [hwrite] at hlookup
    rw [Field.outcomeIn?_of_lookup hlookup, hlawful.outcome?_write hwrite]
  | none =>
    rw [hwrite] at hlookup
    rw [Field.outcomeIn?_of_missing hlookup, hlawful.write_initial hwrite]

theorem read_write (hrecord : record.Lawful) (content : ρ) :
    record.read (record.write content) = .ok content := by
  refine (hrecord.read_eq_ok_iff rfl (hrecord.isOrdered_write content) content).2 ?_
  intro field hfield
  exact hrecord.outcomeIn?_of_default hfield (hrecord.get?_write content hfield)

/-- Completing a field by its default changes neither whether it fits nor, if the default is
what was read from it, what it holds. -/
theorem outcomeIn?_completed (hrecord : record.Lawful) (hfield : field ∈ record.fields)
    {value : Json} (hobject : value.isObject = true) (hordered : value.IsOrdered) (content : ρ)
    (hsame : ∀ other, field.outcomeIn? record.initial value.members = some other →
      other = field.write content) :
    field.outcomeIn? record.initial (value.withDefaults (record.write content)).members =
      field.outcomeIn? record.initial value.members := by
  have hlawful := hrecord.fields field hfield
  have hlookup := Json.get?_withDefaults hobject (hrecord.isOrdered_write content) field.name
  rw [hrecord.get?_write content hfield] at hlookup
  cases hheld : value.get? field.name with
  | none =>
    have hmissing : field.outcomeIn? record.initial value.members =
        some (field.write record.initial) := Field.outcomeIn?_of_missing hheld
    rw [hheld] at hlookup
    rw [hrecord.outcomeIn?_of_default hfield hlookup, hmissing, hsame _ hmissing]
  | some held =>
    rw [Field.outcomeIn?_of_lookup hheld] at hsame ⊢
    cases hwrite : field.write content with
    | none =>
      rw [hheld, hwrite] at hlookup
      rw [Field.outcomeIn?_of_lookup hlookup]
    | some default =>
      rw [hheld, hwrite] at hlookup
      rw [hwrite] at hsame
      rw [Field.outcomeIn?_of_lookup hlookup]
      exact hlawful.completed (hordered.of_get? hheld) hwrite hsame

/-- A lawful record is a lawful format. -/
theorem format_lawful (hrecord : record.Lawful) : record.format.Lawful where
  isOrdered_write := hrecord.isOrdered_write
  read_write := hrecord.read_write
  completed := by
    intro value content hvalue hsame
    change (record.read (value.withDefaults (record.write content))).toOption =
      (record.read value).toOption
    cases hobject : value.isObject with
    | false => rw [Json.withDefaults_of_not_object hobject]
    | true =>
      have hfilled := hvalue.withDefaults (hrecord.isOrdered_write content)
      have hreads := hrecord.read_eq_ok_iff (Json.isObject_withDefaults.trans hobject) hfilled
      cases hread : record.read value with
      | ok other =>
        obtain rfl := hsame other hread
        have houtcomes := (hrecord.read_eq_ok_iff hobject hvalue other).1 hread
        refine congrArg Except.toOption ((hreads other).2 fun field hfield => ?_)
        rw [hrecord.outcomeIn?_completed hfield hobject hvalue, houtcomes field hfield]
        intro held hheld
        exact Option.some.inj (hheld.symm.trans (houtcomes field hfield))
      | error cause =>
        obtain ⟨field, hfield, hfails⟩ := hrecord.exists_of_read_eq_error hobject hvalue hread
        have hstays := hrecord.outcomeIn?_completed hfield hobject hvalue content
          fun held hheld => nomatch hfails.symm.trans hheld
        cases hagain : record.read (value.withDefaults (record.write content)) with
        | ok after =>
          have hholds := (hreads after).1 hagain field hfield
          rw [hstays, hfails] at hholds
          contradiction
        | error reason => rfl

end Lawful

end Record

end GadgetGuard.Config
