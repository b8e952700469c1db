import Mathlib.Data.String.Basic
import GadgetGuard.Json.Basic
/-!
# Objects and what they lack

An object is known by what it holds under each name.  Filling in defaults is stated that way: a
name keeps its value, completed by the default if both are objects, and a missing name gets the
default.  So nothing but objects ever changes, and to fill in the same defaults twice is to fill
them in once.
-/

namespace GadgetGuard.Json

variable {value defaults content : Json} {name other : String} {members : List Member}

/-- The members of every object are in the order of their names, and no name occurs twice. -/
inductive IsOrdered : Json → Prop
  | null : IsOrdered .null
  | boolean (value : Bool) : IsOrdered (.boolean value)
  | integer (value : Int) : IsOrdered (.integer value)
  | real (value : Decimal.Binary64) : IsOrdered (.real value)
  | string (value : String) : IsOrdered (.string value)
  | array {items : List Json} (hitems : ∀ item ∈ items, IsOrdered item) :
      IsOrdered (.array items)
  | object {members : List Member} (hnames : (members.map Prod.fst).Pairwise (· < ·))
      (hvalues : ∀ m ∈ members, IsOrdered m.2) : IsOrdered (.object members)

/-- A statement holds of every value if it holds of all that are no objects, and of an object
whenever it holds of its members. -/
@[elab_as_elim]
theorem induction_on_objects {motive : Json → Prop}
    (other : ∀ value, value.isObject = false → motive value)
    (object : ∀ members, (∀ m ∈ members, motive m.2) → motive (.object members)) :
    ∀ value, motive value
  | .object members => object members fun m _ => induction_on_objects other object m.2
  | .null => other _ rfl
  | .boolean _ => other _ rfl
  | .integer _ => other _ rfl
  | .real _ => other _ rfl
  | .string _ => other _ rfl
  | .array _ => other _ rfl
termination_by value => sizeOf value
decreasing_by
  rename_i hmember
  have hsize := List.sizeOf_lt_of_mem hmember
  cases m
  simp at hsize ⊢
  omega

/-! ## Members by name -/

theorem lookup_cons (m : Member) (members : List Member) :
    (m :: members).lookup name = if name = m.1 then some m.2 else members.lookup name := by
  obtain ⟨first, content⟩ := m
  by_cases hname : name = first
  · rw [if_pos hname, List.lookup_cons, beq_iff_eq.2 hname]
  · rw [if_neg hname, List.lookup_cons, beq_false_of_ne hname]

theorem mem_of_lookup (hlookup : members.lookup name = some content) :
    (name, content) ∈ members := by
  induction members with
  | nil => contradiction
  | cons m members ih =>
    rw [lookup_cons] at hlookup
    split at hlookup
    next hname =>
      obtain rfl := Option.some.inj hlookup
      rw [hname]
      exact List.mem_cons_self
    next => exact List.mem_cons_of_mem m (ih hlookup)

theorem lookup_eq_none_iff : members.lookup name = none ↔ name ∉ members.map Prod.fst := by
  induction members with
  | nil => simp
  | cons m members ih =>
    rw [lookup_cons, List.map_cons, List.mem_cons]
    split
    next hname => simp [hname]
    next hname => simp [hname, ih]

theorem lookup_of_mem (hnames : (members.map Prod.fst).Nodup)
    (hmember : (name, content) ∈ members) : members.lookup name = some content := by
  induction members with
  | nil => contradiction
  | cons m members ih =>
    obtain ⟨hfirst, hrest⟩ := List.nodup_cons.1 hnames
    rw [lookup_cons]
    obtain rfl | hmember := List.mem_cons.1 hmember
    · rw [if_pos rfl]
    · have hne : name ≠ m.1 := by
        rintro rfl
        exact hfirst (List.mem_map.2 ⟨(m.1, content), hmember, rfl⟩)
      rw [if_neg hne, ih hrest hmember]

theorem lookup_insertMember : (insertMember name value members).lookup other =
    if other = name then some value else members.lookup other := by
  induction members with
  | nil => rw [insertMember, lookup_cons]
  | cons m members ih =>
    rw [insertMember]
    split
    · rw [lookup_cons]
    · split
      next hname =>
        rw [lookup_cons, lookup_cons, hname]
        split
        · rfl
        · rfl
      next hname =>
        rw [lookup_cons, lookup_cons, ih]
        split
        next hother => rw [if_neg (hother.trans_ne (Ne.symm hname))]
        next => rfl

theorem mem_insertMember {m : Member} (hmember : m ∈ insertMember name value members) :
    m = (name, value) ∨ m ∈ members := by
  induction members with
  | nil => exact .inl (List.mem_singleton.1 hmember)
  | cons first members ih =>
    rw [insertMember] at hmember
    split at hmember
    · exact List.mem_cons.1 hmember
    · split at hmember
      · exact (List.mem_cons.1 hmember).imp_right (List.mem_cons_of_mem first)
      · obtain rfl | hmember := List.mem_cons.1 hmember
        · exact .inr List.mem_cons_self
        · exact (ih hmember).imp_right (List.mem_cons_of_mem first)

theorem pairwise_insertMember (hnames : (members.map Prod.fst).Pairwise (· < ·)) :
    ((insertMember name value members).map Prod.fst).Pairwise (· < ·) := by
  induction members with
  | nil => exact List.pairwise_singleton _ name
  | cons m members ih =>
    obtain ⟨hfirst, hrest⟩ := List.pairwise_cons.1 hnames
    rw [insertMember]
    split
    next hbefore =>
      refine List.pairwise_cons.2 ⟨fun later hlater => ?_, hnames⟩
      obtain rfl | hlater := List.mem_cons.1 hlater
      · exact hbefore
      · exact hbefore.trans (hfirst later hlater)
    next hnot =>
      split
      next hname => exact hname ▸ hnames
      next hname =>
        refine List.pairwise_cons.2 ⟨fun later hlater => ?_, ih hrest⟩
        obtain ⟨entry, hentry, rfl⟩ := List.mem_map.1 hlater
        obtain rfl | hentry := mem_insertMember hentry
        · exact lt_of_le_of_ne (not_lt.1 hnot) (Ne.symm hname)
        · exact hfirst _ (List.mem_map_of_mem hentry)

/-- To set a member to the value that it has changes nothing. -/
theorem insertMember_eq_self (hnames : (members.map Prod.fst).Pairwise (· < ·))
    (hlookup : members.lookup name = some value) : insertMember name value members = members := by
  induction members with
  | nil => contradiction
  | cons m members ih =>
    obtain ⟨hfirst, hrest⟩ := List.pairwise_cons.1 hnames
    rw [lookup_cons] at hlookup
    rw [insertMember]
    split at hlookup
    next hname =>
      obtain rfl := Option.some.inj hlookup
      rw [hname, if_neg (lt_irrefl m.1), if_pos rfl]
    next hname =>
      have hlater := hfirst name (List.mem_map_of_mem (mem_of_lookup hlookup))
      rw [if_neg (not_lt.2 hlater.le), if_neg hname, ih hrest hlookup]

/-- Of several values for one name the last counts, so with different names each counts. -/
theorem lookup_foldl_insertMember {list : List Member} (hnames : (list.map Prod.fst).Nodup) :
    (list.foldl (fun sorted m => insertMember m.1 m.2 sorted) members).lookup name =
      (list.lookup name).or (members.lookup name) := by
  induction list generalizing members with
  | nil => rfl
  | cons m list ih =>
    obtain ⟨hfirst, hrest⟩ := List.nodup_cons.1 hnames
    rw [List.foldl_cons, ih hrest, lookup_insertMember, lookup_cons]
    by_cases hname : name = m.1
    · rw [if_pos hname, if_pos hname, hname, lookup_eq_none_iff.2 hfirst]
      rfl
    · rw [if_neg hname, if_neg hname]

theorem get?_ofMembers {list : List Member} (hnames : (list.map Prod.fst).Nodup) :
    (ofMembers list).get? name = list.lookup name :=
  (lookup_foldl_insertMember hnames).trans Option.or_none

theorem IsOrdered.insertMember (hmembers : (Json.object members).IsOrdered)
    (hvalue : value.IsOrdered) :
    (Json.object (Json.insertMember name value members)).IsOrdered := by
  cases hmembers with
  | object hnames hvalues =>
    refine .object (pairwise_insertMember hnames) fun m hmember => ?_
    obtain rfl | hmember := mem_insertMember hmember
    · exact hvalue
    · exact hvalues m hmember

theorem IsOrdered.ofMembers {list : List Member} (hvalues : ∀ m ∈ list, m.2.IsOrdered) :
    (Json.ofMembers list).IsOrdered := by
  have hfold : ∀ members : List Member, (Json.object members).IsOrdered →
      (Json.object (list.foldl (fun sorted m => Json.insertMember m.1 m.2 sorted)
        members)).IsOrdered := by
    induction list with
    | nil => exact fun _ hmembers => hmembers
    | cons m list ih =>
      intro members hmembers
      apply ih fun later hlater => hvalues later (List.mem_cons_of_mem m hlater)
      exact hmembers.insertMember (hvalues m List.mem_cons_self)
  exact hfold [] (.object .nil fun _ hmember => nomatch hmember)

/-! ## Filling in defaults -/

/-- What a name holds after defaults were filled in, by what it held and its default. -/
def filled : Option Json → Option Json → Option Json
  | some existing, some default => some (existing.withDefaults default)
  | some existing, none => some existing
  | none, default => default

theorem withDefaults_of_not_object (hvalue : value.isObject = false) :
    value.withDefaults defaults = value := by
  cases value with
  | object members => contradiction
  | _ =>
    cases defaults with
    | _ => rfl

theorem withDefaults_not_object (hdefaults : defaults.isObject = false) :
    value.withDefaults defaults = value := by
  cases defaults with
  | object members => contradiction
  | _ => rfl

theorem lookup_fillMembers {entries : List Member} (hnames : (entries.map Prod.fst).Nodup) :
    (fillMembers members entries).lookup name =
      filled (members.lookup name) (entries.lookup name) := by
  induction entries generalizing members with
  | nil =>
    rw [fillMembers]
    cases members.lookup name with
    | none => rfl
    | some existing => rfl
  | cons m entries ih =>
    obtain ⟨hfirst, hrest⟩ := List.nodup_cons.1 hnames
    rw [fillMembers, ih hrest, lookup_insertMember, lookup_cons]
    by_cases hname : name = m.1
    · rw [if_pos hname, if_pos hname, hname, lookup_eq_none_iff.2 hfirst]
      cases members.lookup m.1 with
      | none => rfl
      | some existing => rfl
    · rw [if_neg hname, if_neg hname]

theorem IsOrdered.nodup_names (hvalue : value.IsOrdered) :
    (value.members.map Prod.fst).Nodup := by
  cases hvalue with
  | object hnames _ => exact hnames.imp ne_of_lt
  | _ => exact List.nodup_nil

theorem IsOrdered.of_get? (hvalue : value.IsOrdered) (hcontent : value.get? name = some content) :
    content.IsOrdered := by
  cases hvalue with
  | object _ hvalues => exact hvalues _ (mem_of_lookup hcontent)
  | _ => contradiction

theorem get?_withDefaults (hvalue : value.isObject = true) (hdefaults : defaults.IsOrdered)
    (name : String) : (value.withDefaults defaults).get? name =
      filled (value.get? name) (defaults.get? name) := by
  cases value with
  | object members =>
    cases defaults with
    | object entries => exact lookup_fillMembers hdefaults.nodup_names
    | _ =>
      rw [withDefaults_not_object rfl]
      cases (object members).get? name with
      | none => rfl
      | some existing => rfl
  | _ => contradiction

theorem isObject_withDefaults : (value.withDefaults defaults).isObject = value.isObject := by
  cases value with
  | object members =>
    cases defaults with
    | _ => rfl
  | _ => rw [withDefaults_of_not_object rfl]

theorem withDefaults_ne_null (hvalue : value ≠ .null) : value.withDefaults defaults ≠ .null := by
  intro hnull
  have hobject : value.isObject = false := by
    rw [← isObject_withDefaults, hnull]
    rfl
  rw [withDefaults_of_not_object hobject] at hnull
  exact hvalue hnull

/-- Filling in leaves a value alone that has every default already. -/
theorem fillMembers_eq_self {entries : List Member}
    (hnames : (members.map Prod.fst).Pairwise (· < ·))
    (hentries : ∀ m ∈ entries,
      ∃ existing, members.lookup m.1 = some existing ∧ existing.withDefaults m.2 = existing) :
    fillMembers members entries = members := by
  induction entries with
  | nil => rw [fillMembers]
  | cons m entries ih =>
    obtain ⟨existing, hlookup, hsame⟩ := hentries m List.mem_cons_self
    have hfirst : insertMember m.1 (existing.withDefaults m.2) members = members := by
      rw [hsame, insertMember_eq_self hnames hlookup]
    rw [fillMembers, hlookup, hfirst]
    exact ih fun later hlater => hentries later (List.mem_cons_of_mem m hlater)

theorem IsOrdered.fillMembers {entries : List Member}
    (hmembers : (Json.object members).IsOrdered) (hentries : ∀ m ∈ entries, m.2.IsOrdered)
    (hcompleted : ∀ m ∈ entries, ∀ existing : Json, existing.IsOrdered →
      (existing.withDefaults m.2).IsOrdered) :
    (Json.object (Json.fillMembers members entries)).IsOrdered := by
  induction entries generalizing members with
  | nil => exact hmembers
  | cons m entries ih =>
    have hfirst : ∀ {value}, value.IsOrdered →
        (Json.object (Json.fillMembers (Json.insertMember m.1 value members) entries)).IsOrdered :=
      fun hvalue => ih (hmembers.insertMember hvalue)
        (fun later hlater => hentries later (List.mem_cons_of_mem m hlater))
        fun later hlater => hcompleted later (List.mem_cons_of_mem m hlater)
    rw [Json.fillMembers]
    apply hfirst
    cases hlookup : members.lookup m.1 with
    | none => exact hentries m List.mem_cons_self
    | some existing => exact hcompleted m List.mem_cons_self existing (hmembers.of_get? hlookup)

theorem IsOrdered.withDefaults (hvalue : value.IsOrdered) (hdefaults : defaults.IsOrdered) :
    (value.withDefaults defaults).IsOrdered := by
  induction defaults using induction_on_objects generalizing value with
  | other defaults hother =>
    rw [withDefaults_not_object hother]
    exact hvalue
  | object entries ih =>
    cases value with
    | object members =>
      cases hdefaults with
      | object _ hentries =>
        exact hvalue.fillMembers hentries fun m hmember existing hexisting =>
          ih m hmember hexisting (hentries m hmember)
    | _ =>
      rw [withDefaults_of_not_object rfl]
      exact hvalue

theorem withDefaults_self (hvalue : value.IsOrdered) : value.withDefaults value = value := by
  induction value using induction_on_objects with
  | other value hother => rw [withDefaults_not_object hother]
  | object members ih =>
    have hnodup := hvalue.nodup_names
    cases hvalue with
    | object hnames hvalues =>
      rw [withDefaults, fillMembers_eq_self hnames]
      intro m hmember
      exact ⟨m.2, lookup_of_mem hnodup hmember, ih m hmember (hvalues m hmember)⟩

/-- To fill in the same defaults once more changes nothing. -/
theorem withDefaults_withDefaults (hvalue : value.IsOrdered) (hdefaults : defaults.IsOrdered) :
    (value.withDefaults defaults).withDefaults defaults = value.withDefaults defaults := by
  induction defaults using induction_on_objects generalizing value with
  | other defaults hother => rw [withDefaults_not_object hother, withDefaults_not_object hother]
  | object entries ih =>
    cases value with
    | object members =>
      have hnodup : (entries.map Prod.fst).Nodup := hdefaults.nodup_names
      have hfilled := hvalue.withDefaults hdefaults
      rw [withDefaults] at hfilled ⊢
      rw [withDefaults]
      cases hfilled with
      | object hnames _ =>
        rw [fillMembers_eq_self hnames]
        intro m hmember
        have hdefault : m.2.IsOrdered := hdefaults.of_get? (lookup_of_mem hnodup hmember)
        rw [lookup_fillMembers hnodup, lookup_of_mem hnodup hmember]
        cases hlookup : members.lookup m.1 with
        | none => exact ⟨m.2, rfl, withDefaults_self hdefault⟩
        | some existing =>
          exact ⟨_, rfl, ih m hmember (hvalue.of_get? hlookup) hdefault⟩
    | _ => rw [withDefaults_of_not_object rfl, withDefaults_of_not_object rfl]

/-! ## Paths -/

/-- One step into a value: to a member of an object or to an item of an array. -/
inductive Step
  | member (name : String)
  | item (index : Nat)

def child? (value : Json) : Step → Option Json
  | .member name => value.get? name
  | .item index =>
    match value with
    | .array items => items[index]?
    | _ => none

/-- What stands at a path. -/
def at? (value : Json) (path : List Step) : Option Json :=
  path.foldlM child? value

/-- Filling in defaults leaves everything but objects as it is, and in its place. -/
theorem at?_withDefaults {path : List Step} (hdefaults : defaults.IsOrdered)
    (hcontent : value.at? path = some content) (hother : content.isObject = false) :
    (value.withDefaults defaults).at? path = some content := by
  induction path generalizing value defaults with
  | nil =>
    obtain rfl := Option.some.inj hcontent
    rw [withDefaults_of_not_object hother]
    rfl
  | cons step path ih =>
    obtain ⟨next, hnext, hrest⟩ := Option.bind_eq_some_iff.1 hcontent
    cases hobject : value.isObject with
    | false => rwa [withDefaults_of_not_object hobject]
    | true =>
      cases step with
      | member name =>
        have hmember : value.get? name = some next := hnext
        have hstep := get?_withDefaults hobject hdefaults name
        rw [hmember] at hstep
        cases hdefault : defaults.get? name with
        | none =>
          rw [hdefault] at hstep
          exact Option.bind_eq_some_iff.2 ⟨next, hstep, hrest⟩
        | some default =>
          rw [hdefault] at hstep
          have hbelow := ih (hdefaults.of_get? hdefault) hrest
          exact Option.bind_eq_some_iff.2 ⟨next.withDefaults default, hstep, hbelow⟩
      | item index =>
        cases value with
        | array items => contradiction
        | _ => contradiction

/-- A default stands at its path, unless the value holds something else on the way there. -/
theorem at?_withDefaults_of_default {path : List Step} (value : Json)
    (hdefaults : defaults.IsOrdered)
    (hcontent : defaults.at? path = some content) (hother : content.isObject = false) :
    (value.withDefaults defaults).at? path = some content ∨
      ∃ short held default, short <+: path ∧ value.at? short = some held ∧
        defaults.at? short = some default ∧
        (held.isObject = false ∨ default.isObject = false) := by
  induction path generalizing value defaults with
  | nil =>
    obtain rfl := Option.some.inj hcontent
    exact .inr ⟨[], value, defaults, List.nil_prefix, rfl, rfl, .inr hother⟩
  | cons step path ih =>
    cases hvalue : value.isObject with
    | false => exact .inr ⟨[], value, defaults, List.nil_prefix, rfl, rfl, .inl hvalue⟩
    | true =>
      cases hobject : defaults.isObject with
      | false => exact .inr ⟨[], value, defaults, List.nil_prefix, rfl, rfl, .inr hobject⟩
      | true =>
        obtain ⟨next, hnext, hrest⟩ := Option.bind_eq_some_iff.1 hcontent
        cases step with
        | member name =>
          have hdefault : defaults.get? name = some next := hnext
          have hstep := get?_withDefaults hvalue hdefaults name
          rw [hdefault] at hstep
          cases hheld : value.get? name with
          | none =>
            rw [hheld] at hstep
            exact .inl (Option.bind_eq_some_iff.2 ⟨next, hstep, hrest⟩)
          | some held =>
            rw [hheld] at hstep
            obtain hbelow | ⟨short, other, default, hshort, hother, hdefault, hkinds⟩ :=
              ih held (hdefaults.of_get? hdefault) hrest
            · exact .inl (Option.bind_eq_some_iff.2 ⟨_, hstep, hbelow⟩)
            · refine .inr ⟨.member name :: short, other, default, ?_, ?_, ?_, hkinds⟩
              · exact List.cons_prefix_cons.2 ⟨rfl, hshort⟩
              · exact Option.bind_eq_some_iff.2 ⟨held, hheld, hother⟩
              · exact Option.bind_eq_some_iff.2 ⟨next, hnext, hdefault⟩
        | item index =>
          cases defaults with
          | array items => contradiction
          | _ => contradiction

end GadgetGuard.Json
