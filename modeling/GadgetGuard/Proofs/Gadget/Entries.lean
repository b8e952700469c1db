import GadgetGuard.Proofs.Gadget.SafeAttribute
/-!
# The entries of one name

An element may hold several attributes of one name, and all of them are judged.  What the filter
leaves of the entries of one name depends on these entries alone.  Where the policy sends the
links of that name through the proxy, every verdict either drops all entries or writes the first
one: so the first entry is routed in the end, and a later one stays as it was.
-/

namespace GadgetGuard

open GadgetGuard.Text

namespace Sanitizer

variable {sanitizer : Sanitizer} {a b : Attribute} {tag name other value : String}
variable {kept judged attributes : List Attribute} {verdict : Verdict}

/-- A verdict on another name does not touch the entries. -/
theorem entriesOf_applied_of_ne (verdict : Verdict) (hother : lower other ≠ lower name) :
    entriesOf name (verdict.applied other kept) = entriesOf name kept := by
  cases verdict with
  | keep => rfl
  | drop => exact entriesOf_filter_of_ne kept hother
  | replace value => exact entriesOf_setIn_of_ne value hother

theorem hasLowerNames_applied (verdict : Verdict) (hlower : HasLowerNames kept) :
    HasLowerNames (verdict.applied other kept) := by
  cases verdict with
  | keep => exact hlower
  | drop => exact hlower.filter _
  | replace value => exact hlower.setIn other value

theorem hasLowerNames_filteredAttributes (hlower : HasLowerNames attributes) :
    HasLowerNames (sanitizer.filteredAttributes tag attributes) := by
  intro b hb
  rcases mem_filteredAttributes hb with ⟨hmem, _⟩ | ⟨a, _, _, _, rfl⟩
  · exact hlower b hmem
  · exact lower_lower a.name

/-! ## Names whose links go through the proxy -/

/-- What judging an attribute whose links go through the proxy makes of the entries of its
name. -/
def route (sanitizer : Sanitizer) (entries : List Attribute) (a : Attribute) : List Attribute :=
  if sanitizer.admits a then
    ⟨lower a.name, (sanitizer.imageLinks a.value sanitizer.context).value⟩ :: entries.tail
  else []

/-- Whether the links of that name go through the proxy. -/
def Routes (sanitizer : Sanitizer) (tag name : String) : Prop :=
  namesLink name = true ∧ sanitizer.policy.isProxied tag name = true

theorem Routes.congr (hroutes : sanitizer.Routes tag name) (hname : lower other = lower name) :
    sanitizer.Routes tag other := by
  rw [Routes, namesLink, ← Policy.isProxied_lower] at hroutes ⊢
  rw [hname]
  exact hroutes

theorem entriesOf_applied (hpolicy : sanitizer.policy.IsMade) (hroutes : sanitizer.Routes tag name)
    (hlower : HasLowerNames kept) (hname : lower a.name = lower name) :
    entriesOf name ((sanitizer.judge tag a).value.applied a.name kept) =
      sanitizer.route (entriesOf name kept) a := by
  obtain ⟨hlink, hproxied⟩ := hroutes.congr hname
  rw [judge_value hpolicy, hlink, hproxied, route]
  cases sanitizer.admits a with
  | false =>
    rw [if_neg Bool.false_ne_true, if_neg Bool.false_ne_true]
    exact entriesOf_filter_of_eq kept hname
  | true =>
    rw [if_pos rfl, if_pos rfl, if_pos (Bool.and_self true), Verdict.applied, hname]
    exact entriesOf_setIn _ hlower

/-- Attributes of other names do not matter for the entries of a name that is routed. -/
theorem entriesOf_foldl (hpolicy : sanitizer.policy.IsMade) (hroutes : sanitizer.Routes tag name)
    (hlower : HasLowerNames kept) :
    entriesOf name
        (judged.foldl (fun kept a => (sanitizer.judge tag a).value.applied a.name kept) kept) =
      (entriesOf name judged).foldl sanitizer.route (entriesOf name kept) := by
  induction judged generalizing kept with
  | nil => rfl
  | cons a later ih =>
    rw [List.foldl_cons, ih (hasLowerNames_applied _ hlower)]
    by_cases hname : lower a.name = lower name
    · rw [entriesOf_applied hpolicy hroutes hlower hname, entriesOf_cons, if_pos hname,
        List.foldl_cons]
    · rw [entriesOf_applied_of_ne _ hname, entriesOf_cons, if_neg hname]

theorem entriesOf_filteredAttributes (hpolicy : sanitizer.policy.IsMade)
    (hroutes : sanitizer.Routes tag name) (hlower : HasLowerNames attributes) :
    entriesOf name (sanitizer.filteredAttributes tag attributes) =
      (entriesOf name attributes).foldl sanitizer.route (entriesOf name attributes) :=
  entriesOf_foldl hpolicy hroutes hlower

/-- The first entry is what the last verdict wrote. -/
theorem head?_foldl_route {entries start : List Attribute} (hentries : entries ≠ [])
    (hb : (entries.foldl sanitizer.route start).head? = some b) :
    ∃ a ∈ entries, b.value = (sanitizer.imageLinks a.value sanitizer.context).value := by
  obtain ⟨earlier, a, rfl⟩ := (List.eq_nil_or_concat' entries).resolve_left hentries
  rw [List.foldl_concat, route] at hb
  split at hb
  · obtain rfl := Option.some.inj hb
    exact ⟨a, List.mem_append_right _ List.mem_cons_self, rfl⟩
  · contradiction

/-- The first entry that is left holds what the router made of an entry. -/
theorem head?_entriesOf_filteredAttributes (hpolicy : sanitizer.policy.IsMade)
    (hroutes : sanitizer.Routes tag name) (hlower : HasLowerNames attributes)
    (hb : (entriesOf name (sanitizer.filteredAttributes tag attributes)).head? = some b) :
    ∃ a ∈ entriesOf name attributes,
      b.value = (sanitizer.imageLinks a.value sanitizer.context).value := by
  rw [entriesOf_filteredAttributes hpolicy hroutes hlower] at hb
  by_cases hentries : entriesOf name attributes = []
  · rw [hentries] at hb
    contradiction
  · exact head?_foldl_route hentries hb

/-- If all entries are admitted, those after the first one stay as they were. -/
theorem tail_foldl_route {entries start : List Attribute}
    (hadmits : ∀ a ∈ entries, sanitizer.admits a = true) :
    (entries.foldl sanitizer.route start).tail = start.tail := by
  induction entries generalizing start with
  | nil => rfl
  | cons a later ih =>
    obtain ⟨ha, hlater⟩ := List.forall_mem_cons.1 hadmits
    rw [List.foldl_cons, ih hlater, route, if_pos ha, List.tail_cons]

theorem tail_entriesOf_filteredAttributes (hpolicy : sanitizer.policy.IsMade)
    (hroutes : sanitizer.Routes tag name) (hlower : HasLowerNames attributes)
    (hadmits : ∀ a ∈ entriesOf name attributes, sanitizer.admits a = true) :
    (entriesOf name (sanitizer.filteredAttributes tag attributes)).tail =
      (entriesOf name attributes).tail := by
  rw [entriesOf_filteredAttributes hpolicy hroutes hlower, tail_foldl_route hadmits]

/-- A single entry is routed or dropped. -/
theorem foldl_route_of_length_le_one {entries : List Attribute} (hlength : entries.length ≤ 1) :
    entries.foldl sanitizer.route entries =
      (entries.filter sanitizer.admits).map fun a =>
        ⟨lower a.name, (sanitizer.imageLinks a.value sanitizer.context).value⟩ := by
  cases entries with
  | nil => rfl
  | cons a later =>
    obtain rfl : later = [] := List.eq_nil_of_length_eq_zero (by simpa using hlength)
    rw [List.foldl_cons, List.foldl_nil, route, List.filter_singleton]
    cases sanitizer.admits a with
    | false => rfl
    | true => rfl

theorem length_entriesOf_filteredAttributes (hpolicy : sanitizer.policy.IsMade)
    (hroutes : sanitizer.Routes tag name) (hlower : HasLowerNames attributes)
    (hlength : (entriesOf name attributes).length ≤ 1) :
    (entriesOf name (sanitizer.filteredAttributes tag attributes)).length ≤ 1 := by
  rw [entriesOf_filteredAttributes hpolicy hroutes hlower, foldl_route_of_length_le_one hlength,
    List.length_map]
  exact Nat.le_trans (List.length_filter_le _ _) hlength

end Sanitizer

end GadgetGuard
