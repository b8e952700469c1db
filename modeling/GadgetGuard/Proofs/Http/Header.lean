import Mathlib.Data.List.Nodup
import GadgetGuard.Http.Message
import GadgetGuard.Http.SecurityHeaders
/-!
# The values of one header field

What an edit of a list of header fields does to the values of one name: it touches those of the
name that it edits and leaves all others as they were.
-/

namespace GadgetGuard

open GadgetGuard.Text

namespace Headers

variable {headers : Headers} {name other : String} {value : Bytes}

@[simp]
theorem getAll_empty (name : String) : empty.getAll name = [] :=
  rfl

theorem getAll_append :
    (headers.append name value).getAll other =
      headers.getAll other ++ if name = other then [value] else [] := by
  rw [append, getAll, getAll, List.filter_append, List.map_append]
  congr 1
  by_cases hname : name = other
  · simp [hname]
  · simp [hname]

@[simp]
theorem getAll_append_self :
    (headers.append name value).getAll name = headers.getAll name ++ [value] := by
  rw [getAll_append, if_pos rfl]

theorem getAll_append_of_ne (hne : name ≠ other) :
    (headers.append name value).getAll other = headers.getAll other := by
  rw [getAll_append, if_neg hne, List.append_nil]

@[simp]
theorem getAll_erase_self : (headers.erase name).getAll name = [] := by
  rw [erase, getAll, List.filter_filter, List.map_eq_nil_iff, List.filter_eq_nil_iff]
  intro field _
  simp

theorem getAll_erase_of_ne (hne : name ≠ other) :
    (headers.erase name).getAll other = headers.getAll other := by
  rw [erase, getAll, getAll, List.filter_filter]
  congr 1
  apply List.filter_congr
  intro field _
  by_cases hfield : field.1 = other
  · simp [hfield, hne.symm]
  · simp [hfield]

@[simp]
theorem getAll_insert_self : (headers.insert name value).getAll name = [value] := by
  rw [insert, getAll_append_self, getAll_erase_self, List.nil_append]

theorem getAll_insert_of_ne (hne : name ≠ other) :
    (headers.insert name value).getAll other = headers.getAll other := by
  rw [insert, getAll_append_of_ne hne, getAll_erase_of_ne hne]

theorem contains_eq_false_iff : headers.contains name = false ↔ headers.getAll name = [] := by
  rw [contains, getAll, List.any_eq_false, List.map_eq_nil_iff, List.filter_eq_nil_iff]

theorem getAll_insertIfNew_self :
    (headers.insertIfNew name value).getAll name =
      if headers.getAll name = [] then [value] else headers.getAll name := by
  rw [insertIfNew]
  cases hcontains : headers.contains name with
  | false =>
    have hnone := contains_eq_false_iff.1 hcontains
    rw [if_pos hnone, if_neg Bool.false_ne_true, getAll_append_self, hnone, List.nil_append]
  | true =>
    have hsome : headers.getAll name ≠ [] := by
      intro hnone
      rw [contains_eq_false_iff.2 hnone] at hcontains
      contradiction
    rw [if_neg hsome, if_pos rfl]

theorem getAll_insertIfNew_of_ne (hne : name ≠ other) :
    (headers.insertIfNew name value).getAll other = headers.getAll other := by
  rw [insertIfNew]
  split
  · rfl
  · exact getAll_append_of_ne hne

theorem get?_eq_head? (headers : Headers) (name : String) :
    headers.get? name = (headers.getAll name).head? := by
  rw [get?, getAll]
  induction headers.fields with
  | nil => rfl
  | cons field fields ih =>
    by_cases hname : field.1 = name
    · rw [List.filter_cons_of_pos (by rw [hname, beq_self_eq_true]), ← hname]
      exact List.lookup_cons_self
    · have hother : (name == field.1) = false := beq_eq_false_iff_ne.2 (Ne.symm hname)
      rw [List.filter_cons_of_neg (by rwa [beq_iff_eq]), ← ih, List.lookup_cons, hother]

/-- The text of a field only depends on the values of its name. -/
theorem text?_congr {left right : Headers} (hvalues : left.getAll name = right.getAll name) :
    left.text? name = right.text? name := by
  rw [text?, text?, get?_eq_head?, get?_eq_head?, hvalues]

theorem getAll_insertText_of_ne {text : String} (hne : name ≠ other) :
    (headers.insertText name text).getAll other = headers.getAll other := by
  rw [insertText]
  split
  · exact getAll_insert_of_ne hne
  · rfl

/-- A lifetime is stated in three fields only. -/
theorem getAll_withLifetimeFrom {seconds : Nat} {now : Moment} (hcache : name ≠ "cache-control")
    (hpragma : name ≠ "pragma") (hexpires : name ≠ "expires") :
    (headers.withLifetimeFrom now seconds).getAll name = headers.getAll name := by
  rw [withLifetimeFrom]
  split
  · rw [getAll_insert_of_ne hexpires.symm, getAll_insert_of_ne hpragma.symm,
      getAll_insert_of_ne hcache.symm]
  · rw [getAll_erase_of_ne hpragma.symm, getAll_insertText_of_ne hexpires.symm,
      getAll_insertText_of_ne hcache.symm]

theorem getAll_withLifetime {seconds : Nat} {now : Int} (hcache : name ≠ "cache-control")
    (hpragma : name ≠ "pragma") (hexpires : name ≠ "expires") :
    (headers.withLifetime seconds now).getAll name = headers.getAll name :=
  getAll_withLifetimeFrom hcache hpragma hexpires

end Headers

namespace SecurityHeaders

variable {fields : List (String × Bytes)} {headers : Headers} {name : String} {value : Bytes}

theorem apply_cons (field : String × Bytes) :
    apply ⟨field :: fields⟩ headers = apply ⟨fields⟩ (headers.insertIfNew field.1 field.2) :=
  rfl

theorem getAll_apply_of_not_mem (hname : name ∉ fields.map Prod.fst) :
    (apply ⟨fields⟩ headers).getAll name = headers.getAll name := by
  induction fields generalizing headers with
  | nil => rfl
  | cons field fields ih =>
    rw [List.map_cons, List.mem_cons, not_or] at hname
    rw [apply_cons, ih hname.2, Headers.getAll_insertIfNew_of_ne (Ne.symm hname.1)]

/-- A security field has its own value if the response has none under its name, and otherwise
those of the response. -/
theorem getAll_apply (hnodup : (fields.map Prod.fst).Nodup) (hfield : (name, value) ∈ fields) :
    (apply ⟨fields⟩ headers).getAll name =
      if headers.getAll name = [] then [value] else headers.getAll name := by
  induction fields generalizing headers with
  | nil => contradiction
  | cons field fields ih =>
    rw [List.map_cons, List.nodup_cons] at hnodup
    rw [apply_cons]
    rcases List.mem_cons.1 hfield with rfl | hfield
    · rw [getAll_apply_of_not_mem hnodup.1, Headers.getAll_insertIfNew_self]
    · have hne : field.1 ≠ name := by
        rintro rfl
        exact hnodup.1 (List.mem_map.2 ⟨_, hfield, rfl⟩)
      rw [ih hnodup.2 hfield, Headers.getAll_insertIfNew_of_ne hne]

end SecurityHeaders

end GadgetGuard
