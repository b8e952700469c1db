import Mathlib.Data.Nat.Digits.Defs
import GadgetGuard.Proofs.Http.Calendar
import GadgetGuard.Proofs.Text.Number
/-!
# Reading dates back

A reader of dates as they stand in header fields, which knows the calendar and nothing of how
dates are written, reads every date that is written as the second that it was written for.
-/

namespace GadgetGuard.HttpDate

open GadgetGuard.Text

/-! ## The reader -/

def twoDigits? (text : List Char) : Option Nat :=
  if text.length = 2 then digits? text else none

/-- Reads a year of four digits, or of a sign and no fewer than four. -/
def year? : List Char → Option Int
  | '+' :: digits => if 4 ≤ digits.length then (digits? digits).map Int.ofNat else none
  | '-' :: digits => if 4 ≤ digits.length then (digits? digits).map fun n => -(n : Int) else none
  | digits => if digits.length = 4 then (digits? digits).map Int.ofNat else none

def month? : List Char → Option Nat
  | ['J', 'a', 'n'] => some 1
  | ['F', 'e', 'b'] => some 2
  | ['M', 'a', 'r'] => some 3
  | ['A', 'p', 'r'] => some 4
  | ['M', 'a', 'y'] => some 5
  | ['J', 'u', 'n'] => some 6
  | ['J', 'u', 'l'] => some 7
  | ['A', 'u', 'g'] => some 8
  | ['S', 'e', 'p'] => some 9
  | ['O', 'c', 't'] => some 10
  | ['N', 'o', 'v'] => some 11
  | ['D', 'e', 'c'] => some 12
  | _ => none

/-- Reads the name of a day with the comma after it, as a number from zero for Monday. -/
def weekday? : List Char → Option Nat
  | ['M', 'o', 'n', ','] => some 0
  | ['T', 'u', 'e', ','] => some 1
  | ['W', 'e', 'd', ','] => some 2
  | ['T', 'h', 'u', ','] => some 3
  | ['F', 'r', 'i', ','] => some 4
  | ['S', 'a', 't', ','] => some 5
  | ['S', 'u', 'n', ','] => some 6
  | _ => none

/-- The first of January 1970 was a Thursday. -/
def weekdayOf (days : Int) : Nat :=
  ((days + 3) % 7).toNat

/-- Reads a time of the day, in seconds. -/
def time? (text : List Char) : Option Nat :=
  match text.splitOn ':' with
  | [hour, minute, second] => do
    let hour ← twoDigits? hour
    let minute ← twoDigits? minute
    let second ← twoDigits? second
    if hour < 24 ∧ minute < 60 ∧ second < 60 then some (hour * 3600 + minute * 60 + second)
    else none
  | _ => none

/-- Reads a date with the name of its day, which has to be the right one, in seconds since the
beginning of 1970. -/
def read? (text : String) : Option Int :=
  match text.toList.splitOn ' ' with
  | [weekday, day, month, year, time, ['G', 'M', 'T']] => do
    let weekday ← weekday? weekday
    let date : CivilDate := ⟨← year? year, ← month? month, ← twoDigits? day⟩
    let time ← time? time
    if date.IsValid ∧ weekday = weekdayOf date.toDays then some (date.toDays * 86400 + time)
    else none
  | _ => none

/-! ## Digits -/

variable {width value : Nat} {c : Char}

theorem toList_padded (width value : Nat) : (padded width value).toList =
    List.replicate (width - (Nat.toDigits 10 value).length) '0' ++ Nat.toDigits 10 value := by
  rw [padded, String.toList_append, String.toList_ofList, ← String.length_toList,
    Nat.toList_repr]

theorem length_padded (hwidth : 0 < width) (hvalue : value < 10 ^ width) :
    (padded width value).toList.length = width := by
  have hle := (Nat.length_toDigits_le_iff (by decide) hwidth).2 hvalue
  rw [toList_padded, List.length_append, List.length_replicate, Nat.sub_add_cancel hle]

theorem le_length_padded : width ≤ (padded width value).toList.length := by
  rw [toList_padded, List.length_append, List.length_replicate]
  omega

theorem isDigit_of_mem_padded (hc : c ∈ (padded width value).toList) : c.isDigit = true := by
  rw [toList_padded, List.mem_append] at hc
  rcases hc with hzero | hdigit
  · rw [List.eq_of_mem_replicate hzero]
    rfl
  · exact Nat.isDigit_of_mem_toDigits (by decide) (by decide) hdigit

theorem decimalValue_zeros_append (count : Nat) (digits : List Char) :
    decimalValue (List.replicate count '0' ++ digits) = decimalValue digits := by
  induction count with
  | zero => rfl
  | succ count ih => exact ih

/-- Zeros in front do not change a number. -/
theorem digits?_padded : digits? (padded width value).toList = some value := by
  have hdigits : (padded width value).toList.all Char.isDigit = true :=
    List.all_eq_true.2 fun c => isDigit_of_mem_padded
  have hnonempty : (padded width value).toList ≠ [] := by
    rw [toList_padded]
    exact List.append_ne_nil_of_right_ne_nil _ Nat.toDigits_ne_nil
  rw [digits?, hdigits, toList_padded, decimalValue_zeros_append, decimalValue_eq_ofDigitChars,
    Nat.ofDigitChars_toDigits (by decide) (by decide), ← toList_padded]
  simp [hnonempty]

theorem twoDigits?_padded (hvalue : value < 100) :
    twoDigits? (padded 2 value).toList = some value := by
  rw [twoDigits?, if_pos (length_padded (by decide) hvalue), digits?_padded]

/-! ## The parts of a date -/

theorem year?_of_digits {digits : List Char} (hdigits : ∀ c ∈ digits, c.isDigit = true) :
    year? digits = if digits.length = 4 then (digits? digits).map Int.ofNat else none := by
  unfold year?
  split
  · exact absurd (hdigits '+' List.mem_cons_self) (by decide)
  · exact absurd (hdigits '-' List.mem_cons_self) (by decide)
  · rfl

theorem year?_plus (digits : List Char) : year? ('+' :: digits) =
    if 4 ≤ digits.length then (digits? digits).map Int.ofNat else none := rfl

theorem year?_minus (digits : List Char) : year? ('-' :: digits) =
    if 4 ≤ digits.length then (digits? digits).map fun n => -(n : Int) else none := rfl

theorem year?_yearText (year : Int) : year? (yearText year).toList = some year := by
  rw [yearText]
  split
  next hshort =>
    have hlength : (padded 4 year.toNat).toList.length = 4 :=
      length_padded (by decide) (by omega)
    rw [year?_of_digits fun _ => isDigit_of_mem_padded, if_pos hlength, digits?_padded]
    exact congrArg some (Int.toNat_of_nonneg hshort.1)
  next =>
    split
    next hpositive =>
      have htext : ("+" ++ padded 4 year.toNat).toList = '+' :: (padded 4 year.toNat).toList :=
        String.toList_append
      rw [htext, year?_plus, if_pos le_length_padded, digits?_padded]
      exact congrArg some (Int.toNat_of_nonneg hpositive)
    next hnegative =>
      have htext : ("-" ++ padded 4 year.natAbs).toList = '-' :: (padded 4 year.natAbs).toList :=
        String.toList_append
      have hyear : -(year.natAbs : Int) = year := by omega
      rw [htext, year?_minus, if_pos le_length_padded, digits?_padded]
      exact congrArg some hyear

theorem month?_monthNames {month : Nat} (hlow : 1 ≤ month) (hhigh : month ≤ 12) :
    month? (monthNames.getD (month - 1) "").toList = some month := by
  interval_cases month <;> rfl

theorem weekday?_dayNames (days : Int) :
    weekday? ((dayNames.getD (days % 7).toNat "").toList ++ [',']) = some (weekdayOf days) := by
  obtain ⟨offset, hoffset⟩ : ∃ offset, (days % 7).toNat = offset := ⟨_, rfl⟩
  have hlt : offset < 7 := by omega
  have hweekday : weekdayOf days = (offset + 3) % 7 := by
    rw [weekdayOf]
    omega
  rw [hoffset, hweekday]
  interval_cases offset <;> rfl

/-- How a time of the day is written. -/
def timeText (second : Nat) : String :=
  padded 2 (second / 3600) ++ ":" ++ padded 2 (second % 3600 / 60) ++ ":" ++
    padded 2 (second % 60)

theorem not_mem_padded (hc : c.isDigit = false) : c ∉ (padded width value).toList := by
  intro hmem
  rw [isDigit_of_mem_padded hmem] at hc
  contradiction

theorem time?_timeText {second : Nat} (hsecond : second < 86400) :
    time? (timeText second).toList = some second := by
  have hparts : (timeText second).toList = [':'].intercalate
      [(padded 2 (second / 3600)).toList, (padded 2 (second % 3600 / 60)).toList,
        (padded 2 (second % 60)).toList] := by
    simp [timeText, String.toList_append]
  have hsplit : (timeText second).toList.splitOn ':' =
      [(padded 2 (second / 3600)).toList, (padded 2 (second % 3600 / 60)).toList,
        (padded 2 (second % 60)).toList] := by
    rw [hparts]
    apply List.splitOn_intercalate
    · simp [not_mem_padded]
    · exact List.cons_ne_nil _ _
  have hbounds : second / 3600 < 24 ∧ second % 3600 / 60 < 60 ∧ second % 60 < 60 := by omega
  have hsum : second / 3600 * 3600 + second % 3600 / 60 * 60 + second % 60 = second := by omega
  rw [time?, hsplit]
  simp only [twoDigits?_padded (Nat.lt_trans hbounds.1 (by decide)),
    twoDigits?_padded (Nat.lt_trans hbounds.2.1 (by decide)),
    twoDigits?_padded (Nat.lt_trans hbounds.2.2 (by decide)), Option.bind_eq_bind,
    Option.bind_some, if_pos hbounds, hsum]

theorem space_not_mem_timeText (second : Nat) : ' ' ∉ (timeText second).toList := by
  simp [timeText, String.toList_append, not_mem_padded]

theorem space_not_mem_yearText (year : Int) : ' ' ∉ (yearText year).toList := by
  rw [yearText]
  split
  · exact not_mem_padded rfl
  · split <;> simp [String.toList_append, not_mem_padded]

theorem forall_getD {P : String → Prop} {names : List String} (hempty : P "")
    (hnames : ∀ name ∈ names, P name) (index : Nat) : P (names.getD index "") := by
  rw [List.getD_eq_getElem?_getD]
  cases hname : names[index]? with
  | none => exact hempty
  | some name => exact hnames name (List.mem_of_getElem? hname)

/-! ## Whole dates -/

/-- The parts of a written date, which single blanks keep apart. -/
def parts (seconds : Int) : List (List Char) :=
  let date := CivilDate.ofDays (seconds / 86400)
  [(dayNames.getD (seconds / 86400 % 7).toNat "").toList ++ [','], (padded 2 date.day).toList,
    (monthNames.getD (date.month - 1) "").toList, (yearText date.year).toList,
    (timeText (seconds % 86400).toNat).toList, ['G', 'M', 'T']]

theorem toList_toString (seconds : Int) :
    (toString seconds).toList = [' '].intercalate (parts seconds) := by
  simp [toString, parts, timeText, secondsPerDay, String.toList_append]

theorem splitOn_toString (seconds : Int) :
    (toString seconds).toList.splitOn ' ' = parts seconds := by
  rw [toList_toString]
  apply List.splitOn_intercalate
  · have hday : ∀ day, ' ' ∉ (dayNames.getD day "").toList :=
      forall_getD (P := fun name => ' ' ∉ name.toList) (by decide) (by decide)
    have hmonth : ∀ month, ' ' ∉ (monthNames.getD month "").toList :=
      forall_getD (P := fun name => ' ' ∉ name.toList) (by decide) (by decide)
    simp only [parts, List.forall_mem_cons, List.mem_append, not_or]
    exact ⟨⟨hday _, by decide⟩, not_mem_padded rfl, hmonth _, space_not_mem_yearText _,
      space_not_mem_timeText _, by decide, fun _ hpart => nomatch hpart⟩
  · exact List.cons_ne_nil _ _

/-- A written date is read as the second that it was written for, and the name of its day is the
right one. -/
theorem read?_toString (seconds : Int) : read? (toString seconds) = some seconds := by
  have hvalid := CivilDate.ofDays_isValid (seconds / 86400)
  have hdays := CivilDate.toDays_ofDays (seconds / 86400)
  obtain ⟨date, hdate⟩ : ∃ date, CivilDate.ofDays (seconds / 86400) = date := ⟨_, rfl⟩
  rw [hdate] at hvalid hdays
  have hday : date.day < 100 :=
    Nat.lt_of_le_of_lt (Nat.le_trans hvalid.day_le (CivilDate.monthLength_le _ _)) (by decide)
  have hsum : seconds / 86400 * 86400 + ((seconds % 86400).toNat : Int) = seconds := by omega
  rw [read?, splitOn_toString, parts, hdate]
  simp only [weekday?_dayNames, twoDigits?_padded hday, year?_yearText,
    month?_monthNames hvalid.one_le_month hvalid.month_le,
    time?_timeText (show (seconds % 86400).toNat < 86400 by omega), Option.bind_eq_bind,
    Option.bind_some, hdays, hsum, and_true, if_pos hvalid]

example : read? "Mon, 01 Jan 2024 01:00:00 GMT" = some 1704070800 := by decide

end GadgetGuard.HttpDate
