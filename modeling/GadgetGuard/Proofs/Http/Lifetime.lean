import GadgetGuard.Proofs.Http.Date
import GadgetGuard.Proofs.Http.Header
import GadgetGuard.Proofs.Text.Utf8
/-!
# Stated lifetimes

What a response says about how long it may be kept replaces whatever it said before, in three
fields, and leaves all others alone.  The moment at which it is stale is the one at which its
lifetime is over, or the last one that dates reach, whichever comes first.
-/

namespace GadgetGuard

open GadgetGuard.Text

/-! ## Texts in field values -/

namespace Header

variable {text left right : List Char}

/-- All characters are visible ones of ASCII, or blanks. -/
def IsPlain (text : List Char) : Prop :=
  ∀ c ∈ text, 0x20 ≤ c.toNat ∧ c.toNat < 0x7F

instance (text : List Char) : Decidable (IsPlain text) :=
  List.decidableBAll _ text

theorem isPlain_append : IsPlain (left ++ right) ↔ IsPlain left ∧ IsPlain right :=
  List.forall_mem_append

theorem isPlain_of_digits (hdigits : ∀ c ∈ text, c.isDigit = true) : IsPlain text := by
  intro c hc
  have hdigit := hdigits c hc
  rw [Char.isDigit, Bool.and_eq_true, decide_eq_true_eq, decide_eq_true_eq] at hdigit
  have hlow : 48 ≤ c.toNat := hdigit.1
  have hhigh : c.toNat ≤ 57 := hdigit.2
  omega

theorem encodeUtf8_of_isPlain (hplain : IsPlain text) :
    encodeUtf8 text = text.map fun c => UInt8.ofNat c.toNat := by
  induction text with
  | nil => rfl
  | cons c rest ih =>
    obtain ⟨hc, hrest⟩ := List.forall_mem_cons.1 hplain
    have hone : String.utf8EncodeChar c = [UInt8.ofNat c.toNat] :=
      utf8EncodeChar_one (Nat.lt_trans hc.2 (by decide))
    have hsplit : encodeUtf8 (c :: rest) = String.utf8EncodeChar c ++ encodeUtf8 rest := rfl
    rw [hsplit, hone, ih hrest]
    rfl

theorem toNat_byte {c : Char} (hc : c.toNat < 0x7F) : (UInt8.ofNat c.toNat).toNat = c.toNat :=
  UInt8.toNat_ofNat_of_lt' (Nat.lt_trans hc (by decide))

theorem byte_bounds {c : Char} (hc : 0x20 ≤ c.toNat ∧ c.toNat < 0x7F) :
    0x20 ≤ UInt8.ofNat c.toNat ∧ UInt8.ofNat c.toNat < 0x7F := by
  rw [UInt8.le_iff_toNat_le, UInt8.lt_iff_toNat_lt, toNat_byte hc.2]
  exact hc

/-- A plain text is a value. -/
theorem valueOfText?_of_isPlain {text : String} (hplain : IsPlain text.toList) :
    valueOfText? text = some (asciiValue text) := by
  rw [valueOfText?, value?, asciiValue, if_pos]
  rw [encodeUtf8_of_isPlain hplain, List.all_map, List.all_eq_true]
  intro c hc
  obtain ⟨hlow, hhigh⟩ := byte_bounds (hplain c hc)
  have hne : UInt8.ofNat c.toNat ≠ 0x7F := UInt8.ne_of_lt hhigh
  simp [isValueByte, hlow, hne]

/-- A plain text is read back from its value. -/
theorem valueText?_of_isPlain {text : String} (hplain : IsPlain text.toList) :
    valueText? (asciiValue text) = some text := by
  have hchars : (text.toList.map fun c => UInt8.ofNat c.toNat).map
      (fun byte => Char.ofNat byte.toNat) = text.toList := by
    rw [List.map_map]
    refine (List.map_congr_left fun c hc => ?_).trans (List.map_id _)
    rw [Function.comp_apply, toNat_byte (hplain c hc).2, Char.ofNat_toNat]
    rfl
  rw [valueText?, asciiValue, encodeUtf8_of_isPlain hplain, if_pos, hchars, String.ofList_toList]
  rw [List.all_map, List.all_eq_true]
  intro c hc
  obtain ⟨hlow, hhigh⟩ := byte_bounds (hplain c hc)
  simp [hlow, hhigh]

end Header

namespace HttpDate

theorem isPlain_padded (width value : Nat) : Header.IsPlain (padded width value).toList :=
  Header.isPlain_of_digits fun _ => isDigit_of_mem_padded

theorem isPlain_yearText (year : Int) : Header.IsPlain (yearText year).toList := by
  rw [yearText]
  split
  · exact isPlain_padded 4 _
  · split
    · rw [String.toList_append, Header.isPlain_append]
      exact ⟨by decide, isPlain_padded 4 _⟩
    · rw [String.toList_append, Header.isPlain_append]
      exact ⟨by decide, isPlain_padded 4 _⟩

theorem isPlain_toString (seconds : Int) : Header.IsPlain (toString seconds).toList := by
  have hdays : ∀ day, Header.IsPlain (dayNames.getD day "").toList :=
    forall_getD (P := fun name => Header.IsPlain name.toList) (by decide) (by decide)
  have hmonths : ∀ month, Header.IsPlain (monthNames.getD month "").toList :=
    forall_getD (P := fun name => Header.IsPlain name.toList) (by decide) (by decide)
  simp only [toString, String.toList_append, Header.isPlain_append]
  simp only [hdays, hmonths, isPlain_padded, isPlain_yearText, true_and, and_true]
  decide

end HttpDate

/-! ## When something is stale -/

namespace Moment

/-- Dates reach the second. -/
def IsReached (moment : Moment) : Prop :=
  HttpDate.earliest ≤ moment.seconds ∧ moment.seconds ≤ HttpDate.latest

/-- The nanoseconds since the beginning of 1970.  A leap second adds none, as it is left by going
on. -/
def total (moment : Moment) : Int :=
  moment.seconds * nanosecondsPerSecond + (moment.nanoseconds % nanosecondsPerSecond : Nat)

theorem min_total_div {moment : Moment} (seconds : Nat) :
    min (moment.total + seconds * nanosecondsPerSecond) latest.total / nanosecondsPerSecond =
      min (moment.seconds + seconds) HttpDate.latest := by
  have hlt : moment.nanoseconds % nanosecondsPerSecond < 1000000000 := Nat.mod_lt _ (by decide)
  have hlatest : latest.total = HttpDate.latest * 1000000000 + 999999999 := rfl
  have hscale : (nanosecondsPerSecond : Int) = 1000000000 := rfl
  rw [hlatest, total, hscale]
  omega

end Moment

namespace Headers

variable {headers : Headers} {now : Moment} {seconds : Nat}

/-- The seconds are added if dates reach that far, and otherwise it is the last moment. -/
theorem staleAt_seconds (hnow : now.IsReached) :
    (staleAt now seconds).seconds = min (now.seconds + seconds) HttpDate.latest := by
  obtain ⟨hlow, hhigh⟩ := hnow
  have hinteger : maxInteger = 9223372036854775807 := rfl
  rw [staleAt, span?, longestSpan]
  split
  next hspan =>
    have hlower : HttpDate.earliest ≤ now.seconds + seconds := by omega
    rw [Option.bind_some, Moment.after?]
    by_cases hupper : now.seconds + seconds ≤ HttpDate.latest
    · rw [if_pos ⟨hlower, hupper⟩]
      exact (min_eq_left hupper).symm
    · rw [if_neg fun hreached => hupper hreached.2]
      exact (min_eq_right (Int.le_of_not_le hupper)).symm
  next hspan =>
    have hlatest : HttpDate.latest = 8210266876799 := rfl
    have hearliest : HttpDate.earliest = -8334601228800 := rfl
    have hbeyond : HttpDate.latest < now.seconds + seconds := by omega
    exact (min_eq_right hbeyond.le).symm

/-- The nanoseconds do not matter for what is stated. -/
theorem withLifetimeFrom_eq (headers : Headers) (now : Moment) (seconds : Nat) :
    headers.withLifetimeFrom now seconds = headers.withLifetime seconds now.seconds := by
  have hstale : (staleAt now seconds).seconds = (staleAt ⟨now.seconds, 0⟩ seconds).seconds := by
    rw [staleAt, staleAt]
    cases span? seconds with
    | none => rfl
    | some span =>
      rw [Option.bind_some, Option.bind_some, Moment.after?, Moment.after?]
      split <;> rfl
  rw [withLifetime, withLifetimeFrom, withLifetimeFrom, hstale]

/-! ## The fields -/

theorem insertText_of_isPlain {name text : String} (hplain : Header.IsPlain text.toList) :
    headers.insertText name text = headers.insert name (Header.asciiValue text) := by
  rw [insertText, Header.valueOfText?_of_isPlain hplain]

theorem isPlain_maxAge (seconds : Nat) :
    Header.IsPlain ("public,max-age=" ++ Nat.repr seconds).toList := by
  rw [String.toList_append, Header.isPlain_append, Nat.toList_repr]
  exact ⟨by decide, Header.isPlain_of_digits fun c hc =>
    Nat.isDigit_of_mem_toDigits (by decide) (by decide) hc⟩

/-- Both texts are values, so neither field is left out. -/
theorem withLifetimeFrom_of_pos (headers : Headers) (now : Moment) (hseconds : 0 < seconds) :
    headers.withLifetimeFrom now seconds =
      ((headers.insert "cache-control"
        (Header.asciiValue ("public,max-age=" ++ Nat.repr seconds))).insert
        "expires" (Header.asciiValue (HttpDate.toString (staleAt now seconds).seconds))).erase
        "pragma" := by
  rw [withLifetimeFrom, if_neg (Nat.ne_of_gt hseconds), insertText_of_isPlain (isPlain_maxAge _),
    insertText_of_isPlain (HttpDate.isPlain_toString _)]

theorem getAll_expires_of_pos (hseconds : 0 < seconds) :
    (headers.withLifetimeFrom now seconds).getAll "expires" =
      [Header.asciiValue (HttpDate.toString (staleAt now seconds).seconds)] := by
  rw [withLifetimeFrom_of_pos headers now hseconds, getAll_erase_of_ne (by decide),
    getAll_insert_self]

/-- The second that the expiry of a response is stated to be. -/
def expiry? (headers : Headers) : Option Int :=
  (headers.text? "expires").bind HttpDate.read?

theorem expiry?_of_pos (hnow : now.IsReached) (hseconds : 0 < seconds) :
    (headers.withLifetimeFrom now seconds).expiry? =
      some (min (now.seconds + seconds) HttpDate.latest) := by
  rw [expiry?, text?, get?_eq_head?, getAll_expires_of_pos hseconds, List.head?_cons,
    Option.bind_some, Header.valueText?_of_isPlain (HttpDate.isPlain_toString _), Option.bind_some,
    HttpDate.read?_toString, staleAt_seconds hnow]

/-- Whatever a response said before, afterwards it states its lifetime once, by its length and by
its end, and it has a pragma exactly if the lifetime is zero.  The end is written with the right
name of its day; it is the moment at which the lifetime is over, or the last one that dates reach,
cut to a second, and a longer lifetime does not end earlier. -/
theorem withLifetimeFrom_states_lifetime (headers : Headers) (now : Moment) (hnow : now.IsReached)
    (seconds : Nat) :
    (headers.withLifetimeFrom now seconds).getAll "cache-control" =
      [Header.asciiValue
        (if seconds = 0 then "no-cache" else "public,max-age=" ++ Nat.repr seconds)] ∧
    (headers.withLifetimeFrom now seconds).getAll "pragma" =
      (if seconds = 0 then [Header.asciiValue "no-cache"] else []) ∧
    (∃ text, (headers.withLifetimeFrom now seconds).getAll "expires" = [Header.asciiValue text] ∧
      Header.valueText? (Header.asciiValue text) = some text ∧
      (seconds = 0 → text = "Thu, 01 Jan 1970 00:00:00 GMT") ∧
      (0 < seconds → HttpDate.read? text =
        some (min (now.total + seconds * Moment.nanosecondsPerSecond) Moment.latest.total /
          Moment.nanosecondsPerSecond))) ∧
    (∀ name, name ≠ "cache-control" → name ≠ "pragma" → name ≠ "expires" →
      (headers.withLifetimeFrom now seconds).getAll name = headers.getAll name) ∧
    (∀ more, 0 < seconds → seconds ≤ more → ∃ earlier later,
      (headers.withLifetimeFrom now seconds).expiry? = some earlier ∧
      (headers.withLifetimeFrom now more).expiry? = some later ∧ earlier ≤ later) := by
  refine ⟨?_, ?_, ?_, fun _ => getAll_withLifetimeFrom, ?_⟩
  · rcases Nat.eq_zero_or_pos seconds with rfl | hseconds
    · rw [withLifetimeFrom, if_pos rfl, getAll_insert_of_ne (by decide),
        getAll_insert_of_ne (by decide), getAll_insert_self, if_pos rfl]
    · rw [withLifetimeFrom_of_pos headers now hseconds, getAll_erase_of_ne (by decide),
        getAll_insert_of_ne (by decide), getAll_insert_self, if_neg (Nat.ne_of_gt hseconds)]
  · rcases Nat.eq_zero_or_pos seconds with rfl | hseconds
    · rw [withLifetimeFrom, if_pos rfl, getAll_insert_of_ne (by decide), getAll_insert_self,
        if_pos rfl]
    · rw [withLifetimeFrom_of_pos headers now hseconds, getAll_erase_self,
        if_neg (Nat.ne_of_gt hseconds)]
  · rcases Nat.eq_zero_or_pos seconds with rfl | hseconds
    · refine ⟨"Thu, 01 Jan 1970 00:00:00 GMT", ?_, Header.valueText?_of_isPlain (by decide),
        fun _ => rfl, fun hpositive => absurd hpositive (Nat.lt_irrefl 0)⟩
      rw [withLifetimeFrom, if_pos rfl, getAll_insert_self]
    · refine ⟨_, getAll_expires_of_pos hseconds,
        Header.valueText?_of_isPlain (HttpDate.isPlain_toString _),
        fun hzero => absurd hzero (Nat.ne_of_gt hseconds), fun _ => ?_⟩
      rw [HttpDate.read?_toString, staleAt_seconds hnow, Moment.min_total_div]
  · intro more hseconds hmore
    refine ⟨_, _, expiry?_of_pos hnow hseconds,
      expiry?_of_pos hnow (Nat.lt_of_lt_of_le hseconds hmore), ?_⟩
    omega

/-- An hour from half a second into the year 2024, in place of what was stated before. -/
theorem withLifetimeFrom_states_lifetime_hour :
    (⟨1704067200, 500000000⟩ : Moment).IsReached ∧
      ∃ stated, stated = (Headers.mk [("cache-control", [0x61]), ("pragma", [0x62]),
          ("cache-control", [0x63])]).withLifetimeFrom ⟨1704067200, 500000000⟩ 3600 ∧
        stated.getAll "cache-control" = [Header.asciiValue "public,max-age=3600"] ∧
        stated.getAll "pragma" = [] ∧
        ∃ text, stated.getAll "expires" = [Header.asciiValue text] ∧
          HttpDate.read? text = some 1704070800 := by
  have hreached : (⟨1704067200, 500000000⟩ : Moment).IsReached := ⟨by decide, by decide⟩
  obtain ⟨hcache, hpragma, ⟨text, hexpires, -, -, hread⟩, -, -⟩ :=
    withLifetimeFrom_states_lifetime (Headers.mk [("cache-control", [0x61]), ("pragma", [0x62]),
      ("cache-control", [0x63])]) ⟨1704067200, 500000000⟩ hreached 3600
  exact ⟨hreached, _, rfl, hcache, hpragma, text, hexpires, hread (by decide)⟩

end Headers

end GadgetGuard
