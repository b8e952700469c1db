/-!
# Punycode

A label with letters beyond ASCII is written as its ASCII letters, a hyphen, and the other
letters as a chain of differences in a number system whose digits are weighted by position
and by what was written before.
-/

namespace GadgetGuard.Punycode

def digitChar (digit : Nat) : Char :=
  if digit < 26 then Char.ofNat (97 + digit) else Char.ofNat (22 + digit)

def digitValue? (c : Char) : Option Nat :=
  let n := c.toNat
  if 97 ≤ n ∧ n ≤ 122 then some (n - 97)
  else if 65 ≤ n ∧ n ≤ 90 then some (n - 65)
  else if 48 ≤ n ∧ n ≤ 57 then some (n - 22)
  else none

/-- The least digit that is not the last one, at a position counted in steps of 36. -/
def threshold (position bias : Nat) : Nat :=
  if position ≤ bias then 1 else if bias + 26 ≤ position then 26 else position - bias

theorem threshold_pos (position bias : Nat) : 1 ≤ threshold position bias := by
  unfold threshold
  split
  · exact Nat.le_refl 1
  · split <;> omega

/-- Scales a difference down to the size that the bias is computed from, and adds 36 for
each step. -/
def scale (delta offset : Nat) : Nat × Nat :=
  if 455 < delta then scale (delta / 35) (offset + 36) else (delta, offset)
termination_by delta
decreasing_by exact Nat.div_lt_self (by omega) (by omega)

/-- The bias after a difference was written as the given number of characters is known. -/
def adapt (delta count : Nat) (isFirst : Bool) : Nat :=
  let halved := if isFirst then delta / 700 else delta / 2
  let (scaled, offset) := scale (halved + halved / count) 0
  offset + 36 * scaled / (scaled + 38)

/-- Writes one difference. -/
def encodeDifference (bias position value : Nat) : List Char :=
  let least := threshold position bias
  if value < least then [digitChar value]
  else
    digitChar (least + (value - least) % (36 - least)) ::
      encodeDifference bias (position + 36) ((value - least) / (36 - least))
termination_by value
decreasing_by
  have hpos := threshold_pos position bias
  have hdiv := Nat.div_le_self (value - threshold position bias)
    (36 - threshold position bias)
  omega

/-- What the encoder carries from one character to the next. -/
structure Progress where
  output : List Char
  delta : Nat
  bias : Nat
  handled : Nat

/-- Counts a character below the current code point and writes the current one. -/
def Progress.visit (basic current : Nat) (progress : Progress) (c : Char) : Progress :=
  if c.toNat < current then { progress with delta := progress.delta + 1 }
  else if c.toNat = current then
    { output := progress.output ++ encodeDifference progress.bias 36 progress.delta
      delta := 0
      bias := adapt progress.delta (progress.handled + 1) (progress.handled == basic)
      handled := progress.handled + 1 }
  else progress

/-- Handles the code points beyond ASCII in ascending order. -/
def encodeFrom (label : List Char) (basic : Nat) : List Nat → Nat → Progress → Progress
  | [], _, progress => progress
  | current :: later, reached, progress =>
    let delta := progress.delta + (current - reached) * (progress.handled + 1)
    let next := label.foldl (Progress.visit basic current) { progress with delta := delta }
    encodeFrom label basic later (current + 1) { next with delta := next.delta + 1 }

def encode (label : List Char) : List Char :=
  let basic := label.filter (·.toNat < 128)
  let others := ((label.filter (128 ≤ ·.toNat)).map Char.toNat).mergeSort (· ≤ ·)
  let start : Progress := ⟨[], 0, 72, basic.length⟩
  basic ++ (if basic.isEmpty then [] else ['-']) ++
    (encodeFrom label basic.length others.eraseDups 128 start).output

/-- Reads one difference and adds it to `index`. -/
def decodeDifference (bias : Nat) : List Char → Nat → Nat → Nat → Option (Nat × List Char)
  | [], _, _, _ => none
  | c :: text, position, weight, index =>
    match digitValue? c with
    | none => none
    | some digit =>
      let least := threshold position bias
      if digit < least then some (index + digit * weight, text)
      else decodeDifference bias text (position + 36) (weight * (36 - least))
        (index + digit * weight)

theorem decodeDifference_length {bias : Nat} {text : List Char} {position weight index : Nat}
    {result : Nat × List Char}
    (h : decodeDifference bias text position weight index = some result) :
    result.2.length < text.length := by
  induction text generalizing position weight index with
  | nil => simp [decodeDifference] at h
  | cons c text ih =>
    rw [decodeDifference] at h
    split at h
    · simp at h
    · simp only at h
      split at h
      · obtain rfl := Option.some.inj h
        simp
      · have := ih h
        simp only [List.length_cons]
        omega

/-- Inserts the characters that the differences name, one after the other. -/
def decodeFrom (bias reached index : Nat) (output text : List Char) : Option (List Char) :=
  match text with
  | [] => some output
  | c :: rest =>
    match _hread : decodeDifference bias (c :: rest) 36 1 index with
    | none => none
    | some (total, later) =>
      let count := output.length + 1
      let code := reached + total / count
      if code.isValidChar then
        decodeFrom (adapt (total - index) count (index == 0)) code (total % count + 1)
          (output.insertIdx (total % count) (Char.ofNat code)) later
      else none
termination_by text.length
decreasing_by exact decodeDifference_length _hread

/-- Reads what follows the `xn--` of a label. -/
def decode? (text : List Char) : Option (List Char) :=
  match text.reverse.span (· != '-') with
  | (_, []) => decodeFrom 72 128 0 [] text
  | (reversed, _ :: basic) => decodeFrom 72 128 0 basic.reverse reversed.reverse

end GadgetGuard.Punycode
