import GadgetGuard.Proofs.Text.Cut
import GadgetGuard.Text.Blank
import GadgetGuard.Text.Number
/-!
# Reading back written numbers

A number that is written in decimal digits is read back as it was, with or without the blanks
around it cut off.
-/

namespace GadgetGuard.Text

theorem isBlank_eq_false_of_isDigit {c : Char} (hdigit : c.isDigit = true) : isBlank c = false := by
  rw [Char.isDigit, Bool.and_eq_true, decide_eq_true_eq, decide_eq_true_eq] at hdigit
  have hlow : 48 ≤ c.toNat := hdigit.1
  have hhigh : c.toNat ≤ 57 := hdigit.2
  simp only [isBlank, Bool.or_eq_false_iff, Bool.and_eq_false_iff, decide_eq_false_iff_not,
    beq_eq_false_iff_ne]
  omega

theorem decimalValue_eq_ofDigitChars (digits : List Char) :
    decimalValue digits = Nat.ofDigitChars 10 digits 0 := by
  rw [decimalValue, Nat.ofDigitChars]
  congr 1
  funext value c
  rw [Nat.mul_comm]
  rfl

theorem digits?_repr (n : Nat) : digits? (Nat.repr n).toList = some n := by
  have hdigits : (Nat.toDigits 10 n).all Char.isDigit = true := by
    rw [List.all_eq_true]
    intro c hc
    exact Nat.isDigit_of_mem_toDigits (by decide) (by decide) hc
  rw [digits?, Nat.toList_repr, hdigits, decimalValue_eq_ofDigitChars,
    Nat.ofDigitChars_toDigits (by decide) (by decide)]
  simp [Nat.toDigits_ne_nil]

/-- What is written in digits is read as the number that it was. -/
theorem natural?_repr {limit n : Nat} (hlimit : n ≤ limit) :
    natural? limit (Nat.repr n).toList = some n := by
  have hread := digits?_repr n
  unfold natural?
  split
  next rest hplus =>
    rw [hplus] at hread
    simp [digits?] at hread
  · rw [hread]
    simp [hlimit]

theorem trimBlanks_repr (n : Nat) : trimBlanks (Nat.repr n).toList = (Nat.repr n).toList := by
  apply trim_eq_self
  intro c hc
  rw [Nat.toList_repr] at hc
  exact isBlank_eq_false_of_isDigit (Nat.isDigit_of_mem_toDigits (by decide) (by decide) hc)

end GadgetGuard.Text
