import Mathlib
import GadgetGuard.Text.Ascii
/-!
# Folding the case of ASCII letters

Folding moves the 26 capital letters and nothing else.  What it makes of a text is folded
already, and a text is made of letters, digits and hyphens exactly if its folded form is.
-/

namespace GadgetGuard.Text

/-- A property of all ASCII characters, checked one by one. -/
theorem forall_ascii {P : Char → Prop} (hall : ∀ n < 128, P (Char.ofNat n)) (c : Char)
    (hc : c.toNat < 128) : P c := by
  have hchecked := hall c.toNat hc
  rwa [Char.ofNat_toNat] at hchecked

theorem lt_of_isAlphanum {c : Char} (hc : c.isAlphanum = true) : c.toNat < 128 := by
  have hbounds : 'Z'.val.toNat = 90 ∧ 'z'.val.toNat = 122 ∧ '9'.val.toNat = 57 := ⟨rfl, rfl, rfl⟩
  have hnumber : c.toNat = c.val.toNat := rfl
  simp only [Char.isAlphanum, Char.isAlpha, Char.isUpper, Char.isLower, Char.isDigit,
    Bool.or_eq_true, Bool.and_eq_true, decide_eq_true_eq, ge_iff_le,
    UInt32.le_iff_toNat_le] at hc
  omega

theorem toList_lower (text : String) : (lower text).toList = text.toList.map Char.toLower :=
  String.toList_map

@[simp]
theorem lower_lower (text : String) : lower (lower text) = lower text := by
  rw [← String.toList_inj, toList_lower, toList_lower, List.map_map]
  congr 1
  funext c
  exact Char.toLower_toLower_eq_toLower c

theorem lower_ofList (text : List Char) :
    lower (String.ofList text) = String.ofList (text.map Char.toLower) := by
  rw [← String.toList_inj, toList_lower, String.toList_ofList, String.toList_ofList]

theorem lower_eq_self {text : String} (hlower : ∀ c ∈ text.toList, c.toLower = c) :
    lower text = text := by
  rw [← String.toList_inj, toList_lower, List.map_congr_left hlower, List.map_id']

/-- Folding makes letters of letters only. -/
theorem eq_of_toLower_eq {c d : Char} (hd : d.isAlpha = false) (hcase : c.toLower = d) : c = d := by
  have hc : c.isAlpha = false := by rw [← Char.isAlpha_toLower_eq_isAlpha, hcase, hd]
  rw [Char.isAlpha, Bool.or_eq_false_iff] at hc
  rwa [Char.toLower_eq_of_not_isUpper (Bool.not_eq_true _ ▸ hc.1)] at hcase

/-- Characters of names that need no quoting anywhere: letters, digits and hyphens. -/
def isNameCharacter (c : Char) : Bool :=
  c.isAlphanum || c == '-'

/-- Folding takes no other character into a name. -/
theorem isNameCharacter_toLower (c : Char) :
    isNameCharacter c.toLower = isNameCharacter c := by
  by_cases hcapital : c.isUpper
  · have hletter : c.isAlpha = true := by
      rw [Char.isAlpha, hcapital, Bool.true_or]
    rw [isNameCharacter, isNameCharacter, Char.isAlphanum, Char.isAlphanum,
      Char.isAlpha_toLower_eq_isAlpha, hletter, Bool.true_or, Bool.true_or, Bool.true_or,
      Bool.true_or]
  · rw [Char.toLower_eq_of_not_isUpper hcapital]

/-- A name without any character that has a meaning in markup. -/
def IsPlainName (name : String) : Prop :=
  name ≠ "" ∧ ∀ c ∈ name.toList, isNameCharacter c = true

theorem isPlainName_lower {name : String} : IsPlainName (lower name) ↔ IsPlainName name := by
  have hempty : lower name = "" ↔ name = "" := by
    rw [← String.toList_inj, ← String.toList_inj, toList_lower]
    exact List.map_eq_nil_iff
  rw [IsPlainName, IsPlainName, ne_eq, hempty, toList_lower, List.forall_mem_map]
  simp only [isNameCharacter_toLower]

theorem IsPlainName.not_mem {name : String} {c : Char} (hname : IsPlainName name)
    (hc : isNameCharacter c = false) : c ∉ name.toList := by
  intro hmem
  rw [hname.2 c hmem] at hc
  contradiction

end GadgetGuard.Text
