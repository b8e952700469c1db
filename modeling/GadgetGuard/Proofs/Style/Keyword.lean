import Mathlib.Data.List.Infix
import GadgetGuard.Style.Keyword
/-!
# Keywords that occur in texts

A word spells a keyword if it folds to it, and a keyword occurs in a text if some word of the
text spells it.  Readers that look for a keyword at one place after the other find all of its
occurrences.  A character that no letter of the word is equal to separates occurrences: what lies
on one side of it is found on that side.
-/

namespace GadgetGuard.Style

/-- The word is the keyword, its letters in any case. -/
def Spells (keyword : String) (word : List Char) : Prop :=
  word.map foldLetter = keyword.toList

def Occurs (keyword : String) (text : List Char) : Prop :=
  ∃ word, Spells keyword word ∧ word <:+: text

variable {keyword : String} {word text rest : List Char}

theorem Spells.ne_nil (hword : Spells keyword word) (hkeyword : keyword.toList ≠ []) :
    word ≠ [] := by
  rintro rfl
  exact hkeyword hword.symm

theorem Spells.length_eq (hword : Spells keyword word) :
    word.length = keyword.toList.length := by
  rw [← hword, List.length_map]

/-- A word has no characters but those that fold to letters of its keyword. -/
theorem Spells.not_mem {c : Char} (hword : Spells keyword word)
    (hc : foldLetter c ∉ keyword.toList) : c ∉ word := by
  intro hmem
  have hfolded : foldLetter c ∈ word.map foldLetter := List.mem_map_of_mem hmem
  exact hc (hword ▸ hfolded)

theorem afterKeyword?_eq_some_iff {letters : List Char} :
    afterKeyword? letters text = some rest ↔
      ∃ word, word.map foldLetter = letters ∧ word ++ rest = text := by
  fun_induction afterKeyword? letters text with
  | case1 text =>
    constructor
    · intro hrest
      exact ⟨[], rfl, (Option.some.inj hrest).symm⟩
    · rintro ⟨word, hletters, htext⟩
      obtain rfl := List.map_eq_nil_iff.1 hletters
      exact congrArg some htext.symm
  | case2 k letters =>
    constructor
    · intro hrest
      contradiction
    · rintro ⟨word, hletters, htext⟩
      obtain ⟨rfl, -⟩ := List.append_eq_nil_iff.1 htext
      contradiction
  | case3 letters c text ih =>
    rw [ih]
    constructor
    · rintro ⟨word, rfl, rfl⟩
      exact ⟨c :: word, rfl, rfl⟩
    · rintro ⟨word, hletters, htext⟩
      obtain ⟨d, word, rfl, hfirst, hlater⟩ := List.map_eq_cons_iff.1 hletters
      exact ⟨word, hlater, (List.cons.inj htext).2⟩
  | case4 k letters c text hfold =>
    constructor
    · intro hrest
      contradiction
    · rintro ⟨word, hletters, htext⟩
      obtain ⟨d, word, rfl, hfirst, -⟩ := List.map_eq_cons_iff.1 hletters
      obtain rfl := (List.cons.inj htext).1
      exact absurd hfirst hfold

theorem startsWithKeyword_iff :
    startsWithKeyword keyword text = true ↔ ∃ word, Spells keyword word ∧ word <+: text := by
  rw [startsWithKeyword, Option.isSome_iff_exists]
  constructor
  · rintro ⟨rest, hrest⟩
    obtain ⟨word, hword, htext⟩ := afterKeyword?_eq_some_iff.1 hrest
    exact ⟨word, hword, rest, htext⟩
  · rintro ⟨word, hword, rest, htext⟩
    exact ⟨rest, afterKeyword?_eq_some_iff.2 ⟨word, hword, htext⟩⟩

theorem Occurs.of_infix {longer : List Char} (hoccurs : Occurs keyword text)
    (htext : text <:+: longer) : Occurs keyword longer := by
  obtain ⟨word, hword, hwithin⟩ := hoccurs
  exact ⟨word, hword, hwithin.trans htext⟩

/-- Every letter of a keyword that occurs is in the text, in one case or another. -/
theorem Occurs.exists_letter {letter : Char} (hoccurs : Occurs keyword text)
    (hletter : letter ∈ keyword.toList) : ∃ c ∈ text, foldLetter c = letter := by
  obtain ⟨word, hword, hwithin⟩ := hoccurs
  rw [← hword] at hletter
  obtain ⟨c, hc, hfold⟩ := List.mem_map.1 hletter
  exact ⟨c, hwithin.subset hc, hfold⟩

/-- A text lies on one side of every character that is not its own. -/
theorem infix_append_cons_of_not_mem {left right : List Char} {c : Char} (hword : c ∉ word)
    (hwithin : word <:+: left ++ c :: right) : word <:+: left ∨ word <:+: right := by
  rcases List.infix_append_iff.1 hwithin with hleft | hright | ⟨before, after, rfl, hbefore, hafter⟩
  · exact .inl hleft
  · rcases List.infix_cons_iff.1 hright with hbegins | hlater
    · rcases List.prefix_cons_iff.1 hbegins with rfl | ⟨later, rfl, -⟩
      · exact .inr (List.nil_infix)
      · exact absurd List.mem_cons_self hword
    · exact .inr hlater
  · rcases List.prefix_cons_iff.1 hafter with rfl | ⟨later, rfl, -⟩
    · rw [List.append_nil]
      exact .inl hbefore.isInfix
    · exact absurd (List.mem_append_right before List.mem_cons_self) hword

end GadgetGuard.Style
