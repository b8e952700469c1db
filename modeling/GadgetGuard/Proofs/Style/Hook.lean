import GadgetGuard.Proofs.Style.Keyword
import GadgetGuard.Proofs.Style.Stretch
/-!
# Sanitized stylesheets run no script

A stretch between separators is dropped whole when it holds a hook, and no hook holds a
separator.  So no hook is left in what is kept, and none can come about where two kept stretches
meet, since the separator between them is kept with them.  The references that are routed
afterwards cut what is left into parts, and a part of it holds no more than it does.
-/

namespace GadgetGuard.Style

open GadgetGuard.Text

/-- The texts that let a stylesheet run script, letters in any case. -/
inductive IsHook : List Char → Prop
  | backslash : IsHook ['\\']
  | keyword {keyword : String} {word : List Char}
      (hkeyword : keyword ∈ ["behavior", "-moz-binding", "javascript:"])
      (hword : Spells keyword word) : IsHook word
  | expression {word blanks : List Char} (hword : Spells "expression" word)
      (hblanks : ∀ c ∈ blanks, isBlank c = true) : IsHook (word ++ blanks ++ ['('])

variable {hook text : List Char}

theorem IsHook.ne_nil (hhook : IsHook hook) : hook ≠ [] := by
  cases hhook with
  | backslash => exact List.cons_ne_nil _ _
  | keyword hkeyword hword =>
    refine hword.ne_nil ?_
    rintro hnil
    rw [String.toList_eq_nil_iff.1 hnil] at hkeyword
    exact absurd hkeyword (by decide)
  | expression hword hblanks => exact List.append_ne_nil_of_right_ne_nil _ (List.cons_ne_nil _ _)

theorem isSeparator_iff {c : Char} :
    isSeparator c = true ↔ c = ';' ∨ c = '\x7b' ∨ c = '\x7d' := by
  simp [isSeparator, or_assoc]

/-- A hook lies within one stretch. -/
theorem IsHook.not_mem {c : Char} (hhook : IsHook hook) (hc : isSeparator c = true) :
    c ∉ hook := by
  have hletters : ∀ keyword ∈ ["behavior", "-moz-binding", "javascript:", "expression"],
      foldLetter c ∉ keyword.toList := by
    rcases isSeparator_iff.1 hc with rfl | rfl | rfl <;> simp [foldLetter]
  have hplain : c ≠ '\\' ∧ c ≠ '(' ∧ isBlank c = false := by
    rcases isSeparator_iff.1 hc with rfl | rfl | rfl <;> decide
  obtain ⟨hbackslash, hparenthesis, hblank⟩ := hplain
  cases hhook with
  | backslash => exact fun hmem => hbackslash (List.mem_singleton.1 hmem)
  | keyword hkeyword hword =>
    exact hword.not_mem (hletters _ (List.mem_append_left ["expression"] hkeyword))
  | expression hword hblanks =>
    rw [List.mem_append, List.mem_append, List.mem_singleton]
    rintro ((hmem | hmem) | hmem)
    · exact hword.not_mem (hletters _ (by decide)) hmem
    · exact absurd (hblanks c hmem) (hblank ▸ Bool.false_ne_true)
    · exact hparenthesis hmem

theorem startsWithExpression_iff :
    startsWithExpression text = true ↔ ∃ word blanks, Spells "expression" word ∧
      (∀ c ∈ blanks, isBlank c = true) ∧ word ++ blanks ++ ['('] <+: text := by
  constructor
  · intro hstarts
    rw [startsWithExpression] at hstarts
    split at hstarts
    next rest hrest =>
      obtain ⟨word, hword, rfl⟩ := afterKeyword?_eq_some_iff.1 hrest
      obtain ⟨later, hlater⟩ := List.head?_eq_some_iff.1 (beq_iff_eq.1 hstarts)
      refine ⟨word, rest.takeWhile isBlank, hword, fun c => List.mem_takeWhile_imp, later, ?_⟩
      rw [List.append_assoc, List.append_assoc, List.singleton_append, ← hlater,
        List.takeWhile_append_dropWhile]
    · contradiction
  · rintro ⟨word, blanks, hword, hblanks, later, rfl⟩
    have hrest : afterKeyword? "expression".toList (word ++ blanks ++ ['('] ++ later) =
        some (blanks ++ '(' :: later) :=
      afterKeyword?_eq_some_iff.2 ⟨word, hword, by simp⟩
    rw [startsWithExpression, hrest]
    dsimp only
    rw [List.dropWhile_append_of_pos hblanks]
    rfl

theorem startsWithHook_iff :
    startsWithHook text = true ↔ ∃ hook, IsHook hook ∧ hook <+: text := by
  simp only [startsWithHook, Bool.or_eq_true, startsWithKeyword_iff, startsWithExpression_iff,
    beq_iff_eq, List.head?_eq_some_iff]
  constructor
  · rintro ((((⟨later, rfl⟩ | ⟨word, hword, hbegins⟩) | ⟨word, hword, hbegins⟩) |
      ⟨word, hword, hbegins⟩) | ⟨word, blanks, hword, hblanks, hbegins⟩)
    · exact ⟨_, .backslash, later, rfl⟩
    · exact ⟨word, .keyword (by decide) hword, hbegins⟩
    · exact ⟨word, .keyword (by decide) hword, hbegins⟩
    · exact ⟨word, .keyword (by decide) hword, hbegins⟩
    · exact ⟨_, .expression hword hblanks, hbegins⟩
  · rintro ⟨hook, hhook, hbegins⟩
    cases hhook with
    | backslash =>
      obtain ⟨later, hlater⟩ := hbegins
      exact .inl (.inl (.inl (.inl ⟨later, hlater.symm⟩)))
    | keyword hkeyword hword =>
      simp only [List.mem_cons, List.not_mem_nil, or_false] at hkeyword
      rcases hkeyword with rfl | rfl | rfl
      · exact .inl (.inl (.inl (.inr ⟨hook, hword, hbegins⟩)))
      · exact .inl (.inl (.inr ⟨hook, hword, hbegins⟩))
      · exact .inl (.inr ⟨hook, hword, hbegins⟩)
    | expression hword hblanks => exact .inr ⟨_, _, hword, hblanks, hbegins⟩

/-- The search finds a hook exactly where there is one. -/
theorem hasHook_iff : hasHook text = true ↔ ∃ hook, IsHook hook ∧ hook <:+: text := by
  induction text with
  | nil =>
    constructor
    · intro hhas
      contradiction
    · rintro ⟨hook, hhook, hwithin⟩
      exact absurd (List.eq_nil_of_infix_nil hwithin) hhook.ne_nil
  | cons c rest ih =>
    simp only [hasHook, Bool.or_eq_true, startsWithHook_iff, ih, List.infix_cons_iff, and_or_left,
      exists_or]

/-- What is kept of a stretch holds no hook. -/
theorem not_infix_kept {stretch : List Char} (hhook : IsHook hook) :
    ¬ hook <:+: (if hasHook stretch then [] else stretch) := by
  intro hwithin
  split at hwithin
  · exact hhook.ne_nil (List.eq_nil_of_infix_nil hwithin)
  next hnone => exact hnone (hasHook_iff.2 ⟨hook, hhook, hwithin⟩)

theorem isSeparator_of_dropWhile {separator : Char} {rest : List Char}
    (hrest : text.dropWhile (! isSeparator ·) = separator :: rest) :
    isSeparator separator = true := by
  have hhead := List.head?_dropWhile_not (! isSeparator ·) text
  rw [hrest] at hhead
  simpa using hhead

theorem not_infix_removeHooked (hhook : IsHook hook) : ¬ hook <:+: removeHooked text := by
  fun_induction removeHooked text with
  | case1 text stretch kept hrest => exact not_infix_kept hhook
  | case2 text stretch separator rest hrest hdropped ih => exact ih
  | case3 text stretch kept separator rest hrest hstays ih =>
    intro hwithin
    -- the separator stays, and no hook reaches over it
    have hmem := hhook.not_mem (isSeparator_of_dropWhile hrest)
    rcases infix_append_cons_of_not_mem hmem hwithin with hkept | hlater
    · exact not_infix_kept hhook hkept
    · exact ih hlater

/-- A text that is one stretch without a hook stays as it is. -/
theorem removeHooked_eq_self (hplain : ∀ c ∈ text, isSeparator c = false)
    (hnone : hasHook text = false) : removeHooked text = text := by
  have hstretch : text.takeWhile (! isSeparator ·) = text :=
    List.takeWhile_eq_self_iff.2 (by simpa using hplain)
  have hrest : text.dropWhile (! isSeparator ·) = [] :=
    List.dropWhile_eq_nil_iff.2 (by simpa using hplain)
  rw [removeHooked]
  split
  · rw [hstretch, hnone]
    rfl
  next separator rest hsome =>
    rw [hrest] at hsome
    contradiction

theorem kept_within (stretch : List Char) :
    (if hasHook stretch then [] else stretch) <:+: stretch := by
  split
  · exact List.nil_infix
  · exact List.infix_rfl

/-- What lies within one stretch and is left was there before. -/
theorem infix_of_infix_removeHooked {word : List Char}
    (hword : ∀ c, isSeparator c = true → c ∉ word) (hwithin : word <:+: removeHooked text) :
    word <:+: text := by
  fun_induction removeHooked text with
  | case1 text stretch kept hrest =>
    exact (hwithin.trans (kept_within stretch)).trans (List.takeWhile_prefix _).isInfix
  | case2 text stretch separator rest hrest hdropped ih =>
    have htext : separator :: rest <:+ text := hrest ▸ List.dropWhile_suffix _
    exact (ih hwithin).trans ((List.suffix_cons separator rest).trans htext).isInfix
  | case3 text stretch kept separator rest hrest hstays ih =>
    have htext : separator :: rest <:+ text := hrest ▸ List.dropWhile_suffix _
    have hmem := hword separator (isSeparator_of_dropWhile hrest)
    rcases infix_append_cons_of_not_mem hmem hwithin with hkept | hlater
    · exact (hkept.trans (kept_within stretch)).trans (List.takeWhile_prefix _).isInfix
    · exact (ih hlater).trans ((List.suffix_cons separator rest).trans htext).isInfix

/-- No keyword comes about when stretches are dropped, if it has no separators. -/
theorem occurs_of_removeHooked {keyword : String}
    (hletters : ∀ c, isSeparator c = true → foldLetter c ∉ keyword.toList)
    (hoccurs : Occurs keyword (removeHooked text)) : Occurs keyword text := by
  obtain ⟨word, hword, hwithin⟩ := hoccurs
  exact ⟨word, hword, infix_of_infix_removeHooked (fun c hc => hword.not_mem (hletters c hc))
    hwithin⟩

/-- Of a stylesheet the conservative sanitizer leaves stretches without markup and script hooks.
What it writes between them are links of the router, their quotes escaped. -/
theorem conservative_leaves_no_hook (css : String) (context : Url) (links : LinkRouter) :
    ∃ first references,
      (conservative css context links).value = .clean (written links context first references) ∧
        ∀ stretch ∈ first :: references.map Prod.snd,
          '<' ∉ stretch ∧ ∀ hook, IsHook hook → ¬ hook <:+: stretch := by
  obtain ⟨first, references, hvalue, hstretches⟩ := conservative_writes_stretches css context links
  refine ⟨first, references, hvalue, fun stretch hstretch => ⟨?_, ?_⟩⟩
  · exact fun hmem => not_mem_removeDangers css.toList ((hstretches stretch hstretch).subset hmem)
  · exact fun hook hhook hwithin =>
      not_infix_removeHooked hhook (hwithin.trans (hstretches stretch hstretch))

end GadgetGuard.Style
