import GadgetGuard.Proofs.Style.Hook
import GadgetGuard.Url.UriReference
/-!
# Imports that sanitized stylesheets keep

Imports are removed in one pass, and what stands before a removed import meets what stands behind
it.  An import survives only so: the start of its keyword stands right before an import that is
removed, and the end of the keyword right behind it.  Where no start of the keyword stands before
a whole one, none is left.
-/

namespace GadgetGuard.Style

/-- A keyword of an import stands right behind the start of another one. -/
def HasSplitImport (text : List Char) : Prop :=
  ∃ start word, start ≠ [] ∧ start.length < word.length ∧
    start.map foldLetter <+: "@import".toList ∧ Spells "@import" word ∧ start ++ word <:+: text

variable {text : List Char}

theorem HasSplitImport.of_infix {longer : List Char} (hsplit : HasSplitImport text)
    (htext : text <:+: longer) : HasSplitImport longer := by
  obtain ⟨start, word, hne, hlength, hstart, hword, hwithin⟩ := hsplit
  exact ⟨start, word, hne, hlength, hstart, hword, hwithin.trans htext⟩

/-- A text that could hide an import has the sign of two keywords. -/
theorem HasSplitImport.two_le_countP (hsplit : HasSplitImport text) :
    2 ≤ text.countP (foldLetter · == '@') := by
  obtain ⟨start, word, hne, -, hstart, hword, hwithin⟩ := hsplit
  obtain ⟨c, start, rfl⟩ := List.exists_cons_of_ne_nil hne
  obtain ⟨d, word, rfl, hfirst, -⟩ := List.map_eq_cons_iff.1 hword
  have hc : foldLetter c = '@' := (List.cons_prefix_cons.1 hstart).1
  have hd : foldLetter d = '@' := hfirst
  have hsigns : 2 ≤ ((c :: start) ++ d :: word).countP (foldLetter · == '@') := by
    simp only [List.countP_append, List.countP_cons, hc, hd, BEq.rfl, if_true]
    omega
  exact hsigns.trans hwithin.sublist.countP_le

theorem afterSemicolon_suffix (text : List Char) : afterSemicolon text <:+ text :=
  (List.drop_suffix 1 _).trans (List.dropWhile_suffix _)

/-- What the text without imports starts with is the start of the text, unless an import was
removed within it. -/
theorem prefix_of_prefix_removeImports {start : List Char} (hstart : start <+: removeImports text) :
    start <+: text ∨ ∃ before word, before <+: start ∧ before.length < start.length ∧
      Spells "@import" word ∧ before ++ word <+: text := by
  fun_induction removeImports text generalizing start with
  | case1 => exact .inl hstart
  | case2 c rest body hkeyword ih =>
    obtain ⟨word, hword, htext⟩ := afterKeyword?_eq_some_iff.1 hkeyword
    cases start with
    | nil => exact .inl List.nil_prefix
    | cons d start => exact .inr ⟨[], word, List.nil_prefix, by simp, hword, body, htext⟩
  | case3 c rest hkeyword ih =>
    rcases List.prefix_cons_iff.1 hstart with rfl | ⟨later, rfl, hlater⟩
    · exact .inl List.nil_prefix
    · rcases ih hlater with hkept | ⟨before, word, hbefore, hlength, hword, hremoved⟩
      · exact .inl (List.cons_prefix_cons.2 ⟨rfl, hkept⟩)
      · refine .inr ⟨c :: before, word, List.cons_prefix_cons.2 ⟨rfl, hbefore⟩, ?_, hword,
          List.cons_prefix_cons.2 ⟨rfl, hremoved⟩⟩
        simpa using hlength

theorem not_occurs_removeImports (hsplit : ¬ HasSplitImport text) :
    ¬ Occurs "@import" (removeImports text) := by
  rintro ⟨word, hword, hwithin⟩
  fun_induction removeImports text with
  | case1 => exact hword.ne_nil (by decide) (List.eq_nil_of_infix_nil hwithin)
  | case2 c rest body hkeyword ih =>
    have hlater := (afterSemicolon_suffix body).trans (afterKeyword?_suffix hkeyword)
    exact ih (fun hbody => hsplit (hbody.of_infix hlater.isInfix)) hwithin
  | case3 c rest hkeyword ih =>
    have hnone : ∀ word, Spells "@import" word → ¬ word <+: c :: rest := by
      rintro word hword ⟨later, htext⟩
      rw [afterKeyword?_eq_some_iff.2 ⟨word, hword, htext⟩] at hkeyword
      contradiction
    have hrest : removeImports (c :: rest) = c :: removeImports rest := by
      rw [removeImports]
      split
      next body hbody => exact absurd (hbody.symm.trans hkeyword) (Option.some_ne_none body)
      · rfl
    rcases List.infix_cons_iff.1 hwithin with hbegins | hlater
    · -- the keyword was not there before, so its start stood before an import
      rcases prefix_of_prefix_removeImports (hrest ▸ hbegins) with
        hkept | ⟨start, removed, hstart, hlength, hremoved, htext⟩
      · exact hnone word hword hkept
      · refine hsplit ⟨start, removed, ?_, ?_, hword ▸ hstart.map foldLetter, hremoved,
          htext.isInfix⟩
        · rintro rfl
          exact hnone removed hremoved htext
        · rw [hremoved.length_eq, ← hword.length_eq]
          exact hlength
    · exact ih (fun hlater => hsplit (hlater.of_infix (List.suffix_cons c rest).isInfix)) hlater

theorem Occurs.of_removeHooked (himport : Occurs "@import" (removeHooked text)) :
    Occurs "@import" text := by
  refine occurs_of_removeHooked (fun c hc => ?_) himport
  rcases isSeparator_iff.1 hc with rfl | rfl | rfl <;> simp [foldLetter]

/-- A text without imports stays as it is. -/
theorem removeImports_eq_self (hnone : ¬ Occurs "@import" text) : removeImports text = text := by
  fun_induction removeImports text with
  | case1 => rfl
  | case2 c rest body hkeyword ih =>
    obtain ⟨word, hword, htext⟩ := afterKeyword?_eq_some_iff.1 hkeyword
    exact absurd ⟨word, hword, [], body, htext⟩ hnone
  | case3 c rest hkeyword ih =>
    rw [ih fun hlater => hnone (hlater.of_infix (List.suffix_cons c rest).isInfix)]

/-- Without a keyword of an import behind the start of another one, the conservative sanitizer
leaves no import outside the references that it writes. -/
theorem conservative_leaves_no_import (css : String) (context : Url) (links : LinkRouter)
    (hsplit : ¬ HasSplitImport (removeComments (css.toList.filter (· != '<')))) :
    ∃ first references,
      (conservative css context links).value = .clean (written links context first references) ∧
        ∀ stretch ∈ first :: references.map Prod.snd, ¬ Occurs "@import" stretch := by
  obtain ⟨first, references, hvalue, hstretches⟩ := conservative_writes_stretches css context links
  refine ⟨first, references, hvalue, fun stretch hstretch himport => ?_⟩
  have hcleaned : Occurs "@import" (removeDangers css.toList) :=
    himport.of_infix (hstretches stretch hstretch)
  exact not_occurs_removeImports hsplit hcleaned.of_removeHooked

theorem conservative_leaves_no_import_rule :
    ¬ HasSplitImport (removeComments
        ("@import url(evil.css); p \x7b\x7d".toList.filter (· != '<'))) ∧
      ∃ first references,
        (conservative "@import url(evil.css); p \x7b\x7d" UriReference.trialBase
          fun link _ => pure link).value =
            .clean (written (fun link _ => pure link) UriReference.trialBase first references) ∧
          ∀ stretch ∈ first :: references.map Prod.snd, ¬ Occurs "@import" stretch := by
  have hsplit : ¬ HasSplitImport (removeComments
      ("@import url(evil.css); p \x7b\x7d".toList.filter (· != '<'))) := by
    intro hsplit
    have hsigns := hsplit.two_le_countP
    simp [removeComments, foldLetter] at hsigns
  exact ⟨hsplit, conservative_leaves_no_import _ _ _ hsplit⟩

/-- The removal of one import can make another one. -/
theorem removeDangers_joins_import :
    removeDangers "@im@import;port 'x.css'".toList = "@import 'x.css'".toList := by
  have hcomments : removeComments ("@im@import;port 'x.css'".toList.filter (· != '<')) =
      "@im@import;port 'x.css'".toList := by
    simp [removeComments]
  have himports : removeImports "@im@import;port 'x.css'".toList = "@import 'x.css'".toList := by
    simp [removeImports, afterKeyword?, foldLetter, afterSemicolon]
  rw [removeDangers, hcomments, himports]
  exact removeHooked_eq_self (by simp [isSeparator]) (by decide)

theorem conservative_leaves_joined_import :
    ¬ ∃ first references,
      (conservative "@im@import;port 'x.css'" UriReference.trialBase
        fun link _ => pure link).value =
          .clean (written (fun link _ => pure link) UriReference.trialBase first references) ∧
        ∀ stretch ∈ first :: references.map Prod.snd, ¬ Occurs "@import" stretch := by
  rintro ⟨first, references, hvalue, hnone⟩
  have hpieces : pieces "@import 'x.css'".toList = "@import 'x.css'".toList.map .plain := by
    simp [pieces, reference?, afterKeyword?, foldLetter]
  rw [conservative_value_eq, removeDangers_joins_import, hpieces, stretches_map_plain,
    Outcome.clean.injEq, written_nil, String.ofList_toList] at hvalue
  have hreferences : references = [] := by
    by_contra hsome
    have hmem := parenthesis_mem_written (fun link _ => pure link) UriReference.trialBase first
      hsome
    rw [← hvalue] at hmem
    exact absurd hmem (by simp)
  rw [hreferences, written_nil] at hvalue
  refine hnone first List.mem_cons_self ⟨"@import".toList, rfl, [], " 'x.css'".toList, ?_⟩
  rw [← String.toList_ofList (l := first), ← hvalue]
  simp

end GadgetGuard.Style
