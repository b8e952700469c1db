import GadgetGuard.Proofs.Style.Stretch
import GadgetGuard.Proofs.Style.Hook
import GadgetGuard.Url.UriReference
/-!
# References that sanitized stylesheets keep

A character is written as it is, and a reference around a link of the router.  What is written
for a reference starts with the first letter of its keyword and ends with a parenthesis, so a
keyword in the written text lies within one written reference or among the characters between
them.  Characters are left between references only where no reference could be read, and one can
be read wherever a parenthesis follows the keyword.
-/

namespace GadgetGuard.Style

open GadgetGuard.Text

variable {links : LinkRouter} {context : Url} {text word before after : List Char}
variable {list : List Piece}

/-- The word that stands behind `before` in a written stylesheet lies in one of the references
that were written. -/
def LiesInReference (links : LinkRouter) (context : Url) (list : List Piece)
    (before word : List Char) : Prop :=
  ∃ earlier link later start rest, list = earlier ++ .reference link :: later ∧
    before = writtenPieces links context earlier ++ start ∧
    (Piece.reference link).written links context = start ++ word ++ rest

theorem writtenPieces_map_plain (text : List Char) :
    writtenPieces links context (text.map .plain) = text := by
  rw [writtenPieces, List.flatMap_map]
  exact List.flatMap_singleton' text

/-! ## Reading references -/

theorem bareLink?_eq_none_iff : bareLink? text = none ↔ ')' ∉ text := by
  rw [bareLink?]
  split
  next hdrop =>
    rw [List.dropWhile_eq_nil_iff] at hdrop
    simpa using fun hmem => hdrop ')' hmem
  next c later hdrop =>
    have hhead := List.head?_dropWhile_not (· != ')') text
    rw [hdrop] at hhead
    have hmem : c ∈ text := (List.dropWhile_sublist _).subset (hdrop ▸ List.mem_cons_self)
    simp_all

theorem parenthesis_mem_of_quotedLink? {quote : Char} {result : List Char × List Char}
    (hlink : quotedLink? quote text = some result) : ')' ∈ text := by
  unfold quotedLink? at hlink
  split at hlink
  · contradiction
  next c rest hdrop =>
    split at hlink
    next later hblank =>
      have hrest : ')' ∈ rest := (List.dropWhile_sublist _).subset (hblank ▸ List.mem_cons_self)
      exact (List.dropWhile_sublist _).subset (hdrop ▸ List.mem_cons_of_mem c hrest)
    · contradiction

/-- A link can be read wherever a parenthesis follows. -/
theorem readLink?_eq_none_iff : readLink? text = none ↔ ')' ∉ text := by
  have hbody : ')' ∈ text.dropWhile isBlank ↔ ')' ∈ text := by
    refine ⟨fun hmem => (List.dropWhile_sublist _).subset hmem, fun hmem => ?_⟩
    rw [← List.takeWhile_append_dropWhile (p := isBlank) (l := text), List.mem_append] at hmem
    refine hmem.resolve_left fun hblank => ?_
    exact absurd (List.mem_takeWhile_imp hblank) (by decide)
  have hquoted : ∀ quote rest, text.dropWhile isBlank = quote :: rest →
      ((quotedLink? quote rest).or (bareLink? (text.dropWhile isBlank)) = none ↔ ')' ∉ text) := by
    intro quote rest hrest
    rw [Option.or_eq_none_iff, bareLink?_eq_none_iff, hbody, and_iff_right_iff_imp]
    intro hnone
    rw [Option.eq_none_iff_forall_ne_some]
    intro result hlink
    have hmem := List.mem_cons_of_mem quote (parenthesis_mem_of_quotedLink? hlink)
    exact hnone (hbody.1 (hrest ▸ hmem))
  rw [readLink?]
  split
  next rest hrest => exact hquoted '"' rest hrest
  next rest hrest => exact hquoted '\'' rest hrest
  · rw [bareLink?_eq_none_iff, hbody]

theorem reference?_eq_none_iff : reference? text = none ↔
    ∀ word rest, Spells "url(" word → text = word ++ rest → ')' ∉ rest := by
  rw [reference?, Option.bind_eq_none_iff]
  constructor
  · intro hnone word rest hword htext
    exact readLink?_eq_none_iff.1
      (hnone rest (afterKeyword?_eq_some_iff.2 ⟨word, hword, htext.symm⟩))
  · intro hnone rest hkeyword
    obtain ⟨word, hword, htext⟩ := afterKeyword?_eq_some_iff.1 hkeyword
    exact readLink?_eq_none_iff.2 (hnone word rest hword htext.symm)

theorem pieces_of_reference {c : Char} {rest link later : List Char}
    (hreference : reference? (c :: rest) = some (link, later)) :
    pieces (c :: rest) = .reference link :: pieces later := by
  rw [pieces]
  split
  next link' later' hread =>
    obtain ⟨rfl, rfl⟩ := Prod.mk.inj (Option.some.inj (hread.symm.trans hreference))
    rfl
  next hread => exact absurd (hreference.symm.trans hread) (Option.some_ne_none _)

theorem pieces_of_none {c : Char} {rest : List Char} (hreference : reference? (c :: rest) = none) :
    pieces (c :: rest) = .plain c :: pieces rest := by
  rw [pieces]
  split
  next link later hread => exact absurd (hread.symm.trans hreference) (Option.some_ne_none _)
  · rfl

/-- A text in which no reference can be read is cut into its characters. -/
theorem pieces_eq_map_plain (hnone : ∀ rest, rest <:+ text → reference? rest = none) :
    pieces text = text.map .plain := by
  induction text with
  | nil => rw [pieces, List.map_nil]
  | cons c text ih =>
    have hrest : ∀ rest, rest <:+ text → reference? rest = none :=
      fun rest hsuffix => hnone rest (hsuffix.trans (List.suffix_cons c text))
    rw [pieces_of_none (hnone _ List.suffix_rfl), ih hrest, List.map_cons]

theorem pieces_of_not_mem (hparenthesis : ')' ∉ text) : pieces text = text.map .plain := by
  refine pieces_eq_map_plain fun rest hsuffix => reference?_eq_none_iff.2 ?_
  rintro word later - rfl hmem
  exact hparenthesis (hsuffix.subset (List.mem_append_right word hmem))

/-! ## Keywords in the written text -/

theorem exists_written_reference (links : LinkRouter) (context : Url) (link : List Char) :
    ∃ inside, (Piece.reference link).written links context = 'u' :: inside ++ [')'] := by
  refine ⟨"rl(\"".toList ++ (escapeQuotes (links (String.ofList link) context).value).toList ++
    ['"'], ?_⟩
  simp [Piece.written, referenceText]

/-- What is written without the first letter of a reference is written for characters alone. -/
theorem eq_map_plain_of_not_mem (hletter : 'u' ∉ writtenPieces links context list) :
    list = (writtenPieces links context list).map .plain := by
  induction list with
  | nil => rfl
  | cons piece list ih =>
    rw [writtenPieces, List.flatMap_cons, List.mem_append, not_or] at hletter
    cases piece with
    | plain c => exact congrArg (.plain c :: ·) (ih hletter.2)
    | reference link =>
      obtain ⟨inside, hlink⟩ := exists_written_reference links context link
      exact absurd (hlink ▸ List.mem_cons_self) hletter.1

theorem LiesInReference.parenthesis_mem (hlies : LiesInReference links context list before word) :
    ')' ∈ writtenPieces links context list := by
  obtain ⟨earlier, link, later, start, rest, rfl, -, -⟩ := hlies
  obtain ⟨inside, hwritten⟩ := exists_written_reference links context link
  refine List.mem_flatMap.2 ⟨.reference link, by simp, ?_⟩
  rw [hwritten]
  simp

theorem LiesInReference.cons (hlies : LiesInReference links context list before word)
    (piece : Piece) : LiesInReference links context (piece :: list)
      (piece.written links context ++ before) word := by
  obtain ⟨earlier, link, later, start, rest, rfl, rfl, hwritten⟩ := hlies
  refine ⟨piece :: earlier, link, later, start, rest, rfl, ?_, hwritten⟩
  rw [writtenPieces, writtenPieces, List.flatMap_cons, List.append_assoc]

/-- What is written without the first letter of a reference was in the text before. -/
theorem exists_text_of_written (hword : 'u' ∉ word)
    (hwritten : writtenPieces links context (pieces text) = word ++ after) :
    ∃ rest, text = word ++ rest ∧ writtenPieces links context (pieces rest) = after := by
  induction word generalizing text with
  | nil => exact ⟨text, rfl, hwritten⟩
  | cons d word ih =>
    cases text with
    | nil =>
      rw [pieces] at hwritten
      contradiction
    | cons c text =>
      cases hreference : reference? (c :: text) with
      | some read =>
        obtain ⟨inside, hfirst⟩ := exists_written_reference links context read.1
        rw [pieces_of_reference hreference, writtenPieces, List.flatMap_cons, hfirst] at hwritten
        exact absurd ((List.cons.inj hwritten).1 ▸ List.mem_cons_self) hword
      | none =>
        rw [pieces_of_none hreference] at hwritten
        obtain ⟨rfl, hlater⟩ := List.cons.inj hwritten
        obtain ⟨rest, rfl, hrest⟩ := ih (fun hmem => hword (List.mem_cons_of_mem c hmem)) hlater
        exact ⟨rest, rfl, hrest⟩

/-- A word without a parenthesis does not reach over one. -/
theorem lies_in_or_follows {inside later : List Char} (hword : ')' ∉ word)
    (hwritten : inside ++ [')'] ++ later = before ++ (word ++ after)) :
    (∃ rest, inside ++ [')'] = before ++ word ++ rest) ∨
      ∃ start, before = inside ++ [')'] ++ start ∧ later = start ++ (word ++ after) := by
  rcases List.append_eq_append_iff.1 hwritten with hfollows | ⟨end', hinside, hend⟩
  · exact .inr hfollows
  rcases List.append_eq_append_iff.1 hend with ⟨rest, rfl, -⟩ | ⟨behind, rfl, rfl⟩
  · exact .inl ⟨rest, by rw [hinside, List.append_assoc]⟩
  rcases List.eq_nil_or_concat' end' with rfl | ⟨start, c, rfl⟩
  · rw [List.append_nil] at hinside
    exact .inr ⟨[], by rw [List.append_nil, hinside], rfl⟩
  · rw [← List.append_assoc] at hinside
    obtain ⟨-, hlast⟩ := List.append_inj' hinside rfl
    rw [← List.singleton_inj.1 hlast] at hword
    simp at hword

/-- A keyword of a reference in the written text lies in a written reference, or nothing closes
it. -/
theorem keyword_lies_in_reference (hword : Spells "url(" word)
    (hwritten : writtenPieces links context (pieces text) = before ++ (word ++ after)) :
    LiesInReference links context (pieces text) before word ∨ ')' ∉ after := by
  have hparenthesis : ')' ∉ word := hword.not_mem (by simp [foldLetter])
  fun_induction pieces text generalizing before with
  | case1 =>
    obtain ⟨-, hnil⟩ := List.append_eq_nil_iff.1 hwritten.symm
    exact absurd (List.append_eq_nil_iff.1 hnil).1 (hword.ne_nil (by decide))
  | case2 first rest link later hreference ih =>
    obtain ⟨inside, hlink⟩ := exists_written_reference links context link
    rw [writtenPieces, List.flatMap_cons, hlink] at hwritten
    rcases lies_in_or_follows hparenthesis hwritten with ⟨behind, hinside⟩ | ⟨start, rfl, hlater⟩
    · exact .inl ⟨[], link, pieces later, before, behind, rfl, rfl, hlink.trans hinside⟩
    · rw [← hlink]
      exact (ih hlater).imp_left fun hlies => hlies.cons (.reference link)
  | case3 c rest hreference ih =>
    cases before with
    | cons d before =>
      obtain ⟨rfl, hlater⟩ := List.cons.inj hwritten
      exact (ih hlater).imp_left fun hlies => hlies.cons (.plain c)
    | nil =>
      -- the keyword starts with this character, so it stood in the text
      have hletters : word.map foldLetter = ['u', 'r', 'l', '('] := hword
      obtain ⟨d, word, rfl, -, hlater⟩ := List.map_eq_cons_iff.1 hletters
      obtain ⟨rfl, hbehind⟩ := List.cons.inj hwritten
      have hrest : 'u' ∉ word := by
        intro hmem
        have hfolded := List.mem_map_of_mem (f := foldLetter) hmem
        rw [hlater] at hfolded
        simp [foldLetter] at hfolded
      obtain ⟨rest, rfl, rfl⟩ := exists_text_of_written hrest hbehind
      have hopen := reference?_eq_none_iff.1 hreference (c :: word) rest hword rfl
      rw [pieces_of_not_mem hopen, writtenPieces_map_plain]
      exact .inr hopen

/-- Every keyword of a reference in a sanitized stylesheet lies in a reference to a link of the
router, but for those that no parenthesis closes up to the end of the sheet. -/
theorem conservative_routes_references (css : String) (context : Url) (links : LinkRouter) :
    (conservative css context links).value = .clean (String.ofList
        (writtenPieces links context (pieces (removeDangers css.toList)))) ∧
      ∀ before word after, Spells "url(" word →
        writtenPieces links context (pieces (removeDangers css.toList)) = before ++ word ++ after →
        LiesInReference links context (pieces (removeDangers css.toList)) before word ∨
          ')' ∉ after := by
  refine ⟨conservative_value_pieces css context links, fun before word after hword hwritten => ?_⟩
  rw [List.append_assoc] at hwritten
  exact keyword_lies_in_reference hword hwritten

theorem conservative_routes_references_quoted :
    ∃ after, ')' ∈ after ∧
      writtenPieces (fun link _ => pure ("/proxy?" ++ link)) UriReference.trialBase
        (pieces (removeDangers "p: URL( 'x' ); q: url(y".toList)) =
          "p: ".toList ++ "url(".toList ++ after ∧
      Spells "url(" "url(".toList ∧
      LiesInReference (fun link _ => pure ("/proxy?" ++ link)) UriReference.trialBase
        (pieces (removeDangers "p: URL( 'x' ); q: url(y".toList)) "p: ".toList "url(".toList := by
  have hwritten : writtenPieces (fun link _ => pure ("/proxy?" ++ link)) UriReference.trialBase
      (pieces (removeDangers "p: URL( 'x' ); q: url(y".toList)) =
        "p: ".toList ++ "url(".toList ++ "\"/proxy?x\"); q: url(y".toList := by
    decide +kernel
  have hword : Spells "url(" "url(".toList := by
    simp [Spells, foldLetter]
  have hclosed : ')' ∈ "\"/proxy?x\"); q: url(y".toList := by
    simp
  obtain ⟨-, hlies⟩ := conservative_routes_references "p: URL( 'x' ); q: url(y"
    UriReference.trialBase fun link _ => pure ("/proxy?" ++ link)
  exact ⟨_, hclosed, hwritten, hword,
    (hlies _ _ _ hword hwritten).resolve_right (not_not_intro hclosed)⟩

theorem removeDangers_keeps_open_reference : removeDangers "url(x".toList = "url(x".toList := by
  decide +kernel

/-- A reference that runs to the end of the sheet is not routed, whatever the output is taken to
be put together from. -/
theorem conservative_leaves_open_reference :
    ¬ ∃ list,
      (conservative "url(x" UriReference.trialBase fun link _ => pure link).value =
        .clean (String.ofList
          (writtenPieces (fun link _ => pure link) UriReference.trialBase list)) ∧
      ∀ before word after, Spells "url(" word →
        writtenPieces (fun link _ => pure link) UriReference.trialBase list =
          before ++ word ++ after →
        LiesInReference (fun link _ => pure link) UriReference.trialBase list before word := by
  rintro ⟨list, hvalue, hlies⟩
  rw [conservative_value_pieces, removeDangers_keeps_open_reference, pieces_of_not_mem (by simp),
    writtenPieces_map_plain, Outcome.clean.injEq, String.ofList_inj] at hvalue
  have hmem := (hlies [] "url(".toList ['x'] rfl (by rw [← hvalue]; simp)).parenthesis_mem
  rw [← hvalue] at hmem
  simp at hmem

end GadgetGuard.Style
