import GadgetGuard.Proofs.Style.Comment
/-!
# What sanitizing takes out of a harmless stylesheet

Separators cut a text into runs.  Of a stylesheet without markup, comments, imports and
references the sanitizer takes out the runs that hold a script hook, each with the semicolon
right behind it, and it keeps everything else in its order.
-/

namespace GadgetGuard.Style

/-- A text between separators. -/
structure Run where
  letters : List Char
  no_separator : ∀ c ∈ letters, isSeparator c = false

/-- A text cut at its separators: every run but the last one stands with the separator that ends
it. -/
structure Division where
  ended : List (Run × { separator : Char // isSeparator separator = true })
  last : Run

def Division.text (division : Division) : List Char :=
  division.ended.flatMap (fun (run, separator) => run.letters ++ [separator.1]) ++
    division.last.letters

def Hooked (text : List Char) : Prop :=
  ∃ hook, IsHook hook ∧ hook <:+: text

instance (text : List Char) : Decidable (Hooked text) :=
  decidable_of_iff (hasHook text = true) hasHook_iff

def Run.kept (run : Run) : List Char :=
  if Hooked run.letters then [] else run.letters

/-- A hooked run takes the semicolon that ends it along, and no other separator. -/
def Run.keptSeparator (run : Run) (separator : Char) : List Char :=
  if Hooked run.letters ∧ separator = ';' then [] else [separator]

def Division.withoutHooked (division : Division) : List Char :=
  division.ended.flatMap (fun (run, separator) => run.kept ++ run.keptSeparator separator.1) ++
    division.last.kept

def Division.cons (run : Run) (separator : { separator : Char // isSeparator separator = true })
    (division : Division) : Division :=
  { division with ended := (run, separator) :: division.ended }

/-- The run that a text starts with. -/
def Run.first (text : List Char) : Run :=
  ⟨text.takeWhile (! isSeparator ·), fun _ hc => by simpa using List.mem_takeWhile_imp hc⟩

section

variable (run : Run) (separator : { separator : Char // isSeparator separator = true })
variable (division : Division)

theorem Division.text_cons :
    (division.cons run separator).text = run.letters ++ separator.1 :: division.text := by
  simp [cons, text]

theorem Division.withoutHooked_cons : (division.cons run separator).withoutHooked =
    run.kept ++ run.keptSeparator separator.1 ++ division.withoutHooked := by
  simp [cons, withoutHooked]

theorem Run.kept_eq : run.kept = if hasHook run.letters then [] else run.letters :=
  if_congr hasHook_iff.symm rfl rfl

theorem Run.keptSeparator_eq (separator : Char) : run.keptSeparator separator =
    if hasHook run.letters && separator == ';' then [] else [separator] := by
  refine if_congr ?_ rfl rfl
  rw [Bool.and_eq_true, hasHook_iff, beq_iff_eq, Hooked]

end

/-- Dropping hooked stretches is dropping the hooked runs of a text. -/
theorem exists_division (text : List Char) :
    ∃ division : Division, division.text = text ∧ division.withoutHooked = removeHooked text := by
  fun_induction removeHooked text with
  | case1 text stretch kept hrest =>
    refine ⟨⟨[], .first text⟩, ?_, Run.kept_eq _⟩
    exact List.takeWhile_eq_self_iff.2 (by simpa using hrest)
  | case2 text stretch separator rest hrest hdropped ih =>
    obtain ⟨division, hdivision, hremoved⟩ := ih
    have hhooked : hasHook stretch = true := (Bool.and_eq_true_iff.1 hdropped).1
    have hfirst : (Run.first text).letters = stretch := rfl
    refine ⟨division.cons (.first text) ⟨separator, isSeparator_of_dropWhile hrest⟩, ?_, ?_⟩
    · rw [Division.text_cons, hdivision]
      exact stretch_append hrest
    · rw [Division.withoutHooked_cons, Run.kept_eq, Run.keptSeparator_eq, hremoved, hfirst,
        if_pos hhooked, if_pos hdropped, List.nil_append, List.nil_append]
  | case3 text stretch kept separator rest hrest hstays ih =>
    obtain ⟨division, hdivision, hremoved⟩ := ih
    have hfirst : (Run.first text).letters = stretch := rfl
    refine ⟨division.cons (.first text) ⟨separator, isSeparator_of_dropWhile hrest⟩, ?_, ?_⟩
    · rw [Division.text_cons, hdivision]
      exact stretch_append hrest
    · rw [Division.withoutHooked_cons, Run.kept_eq, Run.keptSeparator_eq, hremoved, hfirst,
        if_neg hstays, List.append_assoc, List.singleton_append]
      rfl

theorem removeDangers_eq_removeHooked {text : List Char} (hmarkup : '<' ∉ text)
    (hcomment : ¬ HasComment '/' '*' text) (himport : ¬ Occurs "@import" text) :
    removeDangers text = removeHooked text := by
  have hfilter : text.filter (· != '<') = text := by
    rw [List.filter_eq_self]
    intro c hc
    simpa using ne_of_mem_of_not_mem hc hmarkup
  rw [removeDangers, hfilter, removeComments_eq_self hcomment, removeImports_eq_self himport]

/-- A text without keywords of references is cut into its characters. -/
theorem pieces_of_not_occurs {text : List Char} (hnone : ¬ Occurs "url(" text) :
    pieces text = text.map .plain := by
  refine pieces_eq_map_plain fun rest hrest => reference?_eq_none_iff.2 ?_
  rintro word later hword rfl -
  exact hnone ⟨word, hword, (List.prefix_append word later).isInfix.trans hrest.isInfix⟩

/-- Of a stylesheet without markup, comments, imports and references the conservative sanitizer
takes out the hooked runs, each with the semicolon right behind it, and nothing else. -/
theorem conservative_drops_hooked_runs (css : String) (context : Url) (links : LinkRouter)
    (hmarkup : '<' ∉ css.toList) (hcomment : ¬ HasComment '/' '*' css.toList)
    (himport : ¬ Occurs "@import" css.toList) (hreference : ¬ Occurs "url(" css.toList) :
    ∃ division : Division, division.text = css.toList ∧
      (conservative css context links).value = .clean (String.ofList division.withoutHooked) := by
  obtain ⟨division, hdivision, hremoved⟩ := exists_division css.toList
  have hkept : ¬ Occurs "url(" (removeHooked css.toList) := by
    refine fun hoccurs => hreference (occurs_of_removeHooked (fun c hc => ?_) hoccurs)
    rcases isSeparator_iff.1 hc with rfl | rfl | rfl <;> simp [foldLetter]
  refine ⟨division, hdivision, ?_⟩
  rw [conservative_value_pieces, removeDangers_eq_removeHooked hmarkup hcomment himport,
    pieces_of_not_occurs hkept, writtenPieces_map_plain, hremoved]

theorem conservative_drops_hooked_runs_folded :
    '<' ∉ "p \x7b w: expre\u017F\u017Fion (1); b: red \x7d".toList ∧
      ¬ HasComment '/' '*' "p \x7b w: expre\u017F\u017Fion (1); b: red \x7d".toList ∧
      ¬ Occurs "@import" "p \x7b w: expre\u017F\u017Fion (1); b: red \x7d".toList ∧
      ¬ Occurs "url(" "p \x7b w: expre\u017F\u017Fion (1); b: red \x7d".toList ∧
      ∃ division : Division,
        division.text = "p \x7b w: expre\u017F\u017Fion (1); b: red \x7d".toList ∧
        (conservative "p \x7b w: expre\u017F\u017Fion (1); b: red \x7d" UriReference.trialBase
          fun link _ => pure link).value = .clean (String.ofList division.withoutHooked) := by
  have hmarkup : '<' ∉ "p \x7b w: expre\u017F\u017Fion (1); b: red \x7d".toList := by
    decide
  have hcomment :
      ¬ HasComment '/' '*' "p \x7b w: expre\u017F\u017Fion (1); b: red \x7d".toList := by
    rintro ⟨body, hopened, -⟩
    exact absurd (hopened.subset List.mem_cons_self) (by decide)
  have himport : ¬ Occurs "@import" "p \x7b w: expre\u017F\u017Fion (1); b: red \x7d".toList := by
    intro hoccurs
    have hsign := hoccurs.exists_letter (show '@' ∈ "@import".toList by decide)
    simp [foldLetter] at hsign
  have hreference : ¬ Occurs "url(" "p \x7b w: expre\u017F\u017Fion (1); b: red \x7d".toList := by
    intro hoccurs
    have hletter := hoccurs.exists_letter (show 'u' ∈ "url(".toList by decide)
    simp [foldLetter] at hletter
  exact ⟨hmarkup, hcomment, himport, hreference,
    conservative_drops_hooked_runs _ _ _ hmarkup hcomment himport hreference⟩

end GadgetGuard.Style
