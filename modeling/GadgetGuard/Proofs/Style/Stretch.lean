import Mathlib.Data.List.Infix
import GadgetGuard.Proofs.Style.Plain
/-!
# What a stylesheet holds between its references

The sanitizer cuts a text into references and single characters, and writes one after the other.
Here the characters are put together again, to the stretches before, between and after the
references.  They are read off the text as they stand in it, so whatever does not occur in the
text occurs in no stretch.
-/

namespace GadgetGuard.Style

/-- What is written for a piece. -/
def Piece.written (links : LinkRouter) (context : Url) : Piece → List Char
  | plain c => [c]
  | reference link => (referenceText (links (String.ofList link) context).value).toList

def writtenPieces (links : LinkRouter) (context : Url) (list : List Piece) : List Char :=
  list.flatMap (·.written links context)

theorem conservative_value_pieces (css : String) (context : Url) (links : LinkRouter) :
    (conservative css context links).value =
      .clean (String.ofList (writtenPieces links context (pieces (removeDangers css.toList)))) := by
  rw [conservative, sanitizeConservatively, Traced.value_bind, Traced.value_bind,
    Traced.value_pure, Traced.value_pure, routePieces_value, Outcome.clean.injEq,
    ← String.toList_inj, String.toList_join, String.toList_ofList, List.flatMap_map, writtenPieces]
  congr 1
  funext piece
  cases piece with
  | plain c => exact String.toList_singleton c
  | reference link => rfl

/-- The characters before the first reference, and each link with the characters behind it. -/
def stretches : List Piece → List Char × List (List Char × List Char)
  | [] => ([], [])
  | .plain c :: later => (c :: (stretches later).1, (stretches later).2)
  | .reference link :: later => ([], (link, (stretches later).1) :: (stretches later).2)

/-- A stylesheet as it is written: a stretch, and references that are each followed by one. -/
def written (links : LinkRouter) (context : Url) (first : List Char)
    (references : List (List Char × List Char)) : String :=
  String.ofList (first ++ references.flatMap fun (link, stretch) =>
    (referenceText (links (String.ofList link) context).value).toList ++ stretch)

theorem toList_written (links : LinkRouter) (context : Url) (first : List Char)
    (references : List (List Char × List Char)) :
    (written links context first references).toList =
      first ++ references.flatMap fun (link, stretch) =>
        (referenceText (links (String.ofList link) context).value).toList ++ stretch :=
  String.toList_ofList

theorem written_nil (links : LinkRouter) (context : Url) (text : List Char) :
    written links context text [] = String.ofList text := by
  rw [written, List.flatMap_nil, List.append_nil]

/-- Every reference that is written has a parenthesis. -/
theorem parenthesis_mem_written (links : LinkRouter) (context : Url) (first : List Char)
    {references : List (List Char × List Char)} (hsome : references ≠ []) :
    '(' ∈ (written links context first references).toList := by
  obtain ⟨⟨link, stretch⟩, later, rfl⟩ := List.exists_cons_of_ne_nil hsome
  rw [toList_written, List.flatMap_cons]
  simp [referenceText]

theorem stretches_map_plain (text : List Char) : stretches (text.map .plain) = (text, []) := by
  induction text with
  | nil => rfl
  | cons c text ih => rw [List.map_cons, stretches, ih]

theorem written_stretches (links : LinkRouter) (context : Url) (list : List Piece) :
    written links context (stretches list).1 (stretches list).2 =
      String.ofList (writtenPieces links context list) := by
  rw [← String.toList_inj, toList_written, String.toList_ofList]
  induction list with
  | nil => rfl
  | cons piece later ih =>
    rw [writtenPieces, List.flatMap_cons, ← writtenPieces, ← ih]
    cases piece with
    | plain c => rfl
    | reference link => simp [stretches, Piece.written]

theorem first_begins (text : List Char) : (stretches (pieces text)).1 <+: text := by
  fun_induction pieces text with
  | case1 => exact List.nil_prefix
  | case2 => exact List.nil_prefix
  | case3 c rest hreference ih => exact List.cons_prefix_cons.2 ⟨rfl, ih⟩

theorem following_within {text stretch : List Char}
    (hstretch : stretch ∈ (stretches (pieces text)).2.map Prod.snd) : stretch <:+: text := by
  fun_induction pieces text with
  | case1 => contradiction
  | case2 first rest link later hreference ih =>
    have hsuffix : later <:+: first :: rest := (reference?_suffix hreference).isInfix
    rcases List.mem_cons.1 hstretch with rfl | hlater
    · exact (first_begins later).isInfix.trans hsuffix
    · exact (ih hlater).trans hsuffix
  | case3 c rest hreference ih => exact (ih hstretch).trans (List.suffix_cons c rest).isInfix

theorem conservative_value_eq (css : String) (context : Url) (links : LinkRouter) :
    (conservative css context links).value =
      .clean (written links context (stretches (pieces (removeDangers css.toList))).1
        (stretches (pieces (removeDangers css.toList))).2) := by
  rw [conservative_value_pieces, written_stretches]

/-- The conservative sanitizer writes stretches of the text without dangers, and references. -/
theorem conservative_writes_stretches (css : String) (context : Url) (links : LinkRouter) :
    ∃ first references,
      (conservative css context links).value = .clean (written links context first references) ∧
        ∀ stretch ∈ first :: references.map Prod.snd, stretch <:+: removeDangers css.toList := by
  refine ⟨_, _, conservative_value_eq css context links, fun stretch hstretch => ?_⟩
  rcases List.mem_cons.1 hstretch with rfl | hfollowing
  · exact (first_begins _).isInfix
  · exact following_within hfollowing

end GadgetGuard.Style
