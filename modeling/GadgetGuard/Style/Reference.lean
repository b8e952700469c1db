import GadgetGuard.Style.Import
import GadgetGuard.Text.Blank
import GadgetGuard.Text.Cut
/-!
# References of stylesheets

A reference is `url(`, a link, and `)`. The link may stand between quotes; where the quotes
do not end right before the parenthesis they are part of the link. A stylesheet is cut into
its references and the characters between them.
-/

namespace GadgetGuard.Style

open GadgetGuard.Text

inductive Piece
  | plain (c : Char)
  | reference (link : List Char)
  deriving DecidableEq, Repr

/-- A link between quotes and what follows the parenthesis behind it. -/
def quotedLink? (quote : Char) (text : List Char) : Option (List Char × List Char) :=
  match text.dropWhile (· != quote) with
  | [] => none
  | _ :: rest =>
    match rest.dropWhile isBlank with
    | ')' :: later => some (text.takeWhile (· != quote), later)
    | _ => none

def dropBlanksAtEnd (text : List Char) : List Char :=
  (text.reverse.dropWhile isBlank).reverse

/-- A link up to the next parenthesis and what follows it. -/
def bareLink? (text : List Char) : Option (List Char × List Char) :=
  match text.dropWhile (· != ')') with
  | [] => none
  | _ :: later => some (dropBlanksAtEnd (text.takeWhile (· != ')')), later)

/-- The link after `url(` and what follows the reference. -/
def readLink? (text : List Char) : Option (List Char × List Char) :=
  let body := text.dropWhile isBlank
  match body with
  | '"' :: quoted => (quotedLink? '"' quoted).or (bareLink? body)
  | '\'' :: quoted => (quotedLink? '\'' quoted).or (bareLink? body)
  | _ => bareLink? body

theorem quotedLink?_length {quote : Char} {text link rest : List Char}
    (h : quotedLink? quote text = some (link, rest)) : rest.length < text.length := by
  unfold quotedLink? at h
  split at h
  · simp at h
  · next c after hdrop =>
    have hquote := length_dropWhile_le (· != quote) text
    rw [hdrop, List.length_cons] at hquote
    split at h
    · next later hblank =>
      have hblanks := length_dropWhile_le isBlank after
      rw [hblank, List.length_cons] at hblanks
      simp only [Option.some.injEq, Prod.mk.injEq] at h
      rw [← h.2]
      omega
    · simp at h

theorem bareLink?_length {text link rest : List Char}
    (h : bareLink? text = some (link, rest)) : rest.length < text.length := by
  unfold bareLink? at h
  split at h
  · simp at h
  · next c later hdrop =>
    have hclose := length_dropWhile_le (· != ')') text
    rw [hdrop, List.length_cons] at hclose
    simp only [Option.some.injEq, Prod.mk.injEq] at h
    rw [← h.2]
    omega

theorem readLink?_length {text link rest : List Char}
    (h : readLink? text = some (link, rest)) : rest.length < text.length := by
  have hblanks := length_dropWhile_le isBlank text
  unfold readLink? at h
  simp only at h
  split at h
  · next quoted hbody =>
    rw [hbody] at hblanks
    rcases Option.or_eq_some_iff.1 h with h | ⟨_, h⟩
    · have := quotedLink?_length h
      simp only [List.length_cons] at hblanks
      omega
    · have := bareLink?_length h
      rw [← hbody] at hblanks
      omega
  · next quoted hbody =>
    rw [hbody] at hblanks
    rcases Option.or_eq_some_iff.1 h with h | ⟨_, h⟩
    · have := quotedLink?_length h
      simp only [List.length_cons] at hblanks
      omega
    · have := bareLink?_length h
      rw [← hbody] at hblanks
      omega
  · have := bareLink?_length h
    omega

/-- The reference that a text starts with: its link and what follows it. -/
def reference? (text : List Char) : Option (List Char × List Char) :=
  (afterKeyword? "url(".toList text).bind readLink?

theorem reference?_length {text link rest : List Char}
    (h : reference? text = some (link, rest)) : rest.length < text.length := by
  obtain ⟨body, hkeyword, hlink⟩ := Option.bind_eq_some_iff.1 h
  have hbody := afterKeyword?_length hkeyword
  have hrest := readLink?_length hlink
  omega

def pieces : List Char → List Piece
  | [] => []
  | c :: rest =>
    match _href : reference? (c :: rest) with
    | some (link, later) => .reference link :: pieces later
    | none => .plain c :: pieces rest
termination_by text => text.length
decreasing_by
  · exact reference?_length _href
  · simp

end GadgetGuard.Style
