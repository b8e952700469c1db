import Mathlib.Data.List.TakeDrop
import Mathlib.Data.List.TakeWhile
import GadgetGuard.Text.Cut
/-!
# Cutting and joining

Cutting at a character undoes joining two texts with it, as long as the first text is free of
it, and splitting at a separator undoes joining any number of texts.
-/

namespace GadgetGuard.Text

variable {c : Char} {isSeparator : Char → Bool}

theorem bne_of_not_mem {text : List Char} (htext : c ∉ text) :
    ∀ d ∈ text, (d != c) = true := by
  intro d hd
  rw [bne_iff_ne]
  rintro rfl
  exact htext hd

theorem span_append {p : Char → Bool} {before after : List Char}
    (hbefore : ∀ d ∈ before, p d = true) (hafter : ∀ d, after.head? = some d → p d = false) :
    (before ++ after).span p = (before, after) := by
  have hstops : after.takeWhile p = [] ∧ after.dropWhile p = after := by
    cases after with
    | nil => exact ⟨rfl, rfl⟩
    | cons d after =>
      have hd : ¬ p d = true := by rw [hafter d rfl]; exact Bool.false_ne_true
      exact ⟨List.takeWhile_cons_of_neg hd, List.dropWhile_cons_of_neg hd⟩
  rw [List.span_eq_takeWhile_dropWhile, List.takeWhile_append_of_pos hbefore,
    List.dropWhile_append_of_pos hbefore, hstops.1, hstops.2, List.append_nil]

theorem cut_append {before : List Char} (after : List Char) (hbefore : c ∉ before) :
    cut c (before ++ c :: after) = (before, some after) := by
  have hall := bne_of_not_mem hbefore
  rw [cut, List.span_eq_takeWhile_dropWhile, List.takeWhile_append_of_pos hall,
    List.dropWhile_append_of_pos hall]
  simp

theorem cut_of_not_mem {text : List Char} (htext : c ∉ text) : cut c text = (text, none) := by
  have hall := bne_of_not_mem htext
  rw [cut, List.span_eq_takeWhile_dropWhile, List.takeWhile_eq_self_iff.2 hall,
    List.dropWhile_eq_nil_iff.2 hall]

/-- A text that does not have the character comes before the cut as a whole. -/
theorem cut_append_of_not_mem {before : List Char} (text : List Char) (hbefore : c ∉ before) :
    cut c (before ++ text) = (before ++ (cut c text).1, (cut c text).2) := by
  have hall := bne_of_not_mem hbefore
  rw [cut, cut, List.span_eq_takeWhile_dropWhile, List.span_eq_takeWhile_dropWhile,
    List.takeWhile_append_of_pos hall, List.dropWhile_append_of_pos hall]
  cases text.dropWhile (· != c) with
  | nil => rfl
  | cons d after => rfl

/-- A text either is free of a character or is cut at its first occurrence. -/
theorem cut_cases (c : Char) (text : List Char) :
    (c ∉ text ∧ cut c text = (text, none)) ∨
      ∃ before after, c ∉ before ∧ text = before ++ c :: after ∧
        cut c text = (before, some after) := by
  by_cases hmem : c ∈ text
  · obtain ⟨before, after, htext, hbefore⟩ := List.eq_append_cons_of_mem hmem
    exact .inr ⟨before, after, hbefore, htext, htext ▸ cut_append after hbefore⟩
  · exact .inl ⟨hmem, cut_of_not_mem hmem⟩

theorem cut_length {text after : List Char} (hcut : (cut c text).2 = some after) :
    after.length < text.length := by
  rcases cut_cases c text with ⟨_, hnone⟩ | ⟨before, rest, _, htext, hsome⟩
  · simp [hnone] at hcut
  · rw [hsome] at hcut
    obtain rfl := Option.some.inj hcut
    rw [htext, List.length_append, List.length_cons]
    omega

theorem cut_fst (c : Char) (text : List Char) : (cut c text).1 = text.takeWhile (· != c) := by
  rw [cut, List.span_eq_takeWhile_dropWhile]
  split
  next hparts => exact (Prod.mk.inj hparts).1.symm
  next hparts => exact (Prod.mk.inj hparts).1.symm

theorem cutLast_append (before : List Char) {after : List Char} (hafter : c ∉ after) :
    cutLast c (before ++ c :: after) = some (before, after) := by
  have hall := bne_of_not_mem (mt List.mem_reverse.1 hafter)
  have hreverse : (before ++ c :: after).reverse = after.reverse ++ c :: before.reverse := by
    simp
  rw [cutLast, hreverse, List.span_eq_takeWhile_dropWhile, List.takeWhile_append_of_pos hall,
    List.dropWhile_append_of_pos hall]
  simp

theorem cutLast_of_not_mem {text : List Char} (htext : c ∉ text) : cutLast c text = none := by
  have hall := bne_of_not_mem (mt List.mem_reverse.1 htext)
  rw [cutLast, List.span_eq_takeWhile_dropWhile, List.dropWhile_eq_nil_iff.2 hall]

theorem stripStart?_eq_none {beginning text : List Char} (hnone : ¬ beginning <+: text) :
    stripStart? beginning text = none := by
  induction beginning generalizing text with
  | nil => exact absurd List.nil_prefix hnone
  | cons b beginning ih =>
    cases text with
    | nil => rfl
    | cons d text =>
      rw [stripStart?]
      split
      next hsame =>
        rw [hsame, List.cons_prefix_cons] at hnone
        exact ih fun hprefix => hnone ⟨rfl, hprefix⟩
      · rfl

/-- Trimming leaves a text alone that has nothing to trim. -/
theorem trim_eq_self {isTrimmed : Char → Bool} {text : List Char}
    (htext : ∀ d ∈ text, isTrimmed d = false) :
    ((text.dropWhile isTrimmed).reverse.dropWhile isTrimmed).reverse = text := by
  have hkept : ∀ kept : List Char, (∀ d ∈ kept, isTrimmed d = false) →
      kept.dropWhile isTrimmed = kept := by
    intro kept hkept
    cases kept with
    | nil => rfl
    | cons d kept => exact List.dropWhile_cons_of_neg (by simp [hkept])
  rw [hkept text htext, hkept text.reverse (by simpa using htext), List.reverse_reverse]

theorem splitAt_of_none {text : List Char} (htext : ∀ d ∈ text, isSeparator d = false) :
    splitAt isSeparator text = [text] := by
  induction text with
  | nil => rfl
  | cons d text ih =>
    have hd := htext d List.mem_cons_self
    have htail := ih fun e he => htext e (List.mem_cons_of_mem d he)
    rw [splitAt, hd, htail]
    rfl

theorem splitAt_ne_nil (text : List Char) : splitAt isSeparator text ≠ [] := by
  cases text with
  | nil => exact List.cons_ne_nil _ _
  | cons d text =>
    rw [splitAt]
    split
    · exact List.cons_ne_nil _ _
    · split
      · exact List.cons_ne_nil _ _
      · exact List.cons_ne_nil _ _

theorem splitAt_append (left right : List Char) (hseparator : isSeparator c = true) :
    splitAt isSeparator (left ++ c :: right) =
      splitAt isSeparator left ++ splitAt isSeparator right := by
  induction left with
  | nil => simp only [List.nil_append, splitAt, if_pos hseparator, List.cons_append]
  | cons d left ih =>
    rw [List.cons_append, splitAt, splitAt, ih]
    cases isSeparator d with
    | true => rfl
    | false =>
      cases hleft : splitAt isSeparator left with
      | nil => exact absurd hleft (splitAt_ne_nil left)
      | cons part parts => rfl

/-- The last part of a text that ends with no separator is not empty. -/
theorem splitAt_concat (text : List Char) (hc : isSeparator c = false) :
    ∃ parts part, splitAt isSeparator (text ++ [c]) = parts ++ [part ++ [c]] := by
  induction text with
  | nil => exact ⟨[], [], by simp [splitAt, hc]⟩
  | cons d text ih =>
    obtain ⟨parts, part, hparts⟩ := ih
    rw [List.cons_append, splitAt, hparts]
    cases isSeparator d with
    | true => exact ⟨[] :: parts, part, rfl⟩
    | false =>
      cases parts with
      | nil => exact ⟨[], d :: part, rfl⟩
      | cons first parts => exact ⟨(d :: first) :: parts, part, rfl⟩

theorem intercalate_splitAt (c : Char) (text : List Char) :
    [c].intercalate (splitAt (· == c) text) = text := by
  induction text with
  | nil => rfl
  | cons d text ih =>
    rw [splitAt]
    cases hparts : splitAt (· == c) text with
    | nil => exact absurd hparts (splitAt_ne_nil text)
    | cons part parts =>
      rw [hparts] at ih
      cases hd : d == c with
      | true =>
        rw [if_pos rfl, List.intercalate_cons_cons, ih, beq_iff_eq.1 hd]
        rfl
      | false =>
        rw [if_neg Bool.false_ne_true]
        cases parts with
        | nil => simp_all
        | cons next parts => simp_all [List.intercalate_cons_cons]

theorem mem_of_mem_splitAt {part text : List Char} (hpart : part ∈ splitAt isSeparator text) :
    ∀ d ∈ part, d ∈ text := by
  induction text generalizing part with
  | nil => simp_all [splitAt]
  | cons e text ih =>
    intro d hd
    rw [splitAt] at hpart
    split at hpart
    · rcases List.mem_cons.1 hpart with rfl | hpart
      · contradiction
      · exact List.mem_cons_of_mem e (ih hpart d hd)
    · split at hpart
      next hnil => exact absurd hnil (splitAt_ne_nil text)
      next first parts hparts =>
        rw [hparts] at ih
        rcases List.mem_cons.1 hpart with rfl | hpart
        · rcases List.mem_cons.1 hd with rfl | hd
          · exact List.mem_cons_self
          · exact List.mem_cons_of_mem e (ih List.mem_cons_self d hd)
        · exact List.mem_cons_of_mem e (ih (List.mem_cons_of_mem first hpart) d hd)

end GadgetGuard.Text
