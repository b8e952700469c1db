import Mathlib.Data.List.TakeWhile
import GadgetGuard.Config.Variable
/-!
# References to variables in a text

Every text is divided in one way into references, escaped references and single characters.
Putting in the variables replaces every part on its own: so values are not looked through again,
and a text in which each reference is escaped comes back as it was.
-/

namespace GadgetGuard.Config

/-- Upper-case letters and the underscore. -/
def IsVariableLetter (c : Char) : Prop :=
  ('A' ≤ c ∧ c ≤ 'Z') ∨ c = '_'

/-- Names are made of letters and digits and do not start with a digit. -/
def IsVariableName (name : List Char) : Prop :=
  (∃ first rest, name = first :: rest ∧ IsVariableLetter first) ∧
    ∀ c ∈ name, IsVariableLetter c ∨ ('0' ≤ c ∧ c ≤ '9')

/-- How a reference to a variable is written. -/
def referenceText (name : List Char) : List Char :=
  '$' :: '\x7b' :: (name ++ ['\x7d'])

/-- A text has a reference between what stands before it and what stands after it. -/
structure Refers (text before name after : List Char) : Prop where
  isName : IsVariableName name
  text_eq : text = before ++ (referenceText name ++ after)

/-- What stands before a reference ends in the sign that escapes it. -/
def EndsInSign (before : List Char) : Prop :=
  before.getLast? = some '$'

/-! ## Reading one reference -/

variable {text rest name name' before before' after after' front : List Char} {c : Char}

theorem startsVariable_iff : startsVariable c = true ↔ IsVariableLetter c := by
  have hupper : c.isUpper = true ↔ 'A' ≤ c ∧ c ≤ 'Z' := decide_eq_true_iff
  rw [startsVariable, Bool.or_eq_true, beq_iff_eq, hupper]
  rfl

theorem continuesVariable_iff :
    continuesVariable c = true ↔ IsVariableLetter c ∨ ('0' ≤ c ∧ c ≤ '9') := by
  rw [continuesVariable, Bool.or_eq_true, startsVariable_iff, Char.isDigit, Bool.and_eq_true,
    decide_eq_true_eq, decide_eq_true_eq]
  rfl

theorem IsVariableName.continues (hname : IsVariableName name) :
    ∀ c ∈ name, continuesVariable c = true :=
  fun c hc => continuesVariable_iff.2 (hname.2 c hc)

theorem IsVariableName.sign_not_mem (hname : IsVariableName name) : '$' ∉ name :=
  fun hsign => absurd (hname.continues '$' hsign) (by decide)

theorem takeWhile_name (hname : IsVariableName name) :
    (name ++ '\x7d' :: after).takeWhile continuesVariable = name := by
  rw [List.takeWhile_append_of_pos hname.continues]
  simp [show continuesVariable '\x7d' = false by decide]

theorem dropWhile_name (hname : IsVariableName name) :
    (name ++ '\x7d' :: after).dropWhile continuesVariable = '\x7d' :: after := by
  rw [List.dropWhile_append_of_pos hname.continues]
  simp [show continuesVariable '\x7d' = false by decide]

theorem reference?_eq_some_iff :
    reference? text = some (name, after) ↔
      IsVariableName name ∧ text = name ++ '\x7d' :: after := by
  constructor
  · intro hread
    have htext := (List.takeWhile_append_dropWhile (p := continuesVariable) (l := text)).symm
    have hletters : ∀ c ∈ text.takeWhile continuesVariable, continuesVariable c = true :=
      fun c hc => List.mem_takeWhile_imp hc
    simp only [reference?] at hread
    split at hread
    next first later behind hname hrest =>
      rw [hname] at hread htext hletters
      rw [hrest] at htext
      split at hread
      next hfirst =>
        obtain ⟨rfl, rfl⟩ := Prod.mk.inj (Option.some.inj hread)
        refine ⟨⟨⟨first, later, rfl, startsVariable_iff.1 hfirst⟩, fun c hc => ?_⟩, htext⟩
        exact continuesVariable_iff.1 (hletters c hc)
      next => contradiction
    next => contradiction
  · rintro ⟨hname, rfl⟩
    simp only [reference?, takeWhile_name hname, dropWhile_name hname]
    obtain ⟨⟨first, later, rfl, hfirst⟩, -⟩ := hname
    simp [startsVariable_iff.2 hfirst]

/-- A text that starts with a reference. -/
def BeginsReference (text : List Char) : Prop :=
  ∃ name after, Refers text [] name after

theorem beginsReference_iff :
    BeginsReference ('$' :: '\x7b' :: rest) ↔ ∃ read, reference? rest = some read := by
  constructor
  · rintro ⟨name, after, hname, htext⟩
    refine ⟨(name, after), reference?_eq_some_iff.2 ⟨hname, ?_⟩⟩
    simpa [referenceText] using htext
  · rintro ⟨⟨name, after⟩, hread⟩
    obtain ⟨hname, rfl⟩ := reference?_eq_some_iff.1 hread
    exact ⟨name, after, hname, by simp [referenceText]⟩

/-! ## Putting in the variables -/

variable {environment : Environment}

theorem substitute_reference (hname : IsVariableName name) :
    substitute environment (referenceText name ++ after) =
      match environment (String.ofList name) with
      | some value => (substitute environment after).map (value.toList ++ ·)
      | none => .error (.missingVariable (String.ofList name)) := by
  have hread : reference? (name ++ '\x7d' :: after) = some (name, after) :=
    reference?_eq_some_iff.2 ⟨hname, rfl⟩
  have htext : referenceText name ++ after = '$' :: '\x7b' :: (name ++ '\x7d' :: after) := by
    simp [referenceText]
  rw [htext, substitute.eq_def]
  simp only
  split
  next name' after' hread' =>
    obtain ⟨rfl, rfl⟩ := Prod.mk.inj (Option.some.inj (hread.symm.trans hread'))
    rfl
  next hnone =>
    rw [hread] at hnone
    contradiction

theorem substitute_escape (hname : IsVariableName name) :
    substitute environment ('$' :: (referenceText name ++ after)) =
      (substitute environment after).map (referenceText name ++ ·) := by
  have hread : reference? (name ++ '\x7d' :: after) = some (name, after) :=
    reference?_eq_some_iff.2 ⟨hname, rfl⟩
  have htext : '$' :: (referenceText name ++ after) =
      '$' :: '$' :: '\x7b' :: (name ++ '\x7d' :: after) := by
    simp [referenceText]
  rw [htext, substitute.eq_def]
  simp only
  split
  next name' after' hread' =>
    obtain ⟨rfl, rfl⟩ := Prod.mk.inj (Option.some.inj (hread.symm.trans hread'))
    simp [referenceText]
  next hnone =>
    rw [hread] at hnone
    contradiction

theorem substitute_letter (hhere : ¬ BeginsReference (c :: rest))
    (hnext : c = '$' → ¬ BeginsReference rest) :
    substitute environment (c :: rest) = (substitute environment rest).map (c :: ·) := by
  rw [substitute.eq_def]
  split
  next later heq =>
    obtain ⟨rfl, rfl⟩ := List.cons.inj heq
    split
    next name after hread =>
      exact absurd (beginsReference_iff.2 ⟨_, hread⟩) (hnext rfl)
    next => rfl
  next later _ heq =>
    obtain ⟨rfl, rfl⟩ := List.cons.inj heq
    split
    next name after hread =>
      exact absurd (beginsReference_iff.2 ⟨_, hread⟩) hhere
    next => rfl
  next heq =>
    obtain ⟨rfl, rfl⟩ := List.cons.inj heq
    rfl
  next heq => contradiction

/-! ## Where the references of a text stand -/

theorem refers_cons_iff : Refers (c :: text) before name after ↔
    (before = [] ∧ Refers (c :: text) [] name after) ∨
      ∃ later, before = c :: later ∧ Refers text later name after := by
  constructor
  · rintro ⟨hname, htext⟩
    cases before with
    | nil => exact .inl ⟨rfl, hname, htext⟩
    | cons first later =>
      obtain ⟨rfl, hrest⟩ := List.cons.inj htext
      exact .inr ⟨later, rfl, hname, hrest⟩
  · rintro (⟨rfl, hrefers⟩ | ⟨later, rfl, hname, rfl⟩)
    · exact hrefers
    · exact ⟨hname, rfl⟩

/-- No reference starts where no sign stands. -/
theorem refers_append_iff (hfront : '$' ∉ front) : Refers (front ++ text) before name after ↔
    ∃ later, before = front ++ later ∧ Refers text later name after := by
  induction front generalizing before with
  | nil => simp
  | cons c front ih =>
    obtain ⟨hc, hfront⟩ := not_or.1 (mt List.mem_cons.2 hfront)
    rw [List.cons_append, refers_cons_iff]
    constructor
    · rintro (⟨-, -, htext⟩ | ⟨later, rfl, hrefers⟩)
      · exact absurd (List.cons.inj htext).1.symm hc
      · obtain ⟨behind, rfl, hbehind⟩ := (ih hfront).1 hrefers
        exact ⟨behind, rfl, hbehind⟩
    · rintro ⟨later, rfl, hrefers⟩
      exact .inr ⟨front ++ later, rfl, (ih hfront).2 ⟨later, rfl, hrefers⟩⟩

theorem Refers.unique (hrefers : Refers text before name after)
    (hrefers' : Refers text before name' after') : name = name' ∧ after = after' := by
  have hsame := List.append_cancel_left (hrefers.text_eq.symm.trans hrefers'.text_eq)
  have hrest : name ++ '\x7d' :: after = name' ++ '\x7d' :: after' := by
    simpa [referenceText] using hsame
  have hread : reference? (name ++ '\x7d' :: after) = some (name, after) :=
    reference?_eq_some_iff.2 ⟨hrefers.isName, rfl⟩
  rw [reference?_eq_some_iff.2 ⟨hrefers'.isName, hrest⟩] at hread
  obtain ⟨rfl, rfl⟩ := Prod.mk.inj (Option.some.inj hread)
  exact ⟨rfl, rfl⟩

theorem refers_reference_iff (hname : IsVariableName name) :
    Refers (referenceText name ++ text) before name' after ↔
      (before = [] ∧ name' = name ∧ after = text) ∨
        ∃ later, before = referenceText name ++ later ∧ Refers text later name' after := by
  have hinside : '$' ∉ '\x7b' :: (name ++ ['\x7d']) := by
    simpa using hname.sign_not_mem
  rw [referenceText, List.cons_append, refers_cons_iff]
  refine or_congr (and_congr_right fun _ => ⟨fun hrefers => ?_, ?_⟩) ⟨?_, ?_⟩
  · exact hrefers.unique ⟨hname, rfl⟩
  · rintro ⟨rfl, rfl⟩
    exact ⟨hname, rfl⟩
  · rintro ⟨later, rfl, hrefers⟩
    obtain ⟨behind, rfl, hbehind⟩ := (refers_append_iff hinside).1 hrefers
    exact ⟨behind, rfl, hbehind⟩
  · rintro ⟨later, rfl, hrefers⟩
    exact ⟨_, rfl, (refers_append_iff hinside).2 ⟨later, rfl, hrefers⟩⟩

theorem endsInSign_append_iff {front : List Char} :
    EndsInSign (front ++ before) ↔ EndsInSign before ∨ before = [] ∧ EndsInSign front := by
  simp only [EndsInSign, List.getLast?_append]
  cases hlast : before.getLast? with
  | none => simp [List.getLast?_eq_none_iff.1 hlast]
  | some c =>
    have hbefore : before ≠ [] := by
      rintro rfl
      contradiction
    simp [hbefore]

theorem endsInSign_reference_append :
    EndsInSign (referenceText name ++ before) ↔ EndsInSign before := by
  have hend : ¬ EndsInSign (referenceText name) := by
    rw [EndsInSign, referenceText, ← List.cons_append, ← List.cons_append, List.getLast?_concat]
    decide
  simp [endsInSign_append_iff, hend]

theorem endsInSign_cons_reference :
    EndsInSign ('$' :: (referenceText name ++ before)) ↔ EndsInSign before := by
  rw [← List.singleton_append, endsInSign_append_iff, endsInSign_reference_append]
  simp [referenceText]

/-! ## The parts of a text -/

/-- A part of a text: one character, a reference, or a reference with the sign that escapes it. -/
inductive Part
  | letter (c : Char)
  | reference (name : List Char)
  | escaped (name : List Char)

namespace Part

def written : Part → List Char
  | letter c => [c]
  | reference name => referenceText name
  | escaped name => '$' :: referenceText name

/-- What stands for a part once the variables are put in. -/
def value (environment : Environment) : Part → Except ConfigError (List Char)
  | letter c => .ok [c]
  | reference name =>
    match environment (String.ofList name) with
    | some value => .ok value.toList
    | none => .error (.missingVariable (String.ofList name))
  | escaped name => .ok (referenceText name)

end Part

/-- One of the parts, between what the other ones write before and after it. -/
def StandsIn (parts : List Part) (before : List Char) (part : Part) (after : List Char) : Prop :=
  ∃ first last, parts = first ++ part :: last ∧ first.flatMap Part.written = before ∧
    last.flatMap Part.written = after

/-- The parts of a text: each of its references is one, escaped if a sign stands before it. -/
structure Divides (parts : List Part) (text : List Char) : Prop where
  written : parts.flatMap Part.written = text
  reference_iff (before name after : List Char) :
    StandsIn parts before (.reference name) after ↔
      Refers text before name after ∧ ¬ EndsInSign before
  escaped_iff (before name after : List Char) :
    StandsIn parts before (.escaped name) after ↔ Refers text (before ++ ['$']) name after

variable {parts : List Part} {part : Part}

theorem standsIn_cons_iff {first : Part} : StandsIn (first :: parts) before part after ↔
    (before = [] ∧ part = first ∧ after = parts.flatMap Part.written) ∨
      ∃ later, before = first.written ++ later ∧ StandsIn parts later part after := by
  constructor
  · rintro ⟨earlier, last, hparts, rfl, rfl⟩
    cases earlier with
    | nil =>
      obtain ⟨rfl, rfl⟩ := List.cons.inj hparts
      exact .inl ⟨rfl, rfl, rfl⟩
    | cons _ earlier =>
      obtain ⟨rfl, rfl⟩ := List.cons.inj hparts
      exact .inr ⟨_, List.flatMap_cons, earlier, last, rfl, rfl, rfl⟩
  · rintro (⟨rfl, rfl, rfl⟩ | ⟨later, rfl, earlier, last, rfl, rfl, rfl⟩)
    · exact ⟨[], parts, rfl, rfl, rfl⟩
    · exact ⟨first :: earlier, last, rfl, List.flatMap_cons, rfl⟩

namespace Divides

theorem nil : Divides [] [] where
  written := rfl
  reference_iff before name after := by
    constructor
    · rintro ⟨first, last, hparts, -⟩
      simp at hparts
    · rintro ⟨⟨-, htext⟩, -⟩
      simp [referenceText] at htext
  escaped_iff before name after := by
    constructor
    · rintro ⟨first, last, hparts, -⟩
      simp at hparts
    · rintro ⟨-, htext⟩
      simp at htext

theorem letter (hhere : ¬ BeginsReference (c :: rest)) (hnext : c = '$' → ¬ BeginsReference rest)
    (hrest : Divides parts rest) : Divides (.letter c :: parts) (c :: rest) where
  written := by rw [List.flatMap_cons, hrest.written, Part.written, List.singleton_append]
  reference_iff before name after := by
    rw [standsIn_cons_iff, refers_cons_iff]
    constructor
    · rintro (⟨-, hpart, -⟩ | ⟨later, rfl, hstands⟩)
      · contradiction
      · obtain ⟨hrefers, hplain⟩ := (hrest.reference_iff later name after).1 hstands
        refine ⟨.inr ⟨later, rfl, hrefers⟩, fun hsign => ?_⟩
        obtain hsign | ⟨rfl, hc⟩ := endsInSign_append_iff.1 hsign
        · exact hplain hsign
        · exact hnext (Option.some.inj hc) ⟨name, after, hrefers⟩
    · rintro ⟨⟨rfl, hrefers⟩ | ⟨later, rfl, hrefers⟩, hplain⟩
      · exact absurd ⟨name, after, hrefers⟩ hhere
      · refine .inr ⟨later, rfl, (hrest.reference_iff later name after).2 ⟨hrefers, ?_⟩⟩
        intro hsign
        have hlast : EndsInSign ([c] ++ later) := endsInSign_append_iff.2 (.inl hsign)
        exact hplain hlast
  escaped_iff before name after := by
    rw [standsIn_cons_iff, refers_cons_iff]
    constructor
    · rintro (⟨-, hpart, -⟩ | ⟨later, rfl, hstands⟩)
      · contradiction
      · exact .inr ⟨later ++ ['$'], rfl, (hrest.escaped_iff later name after).1 hstands⟩
    · rintro (⟨hempty, -⟩ | ⟨later, hlater, hrefers⟩)
      · simp at hempty
      · cases before with
        | nil =>
          obtain ⟨rfl, rfl⟩ := List.cons.inj hlater
          exact absurd ⟨name, after, hrefers⟩ (hnext rfl)
        | cons _ before =>
          obtain ⟨rfl, rfl⟩ := List.cons.inj hlater
          exact .inr ⟨before, rfl, (hrest.escaped_iff before name after).2 hrefers⟩

theorem reference (hname : IsVariableName name) (hrest : Divides parts rest) :
    Divides (.reference name :: parts) (referenceText name ++ rest) where
  written := by rw [List.flatMap_cons, hrest.written, Part.written]
  reference_iff before other after := by
    rw [standsIn_cons_iff, refers_reference_iff hname, hrest.written]
    constructor
    · rintro (⟨rfl, hpart, rfl⟩ | ⟨later, rfl, hstands⟩)
      · exact ⟨.inl ⟨rfl, Part.reference.inj hpart, rfl⟩, by simp [EndsInSign]⟩
      · obtain ⟨hrefers, hplain⟩ := (hrest.reference_iff later other after).1 hstands
        exact ⟨.inr ⟨later, rfl, hrefers⟩, mt endsInSign_reference_append.1 hplain⟩
    · rintro ⟨⟨rfl, rfl, rfl⟩ | ⟨later, rfl, hrefers⟩, hplain⟩
      · exact .inl ⟨rfl, rfl, rfl⟩
      · refine .inr ⟨later, rfl, (hrest.reference_iff later other after).2 ⟨hrefers, ?_⟩⟩
        exact mt endsInSign_reference_append.2 hplain
  escaped_iff before other after := by
    rw [standsIn_cons_iff, refers_reference_iff hname]
    constructor
    · rintro (⟨-, hpart, -⟩ | ⟨later, rfl, hstands⟩)
      · contradiction
      · refine .inr ⟨later ++ ['$'], List.append_assoc .., ?_⟩
        exact (hrest.escaped_iff later other after).1 hstands
    · rintro (⟨hempty, -⟩ | ⟨later, hlater, hrefers⟩)
      · simp at hempty
      · have hsign : EndsInSign later := by
          apply endsInSign_reference_append.1
          rw [← hlater]
          exact List.getLast?_concat
        obtain ⟨behind, rfl⟩ := List.getLast?_eq_some_iff.1 hsign
        rw [← List.append_assoc] at hlater
        obtain rfl := List.append_cancel_right hlater
        exact .inr ⟨behind, rfl, (hrest.escaped_iff behind other after).2 hrefers⟩

theorem escaped (hname : IsVariableName name) (hrest : Divides parts rest) :
    Divides (.escaped name :: parts) ('$' :: (referenceText name ++ rest)) where
  written := by rw [List.flatMap_cons, hrest.written, Part.written, List.cons_append]
  reference_iff before other after := by
    rw [standsIn_cons_iff, refers_cons_iff]
    constructor
    · rintro (⟨-, hpart, -⟩ | ⟨later, rfl, hstands⟩)
      · contradiction
      · obtain ⟨hrefers, hplain⟩ := (hrest.reference_iff later other after).1 hstands
        refine ⟨.inr ⟨_, rfl, (refers_reference_iff hname).2 (.inr ⟨later, rfl, hrefers⟩)⟩, ?_⟩
        rwa [Part.written, List.cons_append, endsInSign_cons_reference]
    · rintro ⟨⟨-, -, htext⟩ | ⟨later, rfl, hrefers⟩, hplain⟩
      · simp [referenceText] at htext
      · obtain ⟨rfl, -, -⟩ | ⟨behind, rfl, hbehind⟩ := (refers_reference_iff hname).1 hrefers
        · exact absurd rfl hplain
        · rw [endsInSign_cons_reference] at hplain
          exact .inr ⟨behind, rfl, (hrest.reference_iff behind other after).2 ⟨hbehind, hplain⟩⟩
  escaped_iff before other after := by
    rw [standsIn_cons_iff, refers_cons_iff, hrest.written]
    constructor
    · rintro (⟨rfl, hpart, rfl⟩ | ⟨later, rfl, hstands⟩)
      · obtain rfl := Part.escaped.inj hpart
        exact .inr ⟨[], rfl, hname, rfl⟩
      · have hrefers := (hrest.escaped_iff later other after).1 hstands
        refine .inr ⟨referenceText name ++ (later ++ ['$']), ?_, ?_⟩
        · simp [Part.written]
        · exact (refers_reference_iff hname).2 (.inr ⟨_, rfl, hrefers⟩)
    · rintro (⟨hempty, -⟩ | ⟨later, hlater, hrefers⟩)
      · simp at hempty
      · obtain ⟨rfl, rfl, rfl⟩ | ⟨behind, rfl, hbehind⟩ := (refers_reference_iff hname).1 hrefers
        · obtain rfl : before = [] := by simpa using hlater
          exact .inl ⟨rfl, rfl, rfl⟩
        · have hsign : EndsInSign behind := by
            apply endsInSign_cons_reference.1
            rw [← hlater]
            exact List.getLast?_concat
          obtain ⟨before', rfl⟩ := List.getLast?_eq_some_iff.1 hsign
          rw [← List.append_assoc, ← List.cons_append] at hlater
          obtain rfl := List.append_cancel_right hlater
          exact .inr ⟨before', rfl, (hrest.escaped_iff before' other after).2 hbehind⟩

end Divides

/-! ## Induction over the parts -/

theorem length_lt_reference_append : rest.length < (referenceText name ++ rest).length := by
  simp [referenceText]
  omega

/-- A statement holds of every text if it holds of the empty one and of a text whenever it holds
of what follows its first part. -/
@[elab_as_elim]
theorem parts_induction {motive : List Char → Prop} (nil : motive [])
    (letter : ∀ c rest, ¬ BeginsReference (c :: rest) → (c = '$' → ¬ BeginsReference rest) →
      motive rest → motive (c :: rest))
    (reference : ∀ name rest, IsVariableName name → motive rest →
      motive (referenceText name ++ rest))
    (escaped : ∀ name rest, IsVariableName name → motive rest →
      motive ('$' :: (referenceText name ++ rest))) (text : List Char) : motive text := by
  -- What follows a reference is shorter by a whole name, so the induction is on the length.
  induction hlength : text.length using Nat.strong_induction_on generalizing text with
  | _ length ih =>
    subst hlength
    cases text with
    | nil => exact nil
    | cons c rest =>
      by_cases hhere : BeginsReference (c :: rest)
      · obtain ⟨name, after, hname, htext⟩ := hhere
        rw [htext] at ih ⊢
        exact reference name after hname (ih _ length_lt_reference_append after rfl)
      · by_cases hnext : c = '$' ∧ BeginsReference rest
        · obtain ⟨rfl, name, after, hname, rfl⟩ := hnext
          refine escaped name after hname (ih _ ?_ after rfl)
          exact length_lt_reference_append.trans (Nat.lt_succ_self _)
        · exact letter c rest hhere (not_and.1 hnext) (ih _ (Nat.lt_succ_self _) rest rfl)

/-- What is put in for the first part stands before what is put in for the other ones. -/
theorem flatten_mapM_cons : ((part :: parts).mapM (Part.value environment)).map List.flatten =
    (part.value environment).bind fun first =>
      ((parts.mapM (Part.value environment)).map List.flatten).map (first ++ ·) := by
  rw [List.mapM_cons]
  cases part.value environment with
  | error cause => rfl
  | ok first =>
    cases parts.mapM (Part.value environment) with
    | error cause => rfl
    | ok values => rfl

/-- Every part is replaced on its own. -/
theorem exists_parts (text : List Char) :
    ∃ parts, Divides parts text ∧ ∀ environment,
      substitute environment text =
        (parts.mapM (Part.value environment)).map List.flatten := by
  induction text using parts_induction with
  | nil =>
    refine ⟨[], .nil, fun environment => ?_⟩
    rw [substitute]
    rfl
  | letter c rest hhere hnext ih =>
    obtain ⟨parts, hparts, hvalue⟩ := ih
    refine ⟨.letter c :: parts, hparts.letter hhere hnext, fun environment => ?_⟩
    rw [substitute_letter hhere hnext, hvalue, flatten_mapM_cons]
    rfl
  | reference name rest hname ih =>
    obtain ⟨parts, hparts, hvalue⟩ := ih
    refine ⟨.reference name :: parts, hparts.reference hname, fun environment => ?_⟩
    rw [substitute_reference hname, hvalue, flatten_mapM_cons, Part.value]
    cases environment (String.ofList name) with
    | none => rfl
    | some value => rfl
  | escaped name rest hname ih =>
    obtain ⟨parts, hparts, hvalue⟩ := ih
    refine ⟨.escaped name :: parts, hparts.escaped hname, fun environment => ?_⟩
    rw [substitute_escape hname, hvalue, flatten_mapM_cons]
    rfl

/-! ## Variables that are not set -/

/-- A reference without a sign before it that names a variable which is not set. -/
def Misses (environment : Environment) (text before name : List Char) : Prop :=
  ∃ after, (Refers text before name after ∧ ¬ EndsInSign before) ∧
    environment (String.ofList name) = none

theorem Part.value_eq_error_iff {cause : ConfigError} :
    part.value environment = .error cause ↔
      ∃ name, part = .reference name ∧ environment (String.ofList name) = none ∧
        cause = .missingVariable (String.ofList name) := by
  cases part with
  | letter c => simp [value]
  | escaped name => simp [value]
  | reference name =>
    rw [value]
    cases hvalue : environment (String.ofList name) with
    | none => simp [hvalue, eq_comm]
    | some value => simp [hvalue]

/-- The first part that cannot be replaced is the error. -/
theorem mapM_value_eq_error_iff {cause : ConfigError} :
    parts.mapM (Part.value environment) = .error cause ↔
      ∃ first part last, parts = first ++ part :: last ∧
        (∀ earlier ∈ first, ∀ cause, earlier.value environment ≠ .error cause) ∧
        part.value environment = .error cause := by
  induction parts with
  | nil => simp [pure, Except.pure]
  | cons head parts ih =>
    rw [List.mapM_cons]
    cases hhead : head.value environment with
    | error reason =>
      constructor
      · rintro ⟨⟩
        exact ⟨[], head, parts, rfl, by simp, hhead⟩
      · rintro ⟨first, part, last, hparts, hfirst, hpart⟩
        cases first with
        | nil =>
          obtain ⟨rfl, rfl⟩ := List.cons.inj hparts
          rw [Except.error.inj (hhead.symm.trans hpart)]
          rfl
        | cons _ first =>
          obtain ⟨rfl, rfl⟩ := List.cons.inj hparts
          exact absurd hhead (hfirst head List.mem_cons_self reason)
    | ok value =>
      have hstep : (do return value :: (← parts.mapM (Part.value environment)) :
          Except ConfigError (List (List Char))) = .error cause ↔
          parts.mapM (Part.value environment) = .error cause := by
        cases parts.mapM (Part.value environment) with
        | error reason => exact Iff.rfl
        | ok values => simp [bind, Except.bind, pure, Except.pure]
      refine hstep.trans (ih.trans ⟨?_, ?_⟩)
      · rintro ⟨first, part, last, rfl, hfirst, hpart⟩
        refine ⟨head :: first, part, last, rfl, List.forall_mem_cons.2 ⟨?_, hfirst⟩, hpart⟩
        simp [hhead]
      · rintro ⟨first, part, last, hparts, hfirst, hpart⟩
        cases first with
        | nil =>
          obtain ⟨rfl, rfl⟩ := List.cons.inj hparts
          rw [hhead] at hpart
          contradiction
        | cons _ first =>
          obtain ⟨rfl, rfl⟩ := List.cons.inj hparts
          exact ⟨first, part, last, rfl, (List.forall_mem_cons.1 hfirst).2, hpart⟩

theorem Divides.misses_iff (hparts : Divides parts text) :
    Misses environment text before name ↔
      ∃ first last, parts = first ++ .reference name :: last ∧
        first.flatMap Part.written = before ∧ environment (String.ofList name) = none := by
  constructor
  · rintro ⟨after, hrefers, hmissing⟩
    obtain ⟨first, last, hfirst, hbefore, -⟩ := (hparts.reference_iff before name after).2 hrefers
    exact ⟨first, last, hfirst, hbefore, hmissing⟩
  · rintro ⟨first, last, hfirst, hbefore, hmissing⟩
    refine ⟨last.flatMap Part.written, (hparts.reference_iff before name _).1 ?_, hmissing⟩
    exact ⟨first, last, hfirst, hbefore, rfl⟩

/-- The error names the first variable in the text that is not set. -/
theorem substitute_eq_error_iff {cause : ConfigError} :
    substitute environment text = .error cause ↔
      ∃ before name, Misses environment text before name ∧
        (∀ before' name', Misses environment text before' name' →
          before.length ≤ before'.length) ∧
        cause = .missingVariable (String.ofList name) := by
  obtain ⟨parts, hparts, hvalue⟩ := exists_parts text
  have herror : substitute environment text = .error cause ↔
      parts.mapM (Part.value environment) = .error cause := by
    rw [hvalue]
    cases parts.mapM (Part.value environment) with
    | error reason => simp [Except.map]
    | ok values => simp [Except.map]
  rw [herror, mapM_value_eq_error_iff]
  constructor
  · rintro ⟨first, part, last, hfirst, hearlier, hpart⟩
    obtain ⟨name, rfl, hmissing, rfl⟩ := Part.value_eq_error_iff.1 hpart
    refine ⟨_, name, hparts.misses_iff.2 ⟨first, last, hfirst, rfl, hmissing⟩, ?_, rfl⟩
    intro before' name' hmisses
    obtain ⟨first', last', hfirst', rfl, hmissing'⟩ := hparts.misses_iff.1 hmisses
    obtain ⟨between, rfl, -⟩ | ⟨between, rfl, hbetween⟩ :=
      List.append_eq_append_iff.1 (hfirst.symm.trans hfirst')
    · simp
    · cases between with
      | nil => simp
      | cons _ between =>
        obtain ⟨rfl, -⟩ := List.cons.inj hbetween
        have hfails := Part.value_eq_error_iff.2 ⟨name', rfl, hmissing', rfl⟩
        exact absurd hfails (hearlier _ (by simp) _)
  · rintro ⟨before, name, hmisses, hleast, rfl⟩
    obtain ⟨first, last, hfirst, rfl, hmissing⟩ := hparts.misses_iff.1 hmisses
    refine ⟨first, _, last, hfirst, fun earlier hmember reason hfails => ?_,
      Part.value_eq_error_iff.2 ⟨name, rfl, hmissing, rfl⟩⟩
    obtain ⟨other, rfl, hother, -⟩ := Part.value_eq_error_iff.1 hfails
    obtain ⟨start, rest, rfl⟩ := List.append_of_mem hmember
    have hbefore := hleast _ other (hparts.misses_iff.2
      ⟨start, rest ++ .reference name :: last, by simpa using hfirst, rfl, hother⟩)
    have hlength : 0 < (Part.reference other).written.length := Nat.succ_pos _
    simp only [List.flatMap_append, List.flatMap_cons, List.length_append] at hbefore
    omega

/-! ## Texts that stand for themselves -/

instance : DecidablePred BeginsReference
  | [] => isFalse fun ⟨_, _, _, htext⟩ => by simp [referenceText] at htext
  | [_] => isFalse fun ⟨_, _, _, htext⟩ => by simp [referenceText] at htext
  | first :: second :: rest =>
    if hopening : first = '$' ∧ second = '\x7b' then
      decidable_of_iff ((reference? rest).isSome = true) (by
        obtain ⟨rfl, rfl⟩ := hopening
        rw [beginsReference_iff, Option.isSome_iff_exists])
    else isFalse fun ⟨_, _, _, htext⟩ => by
      obtain ⟨rfl, hrest⟩ := List.cons.inj htext
      exact hopening ⟨rfl, (List.cons.inj hrest).1⟩

/-- Puts a sign before each reference. -/
def escapeReferences : List Char → List Char
  | [] => []
  | c :: rest =>
    if BeginsReference (c :: rest) then '$' :: c :: escapeReferences rest
    else c :: escapeReferences rest

theorem escapeReferences_append (hfront : '$' ∉ front) :
    escapeReferences (front ++ text) = front ++ escapeReferences text := by
  induction front with
  | nil => rfl
  | cons c front ih =>
    obtain ⟨hc, hfront⟩ := not_or.1 (mt List.mem_cons.2 hfront)
    have hhere : ¬ BeginsReference (c :: (front ++ text)) := by
      rintro ⟨name, after, -, htext⟩
      exact hc (List.cons.inj htext).1.symm
    rw [List.cons_append, escapeReferences, if_neg hhere, ih hfront, List.cons_append]

theorem escapeReferences_reference (hname : IsVariableName name) :
    escapeReferences (referenceText name ++ text) =
      '$' :: (referenceText name ++ escapeReferences text) := by
  have hinside : '$' ∉ '\x7b' :: (name ++ ['\x7d']) := by
    simpa using hname.sign_not_mem
  have hhere : BeginsReference (referenceText name ++ text) := ⟨name, text, hname, rfl⟩
  rw [referenceText, List.cons_append] at hhere ⊢
  rw [escapeReferences, if_pos hhere, escapeReferences_append hinside]
  rfl

/-- What is written without signs was there before signs were put in. -/
theorem exists_of_escapeReferences_eq_append (hfront : '$' ∉ front)
    (htext : escapeReferences text = front ++ rest) :
    ∃ later, text = front ++ later ∧ escapeReferences later = rest := by
  induction front generalizing text with
  | nil => exact ⟨text, rfl, htext⟩
  | cons c front ih =>
    obtain ⟨hc, hrest⟩ := not_or.1 (mt List.mem_cons.2 hfront)
    cases text with
    | nil => contradiction
    | cons first text =>
      rw [escapeReferences] at htext
      split at htext
      · exact absurd (List.cons.inj htext).1 hc
      · obtain ⟨rfl, hwritten⟩ := List.cons.inj htext
        obtain ⟨later, rfl, hlater⟩ := ih hrest hwritten
        exact ⟨later, rfl, hlater⟩

theorem not_beginsReference_escapeReferences (text : List Char) :
    ¬ BeginsReference (escapeReferences text) := by
  rintro ⟨name, after, hname, htext⟩
  have hinside : '$' ∉ '\x7b' :: (name ++ ['\x7d']) := by
    simpa using hname.sign_not_mem
  cases text with
  | nil => contradiction
  | cons c text =>
    rw [escapeReferences] at htext
    split at htext
    next hhere =>
      obtain ⟨_, _, _, hopening⟩ := hhere
      obtain ⟨rfl, -⟩ := List.cons.inj hopening
      simp [referenceText] at htext
    next hhere =>
      obtain ⟨rfl, hrest⟩ := List.cons.inj htext
      obtain ⟨later, rfl, -⟩ := exists_of_escapeReferences_eq_append hinside hrest
      exact hhere ⟨name, later, hname, rfl⟩

/-- A text in which each reference is escaped stands for the text itself. -/
theorem substitute_escapeReferences :
    substitute environment (escapeReferences text) = .ok text := by
  induction text using parts_induction with
  | nil => rw [escapeReferences, substitute]
  | letter c rest hhere hnext ih =>
    have hescaped : escapeReferences (c :: rest) = c :: escapeReferences rest := by
      rw [escapeReferences, if_neg hhere]
    have hstays := not_beginsReference_escapeReferences (c :: rest)
    rw [hescaped] at hstays ⊢
    rw [substitute_letter hstays fun _ => not_beginsReference_escapeReferences _, ih]
    rfl
  | reference name rest hname ih =>
    rw [escapeReferences_reference hname, substitute_escape hname, ih]
    rfl
  | escaped name rest hname ih =>
    have hhere : ¬ BeginsReference ('$' :: (referenceText name ++ rest)) := by
      rintro ⟨other, after, -, htext⟩
      simp [referenceText] at htext
    have hescaped : escapeReferences ('$' :: (referenceText name ++ rest)) =
        '$' :: escapeReferences (referenceText name ++ rest) := by
      rw [escapeReferences, if_neg hhere]
    have hstays := not_beginsReference_escapeReferences ('$' :: (referenceText name ++ rest))
    rw [hescaped] at hstays ⊢
    rw [substitute_letter hstays fun _ => not_beginsReference_escapeReferences _,
      escapeReferences_reference hname, substitute_escape hname, ih]
    rfl

/-- One scan puts in all variables.  A text whose references are all escaped stands for
itself.  Of any other text the first reference that is neither escaped nor set is the error, and
without one each part is replaced on its own: a reference by its value as it is, an escaped
reference by the reference, and a character by itself. -/
theorem substitute_scans_once (environment : Environment) (text : List Char) :
    substitute environment (escapeReferences text) = .ok text ∧
      (∀ cause, substitute environment text = .error cause ↔
        ∃ before name, Misses environment text before name ∧
          (∀ before' name', Misses environment text before' name' →
            before.length ≤ before'.length) ∧
          cause = .missingVariable (String.ofList name)) ∧
      ∃ parts, Divides parts text ∧
        substitute environment text =
          (parts.mapM (Part.value environment)).map List.flatten := by
  obtain ⟨parts, hparts, hvalue⟩ := exists_parts text
  exact ⟨substitute_escapeReferences, fun _ => substitute_eq_error_iff, parts, hparts,
    hvalue environment⟩

end GadgetGuard.Config
