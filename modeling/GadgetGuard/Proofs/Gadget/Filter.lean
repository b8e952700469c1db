import GadgetGuard.Gadget.Walk
import GadgetGuard.Proofs.Document.Reading
import GadgetGuard.Proofs.Text.Ascii
/-!
# The filter that the walk computes

What the walk makes of a tree is a pure function of that tree.  Every node has a fate that
follows from what it holds alone: it stays with everything below it, it goes, or it stays in a
filtered form above filtered children or above one sanitized text.
-/

namespace GadgetGuard

open GadgetGuard.Text

/-- Texts, CDATA sections and references. -/
def NodeData.isLeaf : NodeData → Bool
  | .text _ | .cdata _ | .entity _ => true
  | _ => false

namespace Policy

variable {tag name : String}

theorem allowsTag_of {tags : List String} (attributes : List String) (htag : tag ∈ tags) :
    (of tags attributes).allowsTag tag = true := by
  rw [allowsTag, List.contains_iff_mem]
  exact List.mem_map_of_mem htag

theorem allowsAttribute_of (tags : List String) {attributes : List String}
    (hname : name ∈ attributes) : (of tags attributes).allowsAttribute name = true := by
  rw [allowsAttribute, List.contains_iff_mem]
  exact List.mem_map_of_mem hname

end Policy

namespace Sanitizer

variable (sanitizer : Sanitizer)

/-- The attributes after a verdict on the attributes of one name. -/
def Verdict.applied (name : String) : Verdict → List Attribute → List Attribute
  | keep, attributes => attributes
  | drop, attributes => attributes.filter fun a => !equalIgnoringCase a.name name
  | replace value, attributes => Document.setIn (lower name) value attributes

/-- The verdicts are taken on the attributes that an element had at first, in their order, and
each one is applied to what the ones before it have left. -/
def filteredAttributes (tag : String) (attributes : List Attribute) : List Attribute :=
  attributes.foldl (fun kept a => (sanitizer.judge tag a).value.applied a.name kept) attributes

/-- What the walk does with a node. -/
inductive Fate
  /-- It stays as it is, and so does everything below it. -/
  | keep
  /-- It goes, and everything below it goes with it. -/
  | drop
  /-- It stays in the given form, and what is below it is filtered. -/
  | enter (kept : Item)
  /-- It stays in the given form, above nothing but its sanitized text. -/
  | restyle (kept : Item)
  deriving DecidableEq, Repr

def fate (item : Item) : Fate :=
  match item.data with
  | .text _ | .cdata _ | .entity _ => .keep
  | .comment _ | .other _ => .drop
  | .document => .enter item
  | .element name attributes =>
    match item.trust with
    | .all => .keep
    | .self => .enter item
    | .none =>
      if !sanitizer.policy.allowsTag name then .drop
      else
        let kept : Item :=
          ⟨.element name (sanitizer.filteredAttributes (lower name) attributes), .none⟩
        if lower name = "style" then .restyle kept else .enter kept

/-- What the stylesheet sanitizer makes of a text. -/
def styleOutcome (css : String) : Style.Outcome :=
  (sanitizer.styles css sanitizer.context sanitizer.styleLinks).value

/-- The sanitized form of a stylesheet; there is none if it is refused. -/
def cleanedText (css : String) : String :=
  match sanitizer.styleOutcome css with
  | .clean cleaned => cleaned
  | _ => ""

def textLeaf (content : String) : Rose Item :=
  .node ⟨.text content, .none⟩ []

/-- What the walk leaves of a tree: nothing or one tree. -/
def filterTree : Rose Item → List (Rose Item)
  | .node item branches =>
    match sanitizer.fate item with
    | .keep => [.node item branches]
    | .drop => []
    | .enter kept => [.node kept (branches.flatMap filterTree)]
    | .restyle kept =>
      [.node kept [textLeaf (sanitizer.cleanedText (Rose.node item branches).text)]]

/-- Whether the stylesheet sanitizer accepts a text. -/
def Cleans (css : String) : Prop :=
  ∃ cleaned, sanitizer.styleOutcome css = .clean cleaned

/-- Whether the walk comes to its end below a node when so many levels may be entered. -/
def Passes : Nat → Rose Item → Prop
  | 0, _ => False
  | levels + 1, .node item branches =>
    match sanitizer.fate item with
    | .keep | .drop => True
    | .enter _ => ∀ branch ∈ branches, Passes levels branch
    | .restyle _ => 0 < levels ∧ sanitizer.Cleans (Rose.node item branches).text

variable {sanitizer : Sanitizer} {item kept : Item} {branches : List (Rose Item)}

theorem allowsTag_lower (policy : Policy) (name : String) :
    policy.allowsTag (lower name) = policy.allowsTag name := by
  rw [Policy.allowsTag, Policy.allowsTag, lower_lower]

/-- What is left alone is a leaf or exempt with everything below it. -/
theorem leaf_or_all_of_keep (hfate : sanitizer.fate item = .keep) :
    item.data.isLeaf = true ∨ item.trust = .all := by
  obtain ⟨data, trust⟩ := item
  cases data with
  | element name attributes =>
    cases trust with
    | none =>
      simp only [fate] at hfate
      split at hfate
      · contradiction
      · split at hfate
        · contradiction
        · contradiction
    | self => contradiction
    | all => exact .inr rfl
  | text _ => exact .inl rfl
  | cdata _ => exact .inl rfl
  | entity _ => exact .inl rfl
  | _ => contradiction

/-- Only documents are entered, elements that are exempt themselves, and unmarked elements that
the policy allows and that are no style elements. -/
theorem entered_data (hfate : sanitizer.fate item = .enter kept) :
    item.data = .document ∧ kept = item ∨
      ∃ name attributes, item.data = .element name attributes ∧
        (item.trust = .self ∧ kept = item ∨
          item.trust = .none ∧ sanitizer.policy.allowsTag name = true ∧ lower name ≠ "style" ∧
            kept =
              ⟨.element name (sanitizer.filteredAttributes (lower name) attributes), .none⟩) := by
  obtain ⟨data, trust⟩ := item
  cases data with
  | document =>
    simp only [fate, Fate.enter.injEq] at hfate
    exact .inl ⟨rfl, hfate.symm⟩
  | element name attributes =>
    refine .inr ⟨name, attributes, rfl, ?_⟩
    cases trust with
    | none =>
      simp only [fate] at hfate
      split at hfate
      · contradiction
      next hallowed =>
        split at hfate
        · contradiction
        next hstyle =>
          rw [Fate.enter.injEq] at hfate
          exact .inr ⟨rfl, by simpa using hallowed, hstyle, hfate.symm⟩
    | self =>
      simp only [fate, Fate.enter.injEq] at hfate
      exact .inl ⟨rfl, hfate.symm⟩
    | all => simp [fate] at hfate
  | _ => simp [fate] at hfate

/-- What is entered stays what it is, and its mark stays. -/
theorem kept_data (hfate : sanitizer.fate item = .enter kept) :
    item.data = .document ∧ kept = item ∨
      ∃ name before after, item.data = .element name before ∧ kept.data = .element name after ∧
        kept.trust = item.trust := by
  rcases entered_data hfate with hdocument | ⟨name, attributes, helement, hkept⟩
  · exact .inl hdocument
  · right
    rcases hkept with ⟨_, rfl⟩ | ⟨htrust, _, _, rfl⟩
    · exact ⟨name, attributes, attributes, helement, helement, rfl⟩
    · exact ⟨name, attributes, _, helement, rfl, htrust.symm⟩

/-- Only unmarked style elements that the policy allows get a new text. -/
theorem restyled_data (hfate : sanitizer.fate item = .restyle kept) :
    ∃ name attributes, item = ⟨.element name attributes, .none⟩ ∧
      sanitizer.policy.allowsTag name = true ∧ lower name = "style" ∧
      kept = ⟨.element name (sanitizer.filteredAttributes (lower name) attributes), .none⟩ := by
  obtain ⟨data, trust⟩ := item
  cases data with
  | element name attributes =>
    cases trust with
    | none =>
      simp only [fate] at hfate
      split at hfate
      · contradiction
      next hallowed =>
        split at hfate
        next hstyle =>
          rw [Fate.restyle.injEq] at hfate
          exact ⟨name, attributes, rfl, by simpa using hallowed, hstyle, hfate.symm⟩
        · contradiction
    | self => simp [fate] at hfate
    | all => simp [fate] at hfate
  | _ => simp [fate] at hfate

end Sanitizer

end GadgetGuard
