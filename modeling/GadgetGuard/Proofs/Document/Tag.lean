import GadgetGuard.Document.Html
import GadgetGuard.Proofs.Document.Reading
import GadgetGuard.Proofs.Text.Ascii
import GadgetGuard.Proofs.Text.Cut
/-!
# Tags in written pages

A reader that knows nothing of documents finds the tags of a page by cutting it from each `<`
to the next `>`, and the attributes of a tag at its quotes.  Escaped text and values hold no
character that would lead such a reader astray, so it finds the tags that were written and
reads the attributes that were stored.
-/

namespace GadgetGuard

open GadgetGuard.Text

inductive Tag
  | opening (name : String) (attributes : List Attribute)
  | closing (name : String)
  deriving DecidableEq, Repr

namespace Tag

def text : Tag → String
  | opening name attributes => Document.openingTag name attributes
  | closing name => Document.closingTag name

end Tag

namespace Rose

/-- The tags of the elements of a tree, in the order of the document. -/
def tags : Rose Item → List Tag
  | node item branches =>
    match item.data with
    | .element name attributes =>
      if Document.voidElements.contains (lower name) && branches.isEmpty then
        [.opening name attributes]
      else .opening name attributes :: branches.flatMap tags ++ [.closing name]
    | _ => branches.flatMap tags

/-- The part of a tree that is written: only documents and elements are written with what is
below them. -/
def written : Rose Item → Rose Item
  | node item branches =>
    match item.data with
    | .document | .element _ _ => node item (branches.map written)
    | _ => node item []

theorem html_written (tree : Rose Item) (isRawText : Bool) :
    tree.written.html isRawText = tree.html isRawText := by
  induction tree generalizing isRawText with
  | node item branches ih =>
    have hbranches : ∀ isRaw, (branches.map written).map (html isRaw) =
        branches.map (html isRaw) := by
      intro isRaw
      rw [List.map_map]
      exact List.map_congr_left fun branch hbranch => ih branch hbranch isRaw
    obtain ⟨data, trust⟩ := item
    cases data with
    | document => rw [written, html, html, hbranches]
    | element name attributes => simp only [written, html, hbranches, List.isEmpty_map]
    | _ => rw [written, html, html]

end Rose

/-! ## Finding tags -/

/-- A page cut from each `<` to the next `>`. -/
def cutTags : List Char → List (List Char)
  | [] => []
  | c :: rest =>
    if c = '<' then
      (c :: rest.takeWhile (· != '>') ++ (rest.dropWhile (· != '>')).take 1) ::
        cutTags ((rest.dropWhile (· != '>')).drop 1)
    else cutTags rest
termination_by text => text.length
decreasing_by
  · have hlength := length_dropWhile_le (· != '>') rest
    rw [List.length_drop, List.length_cons]
    omega
  · exact Nat.lt_succ_self _

theorem cutTags_append_of_not_mem {text : List Char} (rest : List Char) (htext : '<' ∉ text) :
    cutTags (text ++ rest) = cutTags rest := by
  induction text with
  | nil => rfl
  | cons c text ih =>
    rw [List.mem_cons, not_or] at htext
    rw [List.cons_append, cutTags, if_neg (Ne.symm htext.1), ih htext.2]

theorem cutTags_append_tag {inside : List Char} (rest : List Char) (hinside : '>' ∉ inside) :
    cutTags ('<' :: inside ++ '>' :: rest) = ('<' :: inside ++ ['>']) :: cutTags rest := by
  have hall := bne_of_not_mem hinside
  rw [List.cons_append, cutTags, if_pos rfl, List.takeWhile_append_of_pos hall,
    List.dropWhile_append_of_pos hall]
  simp

/-! ## Reading attributes -/

/-- The four references that values are written with, replaced by their characters. -/
def decodeReferences : List Char → List Char
  | '&' :: 'a' :: 'm' :: 'p' :: ';' :: rest => '&' :: decodeReferences rest
  | '&' :: 'q' :: 'u' :: 'o' :: 't' :: ';' :: rest => '"' :: decodeReferences rest
  | '&' :: 'l' :: 't' :: ';' :: rest => '<' :: decodeReferences rest
  | '&' :: 'g' :: 't' :: ';' :: rest => '>' :: decodeReferences rest
  | c :: rest => c :: decodeReferences rest
  | [] => []

theorem decodeReferences_cons {c : Char} (rest : List Char) (hc : c ≠ '&') :
    decodeReferences (c :: rest) = c :: decodeReferences rest := by
  rw [decodeReferences]
  all_goals
    intros
    contradiction

theorem decodeReferences_escape (c : Char) (rest : List Char) :
    decodeReferences (Document.escapeValueCharacter c ++ rest) = c :: decodeReferences rest := by
  unfold Document.escapeValueCharacter
  split
  · rfl
  · unfold Document.escapeTextCharacter
    split
    · rfl
    · rfl
    · rfl
    next hamp _ _ => exact decodeReferences_cons rest hamp

/-- Decoding gives back what was escaped. -/
theorem decodeReferences_flatMap (value : List Char) :
    decodeReferences (value.flatMap Document.escapeValueCharacter) = value := by
  induction value with
  | nil => rfl
  | cons c value ih => rw [List.flatMap_cons, decodeReferences_escape, ih]

theorem stripStart?_cons_of_eq (c : Char) (rest : List Char) :
    stripStart? [c] (c :: rest) = some rest := by
  rw [stripStart?, if_pos rfl, stripStart?]

theorem stripStart?_length {c : Char} {text rest : List Char}
    (hstrip : stripStart? [c] text = some rest) : rest.length < text.length := by
  cases text with
  | nil => contradiction
  | cons d text =>
    rw [stripStart?] at hstrip
    split at hstrip
    · rw [stripStart?, Option.some.injEq] at hstrip
      rw [← hstrip]
      exact Nat.lt_succ_self _
    · contradiction

/-- The attribute at which a tag goes on, with its value decoded, and what follows it. -/
def splitAttribute? (text : List Char) : Option (Attribute × List Char) := do
  let rest ← stripStart? [' '] text
  let quoted ← (cut '=' rest).2.bind (stripStart? ['"'])
  let later ← (cut '"' quoted).2
  return (⟨String.ofList (cut '=' rest).1, String.ofList (decodeReferences (cut '"' quoted).1)⟩,
    later)

theorem splitAttribute?_length {text later : List Char} {a : Attribute}
    (hsplit : splitAttribute? text = some (a, later)) : later.length < text.length := by
  obtain ⟨rest, hrest, hsplit⟩ := Option.bind_eq_some_iff.1 hsplit
  obtain ⟨quoted, hquoted, hsplit⟩ := Option.bind_eq_some_iff.1 hsplit
  obtain ⟨named, hnamed, hquoted⟩ := Option.bind_eq_some_iff.1 hquoted
  obtain ⟨_, hlater, hsplit⟩ := Option.bind_eq_some_iff.1 hsplit
  rw [(Prod.mk.inj (Option.some.inj hsplit)).2] at hlater
  calc
    later.length < quoted.length := cut_length hlater
    _ < named.length := stripStart?_length hquoted
    _ < rest.length := cut_length hnamed
    _ < text.length := stripStart?_length hrest

/-- The attributes of a tag, up to its end. -/
def readAttributes (text : List Char) : Option (List Attribute) :=
  match _hsplit : splitAttribute? text with
  | some (a, later) => (readAttributes later).map (a :: ·)
  | none => if text = ['>'] then some [] else none
termination_by text.length
decreasing_by exact splitAttribute?_length _hsplit

/-- The name of an opening tag, which ends at a blank or at the end, and its attributes. -/
def readTag (tag : List Char) : Option (String × List Attribute) :=
  match tag with
  | '<' :: rest =>
    (readAttributes (rest.dropWhile fun c => c != ' ' && c != '>')).map fun attributes =>
      (String.ofList (rest.takeWhile fun c => c != ' ' && c != '>'), attributes)
  | _ => none

/-! ## What is written -/

theorem not_mem_escapeTextCharacter (c : Char) :
    '<' ∉ Document.escapeTextCharacter c ∧ '>' ∉ Document.escapeTextCharacter c := by
  unfold Document.escapeTextCharacter
  split
  · decide
  · decide
  · decide
  next hopen hclose =>
    rw [List.mem_singleton, List.mem_singleton]
    exact ⟨Ne.symm hopen, Ne.symm hclose⟩

theorem not_mem_escapeValueCharacter (c : Char) :
    '>' ∉ Document.escapeValueCharacter c ∧ '"' ∉ Document.escapeValueCharacter c := by
  unfold Document.escapeValueCharacter
  split
  · decide
  next hquote =>
    constructor
    · exact (not_mem_escapeTextCharacter c).2
    · unfold Document.escapeTextCharacter
      split
      · decide
      · decide
      · decide
      · rw [List.mem_singleton]
        exact Ne.symm hquote

/-- Escaped text opens no tag. -/
theorem not_mem_escapeText (content : String) :
    '<' ∉ (Document.escapeText content).toList := by
  rw [Document.escapeText, String.toList_ofList, List.mem_flatMap]
  rintro ⟨_, _, hmem⟩
  exact (not_mem_escapeTextCharacter _).1 hmem

theorem not_mem_of_isEntityName {name : List Char} (hname : Document.isEntityName name = true) :
    '<' ∉ name := by
  have hall : ∀ {p : Char → Bool} {text : List Char}, text.all p = true → p '<' = false →
      '<' ∉ text := by
    intro p text hp hopen hmem
    rw [List.all_eq_true.1 hp _ hmem] at hopen
    contradiction
  unfold Document.isEntityName at hname
  split at hname
  · rw [Bool.and_eq_true] at hname
    simpa using hall hname.2 rfl
  · rw [Bool.and_eq_true] at hname
    simpa using hall hname.2 rfl
  · rw [Bool.and_eq_true] at hname
    simpa using hall hname.2 rfl
  next first rest _ _ _ =>
    rw [Bool.and_eq_true] at hname
    rw [List.mem_cons, not_or]
    refine ⟨?_, hall hname.2 rfl⟩
    rintro rfl
    exact absurd hname.1 (by decide)
  · contradiction

/-- A reference that is written opens no tag, whatever its name is. -/
theorem not_mem_entityHtml (name : String) : '<' ∉ (Document.entityHtml name).toList := by
  rw [Document.entityHtml]
  split
  next hname =>
    have hmem := not_mem_of_isEntityName hname
    simp [hmem]
  · have hmem := not_mem_escapeText name
    simp [hmem]

theorem not_mem_escapeValue {c : Char} (value : String) (hc : c = '>' ∨ c = '"') :
    c ∉ (Document.escapeValue value).toList := by
  rw [Document.escapeValue, String.toList_ofList, List.mem_flatMap]
  rintro ⟨_, _, hmem⟩
  rcases hc with rfl | rfl
  · exact (not_mem_escapeValueCharacter _).1 hmem
  · exact (not_mem_escapeValueCharacter _).2 hmem

theorem toList_attributeHtml (a : Attribute) : (Document.attributeHtml a).toList =
    ' ' :: (a.name.toList ++ '=' :: '"' :: ((Document.escapeValue a.value).toList ++ ['"'])) := by
  simp [Document.attributeHtml]

theorem toList_openingTag (name : String) (attributes : List Attribute) :
    (Document.openingTag name attributes).toList =
      '<' :: (name.toList ++ (attributes.map Document.attributeHtml).flatMap String.toList ++
        ['>']) := by
  simp [Document.openingTag, String.toList_join]

theorem toList_closingTag (name : String) :
    (Document.closingTag name).toList = '<' :: ('/' :: name.toList ++ ['>']) := by
  simp [Document.closingTag]

theorem not_mem_attributeHtml {a : Attribute} (hname : IsPlainName a.name) :
    '>' ∉ (Document.attributeHtml a).toList := by
  have hclose : '>' ∉ a.name.toList := hname.not_mem rfl
  have hvalue := not_mem_escapeValue a.value (.inl rfl)
  simp [toList_attributeHtml, hclose, hvalue]

theorem cutTags_openingTag {name : String} {attributes : List Attribute}
    (hname : IsPlainName name) (hnames : ∀ a ∈ attributes, IsPlainName a.name)
    (rest : List Char) : cutTags ((Document.openingTag name attributes).toList ++ rest) =
      (Document.openingTag name attributes).toList :: cutTags rest := by
  have hinside : '>' ∉ name.toList ++ (attributes.map Document.attributeHtml).flatMap
      String.toList := by
    rw [List.mem_append, not_or, List.mem_flatMap]
    refine ⟨hname.not_mem rfl, ?_⟩
    rintro ⟨_, hwritten, hmem⟩
    obtain ⟨a, ha, rfl⟩ := List.mem_map.1 hwritten
    exact not_mem_attributeHtml (hnames a ha) hmem
  have hcut := cutTags_append_tag rest hinside
  rw [toList_openingTag]
  simpa using hcut

theorem cutTags_closingTag {name : String} (hname : IsPlainName name) (rest : List Char) :
    cutTags ((Document.closingTag name).toList ++ rest) =
      (Document.closingTag name).toList :: cutTags rest := by
  have hinside : '>' ∉ '/' :: name.toList := by
    rw [List.mem_cons, not_or]
    exact ⟨by decide, hname.not_mem rfl⟩
  have hcut := cutTags_append_tag rest hinside
  rw [toList_closingTag]
  simpa using hcut

theorem splitAttribute?_attributeHtml {a : Attribute} (hname : IsPlainName a.name)
    (rest : List Char) :
    splitAttribute? ((Document.attributeHtml a).toList ++ rest) = some (a, rest) := by
  have hequals : '=' ∉ a.name.toList := hname.not_mem rfl
  have hquote : '"' ∉ (Document.escapeValue a.value).toList :=
    not_mem_escapeValue a.value (.inr rfl)
  have hvalue : decodeReferences (Document.escapeValue a.value).toList = a.value.toList := by
    rw [Document.escapeValue, String.toList_ofList, decodeReferences_flatMap]
  have hcut := cut_append ('"' :: ((Document.escapeValue a.value).toList ++ '"' :: rest)) hequals
  rw [toList_attributeHtml, List.cons_append, List.append_assoc, List.cons_append,
    List.cons_append, List.append_assoc, List.singleton_append, splitAttribute?,
    stripStart?_cons_of_eq, Option.bind_eq_bind, Option.bind_some, hcut, Option.bind_some,
    stripStart?_cons_of_eq, Option.bind_some, cut_append rest hquote, Option.bind_some, hvalue,
    String.ofList_toList, String.ofList_toList]
  rfl

/-- The attributes that were written are read. -/
theorem readAttributes_written {attributes : List Attribute}
    (hnames : ∀ a ∈ attributes, IsPlainName a.name) :
    readAttributes ((attributes.map Document.attributeHtml).flatMap String.toList ++ ['>']) =
      some attributes := by
  induction attributes with
  | nil =>
    rw [readAttributes]
    rfl
  | cons a attributes ih =>
    rw [List.map_cons, List.flatMap_cons, List.append_assoc, readAttributes]
    split
    next b later hsplit =>
      rw [splitAttribute?_attributeHtml (hnames a List.mem_cons_self), Option.some.injEq,
        Prod.mk.injEq] at hsplit
      rw [← hsplit.1, ← hsplit.2, ih fun b hb => hnames b (List.mem_cons_of_mem _ hb)]
      rfl
    next hsplit =>
      rw [splitAttribute?_attributeHtml (hnames a List.mem_cons_self)] at hsplit
      contradiction

/-- Reading an opening tag gives back its name and the attributes it was written with. -/
theorem readTag_openingTag {name : String} {attributes : List Attribute}
    (hname : IsPlainName name) (hnames : ∀ a ∈ attributes, IsPlainName a.name) :
    readTag (Document.openingTag name attributes).toList = some (name, attributes) := by
  have hends : ∀ c ∈ name.toList, (c != ' ' && c != '>') = true := by
    intro c hc
    rw [bne_of_not_mem (hname.not_mem rfl) c hc, bne_of_not_mem (hname.not_mem rfl) c hc]
    rfl
  have hrest : ∀ rest : List Attribute, ∃ c later,
      (rest.map Document.attributeHtml).flatMap String.toList ++ ['>'] = c :: later ∧
        (c != ' ' && c != '>') = false := by
    intro rest
    cases rest with
    | nil => exact ⟨'>', [], rfl, rfl⟩
    | cons a rest =>
      rw [List.map_cons, List.flatMap_cons, toList_attributeHtml]
      exact ⟨' ', _, rfl, rfl⟩
  have hread := readAttributes_written hnames
  obtain ⟨c, later, hwritten, hend⟩ := hrest attributes
  rw [hwritten] at hread
  rw [toList_openingTag, List.append_assoc, hwritten, readTag,
    List.takeWhile_append_of_pos hends, List.dropWhile_append_of_pos hends,
    List.takeWhile_cons_of_neg (by simp [hend]), List.dropWhile_cons_of_neg (by simp [hend]),
    hread, List.append_nil, Option.map_some, String.ofList_toList]

end GadgetGuard
