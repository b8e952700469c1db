import GadgetGuard.Host.Basic
import GadgetGuard.Proofs.Encoding.Form
import GadgetGuard.Proofs.Text.Ascii
/-!
# Spellings of host names

Letters of a host name can be written in either case, and all its characters as escapes.  However
it is spelled, a name is read as the same host.  A dot at the end, which stands for the root of all
names, is kept as part of the host unless the host is an address.
-/

namespace GadgetGuard

open GadgetGuard.Text GadgetGuard.Encoding

/-- Characters of host names: letters, digits, hyphens, underscores, and dots between labels. -/
def isHostCharacter (c : Char) : Bool :=
  isNameCharacter c || c == '_' || c == '.'

/-- A name without the dot for the root. -/
structure IsHostName (name : List Char) : Prop where
  characters : ∀ c ∈ name, isHostCharacter c = true
  nonempty : name ≠ []
  rootless : name.getLast? ≠ some '.'

instance (name : List Char) : Decidable (IsHostName name) :=
  decidable_of_iff
    (name.all isHostCharacter = true ∧ name ≠ [] ∧ name.getLast? ≠ some '.')
    ⟨fun hname => ⟨List.all_eq_true.1 hname.1, hname.2.1, hname.2.2⟩,
      fun hname => ⟨List.all_eq_true.2 hname.characters, hname.nonempty, hname.rootless⟩⟩

/-- The texts that a host name can be written as.  A character is written as it is in either case,
or as an escape of its byte in either case. -/
inductive SpellsHost : List Char → List Char → Prop
  | nil : SpellsHost [] []
  | plain {c d : Char} {name text : List Char} (hcase : d.toLower = c.toLower)
      (hrest : SpellsHost name text) : SpellsHost (c :: name) (d :: text)
  | escaped {c d first second : Char} {name text : List Char} {high low : Nat}
      (hcase : d.toLower = c.toLower) (hhigh : hexValue? first = some high)
      (hlow : hexValue? second = some low) (hbyte : d.toNat = high * 16 + low)
      (hrest : SpellsHost name text) : SpellsHost (c :: name) ('%' :: first :: second :: text)

/-! ## Characters of names -/

theorem isHostCharacter_toLower (c : Char) : isHostCharacter c.toLower = isHostCharacter c := by
  by_cases hcapital : c.isUpper
  · have hname : isNameCharacter c = true := by
      rw [isNameCharacter, Char.isAlphanum, Char.isAlpha, hcapital, Bool.true_or, Bool.true_or,
        Bool.true_or]
    rw [isHostCharacter, isHostCharacter, isNameCharacter_toLower, hname, Bool.true_or,
      Bool.true_or, Bool.true_or, Bool.true_or]
  · rw [Char.toLower_eq_of_not_isUpper hcapital]

theorem isHostCharacter_of_toLower {c d : Char} (hcase : d.toLower = c.toLower)
    (hc : isHostCharacter c = true) : isHostCharacter d = true := by
  rw [← isHostCharacter_toLower, hcase, isHostCharacter_toLower, hc]

theorem lt_of_isHostCharacter {c : Char} (hc : isHostCharacter c = true) : c.toNat < 128 := by
  simp only [isHostCharacter, isNameCharacter, Bool.or_eq_true, beq_iff_eq] at hc
  rcases hc with ((hletter | rfl) | rfl) | rfl
  · exact lt_of_isAlphanum hletter
  all_goals decide

theorem isHostCharacter_of_hexValue? {c : Char} {value : Nat} (hdigit : hexValue? c = some value) :
    isHostCharacter c = true := by
  have hall : ∀ d : Char, d.toNat < 128 → (hexValue? d).isSome = true → isHostCharacter d = true :=
    forall_ascii (by decide)
  exact hall c (lt_of_hexValue? hdigit).1 (hdigit ▸ rfl)

namespace IsHostName

variable {name : List Char}

theorem map_toLower (hname : IsHostName name) : IsHostName (name.map Char.toLower) where
  characters := by
    rw [List.forall_mem_map]
    exact fun c hc => (isHostCharacter_toLower c).trans (hname.characters c hc)
  nonempty := mt List.map_eq_nil_iff.1 hname.nonempty
  rootless := by
    rw [List.getLast?_map, ne_eq, Option.map_eq_some_iff]
    rintro ⟨c, hlast, hdot⟩
    exact hname.rootless (hlast.trans (congrArg some (eq_of_toLower_eq rfl hdot)))

theorem characters_append_dot (hname : IsHostName name) :
    ∀ c ∈ name ++ ['.'], isHostCharacter c = true := by
  rw [List.forall_mem_append, List.forall_mem_singleton]
  exact ⟨hname.characters, by decide⟩

/-- The last label of a host name is not empty. -/
theorem exists_labels (hname : IsHostName name) :
    ∃ label labels, (splitAt (· == '.') name).reverse = label :: labels ∧ label ≠ [] := by
  rcases List.eq_nil_or_concat name with hnil | ⟨start, c, hconcat⟩
  · exact absurd hnil hname.nonempty
  · have hlast := hname.rootless
    rw [hconcat, List.concat_eq_append, List.getLast?_concat, ne_eq, Option.some.injEq] at hlast
    obtain ⟨labels, label, hlabels⟩ : ∃ labels label,
        splitAt (· == '.') (start ++ [c]) = labels ++ [label ++ [c]] :=
      splitAt_concat start (beq_eq_false_iff_ne.2 hlast)
    refine ⟨label ++ [c], labels.reverse, ?_, by simp⟩
    rw [hconcat, List.concat_eq_append, hlabels, List.reverse_append]
    rfl

end IsHostName

theorem splitAt_append_dot (name : List Char) :
    splitAt (· == '.') (name ++ ['.']) = splitAt (· == '.') name ++ [[]] :=
  splitAt_append name [] rfl

theorem reverse_splitAt_append_dot (name : List Char) :
    (splitAt (· == '.') (name ++ ['.'])).reverse = [] :: (splitAt (· == '.') name).reverse := by
  rw [splitAt_append_dot, List.reverse_append]
  rfl

/-! ## Looking a name up -/

namespace Domain

variable {text name : List Char}

/-- Whether a folded name is one that can be looked up. -/
def isAccepted (folded : List Char) : Bool :=
  match (splitAt (· == '.') folded).mapM letters? with
  | none => false
  | some letters =>
    !letters.any (·.any isForbidden) &&
      !(letters.any hasRightToLeft && !letters.all directionAllowed)

theorem isAscii_map_toLower (hascii : isAscii text = true) :
    isAscii (text.map Char.toLower) = true := by
  have hall : ∀ c : Char, c.toNat < 128 → c.toLower.toNat < 128 :=
    forall_ascii (by decide)
  rw [isAscii, List.all_eq_true] at hascii
  rw [isAscii, List.all_map, List.all_eq_true]
  intro c hc
  exact decide_eq_true (hall c (of_decide_eq_true (hascii c hc)))

/-- The labels of an ASCII name are looked up as they are. -/
theorem map_labelText (hascii : isAscii text = true) :
    (splitAt (· == '.') text).map labelText = splitAt (· == '.') text := by
  rw [isAscii, List.all_eq_true] at hascii
  refine (List.map_congr_left fun label hlabel => ?_).trans (List.map_id _)
  have hlabelAscii : isAscii label = true := by
    rw [isAscii, List.all_eq_true]
    exact fun c hc => hascii c (mem_of_mem_splitAt hlabel c hc)
  rw [labelText, if_pos hlabelAscii, id]

/-- An ASCII name is looked up in lower case, if at all. -/
theorem toAscii?_of_isAscii (hascii : isAscii text = true) :
    toAscii? (encodeUtf8 text) =
      if isAccepted (text.map Char.toLower) then some (text.map Char.toLower) else none := by
  rw [toAscii?, decodeUtf8?_eq_some_iff.2 rfl, Option.bind_eq_bind, Option.bind_some, fold?,
    if_pos hascii, Option.bind_eq_bind, Option.bind_some, isAccepted]
  dsimp only
  cases (splitAt (· == '.') (text.map Char.toLower)).mapM letters? with
  | none => rfl
  | some letters =>
    rw [Option.bind_some, map_labelText (isAscii_map_toLower hascii),
      intercalate_splitAt]
    have hboth : ∀ isBad isMixed : Bool,
        (if isBad then none else if isMixed then none else some (text.map Char.toLower)) =
          if !isBad && !isMixed then some (text.map Char.toLower) else none := by
      intro isBad isMixed
      cases isBad with
      | true => rfl
      | false => cases isMixed <;> rfl
    exact hboth _ _

/-- The dot for the root adds an empty label, which nothing speaks against. -/
theorem isAccepted_append_dot : isAccepted (name ++ ['.']) = isAccepted name := by
  have hempty : [[]].mapM letters? = some [[]] := rfl
  rw [isAccepted, isAccepted, splitAt_append_dot, List.mapM_append, hempty]
  cases (splitAt (· == '.') name).mapM letters? with
  | none => rfl
  | some letters =>
    have hleft : hasRightToLeft [] = false := rfl
    have hallowed : directionAllowed [] = true := rfl
    simp [hleft, hallowed]

end Domain

/-! ## Names that are looked up -/

namespace Unicode

/-- A character before all stretches of a table is in none of them. -/
theorem not_inStretches_of_lt {table : String} {text : List Char} {bound : Nat} {c : Char}
    (htable : table = String.ofList text)
    (hbound : (((splitAt (fun c => c == ' ' || c == '\n') text).filter (! ·.isEmpty)).map
      Stretch.ofText).all (fun stretch => decide (bound ≤ stretch.first)) = true)
    (hc : c.toNat < bound) : inStretches (Stretch.rows table) c = false := by
  rw [List.all_eq_true] at hbound
  rw [inStretches, Stretch.rows, rows, htable, String.toList_ofList, List.any_eq_false]
  intro stretch hstretch hcovers
  have hfirst := of_decide_eq_true (hbound stretch hstretch)
  rw [Stretch.covers, Bool.and_eq_true, decide_eq_true_eq] at hcovers
  omega

set_option maxRecDepth 10000 in
theorem not_rightToLeft_of_ascii {c : Char} (hc : c.toNat < 128) :
    inStretches rightToLeftLetters c = false :=
  not_inStretches_of_lt rfl (by decide +kernel) hc

theorem not_arabicNumber_of_ascii {c : Char} (hc : c.toNat < 128) :
    inStretches arabicNumbers c = false :=
  not_inStretches_of_lt rfl (by decide +kernel) hc

end Unicode

namespace Domain

variable {name label : List Char}

theorem not_hasRightToLeft (hascii : isAscii label = true) : hasRightToLeft label = false := by
  rw [isAscii, List.all_eq_true] at hascii
  rw [hasRightToLeft, List.any_eq_false]
  intro c hc
  have hlow : c.toNat < 128 := of_decide_eq_true (hascii c hc)
  rw [Unicode.Direction.ofChar, Unicode.not_rightToLeft_of_ascii hlow,
    Unicode.not_arabicNumber_of_ascii hlow]
  generalize Unicode.inStretches Unicode.europeanNumbers c = isNumber
  generalize Unicode.inStretches Unicode.neutralSigns c = isNeutral
  generalize Unicode.inStretches Unicode.nonspacingMarks c = isMark
  cases isNumber with
  | true => exact Bool.false_ne_true
  | false =>
    cases isNeutral with
    | true => exact Bool.false_ne_true
    | false =>
      cases isMark with
      | true => exact Bool.false_ne_true
      | false => exact Bool.false_ne_true

theorem letters?_of_isAscii (hascii : isAscii label = true) (hcode : ¬ "xn--".toList <+: label) :
    letters? label = some label := by
  rw [letters?, stripStart?_eq_none hcode]
  dsimp only
  rw [hascii, Bool.true_or, if_pos rfl]

theorem mapM_letters? {labels : List (List Char)}
    (hlabels : ∀ label ∈ labels, letters? label = some label) :
    labels.mapM letters? = some labels := by
  induction labels with
  | nil => rfl
  | cons label labels ih =>
    rw [List.forall_mem_cons] at hlabels
    rw [List.mapM_cons, hlabels.1, ih hlabels.2]
    rfl

/-- A host name is looked up unless one of its labels claims to be Punycode. -/
theorem isAccepted_of_not_code (hname : ∀ c ∈ name, isHostCharacter c = true)
    (hcode : ∀ label ∈ splitAt (· == '.') name, ¬ "xn--".toList <+: label) :
    isAccepted name = true := by
  have hcharacters : ∀ label ∈ splitAt (· == '.') name, ∀ c ∈ label, isHostCharacter c = true :=
    fun label hlabel c hc => hname c (mem_of_mem_splitAt hlabel c hc)
  have hascii : ∀ label ∈ splitAt (· == '.') name, isAscii label = true := by
    intro label hlabel
    rw [isAscii, List.all_eq_true]
    exact fun c hc => decide_eq_true (lt_of_isHostCharacter (hcharacters label hlabel c hc))
  have hletters : (splitAt (· == '.') name).mapM letters? = some (splitAt (· == '.') name) :=
    mapM_letters? fun label hlabel => letters?_of_isAscii (hascii label hlabel) (hcode label hlabel)
  have hallowed : ∀ c : Char, c.toNat < 128 → isHostCharacter c = true → isForbidden c = false :=
    forall_ascii (by decide)
  have hforbidden : (splitAt (· == '.') name).any (·.any isForbidden) = false := by
    rw [List.any_eq_false]
    intro label hlabel hany
    obtain ⟨c, hc, hbad⟩ := List.any_eq_true.1 hany
    have hcharacter := hcharacters label hlabel c hc
    rw [hallowed c (lt_of_isHostCharacter hcharacter) hcharacter] at hbad
    exact Bool.false_ne_true hbad
  have hdirection : (splitAt (· == '.') name).any hasRightToLeft = false := by
    rw [List.any_eq_false]
    intro label hlabel
    rw [not_hasRightToLeft (hascii label hlabel)]
    exact Bool.false_ne_true
  rw [isAccepted, hletters]
  dsimp only
  rw [hforbidden, hdirection]
  rfl

end Domain

/-! ## Reading hosts -/

namespace Ipv4

variable {name : List Char}

/-- The dot for the root has no part in whether a host is meant as an address. -/
theorem isIntended_append_dot (hname : IsHostName name) :
    isIntended (name ++ ['.']) = isIntended name := by
  obtain ⟨label, labels, hlabels, hlabel⟩ := hname.exists_labels
  rw [isIntended, isIntended, reverse_splitAt_append_dot, hlabels]
  cases label with
  | nil => exact absurd rfl hlabel
  | cons c label => rfl

/-- The dot for the root has no part in which address is meant. -/
theorem ofHost?_append_dot (hname : IsHostName name) :
    ofHost? (name ++ ['.']) = ofHost? name := by
  obtain ⟨label, labels, hlabels, hlabel⟩ := hname.exists_labels
  rw [ofHost?, ofHost?, reverse_splitAt_append_dot, hlabels]
  cases label with
  | nil => exact absurd rfl hlabel
  | cons c label =>
    dsimp only
    rw [← hlabels, List.reverse_reverse]

/-- The last label alone says whether a host is meant as an address. -/
theorem isIntended_append {label : List Char} (before : List Char) (hne : label ≠ [])
    (hlabel : ∀ c ∈ label, (c == '.') = false) :
    isIntended (before ++ '.' :: label) = isIntended label := by
  rw [isIntended, isIntended, splitAt_append before label rfl, splitAt_of_none hlabel,
    List.reverse_append]
  cases label with
  | nil => exact absurd rfl hne
  | cons c label => rfl

end Ipv4

namespace Host

variable {name text : List Char}

/-- The dot for the root stays on a domain and is dropped from an address. -/
theorem ofDomain_append_dot (hname : IsHostName name) :
    ofDomain (name ++ ['.']) =
      if Ipv4.isIntended name then ofDomain name
      else .ok (.domain (String.ofList (name ++ ['.']))) := by
  have hdotted : (name ++ ['.']).isEmpty = false := by simp
  have hplain : name.isEmpty = false := by simpa using hname.nonempty
  rw [ofDomain, ofDomain, hdotted, hplain, Ipv4.isIntended_append_dot hname,
    Ipv4.ofHost?_append_dot hname]
  cases Ipv4.isIntended name with
  | true => rfl
  | false => rfl

end Host

namespace SpellsHost

variable {name text : List Char}

theorem self (name : List Char) : SpellsHost name name := by
  induction name with
  | nil => exact .nil
  | cons c name ih => exact .plain rfl ih

/-- A host name is spelled with characters of host names and percent signs. -/
theorem characters (hspells : SpellsHost name text) (hname : ∀ c ∈ name, isHostCharacter c = true) :
    ∀ c ∈ text, isHostCharacter c = true ∨ c = '%' := by
  induction hspells with
  | nil => simp
  | plain hcase hrest ih =>
    rw [List.forall_mem_cons] at hname
    rw [List.forall_mem_cons]
    exact ⟨.inl (isHostCharacter_of_toLower hcase hname.1), ih hname.2⟩
  | escaped hcase hhigh hlow hbyte hrest ih =>
    rw [List.forall_mem_cons] at hname
    rw [List.forall_mem_cons, List.forall_mem_cons, List.forall_mem_cons]
    exact ⟨.inr rfl, .inl (isHostCharacter_of_hexValue? hhigh),
      .inl (isHostCharacter_of_hexValue? hlow), ih hname.2⟩

/-- Unescaping leaves a spelling in which only the case differs. -/
theorem percentDecode (hspells : SpellsHost name text)
    (hname : ∀ c ∈ name, isHostCharacter c = true) :
    ∃ written, Encoding.percentDecode (encodeUtf8 text) = encodeUtf8 written ∧
      Domain.isAscii written = true ∧ written.map Char.toLower = name.map Char.toLower := by
  induction hspells with
  | nil => exact ⟨[], by rw [encodeUtf8, List.flatMap_nil, Encoding.percentDecode], rfl, rfl⟩
  | @plain c d name text hcase hrest ih =>
    rw [List.forall_mem_cons] at hname
    obtain ⟨written, hdecoded, hascii, hfolded⟩ := ih hname.2
    have hd := isHostCharacter_of_toLower hcase hname.1
    have hpercent : d ≠ '%' := by
      rintro rfl
      exact absurd hd (by decide)
    refine ⟨d :: written, ?_, ?_, ?_⟩
    · rw [encodeUtf8, List.flatMap_cons, encodeUtf8, List.flatMap_cons]
      exact (percentDecode_append_of_ne (ne_percent_of_mem_utf8EncodeChar hpercent)).trans
        (congrArg _ hdecoded)
    · rw [Domain.isAscii, List.all_cons, Bool.and_eq_true]
      exact ⟨decide_eq_true (lt_of_isHostCharacter hd), hascii⟩
    · rw [List.map_cons, List.map_cons, hcase, hfolded]
  | @escaped c d first second name text high low hcase hhigh hlow hbyte hrest ih =>
    rw [List.forall_mem_cons] at hname
    obtain ⟨written, hdecoded, hascii, hfolded⟩ := ih hname.2
    have hd := lt_of_isHostCharacter (isHostCharacter_of_toLower hcase hname.1)
    refine ⟨d :: written, ?_, ?_, ?_⟩
    · have htext : encodeUtf8 ('%' :: first :: second :: text) =
          encodeUtf8 ['%', first, second] ++ encodeUtf8 text := by
        simp [encodeUtf8]
      rw [htext, percentDecode_escape hhigh hlow, hdecoded, ← hbyte, encodeUtf8, encodeUtf8,
        List.flatMap_cons, utf8EncodeChar_one hd]
      rfl
    · rw [Domain.isAscii, List.all_cons, Bool.and_eq_true]
      exact ⟨decide_eq_true hd, hascii⟩
    · rw [List.map_cons, List.map_cons, hcase, hfolded]

/-- All spellings of a name are read as one host. -/
theorem parse (hspells : SpellsHost name text) (hname : ∀ c ∈ name, isHostCharacter c = true) :
    Host.parse text =
      if Domain.isAccepted (name.map Char.toLower) then Host.ofDomain (name.map Char.toLower)
      else .error .invalidDomain := by
  obtain ⟨written, hdecoded, hascii, hfolded⟩ := hspells.percentDecode hname
  unfold Host.parse
  split
  next rest =>
    rcases hspells.characters hname '[' List.mem_cons_self with hbracket | hbracket
    · exact absurd hbracket (by decide)
    · exact absurd hbracket (by decide)
  · rw [hdecoded, Domain.toAscii?_of_isAscii hascii, hfolded]
    cases Domain.isAccepted (name.map Char.toLower) with
    | true => rfl
    | false => rfl

/-- The dot for the root changes the host that is read only if that is a domain. -/
theorem parse_append_dot (hname : IsHostName name) (hspells : SpellsHost (name ++ ['.']) text) :
    Host.parse text =
      if Ipv4.isIntended (name.map Char.toLower) then Host.parse name
      else if Domain.isAccepted (name.map Char.toLower) then
        .ok (.domain (String.ofList (name.map Char.toLower ++ ['.'])))
      else .error .invalidDomain := by
  have hdot : ['.'].map Char.toLower = ['.'] := rfl
  rw [hspells.parse hname.characters_append_dot, (self name).parse hname.characters,
    List.map_append, hdot, Domain.isAccepted_append_dot, Host.ofDomain_append_dot hname.map_toLower]
  cases Ipv4.isIntended (name.map Char.toLower) with
  | true => rfl
  | false => rfl

end SpellsHost

end GadgetGuard
