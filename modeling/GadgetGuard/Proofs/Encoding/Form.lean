import GadgetGuard.Encoding.Form
import GadgetGuard.Proofs.Text.Cut
import GadgetGuard.Proofs.Text.Utf8
/-!
# Reading back what was form-encoded

Reading undoes encoding for every text, and leaves a text as it is that has no plus and no
percent sign.  The pairs of a query that is joined from several are the pairs of each in turn.
-/

namespace GadgetGuard.Encoding

open GadgetGuard.Text

variable {c : Char} {text : List Char} {rest : Bytes}

/-! ## Percent escapes -/

theorem percentDecode_of_ne {byte : UInt8} (hbyte : byte ≠ 0x25) :
    percentDecode (byte :: rest) = byte :: percentDecode rest := by
  rw [percentDecode]
  intro _ _ _ heq _
  exact hbyte heq

theorem percentDecode_append_of_ne {bytes : Bytes} (hbytes : ∀ byte ∈ bytes, byte ≠ 0x25) :
    percentDecode (bytes ++ rest) = bytes ++ percentDecode rest := by
  induction bytes with
  | nil => rfl
  | cons byte bytes ih =>
    rw [List.cons_append, percentDecode_of_ne (hbytes byte List.mem_cons_self),
      ih fun other hother => hbytes other (List.mem_cons_of_mem _ hother), List.cons_append]

/-- Only the percent sign is written with its byte. -/
theorem ne_percent_of_mem_utf8EncodeChar (hc : c ≠ '%') :
    ∀ byte ∈ String.utf8EncodeChar c, byte ≠ 0x25 := by
  intro byte hbyte heq
  rcases Nat.lt_or_ge c.toNat 0x80 with hascii | hbeyond
  · rw [utf8EncodeChar_one hascii, List.mem_singleton] at hbyte
    have hnumber : c.toNat = byte.toNat := by
      rw [hbyte, UInt8.toNat_ofNat_of_lt' (hascii.trans (by decide))]
    rw [heq] at hnumber
    exact hc (Char.toNat_inj.1 hnumber)
  · have hlarge := le_toNat_of_mem_utf8EncodeChar hbeyond byte hbyte
    rw [heq] at hlarge
    contradiction

/-- Hexadecimal digits are ASCII, and their values are below sixteen. -/
theorem lt_of_hexValue? {value : Nat} (hdigit : hexValue? c = some value) :
    c.toNat < 0x80 ∧ value < 16 := by
  unfold hexValue? at hdigit
  dsimp only at hdigit
  split at hdigit
  · have hvalue := Option.some.inj hdigit
    omega
  · split at hdigit
    · have hvalue := Option.some.inj hdigit
      omega
    · split at hdigit
      · have hvalue := Option.some.inj hdigit
        omega
      · contradiction

/-- A digit is one byte, and its value can be read off. -/
theorem exists_byte_of_hexValue? {value : Nat} (hdigit : hexValue? c = some value) :
    ∃ byte : UInt8, String.utf8EncodeChar c = [byte] ∧
      hexValue? (Char.ofNat byte.toNat) = some value := by
  have hascii := (lt_of_hexValue? hdigit).1
  refine ⟨UInt8.ofNat c.toNat, utf8EncodeChar_one hascii, ?_⟩
  rwa [UInt8.toNat_ofNat_of_lt' (hascii.trans (by decide)), Char.ofNat_toNat]

/-- An escape is read as its byte, in whichever case its digits are written. -/
theorem percentDecode_escape {first second : Char} {high low : Nat}
    (hhigh : hexValue? first = some high) (hlow : hexValue? second = some low) (rest : Bytes) :
    percentDecode (encodeUtf8 ['%', first, second] ++ rest) =
      UInt8.ofNat (high * 16 + low) :: percentDecode rest := by
  obtain ⟨firstByte, hfirst, hhigh⟩ := exists_byte_of_hexValue? hhigh
  obtain ⟨secondByte, hsecond, hlow⟩ := exists_byte_of_hexValue? hlow
  have hspelled : encodeUtf8 ['%', first, second] = [0x25, firstByte, secondByte] := by
    rw [encodeUtf8, List.flatMap_cons, List.flatMap_cons, List.flatMap_cons, hfirst, hsecond]
    rfl
  rw [hspelled, List.cons_append, List.cons_append, List.cons_append, percentDecode, hhigh, hlow]
  rfl

theorem hexValue?_upperHexDigit {value : Nat} (hvalue : value < 16) :
    hexValue? (upperHexDigit value) = some value := by
  revert value
  decide

theorem percentDecode_escapeByte (byte : UInt8) (rest : Bytes) :
    percentDecode (encodeUtf8 (escapeByte byte) ++ rest) = byte :: percentDecode rest := by
  have hbyte := byte.toNat_lt
  rw [escapeByte, percentDecode_escape (hexValue?_upperHexDigit (by omega))
    (hexValue?_upperHexDigit (by omega)), Nat.div_add_mod', UInt8.ofNat_toNat]

theorem percentDecode_escapeBytes (bytes rest : Bytes) :
    percentDecode (encodeUtf8 (bytes.flatMap escapeByte) ++ rest) =
      bytes ++ percentDecode rest := by
  induction bytes with
  | nil => rfl
  | cons byte bytes ih =>
    rw [List.flatMap_cons, encodeUtf8, List.flatMap_append, List.append_assoc, List.cons_append]
    rw [← ih]
    exact percentDecode_escapeByte byte _

/-! ## Names and values -/

/-- How one character is encoded. -/
def formCharacter (c : Char) : List Char :=
  if isFormLiteral c then [c]
  else if c = ' ' then ['+']
  else (String.utf8EncodeChar c).flatMap escapeByte

theorem toList_formEncode (text : String) :
    (formEncode text).toList = text.toList.flatMap formCharacter :=
  String.toList_ofList

theorem isFormLiteral_upperHexDigit {value : Nat} (hvalue : value < 16) :
    isFormLiteral (upperHexDigit value) = true := by
  revert value
  decide

theorem mem_escapeByte {byte : UInt8} (hc : c ∈ escapeByte byte) :
    isFormLiteral c = true ∨ c = '%' := by
  have hbyte := byte.toNat_lt
  rw [escapeByte, List.mem_cons, List.mem_cons, List.mem_singleton] at hc
  rcases hc with hpercent | hhigh | hlow
  · exact .inr hpercent
  · exact .inl (hhigh ▸ isFormLiteral_upperHexDigit (by omega))
  · exact .inl (hlow ▸ isFormLiteral_upperHexDigit (by omega))

/-- Encoding writes literals, pluses and percent signs only. -/
theorem not_mem_formEncode (text : String) (hliteral : isFormLiteral c = false) (hplus : c ≠ '+')
    (hpercent : c ≠ '%') : c ∉ (formEncode text).toList := by
  rw [toList_formEncode, List.mem_flatMap]
  rintro ⟨d, _, hmem⟩
  unfold formCharacter at hmem
  split at hmem
  next hd =>
    rw [← List.mem_singleton.1 hmem, hliteral] at hd
    contradiction
  · split at hmem
    · exact hplus (List.mem_singleton.1 hmem)
    · obtain ⟨byte, _, hmem⟩ := List.mem_flatMap.1 hmem
      rcases mem_escapeByte hmem with hc | hc
      · rw [hliteral] at hc
        contradiction
      · exact hpercent hc

/-- A plus stands for a blank. -/
def spaced (c : Char) : Char :=
  if c = '+' then ' ' else c

theorem map_spaced (htext : '+' ∉ text) : text.map spaced = text := by
  have hfixed : ∀ c ∈ text, spaced c = id c := by
    intro c hc
    apply if_neg
    rintro rfl
    exact htext hc
  rw [List.map_congr_left hfixed, List.map_id]

theorem percentDecode_formCharacter (c : Char) (rest : Bytes) :
    percentDecode (encodeUtf8 ((formCharacter c).map spaced) ++ rest) =
      String.utf8EncodeChar c ++ percentDecode rest := by
  unfold formCharacter
  split
  next hliteral =>
    have hplus : c ≠ '+' := by
      rintro rfl
      contradiction
    have hpercent : c ≠ '%' := by
      rintro rfl
      contradiction
    rw [List.map_cons, List.map_nil, spaced, if_neg hplus, encodeUtf8, List.flatMap_singleton]
    exact percentDecode_append_of_ne (ne_percent_of_mem_utf8EncodeChar hpercent)
  · split
    next hblank =>
      subst hblank
      have hbyte : (0x20 : UInt8) ≠ 0x25 := by decide
      exact percentDecode_of_ne hbyte
    next hblank =>
      have hescapes : '+' ∉ (String.utf8EncodeChar c).flatMap escapeByte := by
        intro hmem
        obtain ⟨byte, _, hmem⟩ := List.mem_flatMap.1 hmem
        rcases mem_escapeByte hmem with hc | hc
        · contradiction
        · contradiction
      rw [map_spaced hescapes, percentDecode_escapeBytes]

theorem percentDecode_formEncode (text : String) :
    percentDecode (encodeUtf8 ((formEncode text).toList.map spaced)) =
      encodeUtf8 text.toList := by
  rw [toList_formEncode]
  induction text.toList with
  | nil => rw [List.flatMap_nil, List.map_nil, encodeUtf8, List.flatMap_nil, percentDecode]
  | cons c text ih =>
    rw [List.flatMap_cons, List.map_append, encodeUtf8, List.flatMap_append]
    exact (percentDecode_formCharacter c _).trans (congrArg _ ih)

/-- Reading undoes encoding. -/
theorem formDecode_formEncode (text : String) : formDecode (formEncode text).toList = text := by
  have hbytes := percentDecode_formEncode text
  unfold spaced at hbytes
  rw [formDecode, hbytes, decodeUtf8Lossy_encodeUtf8, String.ofList_toList]

/-- A text without escapes and pluses is read as it stands. -/
theorem formDecode_of_plain (hplus : '+' ∉ text) (hpercent : '%' ∉ text) :
    formDecode text = String.ofList text := by
  have hbytes : ∀ byte ∈ encodeUtf8 text, byte ≠ 0x25 := by
    intro byte hbyte
    obtain ⟨c, hc, hbyte⟩ := List.mem_flatMap.1 hbyte
    apply ne_percent_of_mem_utf8EncodeChar _ byte hbyte
    rintro rfl
    exact hpercent hc
  have hdecoded : percentDecode (encodeUtf8 text ++ []) = _ := percentDecode_append_of_ne hbytes
  rw [percentDecode, List.append_nil] at hdecoded
  have hspaced := map_spaced hplus
  unfold spaced at hspaced
  rw [formDecode, hspaced, hdecoded, decodeUtf8Lossy_encodeUtf8]

/-! ## Queries -/

/-- The pairs of a query are those of its parts. -/
theorem formPairs_append (left right : String) :
    formPairs (left ++ "&" ++ right) = formPairs left ++ formPairs right := by
  have htext : (left ++ "&" ++ right).toList = left.toList ++ '&' :: right.toList := by
    simp
  rw [formPairs, htext, splitAt_append left.toList right.toList (by decide), List.filter_append,
    List.map_append]
  rfl

theorem formPairs_intercalate (parts : List String) :
    formPairs ("&".intercalate parts) = parts.flatMap formPairs := by
  induction parts with
  | nil => rfl
  | cons part later ih =>
    cases later with
    | nil => simp
    | cons next later =>
      rw [String.intercalate_cons_cons, formPairs_append, ih]
      rfl

/-- One part is one pair. -/
theorem formPairs_part {name value : String} (hname : ∀ c ∈ name.toList, c ≠ '&' ∧ c ≠ '=')
    (hvalue : '&' ∉ value.toList) :
    formPairs (name ++ "=" ++ value) = [(formDecode name.toList, formDecode value.toList)] := by
  have htext : (name ++ "=" ++ value).toList = name.toList ++ '=' :: value.toList := by
    simp
  have hwhole : ∀ c ∈ name.toList ++ '=' :: value.toList, (c == '&') = false := by
    intro c hc
    rw [beq_eq_false_iff_ne]
    rcases List.mem_append.1 hc with hc | hc
    · exact (hname c hc).1
    · rintro rfl
      rcases List.mem_cons.1 hc with hc | hc
      · contradiction
      · exact hvalue hc
  have hcut : cut '=' (name.toList ++ '=' :: value.toList) = (name.toList, some value.toList) :=
    cut_append value.toList fun hmem => (hname _ hmem).2 rfl
  rw [formPairs, htext, splitAt_of_none hwhole]
  simp [hcut]

end GadgetGuard.Encoding
