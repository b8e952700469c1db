import GadgetGuard.Proofs.Link.Proxied
import GadgetGuard.Proofs.Url.Scheme
/-!
# Proxied links are well formed

A proxied link is held to the grammar of URI references when sanitized content is read once more.
It passes: what form encoding writes has no illegal character and no broken escape, and a link to
an endpoint that is given by its path spells no scheme and can be resolved anywhere.
-/

namespace GadgetGuard

open GadgetGuard.Text GadgetGuard.Encoding

/-- A relative reference that names no host can be read against every URL of the web. -/
theorem Url.exists_readRelative {base : Url} {text : List Char} (hsite : base.HasSite)
    (hweb : SchemeKind.of base.scheme = .web)
    (hnone : authorityText? (Reference.of text).body = none) :
    ∃ url, readRelative base text = .ok url := by
  obtain ⟨path, query, hresolved, -⟩ := resolveIn_of_no_authority base hnone
  unfold readRelative
  dsimp only
  split
  · exact ⟨_, rfl⟩
  · rw [hsite.isHierarchical, if_neg (by simp), if_neg (ne_file_of_web hweb)]
    exact ⟨_, hresolved⟩

namespace UriReference

variable {c : Char} {left right text : List Char}

theorem firstFault_cons {rest : List Char} (hlegal : isIllegal c = false) (hplain : c ≠ '%') :
    firstFault (c :: rest) = firstFault rest := by
  rw [firstFault.eq_def (c :: rest)]
  dsimp only
  rw [hlegal, if_neg Bool.false_ne_true, if_neg hplain]

theorem firstFault_escape {first second : Char} {rest : List Char}
    (hescape : isEscape first second = true) :
    firstFault ('%' :: first :: second :: rest) = firstFault (first :: second :: rest) := by
  have hlegal : isIllegal '%' = false := by decide
  rw [firstFault.eq_def ('%' :: first :: second :: rest)]
  dsimp only
  rw [hlegal, if_neg Bool.false_ne_true, if_pos rfl, if_pos hescape]

/-- A text without a fault ends no escape of its own in what stands behind it. -/
theorem firstFault_append (right : List Char) (hleft : firstFault left = none) :
    firstFault (left ++ right) = firstFault right := by
  induction left with
  | nil => rfl
  | cons c rest ih =>
    unfold firstFault at hleft
    split at hleft
    · contradiction
    next hlegal =>
      split at hleft
      next hpercent =>
        split at hleft
        next first second tail =>
          split at hleft
          next hescape =>
            have hrest := ih hleft
            rw [List.cons_append, List.cons_append] at hrest
            rw [hpercent, List.cons_append, List.cons_append, List.cons_append,
              firstFault_escape hescape, hrest]
          · contradiction
        · contradiction
      next hplain =>
        rw [List.cons_append, firstFault_cons (Bool.not_eq_true _ ▸ hlegal) hplain, ih hleft]

theorem firstFault_of_legal (htext : ∀ c ∈ text, isIllegal c = false ∧ c ≠ '%') :
    firstFault text = none := by
  induction text with
  | nil => rfl
  | cons c text ih =>
    obtain ⟨hlegal, hpercent⟩ := htext c List.mem_cons_self
    rw [firstFault_cons hlegal hpercent]
    exact ih fun d hd => htext d (List.mem_cons_of_mem c hd)

theorem firstFault_flatMap {α : Type} {list : List α} {written : α → List Char}
    (hparts : ∀ a ∈ list, firstFault (written a) = none) :
    firstFault (list.flatMap written) = none := by
  induction list with
  | nil => rfl
  | cons a later ih =>
    rw [List.flatMap_cons, firstFault_append _ (hparts a List.mem_cons_self)]
    exact ih fun b hb => hparts b (List.mem_cons_of_mem a hb)

/-! ## What form encoding writes -/

theorem legal_of_isFormLiteral (hliteral : isFormLiteral c = true) :
    isIllegal c = false ∧ c ≠ '%' := by
  have hascii : c.toNat < 128 := by
    simp only [isFormLiteral, Bool.or_eq_true, beq_iff_eq] at hliteral
    rcases hliteral with (((hletter | rfl) | rfl) | rfl) | rfl
    · exact lt_of_isAlphanum hletter
    all_goals decide
  have hall : ∀ d : Char, d.toNat < 128 → isFormLiteral d = true → isIllegal d = false ∧ d ≠ '%' :=
    forall_ascii (by decide)
  exact hall c hascii hliteral

theorem firstFault_escapeByte (byte : UInt8) : firstFault (escapeByte byte) = none := by
  have hdigits : ∀ value < 16, isHexDigit (upperHexDigit value) = true ∧
      isFormLiteral (upperHexDigit value) = true := by
    decide
  have hbyte := byte.toNat_lt
  obtain ⟨hhigh, hhigh'⟩ := hdigits (byte.toNat / 16) (by omega)
  obtain ⟨hlow, hlow'⟩ := hdigits (byte.toNat % 16) (by omega)
  rw [escapeByte, firstFault_escape (by rw [isEscape, hhigh, hlow]; rfl)]
  apply firstFault_of_legal
  rw [List.forall_mem_cons, List.forall_mem_singleton]
  exact ⟨legal_of_isFormLiteral hhigh', legal_of_isFormLiteral hlow'⟩

theorem firstFault_formEncode (text : String) : firstFault (formEncode text).toList = none := by
  rw [toList_formEncode]
  apply firstFault_flatMap
  intro c _
  unfold formCharacter
  split
  next hliteral =>
    apply firstFault_of_legal
    rw [List.forall_mem_singleton]
    exact legal_of_isFormLiteral hliteral
  · split
    · decide
    · exact firstFault_flatMap fun byte _ => firstFault_escapeByte byte

/-! ## References that are paths -/

/-- A path that names no host has its beginning before any query and fragment. -/
theorem authorityText?_of_path {first : Char} (rest : List Char)
    (hfirst : isSchemeEnd first = false) (hlegal : isIllegal first = false) :
    Url.authorityText? (Url.Reference.of ('/' :: first :: rest)).body = none := by
  simp only [isSchemeEnd, Bool.or_eq_false_iff, beq_eq_false_iff_ne] at hfirst
  have hbackslash : first ≠ '\\' := by
    rintro rfl
    exact absurd hlegal (by decide)
  have hbody : (Url.Reference.of ('/' :: first :: rest)).body =
      '/' :: first :: (rest.takeWhile (· != '#')).takeWhile (· != '?') := by
    rw [Url.Reference.of]
    dsimp only
    rw [cut_fst, cut_fst]
    simp [hfirst]
  rw [hbody]
  simp [Url.authorityText?, hfirst, hbackslash]

theorem parse_of_path {raw : String} {first : Char} {rest : List Char}
    (hraw : raw.toList = '/' :: first :: rest) (hfault : firstFault raw.toList = none)
    (hfirst : isSchemeEnd first = false) : parse raw = .ok ⟨raw, none⟩ := by
  have hlegal := not_illegal_of_firstFault hfault
  have hscheme : schemeOf raw.toList = .ok none := by
    rw [schemeOf, hraw]
    rfl
  have hnamed : Url.scheme? (Url.clean raw.toList) = none := by
    rw [clean_eq_self hlegal, hraw]
    rfl
  have hnone := authorityText?_of_path rest hfirst (hlegal first (by simp [hraw]))
  have hsite : trialBase.HasSite := ⟨rfl, _, rfl⟩
  obtain ⟨url, hrelative⟩ := Url.exists_readRelative hsite rfl hnone
  have hread : Url.read (some trialBase) raw = .ok url := by
    rw [Url.read_of_no_scheme hnamed, clean_eq_self hlegal, hraw, hrelative]
  unfold parse
  rw [hfault]
  refine Except.bind_eq_ok_iff.2 ⟨none, hscheme, ?_⟩
  dsimp only
  rw [Option.isSome_none, if_neg Bool.false_ne_true, hread]
  rfl

end UriReference

namespace Link

variable {origin : Origin}

theorem firstFault_directiveText {directive : String × String} {resource : Url}
    (hdirective : directive ∈ origin.directives resource) :
    UriReference.firstFault (directiveText directive).toList = none := by
  have hnames : ∀ name ∈ directiveNames,
      UriReference.firstFault (name ++ "=").toList = none := by
    decide +kernel
  rw [directiveText, String.toList_append,
    UriReference.firstFault_append _ (hnames _ (name_mem_of_mem_directives hdirective))]
  exact UriReference.firstFault_formEncode directive.2

/-- A link that is routed through the endpoint at its usual place is a path with a query. -/
theorem parse_sanitized (hbase : origin.settings.proxyBase = "/gadgets/proxy") {mime : String}
    (hmime : UriReference.firstFault mime.toList = none) (resource : Url) :
    UriReference.parse (origin.sanitized mime resource) =
      .ok ⟨origin.sanitized mime resource, none⟩ := by
  have htext : (origin.sanitized mime resource).toList =
      "/gadgets/proxy?".toList ++ (("&".intercalate
        ((origin.directives resource).map directiveText)).toList ++
          ("&sanitize=1&rewriteMime=".toList ++ mime.toList)) := by
    simp [Origin.sanitized, Origin.proxied, hbase, Parameter.sanitize, Parameter.requiredMime]
  have hquery : UriReference.firstFault ("&".intercalate
      ((origin.directives resource).map directiveText)).toList = none := by
    refine forall_intercalate (P := fun text => UriReference.firstFault text = none) rfl ?_ ?_ ?_
    · intro left right hleft hright
      rw [UriReference.firstFault_append right hleft, hright]
    · decide
    · rw [List.forall_mem_map]
      exact fun directive hdirective => firstFault_directiveText hdirective
  have hfault : UriReference.firstFault (origin.sanitized mime resource).toList = none := by
    rw [htext, UriReference.firstFault_append _ (by decide +kernel),
      UriReference.firstFault_append _ hquery, UriReference.firstFault_append _ (by decide +kernel),
      hmime]
  exact UriReference.parse_of_path htext hfault (by decide)

/-- In a resource of the web every well-formed link is routed through the proxy. -/
theorem sanitizing_of_parse {mime link : String} {context : Url} {reference : UriReference}
    (hcontext : context.HasSite) (hweb : SchemeKind.of context.scheme = .web)
    (hparse : UriReference.parse link = .ok reference) :
    ∃ resource, reference.resolve context = .ok resource ∧
      (sanitizing origin mime link context).value = origin.sanitized mime resource := by
  obtain ⟨resource, hjoin⟩ := UriReference.exists_join hcontext hweb hparse
  have hresolve : reference.resolve context = .ok resource := by
    rw [UriReference.resolve, (UriReference.parse_eq_ok hparse).1, hjoin]
  have hresource : Link.resource link context = .ok resource :=
    Except.bind_eq_ok_iff.2 ⟨reference, hparse, hresolve⟩
  refine ⟨resource, hresolve, ?_⟩
  rw [sanitizing, hresource]
  rfl

end Link

end GadgetGuard
