import GadgetGuard.Gadget.Walk
import GadgetGuard.Proofs.Text.Ascii
import GadgetGuard.Proofs.Text.Cut
import GadgetGuard.Proofs.Url.Host
/-!
# The scheme of a resolved reference

A link is judged by the scheme that it spells, before it is resolved.  Resolving reads the link
anew, against a URL that may have the same scheme, and drops or replaces characters on the way.
For well-formed references both readers find the same scheme, and against a URL of the web every
such reference can be resolved.
-/

namespace GadgetGuard

open GadgetGuard.Text

theorem SchemeKind.of_web {scheme : String} (hweb : scheme = "http" ∨ scheme = "https") :
    SchemeKind.of scheme = .web := by
  rcases hweb with rfl | rfl
  · rfl
  · rfl

namespace Url

variable {base url : Url} {reference : Reference} {scheme : String}

/-! ## Schemes of what is read -/

theorem eq_file_of_kind (hkind : SchemeKind.of scheme = .file) : scheme = "file" := by
  unfold SchemeKind.of at hkind
  split at hkind
  next hfile => exact beq_iff_eq.1 hfile
  · split at hkind
    · contradiction
    · contradiction

theorem ne_file_of_web (hkind : SchemeKind.of scheme = .web) : ¬ (scheme == "file") = true := by
  intro hfile
  rw [beq_iff_eq.1 hfile] at hkind
  contradiction

/-- What is read after a scheme has it. -/
theorem readAfterScheme_scheme {origin : Option Url} {text : List Char}
    (hread : readAfterScheme origin scheme text = .ok url) : url.scheme = scheme := by
  unfold readAfterScheme at hread
  dsimp only at hread
  cases hkind : SchemeKind.of scheme with
  | file =>
    rw [hkind] at hread
    rw [eq_file_of_kind hkind]
    apply readFile_scheme _ hread
    intro file hfile
    exact beq_iff_eq.1 (Option.filter_eq_some_iff.1 hfile).2
  | web =>
    rw [hkind] at hread
    dsimp only at hread
    split at hread
    next hsame =>
      have hscheme := (Option.filter_eq_some_iff.1 hsame).2
      rw [Bool.and_eq_true, beq_iff_eq] at hscheme
      rw [resolveIn_scheme hread, hscheme.1]
    · exact (withAuthority_eq_ok hread).1
  | other =>
    rw [hkind] at hread
    dsimp only at hread
    split at hread
    · exact (withAuthority_eq_ok hread).1
    · cases hread
      rfl
    · cases hread
      rfl

/-- What is read without a scheme has that of the base. -/
theorem readRelative_scheme {text : List Char} (hread : readRelative base text = .ok url) :
    url.scheme = base.scheme := by
  unfold readRelative at hread
  dsimp only at hread
  split at hread
  · cases hread
    rfl
  · split at hread
    · cases hread
    · split at hread
      next hfile =>
        have hbase := beq_iff_eq.1 hfile
        rw [hbase]
        apply readFile_scheme _ hread
        rintro file ⟨⟩
        exact hbase
      · exact resolveIn_scheme hread

theorem read_of_scheme {origin : Option Url} {text : String} {rest : List Char}
    (hscheme : scheme? (clean text.toList) = some (scheme, rest)) :
    read origin text = readAfterScheme origin scheme rest := by
  unfold read
  dsimp only
  rw [hscheme]

theorem read_of_no_scheme {text : String} (hscheme : scheme? (clean text.toList) = none) :
    read (some base) text = readRelative base (clean text.toList) := by
  unfold read
  dsimp only
  rw [hscheme]

theorem join_scheme {text : String} (hjoin : base.join text = .ok url) :
    url.scheme = ((scheme? (clean text.toList)).map (·.1)).getD base.scheme := by
  rw [join] at hjoin
  cases hscheme : scheme? (clean text.toList) with
  | none =>
    rw [read_of_no_scheme hscheme] at hjoin
    exact readRelative_scheme hjoin
  | some found =>
    rw [read_of_scheme hscheme] at hjoin
    exact readAfterScheme_scheme hjoin

/-! ## URLs of the web -/

/-- A URL as it comes about: read on its own, or against another one. -/
inductive IsRead : Url → Prop
  | parsed {text : String} {url : Url} (hparse : Url.parse text = .ok url) : IsRead url
  | joined {base url : Url} {text : String} (hbase : IsRead base)
      (hjoin : base.join text = .ok url) : IsRead url

/-- Whether a URL has a host and a path of segments, so that any reference can stand behind
it. -/
def HasSite (url : Url) : Prop :=
  url.authority.isSome = true ∧ ∃ list, url.path = .segments list

theorem HasSite.isHierarchical (hsite : url.HasSite) : url.isHierarchical = true := by
  obtain ⟨hauthority, list, hpath⟩ := hsite
  rw [Url.isHierarchical, hpath]
  cases list with
  | nil => exact hauthority
  | cons segment list => rfl

theorem withAuthority_hasSite {body : List Char}
    (hread : withAuthority scheme reference body = .ok url) : url.HasSite := by
  unfold withAuthority at hread
  dsimp only at hread
  split at hread
  · cases hread
  · obtain ⟨⟨host, port, rest⟩, _, hrest⟩ := Except.bind_eq_ok_iff.1 hread
    dsimp only at hrest
    split at hrest
    · cases hrest
    · cases hrest
      exact ⟨rfl, _, rfl⟩

theorem resolveIn_hasSite (hbase : base.HasSite) (hread : resolveIn base reference = .ok url) :
    url.HasSite := by
  cases htext : authorityText? reference.body with
  | some rest =>
    rw [resolveIn_of_authority htext] at hread
    exact withAuthority_hasSite hread
  | none =>
    obtain ⟨path, query, hvalue, hpath⟩ := resolveIn_of_no_authority base htext
    rw [hvalue] at hread
    cases hread
    refine ⟨hbase.1, ?_⟩
    cases hpath with
    | inl hsame => exact hsame ▸ hbase.2
    | inr hlist => exact hlist

theorem readAfterScheme_hasSite {origin : Option Url} {text : List Char}
    (hkind : SchemeKind.of scheme = .web)
    (horigin : ∀ base, origin = some base → base.scheme = scheme → base.HasSite)
    (hread : readAfterScheme origin scheme text = .ok url) : url.HasSite := by
  unfold readAfterScheme at hread
  rw [hkind] at hread
  dsimp only at hread
  split at hread
  next base hsame =>
    obtain ⟨hbase, hscheme⟩ := Option.filter_eq_some_iff.1 hsame
    rw [Bool.and_eq_true, beq_iff_eq] at hscheme
    exact resolveIn_hasSite (horigin base hbase hscheme.1) hread
  · exact withAuthority_hasSite hread

theorem readRelative_hasSite {text : List Char} (hkind : SchemeKind.of base.scheme = .web)
    (hbase : base.HasSite) (hread : readRelative base text = .ok url) : url.HasSite := by
  unfold readRelative at hread
  dsimp only at hread
  split at hread
  · cases hread
    exact hbase
  · split at hread
    · cases hread
    · split at hread
      next hfile => exact absurd hfile (ne_file_of_web hkind)
      · exact resolveIn_hasSite hbase hread

/-- However a URL of the web came about, references can be resolved against it. -/
theorem IsRead.hasSite (hurl : url.IsRead) (hkind : SchemeKind.of url.scheme = .web) :
    url.HasSite := by
  induction hurl with
  | @parsed text url hparse =>
    rw [Url.parse] at hparse
    cases hscheme : scheme? (clean text.toList) with
    | none => simp [read, hscheme] at hparse
    | some found =>
      rw [read_of_scheme hscheme] at hparse
      rw [readAfterScheme_scheme hparse] at hkind
      exact readAfterScheme_hasSite hkind (by simp) hparse
  | @joined base url text hbase hjoin ih =>
    rw [join] at hjoin
    cases hscheme : scheme? (clean text.toList) with
    | none =>
      rw [read_of_no_scheme hscheme] at hjoin
      rw [readRelative_scheme hjoin] at hkind
      exact readRelative_hasSite hkind (ih hkind) hjoin
    | some found =>
      rw [read_of_scheme hscheme] at hjoin
      rw [readAfterScheme_scheme hjoin] at hkind
      apply readAfterScheme_hasSite hkind _ hjoin
      rintro base' ⟨⟩ hsame
      exact ih (hsame ▸ hkind)

/-! ## Reading again in another scheme -/

/-- A port is read alike in all schemes, save for the one that is implied. -/
theorem readPort_of_ok (other : String) {text rest : List Char} {port : Option UInt16}
    (hread : readPort scheme text = .ok (port, rest)) :
    ∃ port, readPort other text = .ok (port, rest) := by
  unfold readPort at hread ⊢
  generalize text.span Char.isDigit = parts at hread ⊢
  obtain ⟨digits, tail⟩ := parts
  dsimp only at hread ⊢
  generalize (decide (65535 < _) || !_) = isRefused at hread ⊢
  cases isRefused with
  | true => contradiction
  | false =>
    cases hread
    exact ⟨_, rfl⟩

theorem readHostAndPort_of_ok {other : String} {text rest : List Char} {host : Option Host}
    {port : Option UInt16} (hkind : SchemeKind.of scheme = .web)
    (hother : SchemeKind.of other = .web)
    (hread : readHostAndPort scheme text = .ok (host, port, rest)) :
    ∃ port, readHostAndPort other text = .ok (host, port, rest) := by
  unfold readHostAndPort at hread ⊢
  rw [hkind] at hread
  rw [hother]
  generalize cutPort false text = parts at hread ⊢
  obtain ⟨hostText, portText⟩ := parts
  cases hostText with
  | nil => cases hread
  | cons c hostText =>
    obtain ⟨found, hfound, hrest⟩ := Except.bind_eq_ok_iff.1 hread
    cases portText with
    | none =>
      cases hrest
      exact ⟨none, Except.bind_eq_ok_iff.2 ⟨found, hfound, rfl⟩⟩
    | some portText =>
      obtain ⟨⟨value, tail⟩, hport, hresult⟩ := Except.bind_eq_ok_iff.1 hrest
      cases hresult
      obtain ⟨port, hport'⟩ := readPort_of_ok other hport
      exact ⟨port, Except.bind_eq_ok_iff.2
        ⟨found, hfound, Except.bind_eq_ok_iff.2 ⟨_, hport', rfl⟩⟩⟩

theorem withAuthority_of_ok {other : String} {body : List Char}
    (hkind : SchemeKind.of scheme = .web) (hother : SchemeKind.of other = .web)
    (hread : withAuthority scheme reference body = .ok url) :
    ∃ url, withAuthority other reference body = .ok url := by
  unfold withAuthority at hread ⊢
  rw [hkind] at hread
  rw [hother]
  dsimp only at hread ⊢
  split at hread
  · cases hread
  next hend =>
    rw [if_neg hend]
    obtain ⟨⟨host, port, rest⟩, hhost, hrest⟩ := Except.bind_eq_ok_iff.1 hread
    obtain ⟨port', hhost'⟩ := readHostAndPort_of_ok hkind hother hhost
    dsimp only at hrest
    split at hrest
    · cases hrest
    next hcredentials =>
      rw [hhost']
      exact ⟨_, if_neg hcredentials⟩

/-- What can be resolved against one URL of the web can be resolved against any other. -/
theorem resolveIn_of_ok {other : Url} (hkind : SchemeKind.of base.scheme = .web)
    (hother : SchemeKind.of other.scheme = .web) (hread : resolveIn base reference = .ok url) :
    ∃ url, resolveIn other reference = .ok url := by
  cases htext : authorityText? reference.body with
  | some rest =>
    rw [resolveIn_of_authority htext] at hread ⊢
    exact withAuthority_of_ok hkind hother hread
  | none =>
    obtain ⟨path, query, hvalue, _⟩ := resolveIn_of_no_authority other htext
    exact ⟨_, hvalue⟩

theorem two_le_slashes {first second : Char} (rest : List Char)
    (hfirst : isSlash .web first = true) (hsecond : isSlash .web second = true) :
    2 ≤ ((first :: second :: rest).takeWhile (isSlash .web)).length := by
  rw [List.takeWhile_cons_of_pos hfirst, List.takeWhile_cons_of_pos hsecond, List.length_cons,
    List.length_cons]
  omega

/-- With fewer than two slashes a reference names no host. -/
theorem authorityText?_of_few_slashes {body : List Char}
    (hfew : (body.takeWhile (isSlash .web)).length < 2) : authorityText? body = none := by
  unfold authorityText?
  split
  next rest => exact absurd (two_le_slashes rest rfl rfl) (Nat.not_le.2 hfew)
  next first rest _ =>
    refine if_neg ?_
    rintro ⟨hfirst, hsecond⟩
    cases rest with
    | nil => contradiction
    | cons second rest =>
      have hslash : isSlash .web first = true := by
        rcases hfirst with rfl | rfl
        · rfl
        · rfl
      exact absurd (two_le_slashes rest hslash hsecond) (Nat.not_le.2 hfew)
  · rfl

/-- What can be read on its own can be read against a URL of the web, where it may turn out to
be relative. -/
theorem readAfterScheme_of_ok {text : List Char} (hkind : SchemeKind.of base.scheme = .web)
    (hread : readAfterScheme none scheme text = .ok url) :
    ∃ url, readAfterScheme (some base) scheme text = .ok url := by
  have hfile : (base.scheme == "file") = false := Bool.eq_false_iff.2 (ne_file_of_web hkind)
  unfold readAfterScheme at hread ⊢
  dsimp only at hread ⊢
  cases hscheme : SchemeKind.of scheme with
  | file =>
    rw [hscheme] at hread
    rw [Option.filter_some, hfile]
    exact ⟨url, hread⟩
  | web =>
    rw [hscheme] at hread
    dsimp only at hread ⊢
    rw [Option.filter_some]
    split
    next base' hsame =>
      split at hsame
      next hslashes =>
        rw [Bool.and_eq_true, decide_eq_true_eq] at hslashes
        have hnone := authorityText?_of_few_slashes hslashes.2
        obtain ⟨path, query, hvalue, _⟩ := resolveIn_of_no_authority base' hnone
        exact ⟨_, hvalue⟩
      · contradiction
    · exact ⟨url, hread⟩
  | other =>
    rw [hscheme] at hread
    exact ⟨url, hread⟩

theorem readRelative_of_ok {other : Url} {text : List Char}
    (hkind : SchemeKind.of base.scheme = .web) (hother : SchemeKind.of other.scheme = .web)
    (hsite : other.HasSite) (hread : readRelative base text = .ok url) :
    ∃ url, readRelative other text = .ok url := by
  unfold readRelative at hread ⊢
  dsimp only at hread ⊢
  split
  · exact ⟨_, rfl⟩
  next hfragment =>
    rw [if_neg hfragment] at hread
    split at hread
    · contradiction
    · rw [hsite.isHierarchical, if_neg (by simp), if_neg (ne_file_of_web hother)]
      rw [if_neg (ne_file_of_web hkind)] at hread
      exact resolveIn_of_ok hkind hother hread

/-! ## The scheme in front of a text -/

theorem isSchemeCharacter_of_isAlpha {c : Char} (hletter : c.isAlpha = true) :
    isSchemeCharacter c = true := by
  rw [isSchemeCharacter, Char.isAlphanum, hletter]
  rfl

theorem scheme?_append {first : Char} {name : List Char} (rest : List Char)
    (hfirst : first.isAlpha = true) (hname : ∀ c ∈ name, isSchemeCharacter c = true) :
    scheme? (first :: name ++ ':' :: rest) =
      some (String.ofList ((first :: name).map Char.toLower), rest) := by
  have hall : ∀ c ∈ first :: name, isSchemeCharacter c = true :=
    List.forall_mem_cons.2 ⟨isSchemeCharacter_of_isAlpha hfirst, hname⟩
  have hspan : (first :: name ++ ':' :: rest).span isSchemeCharacter =
      (first :: name, ':' :: rest) := by
    rw [List.span_eq_takeWhile_dropWhile, List.takeWhile_append_of_pos hall,
      List.dropWhile_append_of_pos hall, List.takeWhile_cons_of_neg (by decide),
      List.dropWhile_cons_of_neg (by decide), List.append_nil]
  rw [List.cons_append] at hspan ⊢
  rw [scheme?, if_pos hfirst, hspan]
  rfl

theorem exists_of_scheme? {text rest : List Char} (hscheme : scheme? text = some (scheme, rest)) :
    ∃ name, text = name ++ ':' :: rest ∧ ∀ c ∈ name, isSchemeCharacter c = true := by
  unfold scheme? at hscheme
  split at hscheme
  · contradiction
  · split at hscheme
    · split at hscheme
      next text first _ _ name tail hspan =>
        rw [List.span_eq_takeWhile_dropWhile, Prod.mk.injEq] at hspan
        obtain ⟨_, rfl⟩ := Prod.mk.inj (Option.some.inj hscheme)
        refine ⟨name, ?_, ?_⟩
        · rw [← hspan.1, ← hspan.2, List.takeWhile_append_dropWhile]
        · rw [← hspan.1]
          exact fun c hc => List.mem_takeWhile_imp hc
      · contradiction
    · contradiction

end Url

namespace UriReference

variable {base : Url} {raw : String} {reference : UriReference} {text : List Char}

/-! ## The scheme that a reference spells -/

/-- A text without a fault has no illegal character, also inside its escapes. -/
theorem not_illegal_of_firstFault (hfault : firstFault text = none) :
    ∀ c ∈ text, isIllegal c = false := by
  induction text with
  | nil => simp
  | cons c rest ih =>
    unfold firstFault at hfault
    split at hfault
    · contradiction
    next hlegal =>
      have hrest : firstFault rest = none := by
        split at hfault
        · split at hfault
          · split at hfault
            · exact hfault
            · contradiction
          · contradiction
        · exact hfault
      rw [List.forall_mem_cons]
      exact ⟨Bool.not_eq_true _ ▸ hlegal, ih hrest⟩

theorem isIllegal_of_isTrimmed {c : Char} (htrimmed : Url.isTrimmed c = true) :
    isIllegal c = true := by
  have hle : c.toNat ≤ 0x20 := of_decide_eq_true htrimmed
  rcases Nat.lt_or_eq_of_le hle with hlt | heq
  · simp [isIllegal, isControl, hlt]
  · simp [isIllegal, isBlank, heq]

theorem isTrimmed_of_isBreak {c : Char} (hbreak : Url.isBreak c = true) :
    Url.isTrimmed c = true := by
  simp only [Url.isBreak, Bool.or_eq_true, beq_iff_eq] at hbreak
  rcases hbreak with (rfl | rfl) | rfl
  · rfl
  · rfl
  · rfl

/-- Nothing is dropped from a text without illegal characters when it is read. -/
theorem clean_eq_self (hlegal : ∀ c ∈ text, isIllegal c = false) : Url.clean text = text := by
  have huntrimmed : ∀ c ∈ text, Url.isTrimmed c = false := by
    intro c hc
    rw [Bool.eq_false_iff]
    intro htrimmed
    exact Bool.eq_false_iff.1 (hlegal c hc) (isIllegal_of_isTrimmed htrimmed)
  have hunbroken : ∀ c ∈ text, (!Url.isBreak c) = true := by
    intro c hc
    rw [Bool.not_eq_true', Bool.eq_false_iff]
    intro hbreak
    exact Bool.eq_false_iff.1 (huntrimmed c hc) (isTrimmed_of_isBreak hbreak)
  rw [Url.clean, trim_eq_self huntrimmed, List.filter_eq_self]
  exact hunbroken

theorem not_isSchemeEnd {c : Char} (hc : Url.isSchemeCharacter c = true) :
    isSchemeEnd c = false := by
  rw [← Bool.not_eq_true]
  intro hend
  simp only [isSchemeEnd, Bool.or_eq_true, beq_iff_eq] at hend
  rcases hend with (rfl | rfl) | rfl <;> contradiction

/-- The reader of URLs finds a scheme if the reference spells one, and the same. -/
theorem scheme?_of_schemeOf {scheme : Option String} (hscheme : schemeOf text = .ok scheme) :
    (Url.scheme? text).map (·.1) = scheme := by
  have htext := List.takeWhile_append_dropWhile (p := (! isSchemeEnd ·)) (l := text)
  unfold schemeOf at hscheme
  rcases cut_cases ':' (text.takeWhile (! isSchemeEnd ·)) with
    ⟨hnone, hcut⟩ | ⟨name, rest, _, hbefore, hcut⟩
  · rw [hcut] at hscheme
    obtain rfl := Except.ok.inj hscheme
    rw [Option.map_eq_none_iff]
    cases hfound : Url.scheme? text with
    | none => rfl
    | some found =>
      -- The colon behind a scheme comes before any slash, query and fragment.
      obtain ⟨name, hname, hall⟩ := Url.exists_of_scheme? hfound
      have hinside : ∀ c ∈ name, (! isSchemeEnd c) = true := by
        intro c hc
        rw [not_isSchemeEnd (hall c hc)]
        rfl
      rw [hname, List.takeWhile_append_of_pos hinside, List.takeWhile_cons_of_pos (by decide)]
        at hnone
      simp at hnone
  · rw [hcut] at hscheme
    cases name with
    | nil => contradiction
    | cons first name =>
      dsimp only at hscheme
      split at hscheme
      next hvalid =>
        rw [Bool.and_eq_true, List.all_eq_true] at hvalid
        obtain rfl := Except.ok.inj hscheme
        rw [← htext, hbefore, List.append_assoc, @List.cons_append _ _ rest,
          Url.scheme?_append _ hvalid.1 hvalid.2]
        rfl
      · contradiction

theorem parse_eq_ok (hparse : parse raw = .ok reference) :
    reference.raw = raw ∧ (∀ c ∈ raw.toList, isIllegal c = false) ∧
      schemeOf raw.toList = .ok reference.scheme ∧
      ∃ url, Url.read (if reference.scheme.isSome then none else some trialBase) raw = .ok url := by
  unfold parse at hparse
  cases hfault : firstFault raw.toList with
  | some fault =>
    rw [hfault] at hparse
    cases hparse
  | none =>
    rw [hfault] at hparse
    obtain ⟨scheme, hscheme, hrest⟩ := Except.bind_eq_ok_iff.1 hparse
    dsimp only at hrest
    split at hrest
    next url hread =>
      cases hrest
      exact ⟨rfl, not_illegal_of_firstFault hfault, hscheme, url, hread⟩
    · cases hrest

/-! ## Resolving against a URL of the web -/

/-- A reference that was read can be resolved against every URL of the web, whatever it was
tried against. -/
theorem exists_join (hbase : base.HasSite) (hweb : SchemeKind.of base.scheme = .web)
    (hparse : parse raw = .ok reference) : ∃ url, base.join raw = .ok url := by
  obtain ⟨_, hlegal, hscheme, url, hread⟩ := parse_eq_ok hparse
  have hclean := clean_eq_self hlegal
  have hfound := scheme?_of_schemeOf hscheme
  rw [← hclean] at hfound
  rw [Url.join]
  cases hnamed : Url.scheme? (Url.clean raw.toList) with
  | some found =>
    rw [hnamed, Option.map_some] at hfound
    rw [Url.read_of_scheme hnamed, ← hfound] at hread
    rw [Url.read_of_scheme hnamed]
    exact Url.readAfterScheme_of_ok hweb hread
  | none =>
    rw [hnamed, Option.map_none] at hfound
    rw [← hfound] at hread
    rw [Url.read_of_no_scheme hnamed]
    exact Url.readRelative_of_ok rfl hweb hbase ((Url.read_of_no_scheme hnamed).symm.trans hread)

theorem join_scheme_eq {url : Url} (hparse : parse raw = .ok reference)
    (hjoin : base.join raw = .ok url) : url.scheme = reference.scheme.getD base.scheme := by
  obtain ⟨_, hlegal, hscheme, _⟩ := parse_eq_ok hparse
  rw [Url.join_scheme hjoin, clean_eq_self hlegal, scheme?_of_schemeOf hscheme]

theorem lower_of_schemeOf {scheme : String} (hscheme : schemeOf text = .ok (some scheme)) :
    lower scheme = scheme := by
  unfold schemeOf at hscheme
  split at hscheme
  · cases hscheme
  · split at hscheme
    · cases hscheme
    next first name _ =>
      split at hscheme
      · cases hscheme
        rw [← lower_ofList, lower_lower]
      · cases hscheme

/-- Only two schemes are allowed, and references spell them in lower case. -/
theorem scheme_of_allowed (hparse : parse raw = .ok reference)
    (hallowed : Policy.allowsScheme reference.scheme = true) :
    reference.scheme = none ∨ reference.scheme = some "http" ∨
      reference.scheme = some "https" := by
  obtain ⟨_, _, hscheme, _⟩ := parse_eq_ok hparse
  cases hspelled : reference.scheme with
  | none => exact .inl rfl
  | some scheme =>
    rw [hspelled] at hscheme hallowed
    have hhttp : lower "http" = "http" := by decide +kernel
    have hhttps : lower "https" = "https" := by decide +kernel
    simp only [Policy.allowsScheme, equalIgnoringCase, lower_of_schemeOf hscheme, hhttp, hhttps,
      List.any_cons, List.any_nil, Bool.or_false, Bool.or_eq_true, beq_iff_eq] at hallowed
    rcases hallowed with rfl | rfl
    · exact .inr (.inl rfl)
    · exact .inr (.inr rfl)

/-- A link that the filter of attributes lets pass is well formed and has an allowed scheme. -/
theorem exists_of_judge {sanitizer : Sanitizer} {tag : String} {a : Attribute}
    (hlink : sanitizer.policy.isLinkAttribute a.name = true)
    (hpassed : (sanitizer.judge tag a).value ≠ .drop) :
    ∃ reference, parse a.value = .ok reference ∧
      Policy.allowsScheme reference.scheme = true := by
  unfold Sanitizer.judge at hpassed
  dsimp only at hpassed
  split at hpassed
  · contradiction
  · rw [hlink] at hpassed
    split at hpassed
    · contradiction
    · split at hpassed
      · contradiction
      next reference hparse =>
        split at hpassed
        · contradiction
        next hallowed =>
          rw [Bool.not_eq_true', Bool.not_eq_false] at hallowed
          exact ⟨reference, hparse, hallowed⟩

/-- A well-formed reference resolves against every URL of the web.  The result has the scheme
that the reference spells, or that of the URL where it spells none.  A link that the filter of
attributes lets pass thus leads to the web. -/
theorem resolve_keeps_scheme (base : Url) (hbase : base.IsRead)
    (hweb : base.scheme = "http" ∨ base.scheme = "https") :
    (∀ raw reference, parse raw = .ok reference →
      ∃ url, reference.resolve base = .ok url ∧
        url.scheme = reference.scheme.getD base.scheme) ∧
    (∀ (sanitizer : Sanitizer) (tag : String) (a : Attribute),
      sanitizer.policy.isLinkAttribute a.name = true →
      (sanitizer.judge tag a).value ≠ .drop →
      ∃ reference url, parse a.value = .ok reference ∧ reference.resolve base = .ok url ∧
        (url.scheme = "http" ∨ url.scheme = "https")) := by
  have hkind : SchemeKind.of base.scheme = .web := by
    rcases hweb with hhttp | hhttps
    · rw [hhttp]
      rfl
    · rw [hhttps]
      rfl
  have hsite := hbase.hasSite hkind
  have hresolve : ∀ raw reference, parse raw = .ok reference →
      ∃ url, reference.resolve base = .ok url ∧
        url.scheme = reference.scheme.getD base.scheme := by
    intro raw reference hparse
    obtain ⟨url, hjoin⟩ := exists_join hsite hkind hparse
    have hraw := (parse_eq_ok hparse).1
    refine ⟨url, ?_, join_scheme_eq hparse hjoin⟩
    rw [resolve, hraw, hjoin]
  refine ⟨hresolve, fun sanitizer tag a hlink hpassed => ?_⟩
  obtain ⟨reference, hparse, hallowed⟩ := exists_of_judge hlink hpassed
  obtain ⟨url, hurl, hscheme⟩ := hresolve a.value reference hparse
  refine ⟨reference, url, hparse, hurl, ?_⟩
  rw [hscheme]
  rcases scheme_of_allowed hparse hallowed with hnone | hhttp | hhttps
  · rw [hnone]
    exact hweb
  · rw [hhttp]
    exact .inl rfl
  · rw [hhttps]
    exact .inr rfl

theorem resolve_keeps_scheme_relative :
    ∃ base reference url, Url.parse "https://[2001:db8::7]/dir/page.html" = .ok base ∧
      base.scheme = "https" ∧ parse "hTTps:[::1]/a.png" = .ok reference ∧
      reference.resolve base = .ok url ∧ url.scheme = "https" := by
  obtain ⟨base, hbase, hscheme⟩ : ∃ base,
      Url.parse "https://[2001:db8::7]/dir/page.html" = .ok base ∧ base.scheme = "https" :=
    Except.exists_of_toOption_map (by decide +kernel)
  obtain ⟨reference, hparse, hspelled⟩ : ∃ reference,
      parse "hTTps:[::1]/a.png" = .ok reference ∧ reference.scheme = some "https" :=
    Except.exists_of_toOption_map (by decide +kernel)
  obtain ⟨url, hurl, hresolved⟩ :=
    (resolve_keeps_scheme base (.parsed hbase) (.inr hscheme)).1 _ reference hparse
  rw [hspelled] at hresolved
  exact ⟨base, reference, url, hbase, hscheme, hparse, hurl, hresolved⟩

end UriReference

end GadgetGuard
