import GadgetGuard.Proofs.Host.Spelling
import GadgetGuard.Proofs.Url.Written
import GadgetGuard.Proxy.Target
/-!
# Which names the proxy blocks

Whether a URL is blocked depends on the host that is read from it.  All spellings of a name are
read as one host, so a name that is blocked is blocked however it is spelled, with anything around
it.  The names are compared as a whole, though: a domain that ends with the dot for the root is
none of them.
-/

namespace GadgetGuard

open GadgetGuard.Text

variable {name : List Char} {text : String} {url : WrittenUrl}

/-- Whether the policy blocks what a host names. -/
def Host.IsBlocked (host : Host) : Prop :=
  ∃ reason, TargetPolicy.checkHost host = .error (.blocked reason)

/-- Whether the usual policy blocks a URL for its host. -/
def IsBlockedUrl (text : String) : Prop :=
  ∃ reason, ({} : TargetPolicy).check text = .error (.blocked reason)

/-- Names of the machine itself and of the services of a data centre. -/
def IsReservedName (name : String) : Prop :=
  name ∈ ["localhost", "localhost.localdomain", "metadata", "instance-data"] ∨
    hasEnding ".localhost" name = true ∨ hasEnding ".internal" name = true

instance (name : String) : Decidable (IsReservedName name) :=
  inferInstanceAs (Decidable (_ ∨ _ ∨ _))

/-! ## Blocked hosts -/

/-- A URL of the web is blocked for its host only. -/
theorem isBlockedUrl_written (htext : Url.clean text.toList = url.text) (hweb : url.IsWeb)
    (hhost : IsHostText url.host) :
    IsBlockedUrl text ↔ ∃ host, Host.parse url.host = .ok host ∧ host.IsBlocked := by
  have hread := Url.parse_written htext hweb hhost
  rw [IsBlockedUrl, TargetPolicy.check]
  cases hparse : Url.parse text with
  | error cause =>
    rw [hparse] at hread
    cases hfound : Host.parse url.host with
    | error cause => simp
    | ok host =>
      rw [hfound] at hread
      cases hread
  | ok parsed =>
    rw [hparse] at hread
    cases hfound : Host.parse url.host with
    | error cause =>
      rw [hfound] at hread
      cases hread
    | ok host =>
      rw [hfound] at hread
      obtain ⟨hscheme, hsite⟩ := Prod.mk.inj (Except.ok.inj hread)
      have hallowed : ["http", "https"].contains parsed.scheme = true := by
        rw [hscheme]
        simpa using hweb.scheme
      have hcheck : ({} : TargetPolicy).checkUrl parsed = TargetPolicy.checkHost host := by
        rw [TargetPolicy.checkUrl, hallowed, hsite]
        rfl
      dsimp only
      rw [hcheck]
      simp only [Except.ok.injEq, exists_eq_left', Host.IsBlocked]
      cases TargetPolicy.checkHost host with
      | error cause => simp [bind, Except.bind]
      | ok done => simp [bind, Except.bind, pure, Except.pure]

/-- No ending of a name without the dot for the root is one of a name with it. -/
theorem hasEnding_append_dot (name : List Char) {ending : String} (hne : ending ≠ "")
    (hending : ending.toList.getLast? ≠ some '.') :
    hasEnding ending (String.ofList (name ++ ['.'])) = false := by
  rw [← Bool.not_eq_true, hasEnding, String.toList_ofList, List.isSuffixOf_iff_suffix]
  rintro ⟨before, hbefore⟩
  apply hending
  have hlast := congrArg List.getLast? hbefore
  rwa [List.getLast?_concat, List.getLast?_append_of_ne_nil _ (by simpa using hne)] at hlast

theorem not_isBlocked_of_dot (hlower : name.map Char.toLower = name) :
    ¬ (Host.domain (String.ofList (name ++ ['.']))).IsBlocked := by
  have hname : lower (String.ofList (name ++ ['.'])) = String.ofList (name ++ ['.']) := by
    rw [lower_ofList, List.map_append, hlower]
    rfl
  have hne : ∀ other : String, other.toList.getLast? ≠ some '.' → other ≠ "" →
      (String.ofList (name ++ ['.']) == other) = false := by
    intro other hother hempty
    rw [beq_eq_false_iff_ne]
    rintro heq
    have hend := hasEnding_append_dot name hempty hother
    rw [heq, hasEnding, ← Bool.not_eq_true, List.isSuffixOf_iff_suffix] at hend
    exact hend List.suffix_rfl
  have hlocal : isLocalName (String.ofList (name ++ ['.'])) = false := by
    rw [isLocalName, hne "localhost" (by decide) (by decide),
      hne "localhost.localdomain" (by decide) (by decide),
      hasEnding_append_dot name (by decide) (by decide)]
    rfl
  have hmetadata : isMetadataName (String.ofList (name ++ ['.'])) = false := by
    rw [isMetadataName, hne "instance-data" (by decide) (by decide),
      hne "metadata" (by decide) (by decide),
      hne "metadata.google.internal" (by decide) (by decide),
      hasEnding_append_dot name (by decide) (by decide)]
    rfl
  rintro ⟨reason, hcheck⟩
  rw [TargetPolicy.checkHost, hname, hlocal, hmetadata] at hcheck
  contradiction

/-! ## Spelled names -/

theorem SpellsHost.isHostText {host : List Char} (hspells : SpellsHost name host)
    (hname : ∀ c ∈ name, isHostCharacter c = true) (hne : name ≠ []) : IsHostText host where
  nonempty := by
    cases hspells with
    | nil => exact absurd rfl hne
    | plain => exact List.cons_ne_nil _ _
    | escaped => exact List.cons_ne_nil _ _
  characters := by
    have hplain : ∀ c : Char, c.toNat < 128 → isHostCharacter c = true →
        endsAuthority c = false ∧ c ≠ '@' ∧ c ≠ ':' ∧ c ≠ '[' :=
      forall_ascii (by decide)
    intro c hc
    rcases hspells.characters hname c hc with hcharacter | rfl
    · exact hplain c (lt_of_isHostCharacter hcharacter) hcharacter
    · decide

/-- The plainest URL of a host. -/
def plainUrl (name : List Char) : WrittenUrl :=
  ⟨"http".toList, "//".toList, none, name, none, "/".toList⟩

theorem isWeb_plainUrl (name : List Char) : (plainUrl name).IsWeb where
  scheme := by
    have hhttp : lower (String.ofList "http".toList) = "http" := by decide +kernel
    exact .inl hhttp
  slashes := by simp [plainUrl]
  credentials := by simp [plainUrl]
  port := by simp [plainUrl]
  tail := by simp [plainUrl, endsAuthority]

theorem clean_plainUrl {name : String} (hname : ∀ c ∈ name.toList, isHostCharacter c = true) :
    Url.clean ("http://" ++ name ++ "/").toList = (plainUrl name.toList).text := by
  have htext : ("http://" ++ name ++ "/").toList = (plainUrl name.toList).text := by
    simp [plainUrl, WrittenUrl.text, WrittenUrl.authority, WrittenUrl.hostAndPort]
  have hlegal : ∀ c : Char, c.toNat < 128 → isHostCharacter c = true →
      UriReference.isIllegal c = false :=
    forall_ascii (by decide)
  have hedges : ∀ c ∈ "http://".toList ++ "/".toList, UriReference.isIllegal c = false := by
    have hall : ("http://".toList ++ "/".toList).all (! UriReference.isIllegal ·) = true := by
      decide +kernel
    rw [List.all_eq_true] at hall
    exact fun c hc => Bool.not_eq_true' _ ▸ hall c hc
  rw [← htext]
  apply UriReference.clean_eq_self
  intro c hc
  rw [String.toList_append, String.toList_append, List.mem_append, List.mem_append] at hc
  rcases hc with (hscheme | hc) | hslash
  · exact hedges c (List.mem_append_left _ hscheme)
  · exact hlegal c (lt_of_isHostCharacter (hname c hc)) (hname c hc)
  · exact hedges c (List.mem_append_right _ hslash)

theorem isBlockedUrl_plain {name : String} (hname : IsHostName name.toList) :
    IsBlockedUrl ("http://" ++ name ++ "/") ↔
      ∃ host, Host.parse name.toList = .ok host ∧ host.IsBlocked :=
  isBlockedUrl_written (clean_plainUrl hname.characters) (isWeb_plainUrl _)
    ((SpellsHost.self _).isHostText hname.characters hname.nonempty)

theorem not_isIntended_of_ending (label : String) {name : String}
    (hlabel : Ipv4.isIntended label.toList = false) (hne : label ≠ "")
    (hplain : ∀ c ∈ label.toList, (c == '.') = false)
    (hending : hasEnding ("." ++ label) name = true) : Ipv4.isIntended name.toList = false := by
  obtain ⟨before, hname⟩ := List.isSuffixOf_iff_suffix.1 hending
  have hdot : (("." ++ label : String)).toList = '.' :: label.toList := by simp
  rw [hdot] at hname
  rw [← hname, Ipv4.isIntended_append before (by simpa using hne) hplain, hlabel]

/-- The last label of a reserved name is no number, so the name is read as a domain. -/
theorem not_isIntended_of_reserved {name : String} (hreserved : IsReservedName name) :
    Ipv4.isIntended name.toList = false := by
  rcases hreserved with hmem | hlocalhost | hinternal
  · simp only [List.mem_cons, List.not_mem_nil, or_false] at hmem
    rcases hmem with rfl | rfl | rfl | rfl <;> decide +kernel
  · exact not_isIntended_of_ending "localhost" (by decide +kernel) (by decide)
      (by simp) hlocalhost
  · exact not_isIntended_of_ending "internal" (by decide +kernel) (by decide)
      (by simp) hinternal

theorem ofDomain_of_reserved {name : String} (hreserved : IsReservedName name) :
    Host.ofDomain name.toList = .ok (.domain name) := by
  have hne : name.toList.isEmpty = false := by
    rw [← Bool.not_eq_true, List.isEmpty_iff, String.toList_eq_nil_iff]
    rintro rfl
    rcases hreserved with hmem | hlocalhost | hinternal
    · simp at hmem
    · exact absurd hlocalhost (by decide)
    · exact absurd hinternal (by decide)
  rw [Host.ofDomain, hne, not_isIntended_of_reserved hreserved, String.ofList_toList]
  rfl

theorem isBlocked_of_reserved {name : String} (hreserved : IsReservedName name)
    (hlower : lower name = name) : (Host.domain name).IsBlocked := by
  rw [Host.IsBlocked, TargetPolicy.checkHost, hlower]
  cases hlocal : isLocalName name with
  | true => exact ⟨_, rfl⟩
  | false =>
    have hmetadata : isMetadataName name = true := by
      rw [isLocalName] at hlocal
      rw [isMetadataName]
      rcases hreserved with hmem | hlocalhost | hinternal
      · simp only [List.mem_cons, List.not_mem_nil, or_false] at hmem
        rcases hmem with rfl | rfl | rfl | rfl <;> simp_all
      · simp_all
      · simp_all
    rw [hmetadata]
    exact ⟨_, rfl⟩

/-- Without the dot for the root a name is blocked in all spellings or in none. -/
theorem isBlockedUrl_spelled {name : String} (hname : IsHostName name.toList) (hweb : url.IsWeb)
    (htext : Url.clean text.toList = url.text) (hspells : SpellsHost name.toList url.host) :
    IsBlockedUrl text ↔ IsBlockedUrl ("http://" ++ name ++ "/") := by
  rw [isBlockedUrl_written htext hweb (hspells.isHostText hname.characters hname.nonempty),
    isBlockedUrl_plain hname, hspells.parse hname.characters,
    (SpellsHost.self _).parse hname.characters]

/-- With the dot for the root a name is blocked only as an address. -/
theorem isBlockedUrl_rooted {name : String} (hname : IsHostName name.toList) (hweb : url.IsWeb)
    (htext : Url.clean text.toList = url.text)
    (hspells : SpellsHost (name.toList ++ ['.']) url.host) :
    IsBlockedUrl text ↔ IsBlockedUrl ("http://" ++ name ++ "/") ∧
      Ipv4.isIntended (lower name).toList = true := by
  have hfolded : (name.toList.map Char.toLower).map Char.toLower =
      name.toList.map Char.toLower := by
    rw [List.map_map]
    exact List.map_congr_left fun c _ => Char.toLower_toLower_eq_toLower c
  rw [isBlockedUrl_written htext hweb
    (hspells.isHostText hname.characters_append_dot (by simp)), isBlockedUrl_plain hname,
    hspells.parse_append_dot hname, toList_lower]
  cases Ipv4.isIntended (name.toList.map Char.toLower) with
  | true => simp
  | false =>
    cases Domain.isAccepted (name.toList.map Char.toLower) with
    | true => simpa using not_isBlocked_of_dot hfolded
    | false => simp

/-- A reserved name is blocked unless the text around it, or a label that claims to be Punycode,
is not read. -/
theorem isBlockedUrl_reserved {name : String} (hname : IsHostName name.toList)
    (hreserved : IsReservedName (lower name)) (hweb : url.IsWeb)
    (htext : Url.clean text.toList = url.text) (hspells : SpellsHost name.toList url.host) :
    IsBlockedUrl text ↔ Domain.isAccepted (lower name).toList = true := by
  rw [isBlockedUrl_written htext hweb (hspells.isHostText hname.characters hname.nonempty),
    hspells.parse hname.characters, ← toList_lower, ofDomain_of_reserved hreserved]
  cases Domain.isAccepted (lower name).toList with
  | true => simpa using isBlocked_of_reserved hreserved (lower_lower name)
  | false => simp

/-- A host name is blocked in every spelling if it is blocked at all: letters in any case, escapes
and whatever surrounds the host make no difference.  With the dot for the root that holds of names
that are addresses, and no other name is blocked.  Reserved names are blocked in every text that
is a URL, and in every text at all if none of their labels claims to be Punycode.  URLs that are
not of the web are refused for their scheme. -/
theorem check_blocks_spelled_names {name text : String} {url : WrittenUrl}
    (hname : IsHostName name.toList) (hweb : url.IsWeb) (htext : Url.clean text.toList = url.text) :
    (∀ rooted, SpellsHost (name.toList ++ if rooted then ['.'] else []) url.host →
      (IsBlockedUrl text ↔ IsBlockedUrl ("http://" ++ name ++ "/") ∧
        (rooted = true → Ipv4.isIntended (lower name).toList = true))) ∧
    (IsReservedName (lower name) → SpellsHost name.toList url.host →
      (∀ parsed, Url.parse text = .ok parsed → IsBlockedUrl text) ∧
      ((∀ label ∈ splitAt (· == '.') (lower name).toList, ¬ "xn--".toList <+: label) →
        IsBlockedUrl text)) ∧
    ∀ other parsed, Url.parse other = .ok parsed → parsed.scheme ≠ "http" →
      parsed.scheme ≠ "https" →
      ({} : TargetPolicy).check other = .error (.schemeNotAllowed parsed.scheme) := by
  refine ⟨?_, ?_, ?_⟩
  · intro rooted hspells
    cases rooted with
    | false =>
      rw [if_neg Bool.false_ne_true, List.append_nil] at hspells
      simpa using isBlockedUrl_spelled hname hweb htext hspells
    | true => simpa using isBlockedUrl_rooted hname hweb htext hspells
  · intro hreserved hspells
    rw [isBlockedUrl_reserved hname hreserved hweb htext hspells]
    constructor
    · intro parsed hparse
      have hread := Url.parse_written htext hweb
        (hspells.isHostText hname.characters hname.nonempty)
      rw [hparse, hspells.parse hname.characters, ← toList_lower] at hread
      by_contra haccepted
      rw [if_neg haccepted] at hread
      cases hread
    · intro hcode
      apply Domain.isAccepted_of_not_code _ hcode
      rw [toList_lower]
      exact hname.map_toLower.characters
  · intro other parsed hparse hhttp hhttps
    rw [TargetPolicy.check, hparse]
    dsimp only
    rw [TargetPolicy.checkUrl]
    simp [hhttp, hhttps, bind, Except.bind]

theorem check_blocks_spelled_names_escaped :
    IsBlockedUrl " HTTP:\\\\u:p@API.LOC%61lhost:80/x" := by
  let url : WrittenUrl :=
    ⟨"HTTP".toList, "\\\\".toList, some "u:p".toList, "API.LOC%61lhost".toList,
      some "80".toList, "/x".toList⟩
  have hname : IsHostName "api.localhost".toList := by decide +kernel
  have hweb : url.IsWeb :=
    { scheme := .inl (by decide +kernel)
      slashes := by simp [url]
      credentials := by simp [url, endsAuthority]
      port := by
        rintro digits hdigits
        cases hdigits
        exact ⟨by simp, by decide +kernel⟩
      tail := by
        rintro c hc
        cases hc
        rfl }
  have hspells : SpellsHost "api.localhost".toList url.host :=
    .plain rfl <| .plain rfl <| .plain rfl <| .plain rfl <| .plain rfl <| .plain rfl <|
      .plain rfl <| .escaped rfl rfl rfl rfl <| SpellsHost.self _
  obtain ⟨-, hreserved, -⟩ := check_blocks_spelled_names hname hweb
    (by decide +kernel : Url.clean " HTTP:\\\\u:p@API.LOC%61lhost:80/x".toList = url.text)
  exact (hreserved (by decide +kernel) hspells).2 (by decide +kernel)

/-- The dot for the root of all names hides the name of the machine itself. -/
theorem isBlockedUrl_of_rooted_local_name :
    ¬ (IsBlockedUrl "http://localhost./" ↔ IsBlockedUrl "http://localhost/") := by
  have hname : IsHostName "localhost".toList := by decide +kernel
  have haccepted : Domain.isAccepted (lower "localhost").toList = true := by
    rw [toList_lower]
    exact Domain.isAccepted_of_not_code hname.map_toLower.characters (by decide +kernel)
  have hblocked : IsBlockedUrl "http://localhost/" :=
    (isBlockedUrl_reserved hname (by decide +kernel) (isWeb_plainUrl _)
      (by decide +kernel : Url.clean "http://localhost/".toList = _) (SpellsHost.self _)).2
      haccepted
  have hrooted := isBlockedUrl_rooted hname (isWeb_plainUrl ("localhost".toList ++ ['.']))
    (by decide +kernel : Url.clean "http://localhost./".toList = _) (SpellsHost.self _)
  rw [hrooted]
  intro hboth
  exact absurd (hboth.2 hblocked).2 (by decide +kernel)

end GadgetGuard
