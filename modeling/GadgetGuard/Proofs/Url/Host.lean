import GadgetGuard.Url.Parser
/-!
# Hosts of web URLs

A URL that is read in one of the schemes that every browser knows, file URLs aside, has a host
and the host has a text: no spelling of slashes, credentials or ports gets around it.
-/

namespace GadgetGuard

open GadgetGuard.Text

theorem Except.bind_eq_ok_iff {ε α β : Type} {start : Except ε α} {next : α → Except ε β}
    {result : β} : start >>= next = .ok result ↔
      ∃ value, start = .ok value ∧ next value = .ok result := by
  cases start with
  | error cause => simp [bind, Except.bind]
  | ok value => simp [bind, Except.bind]

/-- What a computation that can be carried out gives. -/
theorem Except.exists_of_toOption_map {ε α β : Type} {start : Except ε α} {f : α → β} {result : β}
    (hstart : start.toOption.map f = some result) :
    ∃ value, start = .ok value ∧ f value = result := by
  cases start with
  | error cause => contradiction
  | ok value => exact ⟨value, rfl, Option.some.inj hstart⟩

namespace Host

theorem toString_ipv4_ne_empty (address : Ipv4) : (ipv4 address).toString ≠ "" := by
  intro hempty
  have hlist := congrArg String.toList hempty
  rw [Host.toString, Ipv4.toString, String.toList_intercalate] at hlist
  simp [List.intercalate] at hlist

theorem toString_ipv6_ne_empty (address : Ipv6) : (ipv6 address).toString ≠ "" := by
  intro hempty
  have hlist := congrArg String.toList hempty
  rw [Host.toString, String.toList_append, String.toList_append] at hlist
  simp at hlist

theorem ofBracketed_ne_empty {text : List Char} {host : Host}
    (hread : ofBracketed text = .ok host) : host.toString ≠ "" := by
  unfold ofBracketed at hread
  split at hread
  · split at hread
    next address _ =>
      obtain rfl := Except.ok.inj hread
      exact toString_ipv6_ne_empty address
    · contradiction
  · contradiction

theorem ofDomain_ne_empty {name : List Char} {host : Host} (hread : ofDomain name = .ok host) :
    host.toString ≠ "" := by
  unfold ofDomain at hread
  split at hread
  · contradiction
  next hname =>
    split at hread
    · split at hread
      next address _ =>
        obtain rfl := Except.ok.inj hread
        exact toString_ipv4_ne_empty address
      · contradiction
    · obtain rfl := Except.ok.inj hread
      intro hempty
      have hlist := congrArg String.toList hempty
      rw [Host.toString, String.toList_ofList] at hlist
      simp [hlist] at hname

/-- No host of a web URL is empty, also where folding removes characters. -/
theorem parse_ne_empty {text : List Char} {host : Host} (hread : parse text = .ok host) :
    host.toString ≠ "" := by
  unfold parse at hread
  split at hread
  · exact ofBracketed_ne_empty hread
  · split at hread
    · exact ofDomain_ne_empty hread
    · contradiction

end Host

namespace Url

/-- The host of a web URL is read, never left out. -/
theorem readHostAndPort_web {scheme : String} {text rest : List Char} {host : Option Host}
    {port : Option UInt16} (hkind : SchemeKind.of scheme = .web)
    (hread : readHostAndPort scheme text = .ok (host, port, rest)) :
    ∃ found, host = some found ∧ found.toString ≠ "" := by
  unfold readHostAndPort at hread
  rw [hkind] at hread
  generalize cutPort false text = parts at hread
  obtain ⟨hostText, portText⟩ := parts
  cases hostText with
  | nil => cases hread
  | cons c hostText =>
    obtain ⟨found, hfound, hrest⟩ := Except.bind_eq_ok_iff.1 hread
    refine ⟨found, ?_, Host.parse_ne_empty hfound⟩
    cases portText with
    | none =>
      cases hrest
      rfl
    | some portText =>
      obtain ⟨_, _, hresult⟩ := Except.bind_eq_ok_iff.1 hrest
      cases hresult
      rfl

/-- What is read after two slashes keeps the scheme and has the host that was read. -/
theorem withAuthority_eq_ok {scheme : String} {reference : Reference} {body : List Char}
    {url : Url} (hread : withAuthority scheme reference body = .ok url) :
    url.scheme = scheme ∧
      ∃ text port rest, readHostAndPort scheme text = .ok (url.host?, port, rest) := by
  unfold withAuthority at hread
  dsimp only at hread
  split at hread
  · cases hread
  · obtain ⟨⟨host, port, rest⟩, hhost, hrest⟩ := Except.bind_eq_ok_iff.1 hread
    dsimp only at hrest
    split at hrest
    · cases hrest
    · cases hrest
      exact ⟨rfl, _, port, rest, hhost⟩

/-- What follows the slashes of a reference that names a host of its own. -/
def authorityText? : List Char → Option (List Char)
  | '/' :: '/' :: rest => some rest
  | first :: rest =>
    let isAnySlash (c : Char) := c == '/' || c == '\\'
    if (first = '/' ∨ first = '\\') ∧ (rest.head?.map isAnySlash).getD false then
      some (rest.dropWhile isAnySlash)
    else none
  | [] => none

/-- A reference that names a host keeps only the scheme of the base. -/
theorem resolveIn_of_authority {base : Url} {reference : Reference} {rest : List Char}
    (hrest : authorityText? reference.body = some rest) :
    resolveIn base reference = withAuthority base.scheme reference rest := by
  unfold authorityText? at hrest
  unfold resolveIn
  split at hrest
  next rest' hbody =>
    rw [hbody, ← Option.some.inj hrest]
    rfl
  next first rest' hslashes hbody =>
    dsimp only at hrest
    split at hrest
    next hany =>
      rw [hbody]
      dsimp only
      rw [if_pos hany.1]
      split
      · exact absurd rfl (hslashes _ rfl)
      · rw [if_pos hany.2, ← Option.some.inj hrest]
    · contradiction
  · contradiction

/-- Any other reference keeps the scheme and the host of the base. -/
theorem resolveIn_of_no_authority (base : Url) {reference : Reference}
    (hnone : authorityText? reference.body = none) :
    ∃ path query, resolveIn base reference = .ok
        { base with path, query, fragment := reference.fragment.map encodeFragment } ∧
      (path = base.path ∨ ∃ list, path = .segments list) := by
  unfold authorityText? at hnone
  unfold resolveIn
  split at hnone
  · contradiction
  next first rest hslashes hbody =>
    dsimp only at hnone
    split at hnone
    · contradiction
    next hany =>
      rw [hbody]
      dsimp only
      split
      next hfirst =>
        split
        · exact absurd rfl (hslashes _ rfl)
        · rw [if_neg fun hsecond => hany ⟨hfirst, hsecond⟩]
          exact ⟨_, _, rfl, .inr ⟨_, rfl⟩⟩
      · exact ⟨_, _, rfl, .inr ⟨_, rfl⟩⟩
  next hbody =>
    rw [hbody]
    exact ⟨_, _, rfl, .inl rfl⟩

theorem resolveIn_scheme {base url : Url} {reference : Reference}
    (hread : resolveIn base reference = .ok url) : url.scheme = base.scheme := by
  cases htext : authorityText? reference.body with
  | none =>
    obtain ⟨path, query, hvalue, _⟩ := resolveIn_of_no_authority base htext
    rw [hvalue] at hread
    cases hread
    rfl
  | some rest =>
    rw [resolveIn_of_authority htext] at hread
    exact (withAuthority_eq_ok hread).1

/-- What is read as a file URL is one, also where a file URL stands before it. -/
theorem readFile_scheme {base : Option Url} {reference : Reference} {url : Url}
    (hbase : ∀ file, base = some file → file.scheme = "file")
    (hread : readFile base reference = .ok url) : url.scheme = "file" := by
  unfold readFile at hread
  dsimp only at hread
  split at hread
  · split at hread
    · cases hread
      rfl
    · split at hread
      · cases hread
        rfl
      · obtain ⟨host, _, hresult⟩ := Except.bind_eq_ok_iff.1 hread
        cases hresult
        rfl
  · split at hread
    · cases hread
      rfl
    · cases hread
      rfl
  · cases base with
    | none =>
      cases hread
      rfl
    | some file =>
      dsimp only at hread
      split at hread
      · rw [resolveIn_scheme hread, hbase file rfl]
      · split at hread
        · cases hread
          rfl
        · cases hread
          rfl

/-- Without a base a URL is read in the scheme that it names. -/
theorem readAfterScheme_eq_ok {scheme : String} {text : List Char} {url : Url}
    (hread : readAfterScheme none scheme text = .ok url)
    (hkind : SchemeKind.of url.scheme = .web) :
    ∃ reference body, withAuthority scheme reference body = .ok url := by
  unfold readAfterScheme at hread
  dsimp only at hread
  cases hscheme : SchemeKind.of scheme with
  | file =>
    rw [hscheme] at hread
    rw [readFile_scheme (by simp) hread] at hkind
    contradiction
  | web =>
    rw [hscheme] at hread
    exact ⟨_, _, hread⟩
  | other =>
    rw [hscheme] at hread
    dsimp only at hread
    split at hread
    · exact ⟨_, _, hread⟩
    · cases hread
      have hsame : SchemeKind.of scheme = .web := hkind
      rw [hscheme] at hsame
      contradiction
    · cases hread
      have hsame : SchemeKind.of scheme = .web := hkind
      rw [hscheme] at hsame
      contradiction

theorem parse_web_host {text : String} {url : Url} (hparse : Url.parse text = .ok url)
    (hkind : SchemeKind.of url.scheme = .web) :
    ∃ host, url.host? = some host ∧ host.toString ≠ "" := by
  unfold Url.parse read at hparse
  dsimp only at hparse
  generalize scheme? (clean text.toList) = found at hparse
  cases found with
  | none => cases hparse
  | some found =>
    obtain ⟨reference, body, hread⟩ := readAfterScheme_eq_ok hparse hkind
    obtain ⟨hscheme, hostText, port, rest, hhost⟩ := withAuthority_eq_ok hread
    rw [hscheme] at hkind
    exact readHostAndPort_web hkind hhost

end Url

end GadgetGuard
