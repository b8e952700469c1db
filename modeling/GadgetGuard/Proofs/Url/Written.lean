import GadgetGuard.Proofs.Text.Ascii
import GadgetGuard.Proofs.Text.Cut
import GadgetGuard.Proofs.Url.Scheme
/-!
# URLs of the web as they are written

A URL with the scheme HTTP or HTTPS is written with its scheme in any case, any number of slashes
either way, and credentials and a port if need be.  From all of this the reader picks the text of
the host, and nothing but this text decides whether there is a URL and which host it has.
-/

namespace GadgetGuard

open GadgetGuard.Text

/-- The parts of a URL with a host, as they are written. -/
structure WrittenUrl where
  scheme : List Char
  slashes : List Char
  /-- What stands in front of an `@`. -/
  credentials : Option (List Char)
  host : List Char
  port : Option (List Char)
  /-- The path, the query and the fragment. -/
  tail : List Char

/-- Characters that end the part of a URL in which the host stands. -/
def endsAuthority (c : Char) : Bool :=
  c == '/' || c == '\\' || c == '?' || c == '#'

/-- A text that is read as a host as a whole. -/
structure IsHostText (host : List Char) : Prop where
  nonempty : host ≠ []
  characters : ∀ c ∈ host, endsAuthority c = false ∧ c ≠ '@' ∧ c ≠ ':' ∧ c ≠ '['

namespace WrittenUrl

def hostAndPort (url : WrittenUrl) : List Char :=
  match url.port with
  | some digits => url.host ++ ':' :: digits
  | none => url.host

def authority (url : WrittenUrl) : List Char :=
  match url.credentials with
  | some credentials => credentials ++ '@' :: url.hostAndPort
  | none => url.hostAndPort

def text (url : WrittenUrl) : List Char :=
  url.scheme ++ ':' :: (url.slashes ++ (url.authority ++ url.tail))

def portNumber (digits : List Char) : Nat :=
  digits.foldl (fun value c => value * 10 + (c.toNat - 48)) 0

/-- Whether the parts around the host are those of a URL of the web. -/
structure IsWeb (url : WrittenUrl) : Prop where
  scheme : lower (String.ofList url.scheme) = "http" ∨ lower (String.ofList url.scheme) = "https"
  slashes : ∀ c ∈ url.slashes, c = '/' ∨ c = '\\'
  credentials : ∀ text, url.credentials = some text → ∀ c ∈ text, endsAuthority c = false
  port : ∀ digits, url.port = some digits →
    (∀ c ∈ digits, c.isDigit = true) ∧ portNumber digits ≤ 65535
  tail : ∀ c, url.tail.head? = some c → endsAuthority c = true

theorem hostAndPort_characters {url : WrittenUrl} (hweb : url.IsWeb) (hhost : IsHostText url.host) :
    ∀ c ∈ url.hostAndPort, endsAuthority c = false ∧ c ≠ '@' := by
  have hdigit : ∀ c : Char, c.isDigit = true → endsAuthority c = false ∧ c ≠ '@' := by
    intro c hc
    constructor
    · rw [← Bool.not_eq_true]
      intro hends
      simp only [endsAuthority, Bool.or_eq_true, beq_iff_eq] at hends
      rcases hends with ((rfl | rfl) | rfl) | rfl <;> contradiction
    · rintro rfl
      contradiction
  intro c hc
  rw [hostAndPort] at hc
  split at hc
  next digits hport =>
    rw [List.mem_append, List.mem_cons] at hc
    rcases hc with hc | rfl | hc
    · exact ⟨(hhost.characters c hc).1, (hhost.characters c hc).2.1⟩
    · decide
    · exact hdigit c ((hweb.port digits hport).1 c hc)
  · exact ⟨(hhost.characters c hc).1, (hhost.characters c hc).2.1⟩

theorem hostAndPort_ne_nil {url : WrittenUrl} (hhost : IsHostText url.host) :
    url.hostAndPort ≠ [] := by
  rw [hostAndPort]
  split
  · simp
  · exact hhost.nonempty

theorem authority_ne_nil {url : WrittenUrl} (hhost : IsHostText url.host) : url.authority ≠ [] := by
  rw [authority]
  split
  · simp
  · exact hostAndPort_ne_nil hhost

theorem authority_characters {url : WrittenUrl} (hweb : url.IsWeb) (hhost : IsHostText url.host) :
    ∀ c ∈ url.authority, endsAuthority c = false := by
  have hlater : ∀ c ∈ url.hostAndPort, endsAuthority c = false :=
    fun c hc => (hostAndPort_characters hweb hhost c hc).1
  rw [authority]
  split
  next credentials hcredentials =>
    rw [List.forall_mem_append, List.forall_mem_cons]
    exact ⟨hweb.credentials credentials hcredentials, rfl, hlater⟩
  · exact hlater

/-- The host follows the last `@`. -/
theorem cutLast_authority {url : WrittenUrl} (hweb : url.IsWeb) (hhost : IsHostText url.host) :
    (cutLast '@' url.authority).getD ([], url.authority) =
        (url.credentials.getD [], url.hostAndPort) ∧
      (url.authority.getLast? == some '@') = false := by
  have hmem : '@' ∉ url.hostAndPort :=
    fun hmem => (hostAndPort_characters hweb hhost '@' hmem).2 rfl
  have hlast : ∀ before, ((before ++ url.hostAndPort).getLast? == some '@') = false := by
    intro before
    rw [beq_eq_false_iff_ne, List.getLast?_append_of_ne_nil _ (hostAndPort_ne_nil hhost)]
    exact fun hlast => hmem (List.mem_of_getLast? hlast)
  rw [authority]
  cases url.credentials with
  | none =>
    dsimp only
    rw [cutLast_of_not_mem hmem]
    exact ⟨rfl, hlast []⟩
  | some credentials =>
    dsimp only
    rw [cutLast_append credentials hmem]
    have hlast := hlast (credentials ++ ['@'])
    rw [List.append_assoc] at hlast
    exact ⟨rfl, hlast⟩

end WrittenUrl

namespace Url

variable {host digits : List Char} {scheme : String}

/-! ## The host and the port -/

theorem cutPort_append (text : List Char) (hhost : ∀ c ∈ host, c ≠ ':' ∧ c ≠ '[') :
    cutPort false (host ++ text) = (host ++ (cutPort false text).1, (cutPort false text).2) := by
  induction host with
  | nil => rfl
  | cons c host ih =>
    rw [List.forall_mem_cons] at hhost
    rw [List.cons_append, cutPort, if_neg fun hcolon => hhost.1.1 hcolon.1, if_neg hhost.1.2,
      ite_self]
    dsimp only
    rw [ih hhost.2]
    rfl

theorem readPort_of_digits (scheme : String) (hdigits : ∀ c ∈ digits, c.isDigit = true)
    (hnumber : WrittenUrl.portNumber digits ≤ 65535) :
    ∃ port, readPort scheme digits = .ok (port, []) := by
  have hspan : digits.span Char.isDigit = (digits, []) := by
    rw [List.span_eq_takeWhile_dropWhile, List.takeWhile_eq_self_iff.2 hdigits,
      List.dropWhile_eq_nil_iff.2 hdigits]
  have hread : readPort scheme digits =
      if decide (65535 < WrittenUrl.portNumber digits) || !true then .error .invalidPort
      else .ok (if digits.isEmpty ||
          defaultPort? scheme == some (UInt16.ofNat (WrittenUrl.portNumber digits)) then none
        else some (UInt16.ofNat (WrittenUrl.portNumber digits)), []) := by
    rw [readPort, hspan]
    rfl
  rw [decide_eq_false (Nat.not_lt.2 hnumber)] at hread
  exact ⟨_, hread⟩

/-- The host of a URL of the web is what its text is read as. -/
theorem readHostAndPort_written {url : WrittenUrl} (hkind : SchemeKind.of scheme = .web)
    (hweb : url.IsWeb) (hhost : IsHostText url.host) :
    ∃ port, readHostAndPort scheme url.hostAndPort =
      (Host.parse url.host).map fun host => (some host, port, []) := by
  have hspecial : SchemeKind.isSpecial .web = true := rfl
  have hplain : ∀ c ∈ url.host, c ≠ ':' ∧ c ≠ '[' := fun c hc => (hhost.characters c hc).2.2
  have hempty : url.host.isEmpty = false := by simpa using hhost.nonempty
  rw [readHostAndPort, hkind, WrittenUrl.hostAndPort]
  cases hport : url.port with
  | none =>
    refine ⟨none, ?_⟩
    have hcut : cutPort false url.host = (url.host, none) := by
      simpa [cutPort] using cutPort_append [] hplain
    dsimp only
    rw [hcut]
    dsimp only
    rw [hspecial, hempty]
    cases Host.parse url.host with
    | error cause => rfl
    | ok host => rfl
  | some digits =>
    obtain ⟨hdigits, hnumber⟩ := hweb.port digits hport
    obtain ⟨port, hread⟩ := readPort_of_digits scheme hdigits hnumber
    refine ⟨port, ?_⟩
    have hcut : cutPort false (url.host ++ ':' :: digits) = (url.host, some digits) := by
      simpa [cutPort] using cutPort_append (':' :: digits) hplain
    dsimp only
    rw [hcut]
    dsimp only
    rw [hspecial, hempty, hread]
    cases Host.parse url.host with
    | error cause => rfl
    | ok host => rfl

/-! ## The authority -/

/-- A text whose characters end no authority has no slashes. -/
theorem not_isSlash {c : Char} (hc : endsAuthority c = false) : isSlash .web c = false := by
  simp only [endsAuthority, Bool.or_eq_false_iff] at hc
  rw [isSlash, hc.1.1.1, hc.1.1.2]
  rfl

/-- What follows the slashes of a URL of the web is read up to the next slash, and its host is
that of the URL. -/
theorem withAuthority_written {url : WrittenUrl} {reference : Reference} {path : List Char}
    (hkind : SchemeKind.of scheme = .web) (hweb : url.IsWeb) (hhost : IsHostText url.host)
    (hpath : ∀ c, path.head? = some c → isSlash .web c = true) :
    (withAuthority scheme reference (url.authority ++ path)).map
        (fun parsed => (parsed.scheme, parsed.host?)) =
      (Host.parse url.host).map fun host => (scheme, some host) := by
  have hspan : (url.authority ++ path).span (! isSlash .web ·) = (url.authority, path) := by
    apply span_append
    · intro c hc
      rw [not_isSlash (WrittenUrl.authority_characters hweb hhost c hc)]
      rfl
    · intro c hc
      rw [hpath c hc]
      rfl
  obtain ⟨hcut, hlast⟩ := WrittenUrl.cutLast_authority hweb hhost
  obtain ⟨port, hread⟩ := readHostAndPort_written hkind hweb hhost
  unfold withAuthority
  rw [hkind]
  dsimp only
  rw [hspan]
  dsimp only
  rw [hcut]
  dsimp only
  rw [hlast, Bool.false_and, Bool.false_and, if_neg Bool.false_ne_true, hread]
  cases Host.parse url.host with
  | error cause => rfl
  | ok host => rfl

/-! ## The whole text -/

/-- A query and a fragment follow the authority and the path. -/
theorem exists_path {url : WrittenUrl} (hweb : url.IsWeb) (hhost : IsHostText url.host) :
    ∃ path, (Reference.of (url.slashes ++ (url.authority ++ url.tail))).body =
        url.slashes ++ (url.authority ++ path) ∧
      ∀ c, path.head? = some c → isSlash .web c = true := by
  have hplain : ∀ c ∈ url.slashes ++ url.authority, c ≠ '#' ∧ c ≠ '?' := by
    rw [List.forall_mem_append]
    constructor
    · intro c hc
      rcases hweb.slashes c hc with rfl | rfl <;> decide
    · intro c hc
      have hends := WrittenUrl.authority_characters hweb hhost c hc
      constructor
      · rintro rfl
        contradiction
      · rintro rfl
        contradiction
  refine ⟨(url.tail.takeWhile (· != '#')).takeWhile (· != '?'), ?_, ?_⟩
  · rw [Reference.of, ← List.append_assoc,
      cut_append_of_not_mem _ fun hmem => (hplain '#' hmem).1 rfl]
    dsimp only
    rw [cut_append_of_not_mem _ fun hmem => (hplain '?' hmem).2 rfl]
    dsimp only
    rw [cut_fst, cut_fst, List.append_assoc]
  · intro c hc
    cases htail : url.tail with
    | nil => simp [htail] at hc
    | cons d tail =>
      have hends := hweb.tail d (by rw [htail]; rfl)
      simp only [endsAuthority, Bool.or_eq_true, beq_iff_eq] at hends
      rw [htail] at hc
      rcases hends with ((rfl | rfl) | rfl) | rfl
      · exact Option.some.inj hc ▸ rfl
      · exact Option.some.inj hc ▸ rfl
      · contradiction
      · contradiction

theorem map_scheme {url : WrittenUrl} (hweb : url.IsWeb) :
    url.scheme.map Char.toLower = "http".toList ∨ url.scheme.map Char.toLower = "https".toList := by
  have hscheme := hweb.scheme
  rwa [lower_ofList, ← String.toList_inj, ← String.toList_inj, String.toList_ofList] at hscheme

theorem scheme?_written {url : WrittenUrl} (hweb : url.IsWeb) (rest : List Char) :
    scheme? (url.scheme ++ ':' :: rest) = some (lower (String.ofList url.scheme), rest) := by
  have hletters : ∀ c ∈ url.scheme, c.isAlpha = true := by
    intro c hc
    have hmem := List.mem_map_of_mem (f := Char.toLower) hc
    rw [← Char.isAlpha_toLower_eq_isAlpha]
    rcases map_scheme hweb with hscheme | hscheme
    · exact (by simp : ∀ d ∈ "http".toList, d.isAlpha = true) _ (hscheme ▸ hmem)
    · exact (by simp : ∀ d ∈ "https".toList, d.isAlpha = true) _ (hscheme ▸ hmem)
  rw [lower_ofList]
  cases hname : url.scheme with
  | nil =>
    rcases map_scheme hweb with hscheme | hscheme
    · simp [hname] at hscheme
    · simp [hname] at hscheme
  | cons first name =>
    rw [hname, List.forall_mem_cons] at hletters
    exact scheme?_append rest hletters.1 fun c hc => isSchemeCharacter_of_isAlpha (hletters.2 c hc)

/-- Nothing but the text of the host decides whether a text that is written like a URL of the web
is one, and which host it has. -/
theorem parse_written {url : WrittenUrl} {text : String} (htext : clean text.toList = url.text)
    (hweb : url.IsWeb) (hhost : IsHostText url.host) :
    (parse text).map (fun parsed => (parsed.scheme, parsed.host?)) =
      (Host.parse url.host).map fun host => (lower (String.ofList url.scheme), some host) := by
  have hkind := SchemeKind.of_web hweb.scheme
  have hscheme : scheme? (clean text.toList) = some (lower (String.ofList url.scheme),
      url.slashes ++ (url.authority ++ url.tail)) := by
    rw [htext]
    exact scheme?_written hweb _
  obtain ⟨path, hbody, hpath⟩ := exists_path hweb hhost
  have hslashes : ∀ c ∈ url.slashes, isSlash .web c = true := by
    intro c hc
    rcases hweb.slashes c hc with rfl | rfl
    · rfl
    · rfl
  have hstops : ∀ c, (url.authority ++ path).head? = some c → isSlash .web c = false := by
    intro c hc
    have hmem : c ∈ url.authority := by
      rw [List.head?_append_of_ne_nil _ (WrittenUrl.authority_ne_nil hhost)] at hc
      exact List.mem_of_head? hc
    exact not_isSlash (WrittenUrl.authority_characters hweb hhost c hmem)
  have hspan := span_append hslashes hstops
  rw [List.span_eq_takeWhile_dropWhile, Prod.mk.injEq] at hspan
  rw [parse, read_of_scheme hscheme, readAfterScheme, hkind]
  dsimp only
  rw [hbody, hspan.1, List.drop_left]
  exact withAuthority_written hkind hweb hhost hpath

end Url

end GadgetGuard
