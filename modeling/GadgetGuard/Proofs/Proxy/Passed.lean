import GadgetGuard.Proofs.Proxy.MediaType
import GadgetGuard.Server.Startup
/-!
# The header fields of an answer

An answer passes on the header fields of the response that was fetched for it, except for those
whose names are excluded and for the few that the handler writes itself.  What an answer says
about its lifetime follows from the request, the settings and the time, whatever the response
says about its own.
-/

namespace GadgetGuard

open GadgetGuard.Text

/-- The names of header fields that a proxy with these settings is told not to pass on: either
those of the settings, which are given in lower case, or those of a configuration that the
settings are read from, in any case. -/
inductive ProxySettings.Excludes (settings : ProxySettings) : List String → Prop
  | stated (hlower : ∀ name ∈ settings.disallowed, lower name = name) :
    Excludes settings settings.disallowed
  | configured {config : Config} (hsettings : config.proxySettings.value = settings) :
    Excludes settings config.proxy.disallowed

theorem any_equalIgnoringCase (names : List String) (name : String) :
    (names.any fun excluded => equalIgnoringCase excluded name) =
      (names.map lower).contains (lower name) := by
  induction names with
  | nil => rfl
  | cons excluded names ih =>
    rw [List.any_cons, List.map_cons, List.contains_cons, ih, equalIgnoringCase,
      Bool.beq_comm]

/-- Fields arrive under names in lower case, so exclusion ignores the case. -/
theorem ProxySettings.Excludes.contains_lower {settings : ProxySettings} {excluded : List String}
    (hexcludes : settings.Excludes excluded) (name : String) :
    settings.disallowed.contains (lower name) =
      excluded.any fun other => equalIgnoringCase other name := by
  rw [any_equalIgnoringCase]
  cases hexcludes with
  | stated hlower => rw [List.map_congr_left hlower, List.map_id']
  | @configured config hsettings =>
    rw [← hsettings, Config.proxySettings, Traced.value_bind]
    rfl

namespace ProxyHandler

variable {handler : ProxyHandler} {settings : ProxySettings} {first : ResourceRequest}
variable {response other : Response} {lifetime : Nat} {now : Int}

/-- The fields that state a lifetime. -/
def lifetimeFields : List String :=
  ["cache-control", "expires", "pragma"]

/-- The fields that the handler writes, or may write, itself. -/
def ownFields : List String :=
  ["content-type", "content-disposition", "x-content-type-options"] ++ lifetimeFields

theorem isLifetimeField_iff {name : String} :
    isLifetimeField name = true ↔ name ∈ lifetimeFields := by
  simp [isLifetimeField, lifetimeFields, or_assoc]

/-- What a response says about its own lifetime is never passed on. -/
theorem getAll_lifetime_projectHeaders {name : String} {headers projected : Headers}
    (hname : name ∈ lifetimeFields) :
    (projectHeaders settings projected headers).getAll name = headers.getAll name := by
  have hdropped : ∀ field : String × Bytes, (field.1 == name &&
      (!isLifetimeField field.1 && !settings.disallowed.contains field.1)) = false := by
    intro field
    by_cases hfield : field.1 = name
    · rw [hfield, isLifetimeField_iff.2 hname, Bool.not_true, Bool.false_and, Bool.and_false]
    · rw [beq_eq_false_iff_ne.2 hfield, Bool.false_and]
  rw [projectHeaders, Headers.getAll, Headers.getAll, List.filter_append, List.map_append,
    List.filter_filter, List.filter_congr fun field _ => hdropped field, List.filter_false,
    List.map_nil, List.append_nil]

theorem getAll_lifetime_of_present {name : String} (hname : name ∈ lifetimeFields)
    (hpresent : present settings first lifetime now response = .ok other) :
    other.headers.getAll name = (Headers.empty.withLifetime lifetime now).getAll name := by
  obtain ⟨headers, htyped, hother⟩ := Except.bind_eq_ok_iff.1 hpresent
  obtain rfl := Except.ok.inj hother
  have hwritten : ∀ own ∈ ["content-type", "content-disposition", "x-content-type-options"],
      own ≠ name := by
    rintro own hown rfl
    revert own
    decide
  dsimp only
  rw [Headers.getAll_insert_of_ne (hwritten _ (by simp)),
    Headers.getAll_insert_of_ne (hwritten _ (by simp)),
    getAll_withRequiredType (hwritten _ (by simp)) htyped, getAll_lifetime_projectHeaders hname]

/-- A browser is always told to store the answer instead of showing it. -/
theorem getAll_disposition_of_present
    (hpresent : present settings first lifetime now response = .ok other) :
    other.headers.getAll "content-disposition" =
      [Header.asciiValue "attachment;filename=p.txt"] := by
  obtain ⟨headers, _, hother⟩ := Except.bind_eq_ok_iff.1 hpresent
  obtain rfl := Except.ok.inj hother
  dsimp only
  rw [Headers.getAll_insert_of_ne (by decide), Headers.getAll_insert_self]

/-- Of the fields that the handler does not write itself, an answer with a resource has exactly the
values of the response that the guard let pass, in their order, unless their name is excluded.  How
to store the answer and that its type must not be guessed is said in one value each.  The lifetime
is the one that the query and the settings give, stated for the time of the request. -/
theorem fetch_passes_fields (handler : ProxyHandler) (excluded : List String)
    (hexcludes : handler.settings.Excludes excluded) (earlier : List ResourceRequest) (now : Int)
    (request : ProxyRequest)
    (hconditional : request.headers.contains "if-modified-since" = false) (response : Response)
    (hresult : (handler.fetch earlier now request).value.result = .ok response) :
    let answer := (handler.fetch earlier now request).value
    let fetched := (handler.pipeline (earlier ++ answer.requests)).value
    ∃ first sanitized, answer.requests.head? = some first ∧
      (handler.guarded first fetched).value = .ok sanitized ∧
      ((∀ guard, handler.responseGuard = some guard → guard.KeepsHeaders) →
        sanitized.headers = fetched.headers) ∧
      (∀ name, lower name ∉ ownFields → response.headers.getAll (lower name) =
        if excluded.any (fun other => equalIgnoringCase other name) then []
        else sanitized.headers.getAll (lower name)) ∧
      response.headers.getAll "content-disposition" =
        [Header.asciiValue "attachment;filename=p.txt"] ∧
      response.headers.getAll "x-content-type-options" = [Header.asciiValue "nosniff"] ∧
      ∃ directives lifetime,
        Directives.ofQuery request.query handler.settings.version = .ok directives ∧
        directives.lifetime handler.settings.longLifetime handler.settings.usualLifetime =
          .ok lifetime ∧
        ∀ name ∈ lifetimeFields, response.headers.getAll name =
          (Headers.empty.withLifetime lifetime now).getAll name := by
  intro answer fetched
  obtain ⟨directives, first, lifetime, sanitized, hdirectives, hlifetime, -, hhead, hguarded,
    hpresent⟩ := fetch_presents hconditional hresult
  refine ⟨first, sanitized, hhead, hguarded, fun hkeeps => headers_of_guarded hkeeps hguarded, ?_,
    getAll_disposition_of_present hpresent, getAll_nosniff_of_present hpresent, directives,
    lifetime, hdirectives, hlifetime, fun name hname => getAll_lifetime_of_present hname hpresent⟩
  intro name hname
  rw [ownFields, List.mem_append, not_or, ← isLifetimeField_iff, Bool.not_eq_true] at hname
  rw [getAll_eq_of_present hname.2 hname.1 hpresent, hexcludes.contains_lower]

/-- A handler with configured settings whose resources state notes, a secret and a lifetime. -/
def configured (config : Config) : ProxyHandler :=
  { settings := config.proxySettings.value
    lockedDomain := .disabled
    responseGuard := some (.sanitizing Style.conservative {})
    pipeline := fun _ => pure
      { status := 200
        headers := ⟨[("x-note", [0x61]), ("x-secret", [0x62]), ("cache-control", [0x63]),
          ("x-note", [0x64])]⟩ } }

/-- A request for some text that must not be kept. -/
def freshRequest : ProxyRequest :=
  ⟨Headers.empty, ⟨[("url", "https://[2606:4700::1111]/a.txt"), ("refresh", "0")]⟩⟩

theorem lifetime_freshRequest {directives : Directives} {version : Option String}
    {long usual : Nat}
    (hdirectives : Directives.ofQuery freshRequest.query version = .ok directives)
    (hlifetime : directives.lifetime long usual = .ok lifetime) : lifetime = 0 := by
  obtain ⟨text, -, -, -, hrefresh⟩ := exists_of_ofQuery hdirectives
  have hasked : directives.refresh = some "0" := hrefresh
  rw [Directives.lifetime, hasked] at hlifetime
  dsimp only at hlifetime
  have hread : natural? maxNatural (trimBlanks "0".toList) = some 0 := by decide +kernel
  rw [hread] at hlifetime
  exact (Except.ok.inj hlifetime).symm

/-- A configured name is excluded in any case, and what the resource says about its lifetime gives
way to what the request asks for. -/
theorem fetch_passes_fields_configured :
    let config : Config := { proxy := { disallowed := ["X-Secret"] } }
    (configured config).settings.Excludes ["X-Secret"] ∧
      freshRequest.headers.contains "if-modified-since" = false ∧
      ∃ response, ((configured config).fetch [] 0 freshRequest).value.result = .ok response ∧
        response.headers.getAll (lower "X-Note") = [[0x61], [0x64]] ∧
        response.headers.getAll (lower "x-secret") = [] ∧
        response.headers.getAll "cache-control" = [Header.asciiValue "no-cache"] := by
  intro config
  have hexcludes : (configured config).settings.Excludes ["X-Secret"] :=
    @ProxySettings.Excludes.configured _ config rfl
  obtain ⟨response, hresult, -⟩ : ∃ response,
      ((configured config).fetch [] 0 freshRequest).value.result = .ok response ∧
        response.status = 200 :=
    Except.exists_of_toOption_map (by decide +kernel)
  obtain ⟨first, sanitized, -, -, hkeeps, hpassed, -, -, directives, lifetime, hdirectives,
    hlifetime, hstated⟩ :=
    fetch_passes_fields (configured config) _ hexcludes [] 0 freshRequest rfl response hresult
  have hguard : ∀ guard, (configured config).responseGuard = some guard → guard.KeepsHeaders := by
    intro guard hguard
    rw [← Option.some.inj hguard]
    exact ResponseGuard.keepsHeaders_sanitizing _ _
  have hfetched : ∀ calls, ((configured config).pipeline calls).value.headers =
      ⟨[("x-note", [0x61]), ("x-secret", [0x62]), ("cache-control", [0x63]),
        ("x-note", [0x64])]⟩ := fun _ => rfl
  have hheaders := (hkeeps hguard).trans (hfetched _)
  obtain rfl := lifetime_freshRequest hdirectives hlifetime
  refine ⟨hexcludes, rfl, response, hresult, ?_, ?_, ?_⟩
  · rw [hpassed "X-Note" (by decide +kernel), hheaders]
    decide +kernel
  · have hfolded : lower "X-Secret" = lower "x-secret" :=
      (by decide +kernel : lower "X-Secret" = "x-secret").trans (by decide +kernel)
    rw [hpassed "x-secret" (by decide +kernel), List.any_cons, equalIgnoringCase, hfolded,
      beq_self_eq_true, Bool.true_or, if_pos rfl]
  · rw [hstated _ (by decide), Headers.withLifetime, Headers.withLifetimeFrom, if_pos rfl,
      Headers.getAll_insert_of_ne (by decide), Headers.getAll_insert_of_ne (by decide),
      Headers.getAll_insert_self]

end ProxyHandler

end GadgetGuard
