import GadgetGuard.Proofs.Encoding.Form
import GadgetGuard.Proofs.Http.Header
import GadgetGuard.Proofs.Proxy.Presented
import GadgetGuard.Server.Site
/-!
# Who decides about the security fields

An answer of the site has every security field.  That a browser must not guess types is always
said by the site.  The other fields have the values of the site only as long as the resource has
none under their names: a resource that states a policy of its own replaces that of the site.
-/

namespace GadgetGuard

open GadgetGuard.Text

theorem SecurityHeaders.default_fields :
    default.fields = [("content-security-policy", Header.asciiValue defaultContentPolicy),
      ("x-content-type-options", Header.asciiValue "nosniff"),
      ("x-frame-options", Header.asciiValue "DENY"),
      ("referrer-policy", Header.asciiValue "no-referrer")] := by
  decide +kernel

theorem SecurityHeaders.nodup_default_fields : (default.fields.map Prod.fst).Nodup := by
  rw [default_fields]
  decide

namespace Site

variable {site : Site} {earlier : List ResourceRequest} {now : Int} {request : SiteRequest}
variable {name : String} {value : Bytes}

/-- What the proxy endpoint is asked by a request to the site. -/
def fetched (site : Site) (earlier : List ResourceRequest) (now : Int) (request : SiteRequest) :
    ProxyAnswer :=
  (site.handler.fetch earlier now (ProxyRequest.of request.headers request.target.query)).value

/-- A read of the proxy endpoint is answered by it. -/
theorem route_of_read (hmethod : request.method = "GET") (hpath : request.target.path = proxyPath) :
    site.route earlier now request = site.proxy earlier now request := by
  rw [route, hmethod, hpath]
  rfl

/-- An answer of the proxy endpoint has the header fields of what was fetched, and a refusal has
none but the type of its own body. -/
theorem getAll_proxy (hname : "content-type" ≠ name) :
    (site.proxy earlier now request).value.response.headers.getAll name =
      match (site.fetched earlier now request).result with
      | .ok response => response.headers.getAll name
      | .error _ => [] := by
  rw [proxy, Traced.value_bind, ← fetched]
  cases (site.fetched earlier now request).result with
  | ok response => rfl
  | error cause =>
    have hrefusal : (refusal cause).value.headers.getAll name =
        (Headers.empty.append "content-type" (Header.asciiValue "application/json")).getAll name :=
      rfl
    exact hrefusal.trans (Headers.getAll_append_of_ne hname)

theorem requests_proxy :
    (site.proxy earlier now request).value.requests =
      (site.fetched earlier now request).requests := by
  rw [proxy, Traced.value_bind, ← fetched]
  cases (site.fetched earlier now request).result with
  | ok response => rfl
  | error cause => rfl

theorem requests_answer (hmethod : request.method = "GET")
    (hpath : request.target.path = proxyPath) :
    (site.answer earlier now request).value.requests =
      (site.fetched earlier now request).requests := by
  rw [← requests_proxy, ← route_of_read hmethod hpath]
  rfl

/-- Where the answer to a read of the proxy endpoint has the values of a security field from. -/
theorem getAll_answer {fields : List (String × Bytes)} (hsecurity : site.security = some ⟨fields⟩)
    (hnodup : (fields.map Prod.fst).Nodup) (hfield : (name, value) ∈ fields)
    (htype : "content-type" ≠ name) (hlength : "content-length" ≠ name)
    (hmethod : request.method = "GET") (hpath : request.target.path = proxyPath) :
    (site.answer earlier now request).value.response.headers.getAll name =
      match (site.fetched earlier now request).result with
      | .ok response =>
        if response.headers.getAll name = [] then [value] else response.headers.getAll name
      | .error _ => [value] := by
  have hrouted : (site.proxy earlier now request).value.response.headers.getAll name = _ :=
    getAll_proxy htype
  rw [answer, Traced.value_bind, hsecurity, route_of_read hmethod hpath]
  dsimp only [Traced.value_pure, framed]
  rw [SecurityHeaders.getAll_apply hnodup hfield, Headers.getAll_insertIfNew_of_ne hlength, hrouted]
  cases (site.fetched earlier now request).result with
  | ok response => rfl
  | error cause => rfl

/-- The site never leaves a security field out, and the handler passes on what a resource says
under each of their names but one, which it always writes itself. -/
theorem of_mem_default_fields (hfield : (name, value) ∈ SecurityHeaders.default.fields) :
    "content-type" ≠ name ∧ "content-length" ≠ name ∧
      ((name = "x-content-type-options" ∧ value = Header.asciiValue "nosniff") ∨
        ProxyHandler.isLifetimeField name = false ∧
          ({} : ProxySettings).disallowed.contains name = false ∧
          name ∉ ["content-type", "content-disposition", "x-content-type-options"]) := by
  rw [SecurityHeaders.default_fields] at hfield
  simp only [List.mem_cons, Prod.mk.injEq, List.not_mem_nil, or_false] at hfield
  rcases hfield with ⟨rfl, -⟩ | ⟨rfl, rfl⟩ | ⟨rfl, -⟩ | ⟨rfl, -⟩
  · exact ⟨by decide, by decide, .inr ⟨by decide, by decide, by decide⟩⟩
  · exact ⟨by decide, by decide, .inl ⟨rfl, rfl⟩⟩
  · exact ⟨by decide, by decide, .inr ⟨by decide, by decide, by decide⟩⟩
  · exact ⟨by decide, by decide, .inr ⟨by decide, by decide, by decide⟩⟩

/-- Every answer to a read of the proxy endpoint has the security fields.  That types must not be
guessed is said in the one value of the site.  Any other field has the one value of the site, or
else the values that the resource gives it. -/
theorem answer_has_security_fields (site : Site) (hsecurity : site.security = some .default)
    (hdisallowed : site.handler.settings.disallowed = ({} : ProxySettings).disallowed)
    (earlier : List ResourceRequest) (now : Int) (request : SiteRequest)
    (hmethod : request.method = "GET") (hpath : request.target.path = proxyPath) :
    let answer := (site.answer earlier now request).value
    ∀ name value, (name, value) ∈ SecurityHeaders.default.fields →
      answer.response.headers.getAll name = [value] ∨
      name ≠ "x-content-type-options" ∧ ∃ first sanitized,
        answer.requests.head? = some first ∧
        (site.handler.guarded first
          (site.handler.pipeline (earlier ++ answer.requests)).value).value = .ok sanitized ∧
        sanitized.headers.getAll name ≠ [] ∧
        answer.response.headers.getAll name = sanitized.headers.getAll name := by
  intro answer name value hfield
  obtain ⟨htype, hlength, hpassed⟩ := of_mem_default_fields hfield
  have hvalues : answer.response.headers.getAll name = _ :=
    getAll_answer hsecurity SecurityHeaders.nodup_default_fields hfield htype hlength hmethod hpath
  have hrequests : answer.requests = _ := requests_answer hmethod hpath
  cases hresult : (site.fetched earlier now request).result with
  | error cause =>
    rw [hresult] at hvalues
    exact .inl hvalues
  | ok response =>
    rw [hresult] at hvalues
    dsimp only at hvalues
    by_cases hnone : response.headers.getAll name = []
    · rw [if_pos hnone] at hvalues
      exact .inl hvalues
    rw [if_neg hnone] at hvalues
    rcases ProxyHandler.fetch_headers hresult with hempty |
        ⟨first, lifetime, sanitized, hhead, hguarded, hpresent⟩
    · rw [hempty] at hnone
      exact absurd rfl hnone
    rcases hpassed with ⟨rfl, rfl⟩ | ⟨hlifetime, hallowed, hwritten⟩
    · exact .inl (hvalues.trans (ProxyHandler.getAll_nosniff_of_present hpresent))
    · rw [← hdisallowed] at hallowed
      have hown := ProxyHandler.getAll_of_present hlifetime hallowed hwritten hpresent
      rw [hrequests]
      refine .inr ⟨?_, first, sanitized, hhead, hguarded, hown ▸ hnone, hvalues.trans hown⟩
      rintro rfl
      exact hwritten (by decide)

/-- A site with the usual settings for which every resource has the same header fields. -/
def serving (fields : List (String × Bytes)) : Site :=
  { handler :=
      { settings := {}
        lockedDomain := .disabled
        responseGuard := none
        pipeline := fun _ => pure { status := 200, headers := ⟨fields⟩ } }
    security := some .default
    startTime := 0 }

/-- A read of the proxy endpoint. -/
def reading (query : String) : SiteRequest :=
  { method := "GET"
    target := { path := proxyPath, query := some query }
    headers := Headers.empty }

theorem answer_has_security_fields_nosniff :
    ((serving [("x-content-type-options", Header.asciiValue "sniff")]).answer [] 0
        (reading "url=https://[2606:4700::1111]/a.html")).value.response.headers.getAll
      "x-content-type-options" = [Header.asciiValue "nosniff"] := by
  have hfield : ("x-content-type-options", Header.asciiValue "nosniff") ∈
      SecurityHeaders.default.fields := by
    rw [SecurityHeaders.default_fields]
    decide
  rcases answer_has_security_fields (serving _) rfl rfl [] 0 (reading _) rfl rfl _ _ hfield with
    hown | ⟨hne, -⟩
  · exact hown
  · exact absurd rfl hne

/-- A resource replaces the content policy of the site by its own. -/
theorem answer_yields_to_resource :
    ((serving [("content-security-policy", Header.asciiValue "default-src *")]).answer [] 0
        (reading "url=https://[2606:4700::1111]/a.html")).value.response.headers.getAll
      "content-security-policy" = [Header.asciiValue "default-src *"] ∧
    ("content-security-policy", Header.asciiValue "default-src *") ∉
      SecurityHeaders.default.fields := by
  have hquery : ProxyRequest.of Headers.empty (some "url=https://[2606:4700::1111]/a.html") =
      ⟨Headers.empty, ⟨[("url", "https://[2606:4700::1111]/a.html")]⟩⟩ := by
    have hpairs : Encoding.formPairs ("url" ++ "=" ++ "https://[2606:4700::1111]/a.html") =
        [("url", "https://[2606:4700::1111]/a.html")] := by
      rw [Encoding.formPairs_part (by simp) (by decide +kernel),
        Encoding.formDecode_of_plain (by decide) (by decide),
        Encoding.formDecode_of_plain (by decide +kernel) (by decide +kernel),
        String.ofList_toList, String.ofList_toList]
    exact congrArg (fun parameters => ProxyRequest.mk Headers.empty ⟨parameters⟩) hpairs
  obtain ⟨response, hresult, hown⟩ : ∃ response,
      ((serving [("content-security-policy", Header.asciiValue "default-src *")]).fetched [] 0
          (reading "url=https://[2606:4700::1111]/a.html")).result = .ok response ∧
        response.headers.getAll "content-security-policy" =
          [Header.asciiValue "default-src *"] := by
    dsimp only [fetched, reading]
    rw [hquery]
    exact Except.exists_of_toOption_map (by decide +kernel)
  have hfield : ("content-security-policy",
      Header.asciiValue SecurityHeaders.defaultContentPolicy) ∈ SecurityHeaders.default.fields := by
    rw [SecurityHeaders.default_fields]
    exact List.mem_cons_self
  constructor
  · rw [getAll_answer rfl SecurityHeaders.nodup_default_fields hfield (by decide) (by decide) rfl
      rfl, hresult]
    dsimp only
    rw [hown, if_neg (List.cons_ne_nil _ _)]
  · rw [SecurityHeaders.default_fields]
    decide +kernel

end Site

end GadgetGuard
