import GadgetGuard.Proofs.Proxy.Presented
import GadgetGuard.Proofs.Text.Utf8
/-!
# What sanitizing discloses of a body

A client that asks for a sanitized resource gets nothing, a recognised image as it was fetched,
or what the stylesheet sanitizer made of the text that was fetched.  No other byte of any body
that was fetched has an effect on the answer.
-/

namespace GadgetGuard

open GadgetGuard.Text

namespace ResponseGuard

variable {styles : StyleSanitizer} {links : Link.Settings} {request : ResourceRequest}
variable {response : Response} {body cleaned : Bytes}

/-- What becomes of the body of a resource that has to be sanitized. -/
def sanitizedBody (styles : StyleSanitizer) (links : Link.Settings) (request : ResourceRequest)
    (body : Bytes) : Except GuardError Bytes :=
  let mime := lower (request.requiredMime.getD "")
  if hasBeginning "text/css" mime then (sanitizeStylesheet styles links request body).value
  else if hasBeginning "image/" mime && (imageType? body).isSome then .ok body
  else .ok []

/-- The guard changes the body and nothing else. -/
theorem sanitizing_value (hsanitize : request.sanitize = true) :
    (sanitizing styles links request response).value =
      (sanitizedBody styles links request response.body).map fun body =>
        { response with body } := by
  unfold sanitizing sanitizedBody
  dsimp only
  rw [hsanitize]
  simp only [Bool.not_true, Bool.false_eq_true, if_false]
  cases hasBeginning "text/css" (lower (request.requiredMime.getD "")) with
  | true =>
    simp only [if_true, Traced.value_bind]
    cases (sanitizeStylesheet styles links request response.body).value with
    | error cause => rfl
    | ok body => rfl
  | false =>
    cases hasBeginning "image/" (lower (request.requiredMime.getD "")) with
    | false => rfl
    | true =>
      cases (imageType? response.body).isSome with
      | true => rfl
      | false => rfl

theorem sanitizedBody_of_sanitizing {sanitized : Response} (hsanitize : request.sanitize = true)
    (hvalue : (sanitizing styles links request response).value = .ok sanitized) :
    sanitizedBody styles links request response.body = .ok sanitized.body := by
  rw [sanitizing_value hsanitize] at hvalue
  cases hbody : sanitizedBody styles links request response.body with
  | error cause =>
    rw [hbody] at hvalue
    contradiction
  | ok body =>
    rw [hbody] at hvalue
    rw [← Except.ok.inj hvalue]

/-- Responses with the same status and header fields are sanitized to the same response if their
bodies are. -/
theorem sanitizing_congr {other : Response} (hsanitize : request.sanitize = true)
    (hstatus : response.status = other.status) (hheaders : response.headers = other.headers)
    (hbody : sanitizedBody styles links request response.body =
      sanitizedBody styles links request other.body) :
    (sanitizing styles links request response).value =
      (sanitizing styles links request other).value := by
  rw [sanitizing_value hsanitize, sanitizing_value hsanitize, hbody, hstatus, hheaders]

/-- A stylesheet is sanitized only if it is text, and then as the sanitizer says. -/
theorem sanitizeStylesheet_eq_ok
    (hclean : (sanitizeStylesheet styles links request body).value = .ok cleaned) :
    ∃ css output, body = encodeUtf8 css.toList ∧
      (styles css request.url (Link.forStylesheets (linkOrigin links request))).value =
        .clean output ∧
      cleaned = encodeUtf8 output.toList := by
  unfold sanitizeStylesheet at hclean
  cases hdecode : decodeUtf8? body with
  | none =>
    rw [hdecode] at hclean
    contradiction
  | some css =>
    rw [hdecode] at hclean
    refine ⟨String.ofList css, ?_⟩
    rw [String.toList_ofList]
    dsimp only at hclean
    rw [Traced.value_bind] at hclean
    cases houtcome : (styles (String.ofList css) request.url
        (Link.forStylesheets (linkOrigin links request))).value with
    | clean output =>
      rw [houtcome] at hclean
      exact ⟨output, decodeUtf8?_eq_some_iff.1 hdecode, rfl, (Except.ok.inj hclean).symm⟩
    | rejected reason =>
      rw [houtcome] at hclean
      contradiction
    | crashed =>
      rw [houtcome] at hclean
      contradiction

/-- Nothing of a body is kept unless it is an image or the text of a stylesheet. -/
theorem sanitizedBody_eq_ok (hkept : sanitizedBody styles links request body = .ok cleaned) :
    let mime := lower (request.requiredMime.getD "")
    cleaned = [] ∨
    (hasBeginning "image/" mime = true ∧ (imageType? cleaned).isSome = true ∧ cleaned = body) ∨
    (hasBeginning "text/css" mime = true ∧ ∃ css output, body = encodeUtf8 css.toList ∧
      (styles css request.url (Link.forStylesheets (linkOrigin links request))).value =
        .clean output ∧
      cleaned = encodeUtf8 output.toList) := by
  intro mime
  unfold sanitizedBody at hkept
  dsimp only at hkept
  split at hkept
  next hstyle => exact .inr (.inr ⟨hstyle, sanitizeStylesheet_eq_ok hkept⟩)
  · split at hkept
    next himage =>
      obtain rfl := Except.ok.inj hkept
      rw [Bool.and_eq_true] at himage
      exact .inr (.inl ⟨himage.1, himage.2, rfl⟩)
    · exact .inl (Except.ok.inj hkept).symm

end ResponseGuard

open ResponseGuard in
/-- A client that asks for a sanitized resource gets no body, or an image as it was fetched, or
the output of the stylesheet sanitizer on the text that was fetched.  Two pipelines whose
responses have the same status and the same header fields give it the same answer if the last
bodies have the same sanitized form. -/
theorem ProxyHandler.fetch_discloses (handler : ProxyHandler) (styles : StyleSanitizer)
    (links : Link.Settings) (hguard : handler.responseGuard = some (.sanitizing styles links))
    (earlier : List ResourceRequest) (now : Int) (request : ProxyRequest)
    (hconditional : request.headers.contains "if-modified-since" = false)
    (hsanitize : request.query.get? Parameter.sanitize = some "1") :
    let answer := (handler.fetch earlier now request).value
    let fetched := (handler.pipeline (earlier ++ answer.requests)).value
    let mime := lower ((request.query.get? Parameter.requiredMime).getD "")
    (∀ response, answer.result = .ok response →
      response.body = [] ∨
      (hasBeginning "image/" mime = true ∧ (imageType? response.body).isSome = true ∧
        response.body = fetched.body) ∨
      (hasBeginning "text/css" mime = true ∧ ∃ first css output,
        answer.requests.head? = some first ∧ fetched.body = encodeUtf8 css.toList ∧
        (styles css first.url (Link.forStylesheets (linkOrigin links first))).value =
          .clean output ∧
        response.body = encodeUtf8 output.toList)) ∧
    ∀ pipeline : Pipeline,
      (∀ calls, (pipeline calls).value.status = (handler.pipeline calls).value.status ∧
        (pipeline calls).value.headers = (handler.pipeline calls).value.headers) →
      (∀ first, answer.requests.head? = some first →
        sanitizedBody styles links first (pipeline (earlier ++ answer.requests)).value.body =
          sanitizedBody styles links first fetched.body) →
      ({ handler with pipeline }.fetch earlier now request).value = answer := by
  intro answer fetched mime
  constructor
  · intro response hresult
    obtain ⟨first, lifetime, sanitized, hhead, hmime, hfirst, hguarded, hpresent⟩ :=
      fetch_eq_ok hconditional hresult
    rw [hsanitize, beq_self_eq_true] at hfirst
    have hkept := sanitizedBody_of_sanitizing hfirst (guard_eq_ok_of_guarded hguard hguarded)
    have hcases := sanitizedBody_eq_ok hkept
    rw [body_of_present hpresent]
    rw [hmime] at hcases
    rcases hcases with hempty | himage | ⟨hstyle, css, output, htext, houtput, hwritten⟩
    · exact .inl hempty
    · exact .inr (.inl himage)
    · exact .inr (.inr ⟨hstyle, first, css, output, hhead, htext, houtput, hwritten⟩)
  · intro pipeline hsame hbody
    apply fetch_congr_of_guarded hconditional fun calls => (hsame calls).1
    intro requests first hhead hfirst
    rw [hsanitize, beq_self_eq_true] at hfirst
    obtain ⟨hstatus, hheaders⟩ := hsame (earlier ++ requests)
    rw [guarded_value hguard, guarded_value hguard,
      sanitizing_congr hfirst hstatus hheaders (hbody first hhead)]

theorem ProxyHandler.fetch_discloses_fallback :
    let handler : ProxyHandler :=
      { settings := {}
        lockedDomain := .disabled
        responseGuard := some (.sanitizing Style.conservative {})
        pipeline := fun calls => pure
          (if calls.length = 1 then { status := 404, body := asciiBytes "<script>" }
            else { status := 200, body := asciiBytes "GIF89a" }) }
    let request : ProxyRequest :=
      ⟨Headers.empty, ⟨[("url", "https://[2606:4700::1111]/a.gif"),
        ("fallback_url", "https://[2606:4700::1111]/b.gif"), ("sanitize", "1"),
        ("rewriteMime", "Image/*")]⟩⟩
    let answer := (handler.fetch [] 0 request).value
    ∃ response, answer.result = .ok response ∧ response.body = asciiBytes "GIF89a" ∧
      response.body = (handler.pipeline answer.requests).value.body := by
  intro handler request answer
  obtain ⟨response, hresult, hbody⟩ : ∃ response, answer.result = .ok response ∧
      response.body = asciiBytes "GIF89a" :=
    Except.exists_of_toOption_map (by decide +kernel)
  have hcases := (handler.fetch_discloses Style.conservative {} rfl [] 0 request rfl rfl).1
    response hresult
  refine ⟨response, hresult, hbody, ?_⟩
  rcases hcases with hempty | ⟨-, -, hfetched⟩ | ⟨hstyle, -⟩
  · rw [hbody] at hempty
    exact absurd hempty (by decide +kernel)
  · exact hfetched
  · exact absurd hstyle (by decide +kernel)

end GadgetGuard
