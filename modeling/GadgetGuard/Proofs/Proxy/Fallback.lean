import GadgetGuard.Proofs.Link.Decoded
import GadgetGuard.Proofs.Link.WellFormed
import GadgetGuard.Proofs.Proxy.Disclosed
import GadgetGuard.Proofs.Style.Stretch
import GadgetGuard.Proofs.Url.Scheme
/-!
# What the links of a fallback stylesheet mean

A stylesheet that takes the place of one that could not be fetched is sanitized for the request
that failed.  Its links are resolved against the URL of that request and not against the one that
it was found at, so a link means what it says only if it spells its own scheme and host.
-/

namespace GadgetGuard

open GadgetGuard.Text

/-! ## Links that mean the same everywhere -/

namespace Url

variable {base : Url} {scheme : String} {rest : List Char}

theorem body_of_slashes (rest : List Char) :
    ∃ tail, (Reference.of ('/' :: '/' :: rest)).body = '/' :: '/' :: tail := by
  refine ⟨(rest.takeWhile (· != '#')).takeWhile (· != '?'), ?_⟩
  rw [Reference.of]
  dsimp only
  rw [cut_fst, cut_fst]
  simp

/-- Against a URL of the web, two slashes behind a scheme are read as against none. -/
theorem readAfterScheme_of_slashes (hweb : SchemeKind.of base.scheme = .web) :
    readAfterScheme (some base) scheme ('/' :: '/' :: rest) =
      readAfterScheme none scheme ('/' :: '/' :: rest) := by
  obtain ⟨tail, hbody⟩ := body_of_slashes rest
  have hmany : 2 ≤ (('/' :: '/' :: tail).takeWhile (isSlash .web)).length :=
    two_le_slashes tail rfl rfl
  have hfile : (base.scheme == "file") = false := Bool.eq_false_iff.2 (ne_file_of_web hweb)
  unfold readAfterScheme
  dsimp only
  rw [hbody, Option.filter_some, Option.filter_some, hfile,
    decide_eq_false (Nat.not_lt.2 hmany), Bool.and_false]
  rfl

end Url

/-- Whether a link spells a scheme and, behind two slashes, a host. -/
def Link.IsAbsolute (link : List Char) : Prop :=
  ∃ scheme rest, Url.scheme? link = some (scheme, '/' :: '/' :: rest)

/-- A link with a scheme and a host means the same in all resources of the web. -/
theorem UriReference.resolve_of_isAbsolute {left right : Url} {link : List Char}
    {reference : UriReference} (hleft : SchemeKind.of left.scheme = .web)
    (hright : SchemeKind.of right.scheme = .web)
    (hparse : parse (String.ofList link) = .ok reference) (habsolute : Link.IsAbsolute link) :
    reference.resolve left = reference.resolve right := by
  obtain ⟨hraw, hlegal, -⟩ := parse_eq_ok hparse
  obtain ⟨scheme, rest, hscheme⟩ := habsolute
  have hclean : Url.clean (String.ofList link).toList = link := by
    rw [clean_eq_self hlegal, String.toList_ofList]
  have hread : ∀ base : Url, SchemeKind.of base.scheme = .web →
      base.join (String.ofList link) =
        Url.readAfterScheme none scheme ('/' :: '/' :: rest) := by
    intro base hbase
    rw [Url.join, Url.read_of_scheme (hclean.symm ▸ hscheme),
      Url.readAfterScheme_of_slashes hbase]
  rw [resolve, resolve, hraw, hread left hleft, hread right hright]

/-! ## The sanitized sheet -/

namespace ResponseGuard

variable {links : Link.Settings} {request : ResourceRequest}

/-- The text that a stylesheet has once it is sanitized for a request. -/
def sanitizedSheet (links : Link.Settings) (request : ResourceRequest) (css : String) :
    List Char :=
  Style.writtenPieces (Link.forStylesheets (linkOrigin links request)) request.url
    (Style.pieces (Style.removeDangers css.toList))

theorem sanitizing_of_stylesheet {response : Response} {css : String}
    (hsanitize : request.sanitize = true) (hmime : request.requiredMime = some "text/css")
    (hbody : response.body = encodeUtf8 css.toList) :
    (sanitizing Style.conservative links request response).value =
      .ok { response with body := encodeUtf8 (sanitizedSheet links request css) } := by
  have hstyle : hasBeginning "text/css" (lower "text/css") = true := by decide +kernel
  have hsheet : (sanitizeStylesheet Style.conservative links request response.body).value =
      .ok (encodeUtf8 (sanitizedSheet links request css)) := by
    rw [sanitizeStylesheet, decodeUtf8?_eq_some_iff.2 hbody]
    dsimp only
    rw [Traced.value_bind, String.ofList_toList, Style.conservative_value_pieces]
    dsimp only
    rw [String.toList_ofList]
    rfl
  rw [sanitizing_value hsanitize, sanitizedBody, hmime, Option.getD_some, if_pos hstyle, hsheet]
  rfl

/-- In a sheet that is sanitized for a request for a resource of the web, every well-formed link
is resolved against the URL of the request. -/
theorem link_of_sanitizedSheet (links : Link.Settings) {link : List Char} {reference : UriReference}
    (hread : request.url.IsRead) (hweb : SchemeKind.of request.url.scheme = .web)
    (hparse : UriReference.parse (String.ofList link) = .ok reference) :
    let origin := linkOrigin links request
    ∃ resource, reference.resolve request.url = .ok resource ∧
      (Style.Piece.reference link).written (Link.forStylesheets origin) request.url =
        (Style.referenceText (origin.sanitized Link.stylesheetMime resource)).toList ∧
      (origin.EndpointIsFree → ∀ headers, (ProxyRequest.of headers (Link.queryText?
        (origin.sanitized Link.stylesheetMime resource))).query.get? Parameter.url =
          some resource.toString) := by
  intro origin
  obtain ⟨resource, hresolve, hrouted⟩ :
      ∃ resource, reference.resolve request.url = .ok resource ∧
        (Link.sanitizing origin Link.stylesheetMime (String.ofList link) request.url).value =
          origin.sanitized Link.stylesheetMime resource :=
    Link.sanitizing_of_parse (hread.hasSite hweb) hweb hparse
  refine ⟨resource, hresolve, ?_, fun hfree headers => ?_⟩
  · rw [Style.Piece.written, Link.forStylesheets, hrouted]
  · obtain ⟨-, -, -, -, hurl, -, -⟩ :=
      Link.lookup_sanitizingDirectives origin Link.stylesheetMime resource
    have hwritten :=
      Link.get?_of_sanitized (by simp [Link.stylesheetMime]) hfree (.inl rfl) headers hurl
    rwa [String.append_empty] at hwritten

end ResponseGuard

namespace ProxyHandler

variable {handler : ProxyHandler} {settings : ProxySettings} {request : ProxyRequest}
variable {first : ResourceRequest} {earlier : List ResourceRequest} {now : Int}

theorem exists_present_of_stylesheet (settings : ProxySettings) (lifetime : Nat) (now : Int)
    (response : Response) (hmime : first.requiredMime = some "text/css") :
    ∃ other, present settings first lifetime now response = .ok other ∧
      other.body = response.body := by
  have htype : requiredType? "text/css" (response.contentType?.getD "") = some "text/css" := rfl
  have hvalue : Header.valueOfText? "text/css" = some (asciiBytes "text/css") := by
    decide +kernel
  have htyped : ∀ headers, withRequiredType first.requiredMime response headers =
      .ok (headers.insert "content-type" (asciiBytes "text/css")) := by
    intro headers
    have hgiven : (some "text/css").filter (! String.isEmpty ·) = some "text/css" := by
      decide +kernel
    rw [hmime, withRequiredType, hgiven]
    dsimp only
    rw [htype]
    dsimp only
    rw [hvalue]
  exact ⟨_, Except.bind_eq_ok_iff.2 ⟨_, htyped _, rfl⟩, rfl⟩

/-- What is fetched for a request is a URL of the web that was read. -/
theorem web_of_resourceRequest {directives : Directives} {text : String} {url : Url}
    (hparse : Url.parse text = .ok url)
    (hrequest : (resourceRequest settings request directives url).value = .ok first) :
    first.url = url ∧ SchemeKind.of url.scheme = .web := by
  refine ⟨(resourceRequest_eq_ok hrequest).1, ?_⟩
  cases hcheck : (checkTarget settings.targets url).value with
  | error cause =>
    rw [resourceRequest_of_refused hcheck] at hrequest
    contradiction
  | ok done => exact SchemeKind.of_web (admissible_of_passed hparse hcheck).1

open ResponseGuard in
/-- A request for a sanitized stylesheet that cannot be fetched, where the request names a fallback
that may be fetched. -/
structure Retries (handler : ProxyHandler) (links : Link.Settings)
    (earlier : List ResourceRequest) (now : Int) (request : ProxyRequest)
    (first : ResourceRequest) (fallback : Url) : Prop where
  guarded : handler.responseGuard = some (.sanitizing Style.conservative links)
  unconditional : request.headers.contains "if-modified-since" = false
  sanitize : request.query.get? Parameter.sanitize = some "1"
  stylesheet : request.query.get? Parameter.requiredMime = some "text/css"
  first_call : (handler.fetch earlier now request).value.requests.head? = some first
  failed : (handler.pipeline (earlier ++ [first])).value.isError = true
  named : ∃ text, request.query.get? Parameter.fallbackUrl = some text ∧
    Url.parse text = .ok fallback
  allowed : (checkTarget handler.settings.targets fallback).value = .ok ()

/-- The fallback is fetched, and its text is answered as it is sanitized for the first request. -/
theorem Retries.answer {links : Link.Settings} {fallback : Url}
    (hretries : Retries handler links earlier now request first fallback) :
    let answer := (handler.fetch earlier now request).value
    (first.url.IsRead ∧ SchemeKind.of first.url.scheme = .web ∧
      SchemeKind.of fallback.scheme = .web) ∧
    ∃ second, answer.requests = [first, second] ∧ second.url = fallback ∧
      ∀ css : String,
        (handler.pipeline (earlier ++ [first, second])).value.body = encodeUtf8 css.toList →
        ∃ response, answer.result = .ok response ∧
          response.body = encodeUtf8 (ResponseGuard.sanitizedSheet links first css) := by
  intro answer
  have hcalled := hretries.first_call
  rcases fetch_cases hretries.unconditional with ⟨cause, hrefused⟩ |
      ⟨directives, first', lifetime, hdirectives, -, hrequest, hvalue⟩
  · rw [hrefused handler.pipeline] at hcalled
    contradiction
  have hfetch : (handler.fetch earlier now request).value = _ :=
    hvalue handler.pipeline earlier now
  have hhead := (fetchAccepted_cases handler earlier request directives first' lifetime now).1
  rw [hfetch, hhead] at hcalled
  obtain rfl := Option.some.inj hcalled
  obtain ⟨text, hnamed, hparse⟩ := hretries.named
  obtain ⟨_, -, -, hresource, -⟩ := exists_of_ofQuery hdirectives
  obtain ⟨hurl, hweb⟩ := web_of_resourceRequest hresource hrequest
  obtain ⟨-, -, hmime, hsanitize⟩ := resourceRequest_eq_ok hrequest
  rw [hretries.stylesheet] at hmime
  rw [hretries.sanitize, beq_self_eq_true] at hsanitize
  obtain ⟨second, hsecond, hsecondUrl⟩ :
      ∃ second, (resourceRequest handler.settings request directives fallback).value =
        .ok second ∧ second.url = fallback := resourceRequest_of_passed hretries.allowed
  have hcall : secondCall handler.settings request directives
      (handler.pipeline (earlier ++ [first'])).value = some (.ok second) := by
    rw [secondCall_of_fallsBack ⟨of_decide_eq_true hretries.failed, hnamed⟩, hparse]
    exact congrArg some hsecond
  rw [fetchAccepted_value, hcall] at hfetch
  dsimp only at hfetch
  rw [conclude_value, guarded_value hretries.guarded] at hfetch
  refine ⟨⟨hurl ▸ .parsed hresource, hurl ▸ hweb, (web_of_resourceRequest hparse hsecond).2⟩,
    second, congrArg ProxyAnswer.requests hfetch, hsecondUrl, fun css hbody => ?_⟩
  rw [ResponseGuard.sanitizing_of_stylesheet hsanitize hmime hbody] at hfetch
  obtain ⟨response, hpresent, hwritten⟩ :=
    exists_present_of_stylesheet handler.settings lifetime now _ hmime
  exact ⟨response, (congrArg ProxyAnswer.result hfetch).trans hpresent, hwritten⟩

open ResponseGuard in
/-- If a stylesheet that has to be sanitized cannot be fetched and its fallback is a text, the
sanitized form of this text is answered.  Its well-formed links are routed through the proxy, and
the resource that a routed link names is what the link means at the URL of the first request.  At
the URL of the fallback, where it was found, it means the same if it spells a scheme and a
host. -/
theorem fetch_resolves_fallback_links (handler : ProxyHandler) (links : Link.Settings)
    (earlier : List ResourceRequest) (now : Int) (request : ProxyRequest)
    (first : ResourceRequest) (fallback : Url)
    (hretries : Retries handler links earlier now request first fallback) :
    let answer := (handler.fetch earlier now request).value
    ∃ second, answer.requests = [first, second] ∧ second.url = fallback ∧
      ∀ css : String,
        (handler.pipeline (earlier ++ [first, second])).value.body = encodeUtf8 css.toList →
        (∃ response, answer.result = .ok response ∧
          response.body = encodeUtf8 (sanitizedSheet links first css)) ∧
        ∀ link reference, .reference link ∈ Style.pieces (Style.removeDangers css.toList) →
          UriReference.parse (String.ofList link) = .ok reference →
          let origin := linkOrigin links first
          ∃ resource, reference.resolve first.url = .ok resource ∧
            (Style.Piece.reference link).written (Link.forStylesheets origin) first.url =
              (Style.referenceText (origin.sanitized Link.stylesheetMime resource)).toList ∧
            (origin.EndpointIsFree → ∀ headers, (ProxyRequest.of headers (Link.queryText?
              (origin.sanitized Link.stylesheetMime resource))).query.get? Parameter.url =
                some resource.toString) ∧
            (Link.IsAbsolute link → reference.resolve fallback = .ok resource) := by
  intro answer
  obtain ⟨⟨hread, hweb, hfallback⟩, second, hrequests, hsecond, hanswer⟩ := hretries.answer
  refine ⟨second, hrequests, hsecond, fun css hbody => ⟨hanswer css hbody, ?_⟩⟩
  intro link reference _ hparse origin
  obtain ⟨resource, hresolve, hwritten, hreads⟩ :=
    link_of_sanitizedSheet links hread hweb hparse
  refine ⟨resource, hresolve, hwritten, hreads, fun habsolute => ?_⟩
  rw [UriReference.resolve_of_isAbsolute hfallback hweb hparse habsolute, hresolve]

/-- A handler whose first fetch fails and whose second one finds a stylesheet with a link. -/
def retrying : ProxyHandler :=
  { settings := {}
    lockedDomain := .disabled
    responseGuard := some (.sanitizing Style.conservative {})
    pipeline := fun calls => pure
      (if calls.length = 1 then { status := 404 }
        else { status := 200, body := asciiBytes "url(i.png)" }) }

def retriedRequest : ProxyRequest :=
  ⟨Headers.empty, ⟨[("url", "https://[2606:4700::1111]/a/x.css"),
    ("fallback_url", "https://[2606:4700::1111]/b/y.css"), ("sanitize", "1"),
    ("rewriteMime", "text/css")]⟩⟩

theorem exists_retries : ∃ first fallback, Retries retrying {} [] 0 retriedRequest first fallback ∧
    Url.parse "https://[2606:4700::1111]/a/x.css" = .ok first.url ∧
    Url.parse "https://[2606:4700::1111]/b/y.css" = .ok fallback := by
  obtain ⟨fallback, hfallback, hallowed⟩ : ∃ fallback,
      Url.parse "https://[2606:4700::1111]/b/y.css" = .ok fallback ∧
        (checkTarget {} fallback).value.toOption = some () :=
    Except.exists_of_toOption_map (by decide +kernel)
  obtain ⟨_, hcheck, -⟩ : ∃ done, (checkTarget {} fallback).value = .ok done ∧ done = () :=
    Except.exists_of_toOption_map (f := id) (by rw [Option.map_id, id, hallowed])
  obtain ⟨resource, hresource, hsame⟩ : ∃ resource,
      Url.parse "https://[2606:4700::1111]/a/x.css" = .ok resource ∧
        (((retrying.fetch [] 0 retriedRequest).value.requests.head?.map (·.url)) ==
          some resource) = true :=
    Except.exists_of_toOption_map (by decide +kernel)
  obtain ⟨first, hhead, rfl⟩ := Option.map_eq_some_iff.1 (beq_iff_eq.1 hsame)
  exact ⟨first, fallback, ⟨rfl, rfl, rfl, rfl, hhead, rfl, ⟨_, rfl, hfallback⟩, hcheck⟩,
    hresource, hfallback⟩

theorem body_retrying (first second : ResourceRequest) :
    (retrying.pipeline ([] ++ [first, second])).value.body = encodeUtf8 "url(i.png)".toList := by
  have hsheet : asciiBytes "url(i.png)" = encodeUtf8 "url(i.png)".toList := by decide +kernel
  exact hsheet

theorem resolve_image (name : String) {text : String} {base : Url}
    (hbase : Url.parse text = .ok base)
    (hname : ((Url.parse text).toOption.map fun base =>
      (UriReference.resolve ⟨"i.png", none⟩ base).toOption.map (·.toString)) =
        some (some name)) :
    ∃ resource, UriReference.resolve ⟨"i.png", none⟩ base = .ok resource ∧
      resource.toString = name := by
  rw [hbase] at hname
  exact Except.exists_of_toOption_map (Option.some.inj hname)

theorem fetch_resolves_fallback_links_relative :
    ∃ first second response resource,
      let answer := (retrying.fetch [] 0 retriedRequest).value
      let origin := ResponseGuard.linkOrigin {} first
      answer.requests = [first, second] ∧ answer.result = .ok response ∧
      response.body = encodeUtf8 (ResponseGuard.sanitizedSheet {} first "url(i.png)") ∧
      (Style.Piece.reference "i.png".toList).written (Link.forStylesheets origin) first.url =
        (Style.referenceText (origin.sanitized Link.stylesheetMime resource)).toList ∧
      resource.toString = "https://[2606:4700::1111]/a/i.png" := by
  obtain ⟨first, fallback, hretries, hurl, -⟩ := exists_retries
  obtain ⟨second, hrequests, -, hlinks⟩ :=
    fetch_resolves_fallback_links retrying {} [] 0 retriedRequest first fallback hretries
  obtain ⟨⟨response, hresult, hbody⟩, hresolved⟩ :=
    hlinks "url(i.png)" (body_retrying first second)
  obtain ⟨_, hreference, rfl⟩ : ∃ reference,
      UriReference.parse (String.ofList "i.png".toList) = .ok reference ∧
        reference = ⟨"i.png", none⟩ :=
    Except.exists_of_toOption_map (f := id) (by decide +kernel)
  obtain ⟨resource, hresource, hwritten, -, -⟩ :=
    hresolved "i.png".toList _ (by decide +kernel) hreference
  obtain ⟨found, hfound, hname⟩ :=
    resolve_image "https://[2606:4700::1111]/a/i.png" hurl (by decide +kernel)
  obtain rfl := Except.ok.inj (hfound.symm.trans hresource)
  exact ⟨first, second, response, _, hrequests, hresult, hbody, hwritten, hname⟩

/-- The routed link of the fallback does not name what the link means where it was found. -/
theorem fetch_misplaces_fallback_link :
    ∃ first fallback response routed reference resource,
      Retries retrying {} [] 0 retriedRequest first fallback ∧
      (retrying.fetch [] 0 retriedRequest).value.result = .ok response ∧
      response.body = encodeUtf8 (Style.referenceText routed).toList ∧
      UriReference.parse "i.png" = .ok reference ∧ reference.resolve fallback = .ok resource ∧
      (ProxyRequest.of Headers.empty (Link.queryText? routed)).query.get? Parameter.url ≠
        some resource.toString := by
  obtain ⟨first, fallback, hretries, hurl, hfallback⟩ := exists_retries
  obtain ⟨⟨hread, hweb, -⟩, second, -, -, hanswer⟩ := hretries.answer
  obtain ⟨response, hresult, hbody⟩ := hanswer "url(i.png)" (body_retrying first second)
  obtain ⟨_, hreference, rfl⟩ : ∃ reference,
      UriReference.parse (String.ofList "i.png".toList) = .ok reference ∧
        reference = ⟨"i.png", none⟩ :=
    Except.exists_of_toOption_map (f := id) (by decide +kernel)
  obtain ⟨found, hfound, hwritten, hreads⟩ :=
    ResponseGuard.link_of_sanitizedSheet {} hread hweb hreference
  obtain ⟨meant, hmeant, hplace⟩ :=
    resolve_image "https://[2606:4700::1111]/b/i.png" hfallback (by decide +kernel)
  obtain ⟨other, hother, hname⟩ :=
    resolve_image "https://[2606:4700::1111]/a/i.png" hurl (by decide +kernel)
  obtain rfl := Except.ok.inj (hother.symm.trans hfound)
  have hsheet : ResponseGuard.sanitizedSheet {} first "url(i.png)" =
      (Style.referenceText ((ResponseGuard.linkOrigin {} first).sanitized Link.stylesheetMime
        other)).toList := by
    have hpieces : Style.pieces (Style.removeDangers "url(i.png)".toList) =
        [.reference "i.png".toList] := by
      decide +kernel
    rw [ResponseGuard.sanitizedSheet, hpieces, Style.writtenPieces, List.flatMap_singleton,
      hwritten]
  have hfree : (ResponseGuard.linkOrigin {} first).EndpointIsFree := by
    have hnone : Link.queryText? "/gadgets/proxy" = none := by decide +kernel
    intro query hquery
    exact absurd (hnone.symm.trans hquery) (Option.some_ne_none query).symm
  refine ⟨first, fallback, response, _, _, meant, hretries, hresult, hsheet ▸ hbody, hreference,
    hmeant, ?_⟩
  rw [hreads hfree Headers.empty, hname, hplace]
  decide +kernel

end ProxyHandler

end GadgetGuard
