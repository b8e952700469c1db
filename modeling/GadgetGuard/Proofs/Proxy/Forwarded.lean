import GadgetGuard.Proofs.Proxy.Presented
/-!
# What the proxy passes on of a request

Of the header of a request the proxy looks at the host, at whether the request is conditional,
and at the fields that it forwards.  Whatever else a client sends, such as its cookies, reaches
no other server and changes nothing.
-/

namespace GadgetGuard

open GadgetGuard.Text

namespace ProxyHandler

variable {handler : ProxyHandler} {settings : ProxySettings} {request left right : ProxyRequest}
variable {directives : Directives} {earlier : List ResourceRequest} {url : Url}
variable {first second : ResourceRequest} {response : Response} {lifetime : Nat} {now : Int}

/-- Two requests with the same query, between whose headers the proxy cannot tell a
difference. -/
structure SeenAlike (settings : ProxySettings) (left right : ProxyRequest) : Prop where
  query : left.query = right.query
  forwarded : ∀ name ∈ settings.forwarded,
    left.headers.getAll name = right.headers.getAll name
  host : left.headers.getAll "host" = right.headers.getAll "host"
  conditional : left.headers.contains "if-modified-since" =
    right.headers.contains "if-modified-since"

/-! ## The forwarded fields -/

theorem forwardedHeaders_congr {forwarded : List String} {headers other : Headers}
    (hvalues : ∀ name ∈ forwarded, headers.getAll name = other.getAll name) :
    forwardedHeaders forwarded headers = forwardedHeaders forwarded other := by
  rw [forwardedHeaders, forwardedHeaders, List.flatMap_def, List.flatMap_def]
  congr 2
  apply List.map_congr_left
  intro name hname
  rw [hvalues name hname]

theorem getAll_forwardedHeaders_cons {forwarded : List String} {headers : Headers}
    {name other : String} :
    (forwardedHeaders (other :: forwarded) headers).getAll name =
      (if other = name then headers.getAll name else []) ++
        (forwardedHeaders forwarded headers).getAll name := by
  rw [forwardedHeaders, forwardedHeaders, List.flatMap_cons, Headers.getAll, Headers.getAll,
    List.filter_append, List.map_append, List.filter_map, List.map_map]
  congr 1
  by_cases hname : other = name
  · subst hname
    simp [Function.comp_def, Headers.getAll]
  · simp [Function.comp_def, hname]

/-- A name that is forwarded once keeps its values, and no other name has any. -/
theorem getAll_forwardedHeaders {forwarded : List String} (hnodup : forwarded.Nodup)
    (headers : Headers) (name : String) :
    (forwardedHeaders forwarded headers).getAll name =
      if name ∈ forwarded then headers.getAll name else [] := by
  induction forwarded with
  | nil => rfl
  | cons other forwarded ih =>
    obtain ⟨hother, hrest⟩ := List.nodup_cons.1 hnodup
    rw [getAll_forwardedHeaders_cons, ih hrest]
    by_cases hname : other = name
    · subst hname
      rw [if_pos rfl, if_neg hother, if_pos List.mem_cons_self, List.append_nil]
    · rw [if_neg hname, List.nil_append]
      simp [Ne.symm hname]

/-! ## Requests that are seen alike -/

theorem SeenAlike.host? (halike : SeenAlike settings left right) : left.host? = right.host? :=
  Headers.text?_congr halike.host

theorem SeenAlike.resourceRequest (halike : SeenAlike settings left right)
    (directives : Directives) (url : Url) :
    resourceRequest settings left directives url =
      resourceRequest settings right directives url := by
  rw [ProxyHandler.resourceRequest, ProxyHandler.resourceRequest, halike.query,
    forwardedHeaders_congr halike.forwarded]

theorem SeenAlike.fallBack (halike : SeenAlike handler.settings left right) (failed : Response)
    (fallback : String) :
    handler.fallBack earlier left directives first lifetime now failed fallback =
      handler.fallBack earlier right directives first lifetime now failed fallback := by
  unfold ProxyHandler.fallBack
  cases Url.parse fallback with
  | error cause => rfl
  | ok url =>
    dsimp only
    rw [halike.resourceRequest directives url]

theorem SeenAlike.fetchAccepted (halike : SeenAlike handler.settings left right) :
    handler.fetchAccepted earlier left directives first lifetime now =
      handler.fetchAccepted earlier right directives first lifetime now := by
  unfold ProxyHandler.fetchAccepted
  rw [halike.query]
  simp only [halike.fallBack]

/-- The handler treats requests alike that it sees alike. -/
theorem SeenAlike.fetch (halike : SeenAlike handler.settings left right) :
    handler.fetch earlier now left = handler.fetch earlier now right := by
  unfold ProxyHandler.fetch
  rw [halike.query, halike.host?, halike.conditional]
  simp only [halike.resourceRequest, halike.fetchAccepted]

/-! ## The requests that are made -/

theorem exists_of_secondCall
    (hcall : secondCall settings request directives response = some (.ok second)) :
    ∃ url, (resourceRequest settings request directives url).value = .ok second := by
  obtain ⟨text, hfallback⟩ := exists_fallsBack hcall
  rw [secondCall_of_fallsBack hfallback, Option.some.injEq] at hcall
  cases hparse : Url.parse text with
  | error cause => simp [hparse] at hcall
  | ok url =>
    rw [hparse] at hcall
    exact ⟨url, hcall⟩

theorem headers_of_fetchAccepted
    (hfirst : first.headers = forwardedHeaders handler.settings.forwarded request.headers) :
    ∀ call ∈ (handler.fetchAccepted earlier request directives first lifetime now).value.requests,
      call.headers = forwardedHeaders handler.settings.forwarded request.headers := by
  rw [fetchAccepted_value]
  cases hcall : secondCall handler.settings request directives
      (handler.pipeline (earlier ++ [first])).value with
  | none =>
    dsimp only
    rw [conclude_requests, List.forall_mem_singleton]
    exact hfirst
  | some call =>
    cases call with
    | error cause =>
      rw [List.forall_mem_singleton]
      exact hfirst
    | ok second =>
      obtain ⟨url, hsecond⟩ := exists_of_secondCall hcall
      dsimp only
      rw [conclude_requests, List.forall_mem_cons, List.forall_mem_singleton]
      exact ⟨hfirst, (resourceRequest_eq_ok hsecond).2.1⟩

/-- Whatever is fetched for a request is asked for with the same header fields. -/
theorem headers_of_fetch :
    ∀ call ∈ (handler.fetch earlier now request).value.requests,
      call.headers = forwardedHeaders handler.settings.forwarded request.headers := by
  cases hconditional : request.headers.contains "if-modified-since" with
  | true =>
    rw [fetch_of_conditional hconditional]
    simp
  | false =>
    rcases fetch_cases hconditional with ⟨cause, hrefused⟩ |
        ⟨directives, first, lifetime, -, -, hfirst, hvalue⟩
    · have hfetch : (handler.fetch earlier now request).value = _ :=
        hrefused handler.pipeline earlier now
      rw [hfetch]
      simp
    · have hfetch : (handler.fetch earlier now request).value = _ :=
        hvalue handler.pipeline earlier now
      rw [hfetch]
      exact headers_of_fetchAccepted (resourceRequest_eq_ok hfirst).2.1

/-- Requests with the same query that agree on the host, on being conditional and on the
forwarded fields have the same resources fetched, get the same answer and leave the same
reports.  What is fetched for a request, the fallback included, is asked for with the forwarded
fields of that request, each with its values in their order, and with no others. -/
theorem fetch_reads_forwarded (handler : ProxyHandler)
    (hnodup : handler.settings.forwarded.Nodup) (earlier : List ResourceRequest) (now : Int) :
    (∀ left right, SeenAlike handler.settings left right →
      handler.fetch earlier now left = handler.fetch earlier now right) ∧
    ∀ request, ∀ call ∈ (handler.fetch earlier now request).value.requests, ∀ name,
      call.headers.getAll name =
        if name ∈ handler.settings.forwarded then request.headers.getAll name else [] := by
  refine ⟨fun left right halike => halike.fetch, fun request call hcall name => ?_⟩
  rw [headers_of_fetch call hcall, getAll_forwardedHeaders hnodup]

theorem fetch_reads_forwarded_cookie :
    let handler : ProxyHandler :=
      { settings := {}
        lockedDomain := .disabled
        responseGuard := none
        pipeline := fun _ => pure { status := 404 } }
    let query : Query := ⟨[("url", "https://[2606:4700::1111]/a.gif"),
      ("fallback_url", "https://[2606:4700::1111]/b.gif")]⟩
    let plain : ProxyRequest := ⟨⟨[("accept", [0x61]), ("accept", [0x62])]⟩, query⟩
    let personal : ProxyRequest :=
      ⟨⟨[("cookie", [0x63]), ("accept", [0x61]), ("authorization", [0x64]),
        ("accept", [0x62])]⟩, query⟩
    handler.fetch [] 0 plain = handler.fetch [] 0 personal ∧
      (handler.fetch [] 0 personal).value.requests.length = 2 ∧
      ∀ call ∈ (handler.fetch [] 0 personal).value.requests,
        call.headers.getAll "accept" = [[0x61], [0x62]] ∧
          call.headers.getAll "cookie" = [] := by
  intro handler query plain personal
  have hnodup : handler.settings.forwarded.Nodup := by decide
  have halike : SeenAlike handler.settings plain personal :=
    ⟨rfl, by decide, rfl, rfl⟩
  obtain ⟨hsame, hforwarded⟩ := fetch_reads_forwarded handler hnodup [] 0
  refine ⟨hsame plain personal halike, by decide +kernel, fun call hcall => ⟨?_, ?_⟩⟩
  · exact (hforwarded personal call hcall "accept").trans (by decide)
  · exact (hforwarded personal call hcall "cookie").trans (by decide)

end ProxyHandler

end GadgetGuard
