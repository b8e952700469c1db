import GadgetGuard.Proofs.Http.Header
import GadgetGuard.Proofs.Proxy.Calls
/-!
# What an answer of the proxy is made of

An answer with a fetched resource presents the last response that was fetched for it, after the
guard of the handler let it pass.  Of the responses before it only the status matters.
-/

namespace GadgetGuard

open GadgetGuard.Text

namespace ProxyHandler

variable {handler : ProxyHandler} {settings : ProxySettings} {request : ProxyRequest}
variable {directives : Directives} {earlier requests : List ResourceRequest} {url : Url}
variable {first : ResourceRequest} {response other : Response} {lifetime : Nat} {now : Int}

/-- Says which request is made for a URL that passes its check. -/
theorem resourceRequest_eq_ok
    (hrequest : (resourceRequest settings request directives url).value = .ok first) :
    first.url = url ∧
      first.headers = forwardedHeaders settings.forwarded request.headers ∧
      first.requiredMime = request.query.get? Parameter.requiredMime ∧
      first.sanitize = (request.query.get? Parameter.sanitize == some "1") := by
  rw [resourceRequest, Traced.value_bind] at hrequest
  cases hcheck : (checkTarget settings.targets url).value with
  | error cause =>
    rw [hcheck] at hrequest
    contradiction
  | ok done =>
    rw [hcheck] at hrequest
    obtain rfl := Except.ok.inj hrequest
    exact ⟨rfl, rfl, rfl, rfl⟩

/-- A guard that refuses a response fails the request. -/
theorem guarded_value {guard : ResponseGuard} (hguard : handler.responseGuard = some guard) :
    (handler.guarded first response).value =
      match (guard first response).value with
      | .ok sanitized => .ok sanitized
      | .error (.refused detail status) => .error (.failed detail status)
      | .error .crashed => .error .crashed := by
  rw [guarded, hguard]
  dsimp only
  rw [Traced.value_bind]
  cases (guard first response).value with
  | ok sanitized => rfl
  | error cause =>
    cases cause with
    | refused detail status => rfl
    | crashed => rfl

theorem guard_eq_ok_of_guarded {guard : ResponseGuard} (hguard : handler.responseGuard = some guard)
    (hguarded : (handler.guarded first response).value = .ok other) :
    (guard first response).value = .ok other := by
  rw [guarded_value hguard] at hguarded
  split at hguarded
  next sanitized hsanitized => rw [hsanitized, Except.ok.inj hguarded]
  · contradiction
  · contradiction

theorem conclude_value :
    (handler.conclude first lifetime now requests response).value =
      ⟨(handler.guarded first response).value >>= present handler.settings first lifetime now,
        requests⟩ := by
  rw [conclude, Traced.value_bind]
  cases (handler.guarded first response).value with
  | error cause => rfl
  | ok sanitized => rfl

/-- A request that is not conditional either is refused, whatever the pipeline says, or has the
resource fetched that it names. -/
theorem fetch_cases (hconditional : request.headers.contains "if-modified-since" = false) :
    (∃ cause, ∀ pipeline earlier now,
      ({ handler with pipeline }.fetch earlier now request).value = ⟨.error cause, []⟩) ∨
    ∃ directives first lifetime,
      Directives.ofQuery request.query handler.settings.version = .ok directives ∧
      directives.lifetime handler.settings.longLifetime handler.settings.usualLifetime =
        .ok lifetime ∧
      (resourceRequest handler.settings request directives directives.resource).value =
        .ok first ∧
      ∀ pipeline earlier now,
        ({ handler with pipeline }.fetch earlier now request).value =
          ({ handler with pipeline }.fetchAccepted earlier request directives first lifetime
            now).value := by
  by_cases hsafe : handler.lockedDomain.isSafe request.host? = true
  · cases hdirectives : Directives.ofQuery request.query handler.settings.version with
    | error cause =>
      refine .inl ⟨cause, fun pipeline earlier now => ?_⟩
      rw [fetch, hconditional, hsafe, hdirectives]
      rfl
    | ok directives =>
      have hvalue : ∀ pipeline earlier now,
          ({ handler with pipeline }.fetch earlier now request).value = _ :=
        fun pipeline earlier now => fetch_of_directives hconditional hsafe hdirectives
      dsimp only at hvalue
      cases hfirst : (resourceRequest handler.settings request directives
          directives.resource).value with
      | error cause =>
        rw [hfirst] at hvalue
        exact .inl ⟨cause, hvalue⟩
      | ok first =>
        rw [hfirst] at hvalue
        cases hlifetime : directives.lifetime handler.settings.longLifetime
            handler.settings.usualLifetime with
        | error cause =>
          rw [hlifetime] at hvalue
          exact .inl ⟨cause, hvalue⟩
        | ok lifetime =>
          rw [hlifetime] at hvalue
          exact .inr ⟨directives, first, lifetime, rfl, hlifetime, hfirst, hvalue⟩
  · exact .inl (fetch_of_refused hconditional (.wrongHost (Bool.eq_false_iff.2 hsafe)))

/-- The last response that was fetched is guarded and presented, unless the fallback could not be
fetched. -/
theorem fetchAccepted_cases (handler : ProxyHandler) (earlier : List ResourceRequest)
    (request : ProxyRequest) (directives : Directives) (first : ResourceRequest) (lifetime : Nat)
    (now : Int) :
    let answer := (handler.fetchAccepted earlier request directives first lifetime now).value
    answer.requests.head? = some first ∧
      ((∃ cause, answer.result = .error cause) ∨
        answer.result =
          (handler.guarded first (handler.pipeline (earlier ++ answer.requests)).value).value >>=
            present handler.settings first lifetime now) := by
  rw [fetchAccepted_value]
  cases secondCall handler.settings request directives
      (handler.pipeline (earlier ++ [first])).value with
  | none =>
    dsimp only
    rw [conclude_value]
    exact ⟨rfl, .inr rfl⟩
  | some call =>
    cases call with
    | error cause => exact ⟨rfl, .inl ⟨cause, rfl⟩⟩
    | ok second =>
      dsimp only
      rw [conclude_value]
      exact ⟨rfl, .inr rfl⟩

/-- Whether there is a second call depends on the status of the first response only. -/
theorem secondCall_congr (hstatus : response.status = other.status) :
    secondCall settings request directives response =
      secondCall settings request directives other := by
  rw [secondCall, secondCall, Response.isError, Response.isError, hstatus]

/-- The answer depends on the status of every response and on what the guard makes of the last
one, and on nothing else that the pipeline says. -/
theorem fetchAccepted_congr_of_guarded {pipeline : Pipeline}
    (hstatus : ∀ calls, (pipeline calls).value.status = (handler.pipeline calls).value.status)
    (hguarded :
      let requests := (handler.fetchAccepted earlier request directives first lifetime
        now).value.requests
      (handler.guarded first (pipeline (earlier ++ requests)).value).value =
        (handler.guarded first (handler.pipeline (earlier ++ requests)).value).value) :
    ({ handler with pipeline }.fetchAccepted earlier request directives first lifetime now).value =
      (handler.fetchAccepted earlier request directives first lifetime now).value := by
  have hsame : ∀ response, { handler with pipeline }.guarded first response =
      handler.guarded first response := fun _ => rfl
  rw [fetchAccepted_value] at hguarded
  rw [fetchAccepted_value, fetchAccepted_value]
  dsimp only at hguarded ⊢
  rw [secondCall_congr (hstatus _)]
  cases hcall : secondCall handler.settings request directives
      (handler.pipeline (earlier ++ [first])).value with
  | none =>
    rw [hcall] at hguarded
    dsimp only at hguarded ⊢
    rw [conclude_requests] at hguarded
    rw [conclude_value, conclude_value, hsame, hguarded]
  | some call =>
    cases call with
    | error cause => rfl
    | ok second =>
      rw [hcall] at hguarded
      dsimp only at hguarded ⊢
      rw [conclude_requests] at hguarded
      rw [conclude_value, conclude_value, hsame, hguarded]

/-! ## Whole requests -/

/-- An answer with a resource presents the last response that was fetched for it, with the lifetime
that follows from the query. -/
theorem fetch_presents (hconditional : request.headers.contains "if-modified-since" = false)
    (hresult : (handler.fetch earlier now request).value.result = .ok response) :
    ∃ directives first lifetime sanitized,
      Directives.ofQuery request.query handler.settings.version = .ok directives ∧
      directives.lifetime handler.settings.longLifetime handler.settings.usualLifetime =
        .ok lifetime ∧
      (resourceRequest handler.settings request directives directives.resource).value =
        .ok first ∧
      (handler.fetch earlier now request).value.requests.head? = some first ∧
      (handler.guarded first (handler.pipeline
        (earlier ++ (handler.fetch earlier now request).value.requests)).value).value =
          .ok sanitized ∧
      present handler.settings first lifetime now sanitized = .ok response := by
  rcases fetch_cases hconditional with ⟨cause, hrefused⟩ |
      ⟨directives, first, lifetime, hdirectives, hlifetime, hfirst, hvalue⟩
  · rw [hrefused handler.pipeline] at hresult
    contradiction
  · have hfetch : (handler.fetch earlier now request).value = _ :=
      hvalue handler.pipeline earlier now
    rw [hfetch] at hresult ⊢
    obtain ⟨hhead, hcases⟩ :=
      fetchAccepted_cases handler earlier request directives first lifetime now
    rcases hcases with ⟨cause, herror⟩ | hpresented
    · rw [herror] at hresult
      contradiction
    · rw [hpresented, Except.bind_eq_ok_iff] at hresult
      obtain ⟨sanitized, hguarded, hpresent⟩ := hresult
      exact ⟨directives, first, lifetime, sanitized, hdirectives, hlifetime, hfirst, hhead,
        hguarded, hpresent⟩

theorem fetch_eq_ok (hconditional : request.headers.contains "if-modified-since" = false)
    (hresult : (handler.fetch earlier now request).value.result = .ok response) :
    ∃ first lifetime sanitized,
      (handler.fetch earlier now request).value.requests.head? = some first ∧
      first.requiredMime = request.query.get? Parameter.requiredMime ∧
      first.sanitize = (request.query.get? Parameter.sanitize == some "1") ∧
      (handler.guarded first (handler.pipeline
        (earlier ++ (handler.fetch earlier now request).value.requests)).value).value =
          .ok sanitized ∧
      present handler.settings first lifetime now sanitized = .ok response := by
  obtain ⟨directives, first, lifetime, sanitized, -, -, hfirst, hhead, hguarded, hpresent⟩ :=
    fetch_presents hconditional hresult
  obtain ⟨-, -, hmime, hsanitize⟩ := resourceRequest_eq_ok hfirst
  exact ⟨first, lifetime, sanitized, hhead, hmime, hsanitize, hguarded, hpresent⟩

theorem fetch_congr_of_guarded {pipeline : Pipeline}
    (hconditional : request.headers.contains "if-modified-since" = false)
    (hstatus : ∀ calls, (pipeline calls).value.status = (handler.pipeline calls).value.status)
    (hguarded :
      let requests := (handler.fetch earlier now request).value.requests
      ∀ first, requests.head? = some first →
        first.sanitize = (request.query.get? Parameter.sanitize == some "1") →
        (handler.guarded first (pipeline (earlier ++ requests)).value).value =
          (handler.guarded first (handler.pipeline (earlier ++ requests)).value).value) :
    ({ handler with pipeline }.fetch earlier now request).value =
      (handler.fetch earlier now request).value := by
  rcases fetch_cases hconditional with ⟨cause, hrefused⟩ |
      ⟨directives, first, lifetime, -, -, hfirst, hvalue⟩
  · rw [hrefused pipeline]
    exact (hrefused handler.pipeline earlier now).symm
  · have hfetch : (handler.fetch earlier now request).value = _ :=
      hvalue handler.pipeline earlier now
    have hhead := (fetchAccepted_cases handler earlier request directives first lifetime now).1
    rw [hfetch] at hguarded
    rw [hvalue pipeline, hfetch]
    exact fetchAccepted_congr_of_guarded hstatus
      (hguarded first hhead (resourceRequest_eq_ok hfirst).2.2.2)

/-! ## The presented response -/

/-- Presenting a response keeps its body. -/
theorem body_of_present (hpresent : present settings first lifetime now response = .ok other) :
    other.body = response.body := by
  obtain ⟨headers, _, hother⟩ := Except.bind_eq_ok_iff.1 hpresent
  obtain rfl := Except.ok.inj hother
  rfl

theorem getAll_projectHeaders {name : String} {headers projected : Headers}
    (hlifetime : isLifetimeField name = false) :
    (projectHeaders settings projected headers).getAll name =
      headers.getAll name ++
        if settings.disallowed.contains name then [] else projected.getAll name := by
  have hfield : ∀ field : String × Bytes, (field.1 == name &&
      (!isLifetimeField field.1 && !settings.disallowed.contains field.1)) =
        (field.1 == name && !settings.disallowed.contains name) := by
    intro field
    by_cases hname : field.1 = name
    · rw [hname, hlifetime, Bool.not_false, Bool.true_and]
    · rw [beq_eq_false_iff_ne.2 hname, Bool.false_and, Bool.false_and]
  rw [projectHeaders, Headers.getAll, Headers.getAll, Headers.getAll, List.filter_append,
    List.map_append, List.filter_filter, funext hfield]
  cases settings.disallowed.contains name with
  | true => simp
  | false => simp

theorem getAll_withRequiredType {name : String} {required : Option String}
    {headers typed : Headers} (hname : "content-type" ≠ name)
    (htyped : withRequiredType required response headers = .ok typed) :
    typed.getAll name = headers.getAll name := by
  unfold withRequiredType at htyped
  split at htyped
  · rw [Except.ok.inj htyped]
  · split at htyped
    · rw [Except.ok.inj htyped]
    · split at htyped
      · rw [← Except.ok.inj htyped, Headers.getAll_insert_of_ne hname]
      · contradiction

/-- Whatever a response says about it, a browser must not guess the type of the answer. -/
theorem getAll_nosniff_of_present
    (hpresent : present settings first lifetime now response = .ok other) :
    other.headers.getAll "x-content-type-options" = [Header.asciiValue "nosniff"] := by
  obtain ⟨headers, _, hother⟩ := Except.bind_eq_ok_iff.1 hpresent
  obtain rfl := Except.ok.inj hother
  exact Headers.getAll_insert_self

/-- A field that the handler does not write itself has the values that the response gives it, if
its name is not excluded. -/
theorem getAll_eq_of_present {name : String} (hlifetime : isLifetimeField name = false)
    (hwritten : name ∉ ["content-type", "content-disposition", "x-content-type-options"])
    (hpresent : present settings first lifetime now response = .ok other) :
    other.headers.getAll name =
      if settings.disallowed.contains name then [] else response.headers.getAll name := by
  obtain ⟨headers, htyped, hother⟩ := Except.bind_eq_ok_iff.1 hpresent
  obtain rfl := Except.ok.inj hother
  simp only [List.mem_cons, List.not_mem_nil, or_false, not_or] at hwritten
  obtain ⟨htype, hdisposition, hoptions⟩ := hwritten
  dsimp only
  rw [Headers.getAll_insert_of_ne (Ne.symm hoptions),
    Headers.getAll_insert_of_ne (Ne.symm hdisposition),
    getAll_withRequiredType (Ne.symm htype) htyped, getAll_projectHeaders hlifetime]
  simp only [isLifetimeField, Bool.or_eq_false_iff, beq_eq_false_iff_ne] at hlifetime
  rw [Headers.getAll_withLifetime hlifetime.1.1 hlifetime.2 hlifetime.1.2, Headers.getAll_empty,
    List.nil_append]

/-- A field that is passed on, and that the handler does not write itself, has the values that
the response gives it. -/
theorem getAll_of_present {name : String} (hlifetime : isLifetimeField name = false)
    (hallowed : settings.disallowed.contains name = false)
    (hwritten : name ∉ ["content-type", "content-disposition", "x-content-type-options"])
    (hpresent : present settings first lifetime now response = .ok other) :
    other.headers.getAll name = response.headers.getAll name := by
  rw [getAll_eq_of_present hlifetime hwritten hpresent, if_neg (ne_true_of_eq_false hallowed)]

/-- An answer either has no header fields or presents a response that the guard let pass. -/
theorem fetch_headers (hresult : (handler.fetch earlier now request).value.result = .ok response) :
    response.headers = Headers.empty ∨
      ∃ first lifetime sanitized,
        (handler.fetch earlier now request).value.requests.head? = some first ∧
        (handler.guarded first (handler.pipeline
          (earlier ++ (handler.fetch earlier now request).value.requests)).value).value =
            .ok sanitized ∧
        present handler.settings first lifetime now sanitized = .ok response := by
  cases hconditional : request.headers.contains "if-modified-since" with
  | true =>
    rw [fetch_of_conditional hconditional] at hresult
    obtain rfl := Except.ok.inj hresult
    exact .inl rfl
  | false =>
    obtain ⟨first, lifetime, sanitized, hhead, -, -, hguarded, hpresent⟩ :=
      fetch_eq_ok hconditional hresult
    exact .inr ⟨first, lifetime, sanitized, hhead, hguarded, hpresent⟩

end ProxyHandler

end GadgetGuard
