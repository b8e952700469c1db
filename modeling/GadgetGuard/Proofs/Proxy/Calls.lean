import GadgetGuard.Proofs.Url.Host
import GadgetGuard.Proxy.Handler
/-!
# Which resources a proxy request has fetched

A proxy request has at most two resources fetched: the one it names, and its fallback if the
first fetch fails.  Both are checked before they are fetched, and a request that is refused has
none fetched.
-/

namespace GadgetGuard

open GadgetGuard.Text

namespace ProxyHandler

variable {handler : ProxyHandler} {settings : ProxySettings} {request : ProxyRequest}
variable {directives : Directives} {earlier requests : List ResourceRequest} {url : Url}
variable {first second : ResourceRequest} {response : Response} {cause : ProxyError}
variable {lifetime : Nat} {now : Int}

/-- Exactly the web URLs with a host that the policy allows pass. -/
theorem checkTarget_eq_ok_iff {targets : TargetPolicy} :
    (checkTarget targets url).value = .ok () ↔
      (url.scheme = "http" ∨ url.scheme = "https") ∧ url.host?.isSome = true ∧
        targets.checkUrl url = .ok () := by
  unfold checkTarget
  have hscheme : ["http", "https"].contains url.scheme = true ↔
      url.scheme = "http" ∨ url.scheme = "https" := by
    simp
  rw [← hscheme]
  cases hweb : ["http", "https"].contains url.scheme with
  | false => simp
  | true =>
    cases hhost : url.host? with
    | none => simp
    | some host =>
      cases hcheck : targets.checkUrl url with
      | ok done => simp
      | error cause =>
        cases cause with
        | blocked reason => simp
        | _ => simp

theorem resourceRequest_of_refused
    (hcheck : (checkTarget settings.targets url).value = .error cause) :
    (resourceRequest settings request directives url).value = .error cause := by
  rw [resourceRequest, Traced.value_bind, hcheck]
  rfl

theorem resourceRequest_of_passed (hcheck : (checkTarget settings.targets url).value = .ok ()) :
    ∃ first, (resourceRequest settings request directives url).value = .ok first ∧
      first.url = url := by
  rw [resourceRequest, Traced.value_bind, hcheck]
  exact ⟨_, rfl, rfl⟩

theorem conclude_requests :
    (handler.conclude first lifetime now requests response).value.requests = requests := by
  rw [conclude, Traced.value_bind]
  cases (handler.guarded first response).value with
  | error cause => rfl
  | ok sanitized => rfl

/-- Why a request that is not conditional has nothing fetched. -/
inductive Refuses (handler : ProxyHandler) (request : ProxyRequest) : Prop
  | wrongHost (hhost : handler.lockedDomain.isSafe request.host? = false)
  | noUrl (hurl : request.query.get? Parameter.url = none)
  | emptyUrl (hurl : request.query.get? Parameter.url = some "")
  | unreadableUrl {text : String} {cause : UrlError}
      (hurl : request.query.get? Parameter.url = some text)
      (hparse : Url.parse text = .error cause)
  | refusedUrl {text : String} {url : Url} {cause : ProxyError}
      (hurl : request.query.get? Parameter.url = some text) (hparse : Url.parse text = .ok url)
      (hcheck : (checkTarget handler.settings.targets url).value = .error cause)
  | invalidRefresh {text : String} (hrefresh : request.query.get? Parameter.refresh = some text)
      (hnumber : natural? maxNatural (trimBlanks text.toList) = none)

theorem ofQuery_of_parsed {query : Query} {text : String} {deployed : Option String}
    (hurl : query.get? Parameter.url = some text) (hne : text ≠ "")
    (hparse : Url.parse text = .ok url) :
    ∃ directives, Directives.ofQuery query deployed = .ok directives ∧
      directives.resource = url ∧ directives.refresh = query.get? Parameter.refresh := by
  have hnonEmpty : query.nonEmpty? Parameter.url = some text := by
    simp [Query.nonEmpty?, hurl, hne]
  rw [Directives.ofQuery, hnonEmpty]
  dsimp only
  rw [hparse]
  exact ⟨_, rfl, rfl, rfl⟩

theorem exists_of_ofQuery {query : Query} {deployed : Option String}
    (hdirectives : Directives.ofQuery query deployed = .ok directives) :
    ∃ text, query.get? Parameter.url = some text ∧ text ≠ "" ∧
      Url.parse text = .ok directives.resource ∧
      directives.refresh = query.get? Parameter.refresh := by
  rw [Directives.ofQuery] at hdirectives
  cases hnonEmpty : query.nonEmpty? Parameter.url with
  | none => simp [hnonEmpty] at hdirectives
  | some text =>
    rw [hnonEmpty] at hdirectives
    rw [Query.nonEmpty?, Option.filter_eq_some_iff] at hnonEmpty
    cases hparse : Url.parse text with
    | error cause => simp [hparse] at hdirectives
    | ok url =>
      simp only [hparse, Except.ok.injEq] at hdirectives
      subst hdirectives
      exact ⟨text, hnonEmpty.1, by simpa using hnonEmpty.2, hparse, rfl⟩

theorem lifetime_eq_error_iff {long usual : Nat} :
    (∃ cause, directives.lifetime long usual = .error cause) ↔
      ∃ text, directives.refresh = some text ∧
        natural? maxNatural (trimBlanks text.toList) = none := by
  rw [Directives.lifetime]
  cases directives.refresh with
  | none =>
    cases directives.version with
    | unversioned => simp
    | current => simp
    | stale => simp
  | some text =>
    cases hnumber : natural? maxNatural (trimBlanks text.toList) with
    | none => simp [hnumber]
    | some seconds => simp [hnumber]

/-! ## One request -/

theorem fetch_of_conditional
    (hconditional : request.headers.contains "if-modified-since" = true) :
    (handler.fetch earlier now request).value = ⟨.ok { status := 304 }, []⟩ := by
  rw [fetch, if_pos hconditional]
  rfl

/-- Once the host is safe and the query names a resource, the target is checked before the
lifetime. -/
theorem fetch_of_directives
    (hconditional : request.headers.contains "if-modified-since" = false)
    (hsafe : handler.lockedDomain.isSafe request.host? = true)
    (hdirectives : Directives.ofQuery request.query handler.settings.version = .ok directives) :
    (handler.fetch earlier now request).value =
      match (resourceRequest handler.settings request directives directives.resource).value with
      | .error cause => ⟨.error cause, []⟩
      | .ok first =>
        match directives.lifetime handler.settings.longLifetime
            handler.settings.usualLifetime with
        | .error cause => ⟨.error cause, []⟩
        | .ok lifetime =>
          (handler.fetchAccepted earlier request directives first lifetime now).value := by
  rw [fetch, hconditional, hsafe, hdirectives]
  simp only [Bool.false_eq_true, if_false, Bool.not_true, Traced.value_bind]
  cases (resourceRequest handler.settings request directives directives.resource).value with
  | error cause => rfl
  | ok first =>
    dsimp only
    cases directives.lifetime handler.settings.longLifetime handler.settings.usualLifetime with
    | error cause => rfl
    | ok lifetime => rfl

/-- A request that is refused has nothing fetched and is answered by an error. -/
theorem fetch_of_refused
    (hconditional : request.headers.contains "if-modified-since" = false)
    (hrefuses : handler.Refuses request) :
    ∃ cause, ∀ pipeline earlier now,
      ({ handler with pipeline }.fetch earlier now request).value = ⟨.error cause, []⟩ := by
  by_cases hsafe : handler.lockedDomain.isSafe request.host? = true
  · cases hdirectives : Directives.ofQuery request.query handler.settings.version with
    | error cause =>
      refine ⟨cause, fun pipeline earlier now => ?_⟩
      rw [fetch, hconditional, hsafe, hdirectives]
      rfl
    | ok directives =>
      obtain ⟨text, htext, hne, hresource, hrefresh⟩ := exists_of_ofQuery hdirectives
      have hvalue : ∀ pipeline earlier now,
          ({ handler with pipeline }.fetch earlier now request).value = _ :=
        fun pipeline earlier now => fetch_of_directives hconditional hsafe hdirectives
      dsimp only at hvalue
      cases hrefuses with
      | wrongHost hhost => simp [hhost] at hsafe
      | noUrl hurl => simp [hurl] at htext
      | emptyUrl hurl =>
        rw [hurl, Option.some.injEq] at htext
        exact absurd htext.symm hne
      | unreadableUrl hurl hparse =>
        rw [hurl, Option.some.injEq] at htext
        simp [← htext, hparse] at hresource
      | @refusedUrl _ url cause hurl hparse hcheck =>
        rw [hurl, Option.some.injEq] at htext
        rw [← htext, hparse, Except.ok.injEq] at hresource
        rw [← hresource, resourceRequest_of_refused hcheck] at hvalue
        exact ⟨cause, hvalue⟩
      | @invalidRefresh refresh hparameter hnumber =>
        obtain ⟨cause, hlifetime⟩ := lifetime_eq_error_iff.2
          ⟨refresh, hrefresh.trans hparameter, hnumber⟩
        rw [hlifetime] at hvalue
        cases hfirst : (resourceRequest handler.settings request directives
            directives.resource).value with
        | error cause =>
          rw [hfirst] at hvalue
          exact ⟨cause, hvalue⟩
        | ok first =>
          rw [hfirst] at hvalue
          exact ⟨cause, hvalue⟩
  · refine ⟨.invalidParameter ("embed request for url " ++
      (request.query.get? Parameter.url).getD "" ++ " made to wrong domain " ++
      request.host?.getD ""), fun pipeline earlier now => ?_⟩
    rw [fetch, hconditional, Bool.eq_false_iff.2 hsafe]
    rfl

/-- Any other request has the resource fetched that it names. -/
theorem fetch_of_accepted
    (hconditional : request.headers.contains "if-modified-since" = false)
    (haccepted : ¬ handler.Refuses request) :
    ∃ text directives first lifetime,
      request.query.get? Parameter.url = some text ∧
      Url.parse text = .ok directives.resource ∧
      (checkTarget handler.settings.targets directives.resource).value = .ok () ∧
      first.url = directives.resource ∧
      ∀ pipeline earlier now,
        ({ handler with pipeline }.fetch earlier now request).value =
          ({ handler with pipeline }.fetchAccepted earlier request directives first lifetime
            now).value := by
  have hsafe : handler.lockedDomain.isSafe request.host? = true := by
    rw [← Bool.not_eq_false]
    exact fun hunsafe => haccepted (.wrongHost hunsafe)
  cases hurl : request.query.get? Parameter.url with
  | none => exact absurd (.noUrl hurl) haccepted
  | some text =>
    have hne : text ≠ "" := by
      rintro rfl
      exact haccepted (.emptyUrl hurl)
    cases hparse : Url.parse text with
    | error cause => exact absurd (.unreadableUrl hurl hparse) haccepted
    | ok url =>
      obtain ⟨directives, hdirectives, rfl, hrefresh⟩ :
          ∃ directives, Directives.ofQuery request.query handler.settings.version =
            .ok directives ∧ _ := ofQuery_of_parsed hurl hne hparse
      cases hcheck : (checkTarget handler.settings.targets directives.resource).value with
      | error cause => exact absurd (.refusedUrl hurl hparse hcheck) haccepted
      | ok done =>
        obtain ⟨first, hfirst, hresource⟩ :
            ∃ first, (resourceRequest _ request directives _).value = .ok first ∧ _ :=
          resourceRequest_of_passed hcheck
        cases hlifetime : directives.lifetime handler.settings.longLifetime
            handler.settings.usualLifetime with
        | error cause =>
          obtain ⟨refresh, hparameter, hnumber⟩ := lifetime_eq_error_iff.1 ⟨cause, hlifetime⟩
          exact absurd (.invalidRefresh (hrefresh.symm.trans hparameter) hnumber) haccepted
        | ok lifetime =>
          refine ⟨text, directives, first, lifetime, rfl, hparse, hcheck, hresource, ?_⟩
          intro pipeline earlier now
          have hvalue : ({ handler with pipeline }.fetch earlier now request).value = _ :=
            fetch_of_directives hconditional hsafe hdirectives
          rw [hvalue]
          dsimp only
          rw [hfirst]
          dsimp only
          rw [hlifetime]

/-! ## The fallback -/

/-- Whether a response gives way to the fallback that a request names by this text. -/
def FallsBack (request : ProxyRequest) (response : Response) (text : String) : Prop :=
  400 ≤ response.status ∧ request.query.get? Parameter.fallbackUrl = some text

/-- The request for the fallback that takes the place of a response, if one has to. -/
def secondCall (settings : ProxySettings) (request : ProxyRequest) (directives : Directives)
    (response : Response) : Option (Except ProxyError ResourceRequest) :=
  if response.isError then
    (request.query.get? Parameter.fallbackUrl).map fun text =>
      match Url.parse text with
      | .error cause => .error (.invalidParameter
          (Parameter.fallbackUrl ++ " param is invalid: " ++ cause.message))
      | .ok url => (resourceRequest settings request directives url).value
  else none

/-- After the first response it is settled whether there is a second call, and for what. -/
theorem fetchAccepted_value :
    (handler.fetchAccepted earlier request directives first lifetime now).value =
      match secondCall handler.settings request directives
          (handler.pipeline (earlier ++ [first])).value with
      | none => (handler.conclude first lifetime now [first]
          (handler.pipeline (earlier ++ [first])).value).value
      | some (.error cause) => ⟨.error cause, [first]⟩
      | some (.ok second) => (handler.conclude first lifetime now [first, second]
          (handler.pipeline (earlier ++ [first, second])).value).value := by
  rw [fetchAccepted, Traced.value_bind, secondCall]
  cases herror : (handler.pipeline (earlier ++ [first])).value.isError with
  | false => rfl
  | true =>
    cases request.query.get? Parameter.fallbackUrl with
    | none => rfl
    | some text =>
      simp only [if_true, Option.map_some, fallBack]
      cases Url.parse text with
      | error cause => rfl
      | ok url =>
        dsimp only
        rw [Traced.value_bind, Traced.value_bind]
        cases (resourceRequest handler.settings request directives url).value with
        | error cause => rfl
        | ok second => rfl

theorem secondCall_of_fallsBack {text : String} (hfallback : FallsBack request response text) :
    secondCall settings request directives response = some
      (match Url.parse text with
        | .error cause => .error (.invalidParameter
            (Parameter.fallbackUrl ++ " param is invalid: " ++ cause.message))
        | .ok url => (resourceRequest settings request directives url).value) := by
  have herror : response.isError = true := by
    rw [Response.isError, decide_eq_true_iff]
    exact hfallback.1
  rw [secondCall, herror, if_pos rfl, hfallback.2, Option.map_some]

theorem exists_fallsBack {call : Except ProxyError ResourceRequest}
    (hcall : secondCall settings request directives response = some call) :
    ∃ text, FallsBack request response text := by
  rw [secondCall] at hcall
  cases herror : response.isError with
  | false => simp [herror] at hcall
  | true =>
    rw [Response.isError, decide_eq_true_iff] at herror
    cases hfallback : request.query.get? Parameter.fallbackUrl with
    | none => simp [hfallback] at hcall
    | some text => exact ⟨text, herror, hfallback⟩

/-- The fallback is fetched if it can be read and passes the same check as the resource, and
otherwise it is an error to have named it. -/
theorem secondCall_cases {text : String} (hfallback : FallsBack request response text) :
    (∃ second, secondCall settings request directives response = some (.ok second) ∧
      Url.parse text = .ok second.url ∧
      (checkTarget settings.targets second.url).value = .ok ()) ∨
    (∃ cause, secondCall settings request directives response = some (.error cause) ∧
      ∀ url, Url.parse text = .ok url → (checkTarget settings.targets url).value ≠ .ok ()) := by
  rw [secondCall_of_fallsBack hfallback]
  cases hparse : Url.parse text with
  | error cause => exact .inr ⟨_, rfl, by simp⟩
  | ok url =>
    cases hcheck : (checkTarget settings.targets url).value with
    | error cause =>
      refine .inr ⟨cause, congrArg some (resourceRequest_of_refused hcheck), ?_⟩
      intro other hother
      obtain rfl := Except.ok.inj hother
      simp [hcheck]
    | ok done =>
      obtain ⟨second, hsecond, rfl⟩ :
          ∃ second, (resourceRequest settings request directives url).value = .ok second ∧ _ :=
        resourceRequest_of_passed hcheck
      exact .inl ⟨second, congrArg some hsecond, rfl, hcheck⟩

/-- What is known of the calls for a request that is not refused: the second one is for the
fallback and only if the first response gives way to it, and a fallback that may not be
fetched is an error after the first call. -/
structure CallsFor (handler : ProxyHandler) (request : ProxyRequest) (first : ResourceRequest)
    (response : Response) (answer : ProxyAnswer) : Prop where
  one_or_two : answer.requests = [first] ∨ ∃ second, answer.requests = [first, second]
  two_iff : (∃ second, answer.requests = [first, second]) ↔
    ∃ text url, FallsBack request response text ∧ Url.parse text = .ok url ∧
      (checkTarget handler.settings.targets url).value = .ok ()
  second_url : ∀ second, answer.requests = [first, second] →
    ∃ text, FallsBack request response text ∧ Url.parse text = .ok second.url
  refused : ∀ text, FallsBack request response text →
    (∀ url, Url.parse text = .ok url →
      (checkTarget handler.settings.targets url).value ≠ .ok ()) →
    answer.requests = [first] ∧ ∃ cause, answer.result = .error cause

theorem FallsBack.unique {text other : String} (hfallback : FallsBack request response text)
    (hother : FallsBack request response other) : text = other := by
  have hsame := hfallback.2.symm.trans hother.2
  exact Option.some.inj hsame

/-- An answer after one call. -/
theorem CallsFor.of_one {answer : ProxyAnswer} (hone : answer.requests = [first])
    (hrefused : ∀ text url, FallsBack request response text → Url.parse text = .ok url →
      (checkTarget handler.settings.targets url).value ≠ .ok ())
    (hresult : ∀ text, FallsBack request response text → ∃ cause, answer.result = .error cause) :
    CallsFor handler request first response answer where
  one_or_two := .inl hone
  two_iff := by
    constructor
    · rintro ⟨second, htwo⟩
      simp [hone] at htwo
    · rintro ⟨text, url, hfallback, hparse, hcheck⟩
      exact absurd hcheck (hrefused text url hfallback hparse)
  second_url := by
    intro second htwo
    simp [hone] at htwo
  refused text hfallback _ := ⟨hone, hresult text hfallback⟩

/-- An answer after two calls. -/
theorem CallsFor.of_two {answer : ProxyAnswer} {text : String}
    (htwo : answer.requests = [first, second]) (hfallback : FallsBack request response text)
    (hparse : Url.parse text = .ok second.url)
    (hcheck : (checkTarget handler.settings.targets second.url).value = .ok ()) :
    CallsFor handler request first response answer where
  one_or_two := .inr ⟨second, htwo⟩
  two_iff := ⟨fun _ => ⟨text, second.url, hfallback, hparse, hcheck⟩, fun _ => ⟨second, htwo⟩⟩
  second_url := by
    intro other hother
    rw [htwo] at hother
    obtain rfl : second = other := by simpa using hother
    exact ⟨text, hfallback, hparse⟩
  refused := by
    intro other hother hrefused
    rw [hother.unique hfallback] at hrefused
    exact absurd hcheck (hrefused second.url hparse)

theorem fetchAccepted_callsFor :
    CallsFor handler request first (handler.pipeline (earlier ++ [first])).value
      (handler.fetchAccepted earlier request directives first lifetime now).value := by
  rw [fetchAccepted_value]
  generalize (handler.pipeline (earlier ++ [first])).value = response
  cases hcall : secondCall handler.settings request directives response with
  | none =>
    have hnever : ∀ text, ¬ FallsBack request response text := by
      intro text hfallback
      rw [secondCall_of_fallsBack hfallback] at hcall
      contradiction
    exact .of_one conclude_requests (fun text _ hfallback => absurd hfallback (hnever text))
      (fun text hfallback => absurd hfallback (hnever text))
  | some call =>
    obtain ⟨text, hfallback⟩ := exists_fallsBack hcall
    rcases secondCall_cases hfallback with ⟨second, hsecond, hparse, hcheck⟩ | ⟨cause, herror, hall⟩
    · rw [hcall, Option.some.injEq] at hsecond
      subst hsecond
      exact .of_two conclude_requests hfallback hparse hcheck
    · rw [hcall, Option.some.injEq] at herror
      subst herror
      refine .of_one rfl ?_ (fun _ _ => ⟨cause, rfl⟩)
      intro other url hother hparse
      rw [hother.unique hfallback] at hparse
      exact hall url hparse

/-- Only what the pipeline says to the calls that are made matters for the answer. -/
theorem fetchAccepted_congr {pipeline : Pipeline}
    (hagree : ∀ calls, calls ≠ [] →
      calls <+: (handler.fetchAccepted earlier request directives first lifetime
        now).value.requests →
      pipeline (earlier ++ calls) = handler.pipeline (earlier ++ calls)) :
    ({ handler with pipeline }.fetchAccepted earlier request directives first lifetime now).value =
      (handler.fetchAccepted earlier request directives first lifetime now).value := by
  have hfirst : pipeline (earlier ++ [first]) = handler.pipeline (earlier ++ [first]) := by
    apply hagree _ (List.cons_ne_nil _ _)
    have hcalls : CallsFor handler request first _
        (handler.fetchAccepted earlier request directives first lifetime now).value :=
      fetchAccepted_callsFor
    rcases hcalls.one_or_two with hone | ⟨second, htwo⟩
    · exact hone.symm ▸ List.prefix_refl [first]
    · rw [htwo]
      exact List.prefix_append [first] [second]
  rw [fetchAccepted_value] at hagree
  rw [fetchAccepted_value, fetchAccepted_value]
  dsimp only
  rw [hfirst]
  cases hcall : secondCall handler.settings request directives
      (handler.pipeline (earlier ++ [first])).value with
  | none => rfl
  | some call =>
    cases call with
    | error cause => rfl
    | ok second =>
      rw [hcall] at hagree
      dsimp only at hagree ⊢
      rw [conclude_requests] at hagree
      have hsecond := hagree [first, second] (List.cons_ne_nil _ _) (List.prefix_refl _)
      rw [hsecond]
      rfl

/-! ## All requests -/

/-- What is read as a URL and passes the check is a web URL with a host that is not empty. -/
theorem admissible_of_passed {targets : TargetPolicy} {text : String}
    (hparse : Url.parse text = .ok url) (hcheck : (checkTarget targets url).value = .ok ()) :
    (url.scheme = "http" ∨ url.scheme = "https") ∧
      (∃ host, url.host? = some host ∧ host.toString ≠ "") ∧ targets.checkUrl url = .ok () := by
  obtain ⟨hscheme, _, hallowed⟩ := checkTarget_eq_ok_iff.1 hcheck
  refine ⟨hscheme, Url.parse_web_host hparse ?_, hallowed⟩
  cases hscheme with
  | inl hscheme =>
    rw [hscheme]
    rfl
  | inr hscheme =>
    rw [hscheme]
    rfl

/-- All that is fetched for a request that is not refused is admissible. -/
theorem CallsFor.admissible {answer : ProxyAnswer} {text : String}
    (hcalls : CallsFor handler request first response answer)
    (hparse : Url.parse text = .ok first.url)
    (hcheck : (checkTarget handler.settings.targets first.url).value = .ok ()) :
    ∀ call ∈ answer.requests,
      (call.url.scheme = "http" ∨ call.url.scheme = "https") ∧
      (∃ host, call.url.host? = some host ∧ host.toString ≠ "") ∧
      handler.settings.targets.checkUrl call.url = .ok () := by
  intro call hcall
  cases hcalls.one_or_two with
  | inl hone =>
    rw [hone, List.mem_singleton] at hcall
    exact hcall ▸ admissible_of_passed hparse hcheck
  | inr htwo =>
    obtain ⟨second, htwo⟩ := htwo
    obtain ⟨fallback, hfallback, hparse'⟩ := hcalls.second_url second htwo
    obtain ⟨other, url, hother, hread, hpassed⟩ := hcalls.two_iff.1 ⟨second, htwo⟩
    obtain rfl := hother.unique hfallback
    obtain rfl := Except.ok.inj (hread.symm.trans hparse')
    rw [htwo] at hcall
    rcases List.mem_cons.1 hcall with rfl | hsecond
    · exact admissible_of_passed hparse hcheck
    · rw [List.mem_singleton.1 hsecond]
      exact admissible_of_passed hread hpassed

/-- A proxy request that is conditional or refused has nothing fetched.  Any other one has the
resource fetched that it names, and after a failure the fallback that it names, if that can be
read and passes the same check.  Whatever is fetched is a web URL with a host that the policy
allows, and the answer depends on nothing else that the pipeline would say. -/
theorem fetch_calls (handler : ProxyHandler) (earlier : List ResourceRequest) (now : Int)
    (request : ProxyRequest) :
    let answer := (handler.fetch earlier now request).value
    (request.headers.contains "if-modified-since" = true →
      answer.requests = [] ∧ answer.result = .ok { status := 304 }) ∧
    (request.headers.contains "if-modified-since" = false → handler.Refuses request →
      answer.requests = [] ∧ ∃ cause, answer.result = .error cause) ∧
    (request.headers.contains "if-modified-since" = false → ¬ handler.Refuses request →
      ∃ text first, request.query.get? Parameter.url = some text ∧
        Url.parse text = .ok first.url ∧
        CallsFor handler request first (handler.pipeline (earlier ++ [first])).value answer) ∧
    (∀ call ∈ answer.requests,
      (call.url.scheme = "http" ∨ call.url.scheme = "https") ∧
      (∃ host, call.url.host? = some host ∧ host.toString ≠ "") ∧
      handler.settings.targets.checkUrl call.url = .ok ()) ∧
    (∀ pipeline : Pipeline,
      (∀ calls, calls ≠ [] → calls <+: answer.requests →
        pipeline (earlier ++ calls) = handler.pipeline (earlier ++ calls)) →
      ({ handler with pipeline }.fetch earlier now request).value = answer) := by
  intro answer
  cases hconditional : request.headers.contains "if-modified-since" with
  | true =>
    have hanswer : answer = ⟨.ok { status := 304 }, []⟩ := fetch_of_conditional hconditional
    rw [hanswer]
    refine ⟨fun _ => ⟨rfl, rfl⟩, by simp, by simp, by simp, fun pipeline _ => ?_⟩
    exact fetch_of_conditional hconditional
  | false =>
    by_cases hrefuses : handler.Refuses request
    · obtain ⟨cause, hvalue⟩ := fetch_of_refused hconditional hrefuses
      have hanswer : answer = ⟨.error cause, []⟩ := hvalue handler.pipeline earlier now
      rw [hanswer]
      refine ⟨by simp, fun _ _ => ⟨rfl, cause, rfl⟩, fun _ haccepted => absurd hrefuses haccepted,
        by simp, fun pipeline _ => hvalue pipeline earlier now⟩
    · obtain ⟨text, directives, first, lifetime, htext, hparse, hcheck, hresource, hvalue⟩ :=
        fetch_of_accepted hconditional hrefuses
      have hanswer : answer = _ := hvalue handler.pipeline earlier now
      have hcalls : CallsFor handler request first _
          (handler.fetchAccepted earlier request directives first lifetime now).value :=
        fetchAccepted_callsFor
      rw [← hresource] at hparse hcheck
      rw [hanswer]
      refine ⟨by simp, fun _ habsurd => absurd habsurd hrefuses,
        fun _ _ => ⟨text, first, htext, hparse, hcalls⟩, ?_, ?_⟩
      · exact hcalls.admissible hparse hcheck
      · intro pipeline hagree
        rw [hvalue]
        exact fetchAccepted_congr hagree

end ProxyHandler

end GadgetGuard
