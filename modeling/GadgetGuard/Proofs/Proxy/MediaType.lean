import GadgetGuard.Proofs.Proxy.Disclosed
/-!
# The media type of an answer

A request may require the type as which a resource is served.  The answer then has that type, or
the bare name of the family that is required, unless the response states a type of its own that
begins like the family.  In that case everything that the response says about its type is passed
on as it is, and the requirement is only met if that is a single type of the family itself.
-/

namespace GadgetGuard

open GadgetGuard.Text

/-- The family of a media type, which is its part before the slash. -/
def mediaFamily (mime : String) : String :=
  String.ofList (mime.toList.takeWhile (· != '/'))

/-- Whether the types of an answer are a single one, and that one the required type, the bare
family that is required, or a type of that family which the response has of its own. -/
def ServesAs (required : String) (own types : List Bytes) : Prop :=
  ∃ value, types = [value] ∧
    (value = encodeUtf8 required.toList ∨
      ∃ family, required = family ++ "/*" ∧
        (value = encodeUtf8 family.toList ∨
          value ∈ own ∧ ∃ text, Header.valueText? value = some text ∧
            lower (mediaFamily text) = lower family))

/-- A guard that never touches the header fields of what it lets pass. -/
def ResponseGuard.KeepsHeaders (guard : ResponseGuard) : Prop :=
  ∀ request response sanitized, (guard request response).value = .ok sanitized →
    sanitized.headers = response.headers

theorem ResponseGuard.keepsHeaders_sanitizing (styles : StyleSanitizer) (links : Link.Settings) :
    (sanitizing styles links).KeepsHeaders := by
  intro request response sanitized hvalue
  cases hsanitize : request.sanitize with
  | true =>
    rw [sanitizing_value hsanitize] at hvalue
    cases hbody : sanitizedBody styles links request response.body with
    | error cause =>
      rw [hbody] at hvalue
      contradiction
    | ok body =>
      rw [hbody] at hvalue
      rw [← Except.ok.inj hvalue]
  | false =>
    have huntouched : (sanitizing styles links request response).value = .ok response := by
      rw [sanitizing, hsanitize]
      rfl
    rw [huntouched] at hvalue
    rw [Except.ok.inj hvalue]

theorem Header.eq_encodeUtf8_of_valueOfText? {text : String} {value : Bytes}
    (hvalue : valueOfText? text = some value) : value = encodeUtf8 text.toList := by
  rw [valueOfText?, value?] at hvalue
  split at hvalue
  · exact (Option.some.inj hvalue).symm
  · contradiction

namespace Headers

/-- The text of a field is that of its first value. -/
theorem getAll_of_text? {headers : Headers} {name text : String}
    (htext : headers.text? name = some text) :
    ∃ value others, headers.getAll name = value :: others ∧
      Header.valueText? value = some text := by
  obtain ⟨value, hvalue, hread⟩ := Option.bind_eq_some_iff.1 htext
  rw [get?_eq_head?] at hvalue
  obtain ⟨others, hvalues⟩ := List.head?_eq_some_iff.1 hvalue
  exact ⟨value, others, hvalues, hread⟩

end Headers

namespace ProxyHandler

variable {handler : ProxyHandler} {settings : ProxySettings} {first : ResourceRequest}
variable {response other sanitized : Response} {lifetime : Nat} {now : Int}
variable {required mime type : String}

/-! ## The type that replaces that of a response -/

/-- A required family ends in a slash and a star; anything else is required as it is. -/
theorem requiredType?_cases (required : String) :
    (∃ family, required = family ++ "/*" ∧ ∀ type, requiredType? required type =
      if type.isEmpty then some required
      else if hasBeginning (lower family) (lower type) then none else some family) ∨
    ∀ type, requiredType? required type = some required := by
  cases hreversed : required.toList.reverse with
  | nil =>
    refine .inr fun type => ?_
    rw [requiredType?, hreversed]
  | cons last reversed =>
    by_cases hfamily : ∃ rest, last = '*' ∧ reversed = '/' :: rest
    · obtain ⟨rest, rfl, rfl⟩ := hfamily
      refine .inl ⟨String.ofList rest.reverse, ?_, fun type => ?_⟩
      · rw [← String.toList_inj, String.toList_append, String.toList_ofList]
        calc
          required.toList = required.toList.reverse.reverse := (List.reverse_reverse _).symm
          _ = rest.reverse ++ "/*".toList := by
            rw [hreversed, List.reverse_cons, List.reverse_cons, List.append_assoc]
            rfl
      · rw [requiredType?, hreversed]
        rfl
    · refine .inr fun type => ?_
      rw [requiredType?, hreversed]
      split
      next rest hsplit =>
        rw [List.cons.injEq] at hsplit
        exact absurd ⟨rest, hsplit⟩ hfamily
      · rfl

theorem eq_or_eq_of_requiredType? (htype : requiredType? required type = some mime) :
    mime = required ∨ required = mime ++ "/*" := by
  rcases requiredType?_cases required with ⟨family, hfamily, hvalue⟩ | hvalue
  · rw [hvalue] at htype
    split at htype
    · exact .inl (Option.some.inj htype).symm
    · split at htype
      · contradiction
      · exact .inr (Option.some.inj htype ▸ hfamily)
  · rw [hvalue] at htype
    exact .inl (Option.some.inj htype).symm

theorem exists_family_of_requiredType? (htype : requiredType? required type = none) :
    ∃ family, required = family ++ "/*" ∧ type ≠ "" ∧
      hasBeginning (lower family) (lower type) = true := by
  rcases requiredType?_cases required with ⟨family, hfamily, hvalue⟩ | hvalue
  · rw [hvalue] at htype
    split at htype
    · contradiction
    next hne =>
      split at htype
      next hbegins => exact ⟨family, hfamily, fun hempty => hne (by rw [hempty]; rfl), hbegins⟩
      · contradiction
  · rw [hvalue] at htype
    contradiction

/-! ## The types of an answer -/

/-- What a response says about its type, as far as it is passed on. -/
def passedTypes (settings : ProxySettings) (response : Response) : List Bytes :=
  if settings.disallowed.contains "content-type" then []
  else response.headers.getAll "content-type"

theorem getAll_type_projectHeaders :
    (projectHeaders settings response.headers
      (Headers.empty.withLifetime lifetime now)).getAll "content-type" =
        passedTypes settings response := by
  have hfresh : (Headers.empty.withLifetime lifetime now).getAll "content-type" = [] := by
    rw [Headers.getAll_withLifetime (by decide) (by decide) (by decide), Headers.getAll_empty]
  rw [getAll_projectHeaders (by decide), hfresh, List.nil_append, passedTypes]

/-- The types of an answer are the one that replaces those of the response, or else those that
are passed on. -/
theorem getAll_type_of_present (hrequired : first.requiredMime = some required)
    (hne : required ≠ "") (hpresent : present settings first lifetime now response = .ok other) :
    other.headers.getAll "content-type" =
      match requiredType? required (response.contentType?.getD "") with
      | some mime => [encodeUtf8 mime.toList]
      | none => passedTypes settings response := by
  obtain ⟨headers, htyped, hother⟩ := Except.bind_eq_ok_iff.1 hpresent
  obtain rfl := Except.ok.inj hother
  dsimp only
  rw [Headers.getAll_insert_of_ne (by decide), Headers.getAll_insert_of_ne (by decide)]
  have hstated : (some required).filter (! ·.isEmpty) = some required := by
    rw [Option.filter_some, if_pos]
    rwa [Bool.not_eq_true', ← Bool.not_eq_true, String.isEmpty_iff]
  rw [withRequiredType, hrequired, hstated] at htyped
  dsimp only at htyped
  cases htype : requiredType? required (response.contentType?.getD "") with
  | none =>
    rw [htype] at htyped
    rw [← Except.ok.inj htyped, getAll_type_projectHeaders]
  | some mime =>
    rw [htype] at htyped
    dsimp only at htyped
    cases hvalue : Header.valueOfText? mime with
    | none =>
      rw [hvalue] at htyped
      contradiction
    | some value =>
      rw [hvalue] at htyped
      rw [← Except.ok.inj htyped, Headers.getAll_insert_self,
        Header.eq_encodeUtf8_of_valueOfText? hvalue]

theorem headers_of_guarded
    (hkeeps : ∀ guard, handler.responseGuard = some guard → guard.KeepsHeaders)
    (hguarded : (handler.guarded first response).value = .ok sanitized) :
    sanitized.headers = response.headers := by
  cases hguard : handler.responseGuard with
  | none =>
    have huntouched : (handler.guarded first response).value = .ok response := by
      rw [guarded, hguard]
      rfl
    rw [huntouched] at hguarded
    rw [Except.ok.inj hguarded]
  | some guard =>
    exact hkeeps guard hguard first response sanitized (guard_eq_ok_of_guarded hguard hguarded)

/-- A single type that is passed on meets the requirement if it is of the required family. -/
theorem servesAs_passedTypes {text family : String} (hfamily : required = family ++ "/*")
    (htext : response.contentType? = some text)
    (hpassed : settings.disallowed.contains "content-type" = false)
    (hsingle : (response.headers.getAll "content-type").length ≤ 1)
    (hmatches : lower (mediaFamily text) = lower family) :
    ServesAs required (response.headers.getAll "content-type") (passedTypes settings response) := by
  obtain ⟨value, others, hvalues, hread⟩ := Headers.getAll_of_text? htext
  rw [hvalues, List.length_cons] at hsingle
  obtain rfl : others = [] := List.eq_nil_of_length_eq_zero (by omega)
  rw [passedTypes, hpassed, if_neg Bool.false_ne_true, hvalues]
  exact ⟨value, rfl, .inr ⟨family, hfamily, .inr ⟨List.mem_singleton_self value, text, hread,
    hmatches⟩⟩⟩

/-- An answer with a resource has the required type, or the bare family that is required, or all
types that are passed on from a response whose own type begins like that family.  The requirement
is met if what is passed on is a single type, and if only a type of the family begins like it. -/
theorem fetch_answers_as_required (handler : ProxyHandler) (earlier : List ResourceRequest)
    (now : Int) (request : ProxyRequest) (required : String)
    (hconditional : request.headers.contains "if-modified-since" = false)
    (hrequired : request.query.get? Parameter.requiredMime = some required) (hne : required ≠ "")
    (response : Response)
    (hresult : (handler.fetch earlier now request).value.result = .ok response) :
    let answer := (handler.fetch earlier now request).value
    let fetched := (handler.pipeline (earlier ++ answer.requests)).value
    let types := response.headers.getAll "content-type"
    ∃ first sanitized, answer.requests.head? = some first ∧
      (handler.guarded first fetched).value = .ok sanitized ∧
      ((∀ guard, handler.responseGuard = some guard → guard.KeepsHeaders) →
        sanitized.headers = fetched.headers) ∧
      (types = [encodeUtf8 required.toList] ∨
        ∃ family, required = family ++ "/*" ∧
          (types = [encodeUtf8 family.toList] ∨
            ∃ text, sanitized.contentType? = some text ∧
              hasBeginning (lower family) (lower text) = true ∧
              types = passedTypes handler.settings sanitized)) ∧
      (handler.settings.disallowed.contains "content-type" = false →
        (sanitized.headers.getAll "content-type").length ≤ 1 →
        (∀ family text, required = family ++ "/*" → sanitized.contentType? = some text →
          hasBeginning (lower family) (lower text) = true →
          lower (mediaFamily text) = lower family) →
        ServesAs required (sanitized.headers.getAll "content-type") types) := by
  intro answer fetched types
  obtain ⟨first, lifetime, sanitized, hhead, hmime, -, hguarded, hpresent⟩ :=
    fetch_eq_ok hconditional hresult
  have htypes : types = _ := getAll_type_of_present (hmime.trans hrequired) hne hpresent
  refine ⟨first, sanitized, hhead, hguarded, fun hkeeps => headers_of_guarded hkeeps hguarded, ?_⟩
  cases htype : requiredType? required (sanitized.contentType?.getD "") with
  | some mime =>
    rw [htype] at htypes
    rcases eq_or_eq_of_requiredType? htype with rfl | hfamily
    · exact ⟨.inl htypes, fun _ _ _ => ⟨_, htypes, .inl rfl⟩⟩
    · exact ⟨.inr ⟨mime, hfamily, .inl htypes⟩,
        fun _ _ _ => ⟨_, htypes, .inr ⟨mime, hfamily, .inl rfl⟩⟩⟩
  | none =>
    rw [htype] at htypes
    obtain ⟨family, hfamily, hstated, hbegins⟩ := exists_family_of_requiredType? htype
    obtain ⟨text, htext⟩ : ∃ text, sanitized.contentType? = some text := by
      cases htext : sanitized.contentType? with
      | none =>
        rw [htext] at hstated
        exact absurd rfl hstated
      | some text => exact ⟨text, rfl⟩
    rw [htext, Option.getD_some] at hbegins
    refine ⟨.inr ⟨family, hfamily, .inr ⟨text, htext, hbegins, htypes⟩⟩, ?_⟩
    intro hpassed hsingle hlikeness
    rw [htypes]
    exact servesAs_passedTypes hfamily htext hpassed hsingle
      (hlikeness family text hfamily htext hbegins)

/-- A handler for which every resource states these types. -/
def stating (types : List String) : ProxyHandler :=
  { settings := {}
    lockedDomain := .disabled
    responseGuard := none
    pipeline := fun _ => pure
      { status := 200
        headers := ⟨types.map fun type => ("content-type", Header.asciiValue type)⟩ } }

/-- A request for some image. -/
def imageRequest : ProxyRequest :=
  ⟨Headers.empty, ⟨[("url", "https://[2606:4700::1111]/a.png"), ("rewriteMime", "image/*")]⟩⟩

theorem fetch_answers_as_required_family :
    ∃ response, ((stating ["IMAGE/png"]).fetch [] 0 imageRequest).value.result = .ok response ∧
      ServesAs "image/*" [Header.asciiValue "IMAGE/png"]
        (response.headers.getAll "content-type") := by
  obtain ⟨response, hresult, -⟩ : ∃ response,
      ((stating ["IMAGE/png"]).fetch [] 0 imageRequest).value.result = .ok response ∧
        response.status = 200 :=
    Except.exists_of_toOption_map (by decide +kernel)
  obtain ⟨first, sanitized, -, -, hkeeps, -, hmeets⟩ := fetch_answers_as_required
    (stating ["IMAGE/png"]) [] 0 imageRequest "image/*" rfl rfl (by decide) response hresult
  have hfetched : ∀ calls, ((stating ["IMAGE/png"]).pipeline calls).value.headers =
      ⟨[("content-type", Header.asciiValue "IMAGE/png")]⟩ := fun _ => rfl
  have hheaders := (hkeeps fun guard hguard => nomatch hguard).trans (hfetched _)
  have hstated : sanitized.headers.getAll "content-type" = [Header.asciiValue "IMAGE/png"] := by
    rw [hheaders]
    rfl
  have htext : sanitized.contentType? = some "IMAGE/png" := by
    rw [Response.contentType?, hheaders]
    decide +kernel
  rw [hstated] at hmeets
  refine ⟨response, hresult, hmeets rfl (Nat.le_refl 1) ?_⟩
  intro family text hfamily hother _
  obtain rfl : "image" = family := (String.append_left_inj "/*").1 hfamily
  obtain rfl : "IMAGE/png" = text := Option.some.inj (htext.symm.trans hother)
  cbv

/-- A type that only begins like the required family is served, and so are several types if the
first one is of the family. -/
theorem fetch_passes_types_on :
    (∃ response, ((stating ["imagex/png"]).fetch [] 0 imageRequest).value.result = .ok response ∧
      response.headers.getAll "content-type" = [Header.asciiValue "imagex/png"] ∧
      ¬ ServesAs "image/*" [Header.asciiValue "imagex/png"]
        (response.headers.getAll "content-type")) ∧
    ∃ response, ((stating ["image/png", "text/html"]).fetch [] 0 imageRequest).value.result =
        .ok response ∧
      response.headers.getAll "content-type" =
        [Header.asciiValue "image/png", Header.asciiValue "text/html"] := by
  constructor
  · obtain ⟨response, hresult, htypes⟩ : ∃ response,
        ((stating ["imagex/png"]).fetch [] 0 imageRequest).value.result = .ok response ∧
          response.headers.getAll "content-type" = [Header.asciiValue "imagex/png"] :=
      Except.exists_of_toOption_map (by decide +kernel)
    refine ⟨response, hresult, htypes, ?_⟩
    rw [htypes]
    rintro ⟨value, hvalue, hcases⟩
    obtain rfl := List.head_eq_of_cons_eq hvalue
    rcases hcases with hexact | ⟨family, hfamily, hbare | ⟨-, text, htext, hmatches⟩⟩
    · exact absurd hexact (by decide +kernel)
    · obtain rfl : "image" = family := (String.append_left_inj "/*").1 hfamily
      exact absurd hbare (by decide +kernel)
    · obtain rfl : "image" = family := (String.append_left_inj "/*").1 hfamily
      have hread : Header.valueText? (Header.asciiValue "imagex/png") = some "imagex/png" := by
        decide +kernel
      obtain rfl := Option.some.inj (hread.symm.trans htext)
      exact absurd hmatches (by decide +kernel)
  · exact Except.exists_of_toOption_map (by decide +kernel)

end ProxyHandler

end GadgetGuard
