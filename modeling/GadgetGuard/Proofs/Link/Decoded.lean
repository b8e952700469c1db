import GadgetGuard.Proofs.Link.Proxied
import GadgetGuard.Proofs.Text.Ascii
import GadgetGuard.Proofs.Text.Number
import GadgetGuard.Proofs.Url.Host
import GadgetGuard.Proxy.Handler
/-!
# What the proxy reads from its own links

A link that is routed through the proxy for sanitizing is read by the proxy with the directives
that it was written with.  What someone appends to it changes none of them, as of several values
under one name the first counts, and what stands before them in the path of the endpoint changes
none either as long as it uses none of their names.
-/

namespace GadgetGuard

open GadgetGuard.Text GadgetGuard.Encoding

namespace Link

variable {origin : Origin} {mime link : String} {resource context : Url}

/-- The query of a link, which follows its first question mark. -/
def queryText? (link : String) : Option String :=
  (cut '?' link.toList).2.map String.ofList

theorem queryText?_append {path : String} (query : String) (hpath : '?' ∉ path.toList) :
    queryText? (path ++ "?" ++ query) = some query := by
  have htext : (path ++ "?" ++ query).toList = path.toList ++ '?' :: query.toList := by
    simp
  rw [queryText?, htext, cut_append query.toList hpath, Option.map_some, String.ofList_toList]

/-- A link either has no query or is a path and a query. -/
theorem queryText?_cases (link : String) :
    ('?' ∉ link.toList ∧ queryText? link = none) ∨
      ∃ path query, '?' ∉ path.toList ∧ link = path ++ "?" ++ query := by
  rcases cut_cases '?' link.toList with ⟨hnone, hcut⟩ | ⟨path, query, hpath, hlink, _⟩
  · refine .inl ⟨hnone, ?_⟩
    rw [queryText?, hcut]
    rfl
  · refine .inr ⟨String.ofList path, String.ofList query, ?_, ?_⟩
    · rwa [String.toList_ofList]
    · rw [← String.toList_inj, hlink]
      simp

/-- What a sanitizing link says, in the order in which it is written. -/
def Origin.sanitizingDirectives (origin : Origin) (mime : String) (resource : Url) :
    List (String × String) :=
  origin.directives resource ++ [(Parameter.sanitize, "1"), (Parameter.requiredMime, mime)]

/-- The names that a sanitizing link uses. -/
def Origin.names (origin : Origin) : List String :=
  [Parameter.container, Parameter.gadget, Parameter.fingerprint] ++
    (origin.settings.expires.map fun _ => Parameter.refresh).toList ++
    [Parameter.url, Parameter.sanitize, Parameter.requiredMime]

/-! ## Reading the directives -/

/-- A parameter is read as it was written if its name is plain and its value is written so that
it is read back. -/
theorem formPairs_of_isPlainName {name value : String} (hname : IsPlainName name)
    (hvalue : '&' ∉ value.toList) :
    formPairs (name ++ "=" ++ value) = [(name, formDecode value.toList)] := by
  have hmarks : ∀ c ∈ name.toList, c ≠ '&' ∧ c ≠ '=' := by
    intro c hc
    constructor
    · rintro rfl
      exact hname.not_mem (by decide) hc
    · rintro rfl
      exact hname.not_mem (by decide) hc
  rw [formPairs_part hmarks hvalue,
    formDecode_of_plain (hname.not_mem (by decide)) (hname.not_mem (by decide)),
    String.ofList_toList]

theorem isPlainName_of_mem {name : String}
    (hname : name ∈ directiveNames ++ [Parameter.sanitize, Parameter.requiredMime]) :
    IsPlainName name := by
  have hall : ∀ name ∈ directiveNames ++ [Parameter.sanitize, Parameter.requiredMime],
      name ≠ "" ∧ name.toList.all isNameCharacter = true := by
    decide +kernel
  exact ⟨(hall name hname).1, List.all_eq_true.1 (hall name hname).2⟩

theorem formPairs_directives (origin : Origin) (resource : Url) :
    formPairs ("&".intercalate ((origin.directives resource).map directiveText)) =
      origin.directives resource := by
  rw [formPairs_intercalate, List.flatMap_map]
  have hparts : ∀ directive ∈ origin.directives resource,
      formPairs (directiveText directive) = [directive] := by
    intro directive hdirective
    have hname : IsPlainName directive.1 :=
      isPlainName_of_mem (List.mem_append_left _ (name_mem_of_mem_directives hdirective))
    have hvalue : '&' ∉ (formEncode directive.2).toList :=
      not_mem_formEncode directive.2 (by decide) (by decide) (by decide)
    rw [directiveText, formPairs_of_isPlainName hname hvalue, formDecode_formEncode]
  rw [List.flatMap_congr hparts, List.flatMap_singleton']

/-- The text of the directives of a sanitizing link. -/
def sanitizingText (origin : Origin) (mime : String) (resource : Url) : String :=
  "&".intercalate ((origin.directives resource).map directiveText) ++ "&" ++
    (Parameter.sanitize ++ "=" ++ "1") ++ "&" ++ (Parameter.requiredMime ++ "=" ++ mime)

theorem formPairs_sanitizingText
    (hmime : ∀ c ∈ mime.toList, c ≠ '&' ∧ c ≠ '+' ∧ c ≠ '%') :
    formPairs (sanitizingText origin mime resource) =
      origin.sanitizingDirectives mime resource := by
  have hsanitize : formPairs (Parameter.sanitize ++ "=" ++ "1") = [(Parameter.sanitize, "1")] := by
    rw [formPairs_of_isPlainName (isPlainName_of_mem (by simp)) (by decide),
      formDecode_of_plain (by decide) (by decide), String.ofList_toList]
  have hrequired : formPairs (Parameter.requiredMime ++ "=" ++ mime) =
      [(Parameter.requiredMime, mime)] := by
    rw [formPairs_of_isPlainName (isPlainName_of_mem (by simp)) fun hmem => (hmime _ hmem).1 rfl,
      formDecode_of_plain (fun hmem => (hmime _ hmem).2.1 rfl) fun hmem => (hmime _ hmem).2.2 rfl,
      String.ofList_toList]
  rw [sanitizingText, formPairs_append, formPairs_append, formPairs_directives, hsanitize,
    hrequired, List.append_assoc]
  rfl

/-- The query of a sanitizing link is that of the endpoint, if it has one, and the directives. -/
theorem queryText?_sanitized (suffix : String) :
    queryText? (origin.sanitized mime resource ++ suffix) =
      some (match queryText? origin.settings.proxyBase with
        | some query => query ++ "&" ++ (sanitizingText origin mime resource ++ suffix)
        | none => sanitizingText origin mime resource ++ suffix) := by
  have hlink : origin.sanitized mime resource ++ suffix = origin.settings.proxyBase ++
      (if origin.settings.proxyBase.toList.contains '?' then "&" else "?") ++
      (sanitizingText origin mime resource ++ suffix) := by
    simp only [Origin.sanitized, Origin.proxied, sanitizingText, String.append_assoc]
    rfl
  rw [hlink]
  rcases queryText?_cases origin.settings.proxyBase with
    ⟨hmark, hnone⟩ | ⟨path, query, hpath, hbase⟩
  · have hseparator : origin.settings.proxyBase.toList.contains '?' = false := by
      rwa [List.contains_eq_mem, decide_eq_false_iff_not]
    rw [hnone, hseparator]
    exact queryText?_append _ hmark
  · have hseparator : (path ++ "?" ++ query).toList.contains '?' = true := by
      simp
    have hquery := queryText?_append
      (query ++ "&" ++ (sanitizingText origin mime resource ++ suffix)) hpath
    rw [hbase, hseparator, if_pos rfl, queryText?_append query hpath]
    simpa only [String.append_assoc] using hquery

/-! ## The request for a link -/

/-- Whether the query of the endpoint uses none of the names of the links. -/
def Origin.EndpointIsFree (origin : Origin) : Prop :=
  ∀ query, queryText? origin.settings.proxyBase = some query →
    ∀ parameter ∈ (Query.parse query).parameters, parameter.1 ∉ origin.names

theorem map_sanitizingDirectives (origin : Origin) (mime : String) (resource : Url) :
    (origin.sanitizingDirectives mime resource).map Prod.fst = origin.names := by
  unfold Origin.sanitizingDirectives Origin.directives Origin.names
  cases origin.settings.expires with
  | none => rfl
  | some seconds => rfl

/-- Whatever is appended to a link, its own directives come first under their names. -/
theorem get?_of_sanitized (hmime : ∀ c ∈ mime.toList, c ≠ '&' ∧ c ≠ '+' ∧ c ≠ '%')
    (hfree : origin.EndpointIsFree) {suffix : String}
    (hsuffix : suffix = "" ∨ ∃ extra, suffix = "&" ++ extra) (headers : Headers)
    {name value : String}
    (hvalue : (origin.sanitizingDirectives mime resource).lookup name = some value) :
    (ProxyRequest.of headers
      (queryText? (origin.sanitized mime resource ++ suffix))).query.get? name = some value := by
  have htext : ∃ later, formPairs (sanitizingText origin mime resource ++ suffix) =
      origin.sanitizingDirectives mime resource ++ later := by
    rcases hsuffix with rfl | ⟨extra, rfl⟩
    · exact ⟨[], by rw [String.append_empty, formPairs_sanitizingText hmime, List.append_nil]⟩
    · refine ⟨formPairs extra, ?_⟩
      rw [← String.append_assoc, formPairs_append, formPairs_sanitizingText hmime]
  obtain ⟨later, hlater⟩ := htext
  have hown : (formPairs (sanitizingText origin mime resource ++ suffix)).lookup name =
      some value := by
    rw [hlater, List.lookup_append, hvalue]
    rfl
  have hname : name ∈ origin.names := by
    obtain ⟨before, after, hsplit, _⟩ := List.lookup_eq_some_iff.1 hvalue
    rw [← map_sanitizingDirectives origin mime resource, hsplit]
    simp
  rw [queryText?_sanitized, ProxyRequest.of, Query.get?]
  dsimp only [Query.parse]
  cases hquery : queryText? origin.settings.proxyBase with
  | none => exact hown
  | some query =>
    have habsent : (formPairs query).lookup name = none := by
      rw [List.lookup_eq_none_iff]
      intro parameter hparameter
      rw [bne_iff_ne]
      rintro rfl
      exact hfree query hquery parameter hparameter hname
    rw [formPairs_append, List.lookup_append, habsent, Option.none_or]
    exact hown

theorem lookup_sanitizingDirectives (origin : Origin) (mime : String) (resource : Url) :
    let directives := origin.sanitizingDirectives mime resource
    directives.lookup Parameter.container = some origin.container ∧
    directives.lookup Parameter.gadget = some origin.gadget.toString ∧
    directives.lookup Parameter.fingerprint = some origin.settings.fingerprint ∧
    directives.lookup Parameter.refresh = origin.settings.expires.map Nat.repr ∧
    directives.lookup Parameter.url = some resource.toString ∧
    directives.lookup Parameter.sanitize = some "1" ∧
    directives.lookup Parameter.requiredMime = some mime := by
  unfold Origin.sanitizingDirectives Origin.directives
  cases origin.settings.expires with
  | none => exact ⟨rfl, rfl, rfl, rfl, rfl, rfl, rfl⟩
  | some seconds => exact ⟨rfl, rfl, rfl, rfl, rfl, rfl, rfl⟩

/-- A link that is not well formed is replaced, and no other one. -/
theorem sanitizing_eq_placeholder_iff :
    (sanitizing origin mime link context).value = placeholder ↔
      ∃ cause, Link.resource link context = .error cause := by
  rw [sanitizing]
  cases Link.resource link context with
  | error cause => simp
  | ok resource =>
    have hmark : '&' ∈ (origin.sanitized mime resource).toList := by
      simp [Origin.sanitized]
    have hne : origin.sanitized mime resource ≠ placeholder := by
      intro heq
      rw [heq] at hmark
      revert hmark
      decide
    simp [hne]

theorem resource_eq_error_iff :
    (∃ cause, Link.resource link context = .error cause) ↔
      (∃ cause, UriReference.parse link = .error cause) ∨
        ∃ reference cause, UriReference.parse link = .ok reference ∧
          reference.resolve context = .error cause := by
  rw [Link.resource]
  cases UriReference.parse link with
  | error cause => simp [bind, Except.bind]
  | ok reference => simp [bind, Except.bind]

/-- What the proxy does for a query that names a resource that can be read. -/
theorem ofQuery_eq_ok {query : Query} {deployed : Option String} {text : String}
    (hurl : query.get? Parameter.url = some text) (hparse : Url.parse text = .ok resource) :
    Directives.ofQuery query deployed = .ok
      { resource
        container := (query.nonEmpty? Parameter.container).getD Parameter.defaultContainer
        gadget := query.get? Parameter.gadget
        refresh := query.get? Parameter.refresh
        version := Directives.versionStatus deployed (query.nonEmpty? Parameter.version) } := by
  have hne : text ≠ "" := by
    rintro rfl
    contradiction
  have hnonEmpty : query.nonEmpty? Parameter.url = some text := by
    simp [Query.nonEmpty?, hurl, hne]
  rw [Directives.ofQuery, hnonEmpty]
  dsimp only
  rw [hparse]

/-- A link that is routed for sanitizing is the placeholder exactly if it is not well formed.
Otherwise the proxy reads from it, with anything appended, the directives that were written:
resource, gadget, container, fingerprint, sanitizing and media type.  If the text of the resource
is read as that resource, the proxy fetches it for the container, and keeps it as long as the
link says. -/
theorem sanitizing_reads_back (origin : Origin) (mime link : String) (context : Url)
    (hmime : ∀ c ∈ mime.toList, c ≠ '&' ∧ c ≠ '+' ∧ c ≠ '%')
    (hexpires : ∀ seconds, origin.settings.expires = some seconds → seconds ≤ maxNatural)
    (hfree : origin.EndpointIsFree) :
    let routed := (sanitizing origin mime link context).value
    (routed = placeholder ↔
      (∃ cause, UriReference.parse link = .error cause) ∨
        ∃ reference cause, UriReference.parse link = .ok reference ∧
          reference.resolve context = .error cause) ∧
    ∀ reference resource, UriReference.parse link = .ok reference →
      reference.resolve context = .ok resource →
      ∀ suffix headers, (suffix = "" ∨ ∃ extra, suffix = "&" ++ extra) →
        let query := (ProxyRequest.of headers (queryText? (routed ++ suffix))).query
        query.get? Parameter.url = some resource.toString ∧
        query.get? Parameter.gadget = some origin.gadget.toString ∧
        query.get? Parameter.container = some origin.container ∧
        query.get? Parameter.fingerprint = some origin.settings.fingerprint ∧
        query.get? Parameter.sanitize = some "1" ∧
        query.get? Parameter.requiredMime = some mime ∧
        (Url.parse resource.toString = .ok resource → ∀ deployed, ∃ directives,
          Directives.ofQuery query deployed = .ok directives ∧
          directives.resource = resource ∧
          directives.container =
            (if origin.container = "" then Parameter.defaultContainer else origin.container) ∧
          ∀ seconds, origin.settings.expires = some seconds →
            ∀ long usual, directives.lifetime long usual = .ok seconds) := by
  intro routed
  refine ⟨sanitizing_eq_placeholder_iff.trans resource_eq_error_iff, ?_⟩
  intro reference resource hparse hresolve suffix headers hsuffix query
  have hrouted : routed = origin.sanitized mime resource := by
    have hresource : Link.resource link context = .ok resource := by
      rw [Link.resource, hparse]
      exact hresolve
    change (sanitizing origin mime link context).value = _
    rw [sanitizing, hresource]
    rfl
  obtain ⟨hcontainer, hgadget, hfingerprint, hrefresh, hurl, hsanitize, hrequired⟩ :=
    lookup_sanitizingDirectives origin mime resource
  have hget : ∀ {name value},
      (origin.sanitizingDirectives mime resource).lookup name = some value →
      query.get? name = some value := by
    intro name value hvalue
    change (ProxyRequest.of headers (queryText? (routed ++ suffix))).query.get? name = _
    rw [hrouted]
    exact get?_of_sanitized hmime hfree hsuffix headers hvalue
  refine ⟨hget hurl, hget hgadget, hget hcontainer, hget hfingerprint, hget hsanitize,
    hget hrequired, ?_⟩
  intro hread deployed
  refine ⟨_, ofQuery_eq_ok (hget hurl) hread, rfl, ?_, ?_⟩
  · rw [Query.nonEmpty?, hget hcontainer]
    by_cases hempty : origin.container = ""
    · simp [hempty, Option.filter_some]
    · simp [hempty, Option.filter_some]
  · intro seconds hseconds long usual
    rw [hseconds, Option.map_some] at hrefresh
    rw [Directives.lifetime, hget hrefresh]
    dsimp only
    rw [trimBlanks_repr, natural?_repr (hexpires seconds hseconds)]

theorem sanitizing_reads_back_appended :
    ∃ (origin : Origin) (context resource : Url),
      origin.settings.proxyBase = "/gadgets/proxy?lang=en" ∧
      origin.settings.expires = some 3600 ∧
      Url.parse "https://[2001:db8::7]/dir/page.html" = .ok context ∧
      resource.toString = "https://[2001:db8::7]/dir/a.png" ∧
      let query := (ProxyRequest.of Headers.empty (queryText?
        ((sanitizing origin "image/*" "a.png" context).value ++ "&sanitize=0&refresh=1"))).query
      query.get? Parameter.url = some resource.toString ∧
      query.get? Parameter.sanitize = some "1" ∧
      ∃ directives, Directives.ofQuery query none = .ok directives ∧
        directives.container = "default" ∧ directives.lifetime 0 0 = .ok 3600 := by
  obtain ⟨context, hcontext, hjoin⟩ : ∃ context,
      Url.parse "https://[2001:db8::7]/dir/page.html" = .ok context ∧
        ((UriReference.resolve ⟨"a.png", none⟩ context).toOption.map fun resource : Url =>
          (resource.toString == "https://[2001:db8::7]/dir/a.png" &&
            (Url.parse resource.toString).toOption == some resource)) = some true :=
    Except.exists_of_toOption_map (by decide +kernel)
  obtain ⟨resource, hresolve, hresource⟩ := Except.exists_of_toOption_map hjoin
  rw [Bool.and_eq_true, beq_iff_eq, beq_iff_eq] at hresource
  obtain ⟨reference, hparse, hreference⟩ : ∃ reference,
      UriReference.parse "a.png" = .ok reference ∧ reference = ⟨"a.png", none⟩ :=
    Except.exists_of_toOption_map (f := id) (by decide +kernel)
  obtain ⟨_, hread, rfl⟩ : ∃ again, Url.parse resource.toString = .ok again ∧ again = resource := by
    apply Except.exists_of_toOption_map (f := id)
    rw [hresource.2]
    rfl
  let origin : Origin :=
    { gadget := context
      container := ""
      settings := { proxyBase := "/gadgets/proxy?lang=en", expires := some 3600 } }
  have hpair : formPairs ("lang" ++ "=" ++ "en") = [("lang", "en")] := by
    have hname : IsPlainName "lang" := ⟨by decide, List.all_eq_true.1 (by decide +kernel)⟩
    rw [formPairs_of_isPlainName hname (by decide), formDecode_of_plain (by decide) (by decide),
      String.ofList_toList]
  have hfree : origin.EndpointIsFree := by
    have hbase : "/gadgets/proxy?lang=en" = "/gadgets/proxy" ++ "?" ++ ("lang" ++ "=" ++ "en") := by
      decide +kernel
    intro query hquery
    dsimp only [origin] at hquery
    rw [hbase, queryText?_append _ (by decide), Option.some.injEq] at hquery
    obtain rfl := hquery
    dsimp only [Query.parse]
    rw [hpair]
    have hnames : "lang" ∉ origin.names := by
      change "lang" ∉ directiveNames ++ [Parameter.sanitize, Parameter.requiredMime]
      decide
    simpa using hnames
  have hmime : ∀ c ∈ "image/*".toList, c ≠ '&' ∧ c ≠ '+' ∧ c ≠ '%' := by
    simp
  obtain ⟨-, hwritten⟩ := sanitizing_reads_back origin "image/*" "a.png" context hmime
    (by simp [origin, maxNatural]) hfree
  obtain ⟨hurl, -, -, -, hsanitize, -, hdirectives⟩ := hwritten reference _ hparse
    (hreference ▸ hresolve) "&sanitize=0&refresh=1" Headers.empty
    (.inr ⟨"sanitize=0&refresh=1", by decide +kernel⟩)
  obtain ⟨directives, hquery, -, hcontainer, hlifetime⟩ := hdirectives hread none
  exact ⟨origin, context, _, rfl, rfl, hcontext, hresource.1, hurl, hsanitize, directives,
    hquery, hcontainer, hlifetime 3600 rfl 0 0⟩

end Link

end GadgetGuard
