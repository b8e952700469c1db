import GadgetGuard.Proofs.Document.Name
import GadgetGuard.Proofs.Gadget.Attribute
import GadgetGuard.Proofs.Gadget.Step
import GadgetGuard.Proofs.Url.Scheme
/-!
# Safe attributes

An attribute is admitted if its name is allowed and, where the name is that of a link, its value
is a well-formed reference to the web or one without a scheme.  The filter judges the attributes
that an element had at first while it edits those that are left, and with repeated names the two
drift apart.  All the same every attribute that is left is one that was admitted, or it holds what
the router for images made of one.  Where all names are different each verdict only touches its
own attribute, so the admitted attributes are left in their order.
-/

namespace GadgetGuard

open GadgetGuard.Text

/-- The names of attributes that hold links, in any case. -/
def namesLink (name : String) : Bool :=
  lower name == "href" || lower name == "src"

/-- A well-formed reference to the web, or to where a reference without a scheme leads. -/
def isSafeLink (value : String) : Bool :=
  match UriReference.parse value with
  | .ok reference => [none, some "http", some "https"].contains reference.scheme
  | .error _ => false

namespace Policy

/-- The policies that can be made: one for given names, and one that sends the links of one more
attribute through the proxy. -/
inductive IsMade : Policy → Prop
  | of (tags attributes : List String) : IsMade (Policy.of tags attributes)
  | withProxied {policy : Policy} (hpolicy : IsMade policy) (tag attributeName : String) :
      IsMade (policy.withProxied tag attributeName)

theorem IsMade.isLinkAttribute {policy : Policy} (hpolicy : policy.IsMade) (name : String) :
    policy.isLinkAttribute name = namesLink name := by
  have hlinks : policy.linkAttributes = ["href", "src"] := by
    induction hpolicy with
    | of => rfl
    | withProxied _ _ _ ih => exact ih
  rw [Policy.isLinkAttribute, hlinks, namesLink, List.contains_cons, List.contains_cons,
    List.contains_nil, Bool.or_false]

end Policy

theorem isSafeLink_of_parse {value : String} {reference : UriReference}
    (hparse : UriReference.parse value = .ok reference) :
    isSafeLink value = Policy.allowsScheme reference.scheme := by
  rw [isSafeLink, hparse, Bool.eq_iff_iff, List.contains_iff_mem]
  constructor
  · intro hscheme
    simp only [List.mem_cons, List.not_mem_nil, or_false] at hscheme
    rcases hscheme with hnone | hhttp | hhttps
    · rw [hnone]
      rfl
    · rw [hhttp]
      decide +kernel
    · rw [hhttps]
      decide +kernel
  · intro hallowed
    simpa using UriReference.scheme_of_allowed hparse hallowed

namespace Sanitizer

variable {sanitizer : Sanitizer} {a b : Attribute} {tag name value : String}
variable {kept later judged attributes : List Attribute}

/-- An attribute that may stay. -/
def admits (sanitizer : Sanitizer) (a : Attribute) : Bool :=
  sanitizer.policy.allowsAttribute a.name && (!namesLink a.name || isSafeLink a.value)

/-- An attribute of an element with its link sent through the proxy if the policy wants so. -/
def routed (sanitizer : Sanitizer) (tag : String) (a : Attribute) : Attribute :=
  if namesLink a.name && sanitizer.policy.isProxied tag a.name then
    { a with value := (sanitizer.imageLinks a.value sanitizer.context).value }
  else a

theorem judge_value (hpolicy : sanitizer.policy.IsMade) (tag : String) (a : Attribute) :
    (sanitizer.judge tag a).value =
      if sanitizer.admits a then
        if namesLink a.name && sanitizer.policy.isProxied tag a.name then
          .replace (sanitizer.imageLinks a.value sanitizer.context).value
        else .keep
      else .drop := by
  rw [judge, hpolicy.isLinkAttribute, admits]
  cases sanitizer.policy.allowsAttribute a.name with
  | false => rfl
  | true =>
    cases namesLink a.name with
    | false => rfl
    | true =>
      cases hparse : UriReference.parse a.value with
      | error cause =>
        have hbad : isSafeLink a.value = false := by rw [isSafeLink, hparse]
        rw [hbad]
        rfl
      | ok reference =>
        obtain ⟨hraw, -⟩ := UriReference.parse_eq_ok hparse
        rw [isSafeLink_of_parse hparse, ← hraw]
        dsimp only
        cases Policy.allowsScheme reference.scheme with
        | false => rfl
        | true =>
          cases sanitizer.policy.isProxied tag a.name with
          | false => rfl
          | true => rfl

/-- Of every attribute that stays the value was admitted under the same name, or it is what the
router made of such a value. -/
theorem exists_admitted_of_mem (hpolicy : sanitizer.policy.IsMade)
    (hb : b ∈ sanitizer.filteredAttributes tag attributes) :
    ∃ a ∈ attributes, lower a.name = lower b.name ∧ sanitizer.admits a = true ∧
      (b.value = a.value ∨ namesLink b.name = true ∧ sanitizer.policy.isProxied tag b.name = true ∧
        b.value = (sanitizer.imageLinks a.value sanitizer.context).value) := by
  rcases mem_filteredAttributes hb with ⟨hmem, hstays⟩ | ⟨a, hmem, value, hverdict, rfl⟩
  · refine ⟨b, hmem, rfl, ?_, .inl rfl⟩
    rw [judge_value hpolicy] at hstays
    by_contra hrefused
    exact hstays (if_neg hrefused)
  · rw [judge_value hpolicy] at hverdict
    split at hverdict
    next hadmits =>
      split at hverdict
      next hlink =>
        obtain ⟨hlink, hproxied⟩ := Bool.and_eq_true_iff.1 hlink
        refine ⟨a, hmem, (lower_lower a.name).symm, hadmits, .inr ⟨?_, ?_, ?_⟩⟩
        · rw [namesLink, lower_lower, ← namesLink, hlink]
        · rw [Policy.isProxied_lower, hproxied]
        · exact (Verdict.replace.inj hverdict).symm
      · contradiction
    · contradiction

/-! ## Different names -/

/-- What a verdict leaves of the attribute that it is about. -/
def Verdict.left (a : Attribute) : Verdict → List Attribute
  | keep => [a]
  | drop => []
  | replace value => [{ a with value }]

theorem Verdict.names_left_sublist (verdict : Verdict) (a : Attribute) :
    ((verdict.left a).map Attribute.name).Sublist [a.name] := by
  cases verdict with
  | keep => exact List.Sublist.refl _
  | drop => exact List.nil_sublist _
  | replace value => exact List.Sublist.refl _

theorem setIn_append (hname : name ∉ kept.map Attribute.name) (value : String) :
    Document.setIn name value (kept ++ attributes) =
      kept ++ Document.setIn name value attributes := by
  induction kept with
  | nil => rfl
  | cons first rest ih =>
    rw [List.map_cons, List.mem_cons, not_or] at hname
    rw [List.cons_append, Document.setIn, if_neg (Ne.symm hname.1), ih hname.2, List.cons_append]

theorem filter_eq_self_of_not_named (hlower : HasLowerNames (a :: attributes))
    (hname : a.name ∉ attributes.map Attribute.name) :
    (attributes.filter fun b => !equalIgnoringCase b.name a.name) = attributes := by
  obtain ⟨hown, hothers⟩ := List.forall_mem_cons.1 hlower
  refine List.filter_eq_self.2 fun b hb => ?_
  rw [equalIgnoringCase, hothers b hb, hown, Bool.not_eq_true', beq_eq_false_iff_ne]
  intro hsame
  exact hname (hsame ▸ List.mem_map_of_mem hb)

/-- Where all names are different a verdict only touches its own attribute. -/
theorem Verdict.applied_of_nodup (verdict : Verdict) (hlower : HasLowerNames (kept ++ a :: later))
    (hnodup : ((kept ++ a :: later).map Attribute.name).Nodup) :
    verdict.applied a.name (kept ++ a :: later) = kept ++ verdict.left a ++ later := by
  rw [List.map_append, List.map_cons, List.nodup_middle, List.nodup_cons, ← List.map_append]
    at hnodup
  obtain ⟨hname, -⟩ := hnodup
  have hown : lower a.name = a.name := hlower a (List.mem_append_right _ List.mem_cons_self)
  cases verdict with
  | keep => rw [applied, left, List.append_assoc, List.singleton_append]
  | drop =>
    have hothers : HasLowerNames (a :: (kept ++ later)) :=
      fun b hb => hlower b (List.perm_middle.mem_iff.2 hb)
    rw [applied, left, List.append_nil, List.filter_append, List.filter_cons_of_neg,
      ← List.filter_append, filter_eq_self_of_not_named hothers hname]
    simp [equalIgnoringCase]
  | replace value =>
    rw [List.map_append, List.mem_append, not_or] at hname
    rw [applied, left, hown, setIn_append hname.1, Document.setIn, if_pos rfl, List.append_assoc,
      List.singleton_append]

/-- The attributes that were judged already are in `kept`; with all names different no later
verdict touches them. -/
theorem foldl_of_nodup (kept judged : List Attribute) (hlower : HasLowerNames (kept ++ judged))
    (hnodup : ((kept ++ judged).map Attribute.name).Nodup) :
    judged.foldl (fun kept a => (sanitizer.judge tag a).value.applied a.name kept)
      (kept ++ judged) = kept ++ judged.flatMap fun a => (sanitizer.judge tag a).value.left a := by
  induction judged generalizing kept with
  | nil => rfl
  | cons a later ih =>
    have hnames : ((kept ++ (sanitizer.judge tag a).value.left a ++ later).map
        Attribute.name).Sublist ((kept ++ a :: later).map Attribute.name) := by
      rw [List.append_assoc, List.map_append, List.map_append, List.map_append, List.map_cons,
        ← List.singleton_append]
      exact (List.Sublist.refl _).append
        ((Verdict.names_left_sublist _ a).append (List.Sublist.refl _))
    rw [List.foldl_cons, Verdict.applied_of_nodup _ hlower hnodup,
      ih _ (hlower.of_names_subset hnames.subset) (hnodup.sublist hnames), List.flatMap_cons,
      List.append_assoc]

theorem flatMap_left (hpolicy : sanitizer.policy.IsMade) (attributes : List Attribute) :
    (attributes.flatMap fun a => (sanitizer.judge tag a).value.left a) =
      (attributes.filter sanitizer.admits).map (sanitizer.routed tag) := by
  induction attributes with
  | nil => rfl
  | cons a later ih =>
    have hfirst : (sanitizer.judge tag a).value.left a =
        ([a].filter sanitizer.admits).map (sanitizer.routed tag) := by
      rw [judge_value hpolicy, List.filter_singleton]
      cases sanitizer.admits a with
      | false => rfl
      | true =>
        rw [if_pos rfl, cond_true, List.map_singleton, routed]
        split
        · rfl
        · rfl
    rw [List.flatMap_cons, ih, hfirst, ← List.map_append, ← List.filter_append,
      List.singleton_append]

/-- The filter comes to its end on every element, whatever its attributes are.  Every attribute
that is left has an allowed name; if that is the name of a link, the value is a safe link that
the element had under this name, or what the router for images made of one where the policy sends
such links through the proxy.  Where all names are different the admitted attributes are left in
their order, with those links routed. -/
theorem filterAttributes_is_safe (sanitizer : Sanitizer) (hpolicy : sanitizer.policy.IsMade)
    (document : Document) (id : NodeId) (tag name : String) (attributes : List Attribute)
    (hdata : document.data? id = some (.element name attributes)) :
    ∃ kept, (sanitizer.filterAttributes tag id (document.attributes id) document).value =
        ⟨document.withData id (.element name kept), none⟩ ∧
      (∀ b ∈ kept, sanitizer.policy.allowsAttribute b.name = true ∧
        (namesLink b.name = true → ∃ a ∈ attributes, lower a.name = lower b.name ∧
          isSafeLink a.value = true ∧
          (b.value = a.value ∨ sanitizer.policy.isProxied tag b.name = true ∧
            b.value = (sanitizer.imageLinks a.value sanitizer.context).value))) ∧
      (document.Reachable → (attributes.map Attribute.name).Nodup →
        kept = (attributes.filter sanitizer.admits).map (sanitizer.routed tag)) := by
  refine ⟨sanitizer.filteredAttributes tag attributes, ?_, ?_, ?_⟩
  · rw [filterAttributes_value hdata, Document.attributes, hdata]
    rfl
  · intro b hb
    refine ⟨allowsAttribute_filteredAttributes b hb, fun hlink => ?_⟩
    obtain ⟨a, ha, hname, hadmits, hvalue⟩ := exists_admitted_of_mem hpolicy hb
    refine ⟨a, ha, hname, ?_, hvalue.imp_right And.right⟩
    have hlink' : namesLink a.name = true := by rw [namesLink, hname, ← namesLink, hlink]
    rw [admits, hlink', Bool.not_true, Bool.false_or, Bool.and_eq_true] at hadmits
    exact hadmits.2
  · intro hreachable hnodup
    have hlower := hreachable.namesInLowerCase id name attributes hdata
    rw [← flatMap_left hpolicy]
    exact foldl_of_nodup [] attributes hlower hnodup

theorem filterAttributes_is_safe_image :
    ∃ (sanitizer : Sanitizer) (document : Document) (id : NodeId),
      sanitizer.policy = Policy.default ∧
      document.data? id = some (.element "IMG"
        [⟨"alt", "x"⟩, ⟨"src", "a.png"⟩, ⟨"href", "javascript:x"⟩, ⟨"onclick", "x"⟩]) ∧
      (sanitizer.filterAttributes "img" id (document.attributes id) document).value =
        ⟨document.withData id (.element "IMG" [⟨"alt", "x"⟩, ⟨"src", "/proxy?a.png"⟩]), none⟩ := by
  let sanitizer : Sanitizer :=
    { policy := Policy.default
      styles := Style.conservative
      styleLinks := fun link _ => pure link
      imageLinks := fun link _ => pure ("/proxy?" ++ link)
      context := UriReference.trialBase }
  let data := Document.elementData "IMG"
    [("Alt", "x"), ("SRC", "a.png"), ("href", "javascript:x"), ("onClick", "x")]
  let document := (Document.empty.create data).1
  have hdata : document.data? ⟨1⟩ = some (.element "IMG"
      [⟨"alt", "x"⟩, ⟨"src", "a.png"⟩, ⟨"href", "javascript:x"⟩, ⟨"onclick", "x"⟩]) := by
    decide +kernel
  obtain ⟨kept, hvalue, -, hexact⟩ := filterAttributes_is_safe sanitizer (.of _ _) document ⟨1⟩
    "img" "IMG" _ hdata
  have hkept := hexact (.createElement _ _ .empty) (by decide)
  refine ⟨sanitizer, document, ⟨1⟩, rfl, hdata, ?_⟩
  rw [hvalue, hkept]
  have hrouted :
      ([⟨"alt", "x"⟩, ⟨"src", "a.png"⟩, ⟨"href", "javascript:x"⟩, ⟨"onclick", "x"⟩].filter
        sanitizer.admits).map (sanitizer.routed "img") =
          [⟨"alt", "x"⟩, ⟨"src", "/proxy?a.png"⟩] := by
    decide +kernel
  rw [hrouted]

end Sanitizer

end GadgetGuard
