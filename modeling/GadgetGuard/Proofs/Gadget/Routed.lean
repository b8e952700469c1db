import GadgetGuard.Proofs.Gadget.Entries
import GadgetGuard.Proofs.Gadget.Shown
import GadgetGuard.Proofs.Gadget.Stable
/-!
# Links that have to go through the proxy

Everything that a sanitized page shows without a mark was filtered, so where the policy sends the
links of an attribute through the proxy, the first entry of its name holds what the router for
images wrote.  Later entries of the same name may have kept their values.  The filter only asks
for the proxy where a name holds links at all: what is registered for another name is never
routed.
-/

namespace GadgetGuard

open GadgetGuard.Text

namespace Link

/-- What the router for images writes: the placeholder, or a proxied link that asks for an
image. -/
def Origin.IsImageLink (origin : Origin) (value : String) : Prop :=
  value = placeholder ∨
    ∃ resource, value = origin.proxied resource ++ "&sanitize=1&rewriteMime=image/*"

theorem isImageLink_forImages (origin : Origin) (link : String) (context : Url) :
    origin.IsImageLink (forImages origin link context).value := by
  rw [forImages, sanitizing]
  cases resource link context with
  | ok resource =>
    refine .inr ⟨resource, ?_⟩
    have hdirectives : "&" ++ Parameter.sanitize ++ "=1&" ++ Parameter.requiredMime ++ "=" ++
        imageMime = "&sanitize=1&rewriteMime=image/*" := rfl
    rw [← hdirectives]
    simp only [Traced.value_pure, Origin.sanitized, String.append_assoc]
  | error cause => exact .inl rfl

theorem Origin.IsImageLink.length_le {origin : Origin} {value : String}
    (hvalue : origin.IsImageLink value) : placeholder.length ≤ value.length := by
  rcases hvalue with rfl | ⟨resource, rfl⟩
  · exact Nat.le_refl _
  · have hends : placeholder.length ≤ "&sanitize=1&rewriteMime=image/*".length := by
      decide
    rw [String.length_append]
    exact Nat.le_trans hends (Nat.le_add_left _ _)

end Link

namespace Policy

variable {policy : Policy} {tag name : String} {pairs : List (String × String)}

/-- Sends the links of several more attributes through the proxy. -/
def registering (policy : Policy) (pairs : List (String × String)) : Policy :=
  pairs.foldl (fun policy pair => policy.withProxied pair.1 pair.2) policy

theorem IsMade.registering (hpolicy : policy.IsMade) (pairs : List (String × String)) :
    (policy.registering pairs).IsMade := by
  induction pairs generalizing policy with
  | nil => exact hpolicy
  | cons pair pairs ih => exact ih (hpolicy.withProxied pair.1 pair.2)

theorem proxied_registering (pairs : List (String × String)) :
    (policy.registering pairs).proxied =
      policy.proxied ++ pairs.map fun pair => (lower pair.1, lower pair.2) := by
  induction pairs generalizing policy with
  | nil => exact (List.append_nil _).symm
  | cons pair pairs ih =>
    rw [List.map_cons, List.append_cons]
    exact ih

theorem allowsTag_registering (policy : Policy) (pairs : List (String × String)) (tag : String) :
    (policy.registering pairs).allowsTag tag = policy.allowsTag tag := by
  induction pairs generalizing policy with
  | nil => rfl
  | cons pair pairs ih => exact ih (policy.withProxied pair.1 pair.2)

theorem allowsAttribute_registering (policy : Policy) (pairs : List (String × String))
    (name : String) :
    (policy.registering pairs).allowsAttribute name = policy.allowsAttribute name := by
  induction pairs generalizing policy with
  | nil => rfl
  | cons pair pairs ih => exact ih (policy.withProxied pair.1 pair.2)

theorem isProxied_registering {pair : String × String} (hpair : pair ∈ pairs)
    (htag : equalIgnoringCase tag pair.1 = true) (hname : equalIgnoringCase name pair.2 = true) :
    (policy.registering pairs).isProxied tag name = true := by
  rw [equalIgnoringCase_iff] at htag hname
  rw [isProxied, proxied_registering, List.contains_iff_mem, htag, hname]
  exact List.mem_append_right _ (List.mem_map_of_mem hpair)

/-- Every policy that can be made sends the sources of images through the proxy. -/
theorem IsMade.isProxied_image (hpolicy : policy.IsMade)
    (htag : equalIgnoringCase tag "img" = true) : policy.isProxied tag "src" = true := by
  have hmem : ("img", "src") ∈ policy.proxied := by
    induction hpolicy with
    | of tags attributes => exact List.mem_singleton_self _
    | withProxied _ _ _ ih => exact List.mem_append_left _ ih
  rw [isProxied, List.contains_iff_mem, equalIgnoringCase_iff.1 htag,
    lower_eq_self (by simp : ∀ c ∈ "img".toList, c.toLower = c),
    lower_eq_self (by simp : ∀ c ∈ "src".toList, c.toLower = c)]
  exact hmem

theorem isMade_default : default.IsMade :=
  .of defaultTags defaultAttributes

theorem isProxied_lower_tag (policy : Policy) (tag name : String) :
    policy.isProxied (lower tag) name = policy.isProxied tag name := by
  rw [isProxied, isProxied, lower_lower]

end Policy

namespace Sanitizer

variable {sanitizer : Sanitizer} {document cleaned : Document} {id : NodeId} {b : Attribute}
variable {name entry : String} {first last attributes : List Attribute}

/-- Whether a value is what the router for images makes of a link. -/
def IsRouted (sanitizer : Sanitizer) (link value : String) : Prop :=
  value = (sanitizer.imageLinks link sanitizer.context).value

theorem admits_of_isSafeLink (hname : sanitizer.policy.allowsAttribute b.name = true)
    (hvalue : isSafeLink b.value = true) : sanitizer.admits b = true := by
  rw [admits, hname, hvalue, Bool.or_true, Bool.and_true]

theorem head?_of_mem_of_length_le_one (hmem : b ∈ attributes) (hlength : attributes.length ≤ 1) :
    attributes.head? = some b := by
  cases attributes with
  | nil => contradiction
  | cons first later =>
    obtain rfl : later = [] := List.eq_nil_of_length_eq_zero (by simpa using hlength)
    rw [List.mem_singleton.1 hmem, List.head?_cons]

/-- What one filtering keeps is kept however often attributes are filtered. -/
theorem preserved_of_filters {P : List Attribute → Prop}
    (hstep : ∀ attributes, P attributes → P (sanitizer.filteredAttributes (lower name) attributes))
    (hfirst : P first)
    (hfilters : Relation.ReflTransGen sanitizer.Filters (.element name first)
      (.element name last)) : P last := by
  have hkeeps : ∀ data, Relation.ReflTransGen sanitizer.Filters (.element name first) data →
      ∃ attributes, data = .element name attributes ∧ P attributes := by
    intro data hfilters
    induction hfilters with
    | refl => exact ⟨first, rfl, hfirst⟩
    | tail _ hlast ih =>
      obtain ⟨attributes, rfl, hattributes⟩ := ih
      obtain ⟨_, _, helement, rfl⟩ := hlast
      obtain ⟨rfl, rfl⟩ := NodeData.element.inj helement
      exact ⟨_, rfl, hstep attributes hattributes⟩
  obtain ⟨attributes, helement, hattributes⟩ := hkeeps _ hfilters
  obtain ⟨-, rfl⟩ := NodeData.element.inj helement
  exact hattributes

/-- The attributes of an unmarked element that is settled are those of a last filtering. -/
theorem exists_last_filtering (hsettled : sanitizer.Settled document cleaned id)
    (hdata : cleaned.data? id = some (.element name attributes))
    (hmark : cleaned.trust id = .none) :
    ∃ first last, document.data? id = some (.element name first) ∧
      Relation.ReflTransGen sanitizer.Filters (.element name first) (.element name last) ∧
      attributes = sanitizer.filteredAttributes (lower name) last := by
  obtain ⟨first, hfirst, hfilters⟩ := hsettled name attributes (by
    rw [Document.item_of_element hdata, hmark])
  obtain ⟨_, hearlier, _, last, rfl, helement⟩ := Relation.TransGen.tail'_iff.1 hfilters
  obtain ⟨rfl, rfl⟩ := NodeData.element.inj helement
  exact ⟨first, last, hfirst, hearlier, rfl⟩

/-- Every entry that is left after some filterings goes back to one of the first entries. -/
theorem exists_first_entry (hpolicy : sanitizer.policy.IsMade)
    (hfilters : Relation.ReflTransGen sanitizer.Filters (.element name first)
      (.element name last)) :
    ∀ b ∈ entriesOf entry last, ∃ a ∈ entriesOf entry first,
      Relation.ReflTransGen sanitizer.IsRouted a.value b.value := by
  refine preserved_of_filters (P := fun attributes => ∀ b ∈ entriesOf entry attributes,
    ∃ a ∈ entriesOf entry first, Relation.ReflTransGen sanitizer.IsRouted a.value b.value)
    ?_ (fun b hb => ⟨b, hb, .refl⟩) hfilters
  intro attributes hattributes b hb
  obtain ⟨hmem, hname⟩ := mem_entriesOf.1 hb
  obtain ⟨a, ha, hsame, _, hvalue⟩ := exists_admitted_of_mem hpolicy hmem
  obtain ⟨c, hc, hrouted⟩ := hattributes a (mem_entriesOf.2 ⟨ha, hsame.trans hname⟩)
  rcases hvalue with hvalue | ⟨_, _, hvalue⟩
  · exact ⟨c, hc, hvalue ▸ hrouted⟩
  · exact ⟨c, hc, hrouted.tail hvalue⟩

/-- If the links of an attribute go through the proxy, the first entry of its name on an unmarked
element that is settled is a routed one, and so is every entry if there was only one. -/
theorem routed_of_settled (hpolicy : sanitizer.policy.IsMade)
    (hlower : document.NamesInLowerCase) (hsettled : sanitizer.Settled document cleaned id)
    (hdata : cleaned.data? id = some (.element name attributes))
    (hmark : cleaned.trust id = .none) (hroutes : sanitizer.Routes (lower name) entry)
    (hb : (entriesOf entry attributes).head? = some b ∨
      (entriesOf entry (document.attributes id)).length ≤ 1 ∧ b ∈ entriesOf entry attributes) :
    ∃ a ∈ entriesOf entry (document.attributes id),
      Relation.TransGen sanitizer.IsRouted a.value b.value := by
  obtain ⟨first, last, hfirst, hfilters, rfl⟩ := exists_last_filtering hsettled hdata hmark
  have hattributes : document.attributes id = first := by
    rw [Document.attributes, hfirst]
  have hlower_first := hlower id name first hfirst
  have hlower_last : HasLowerNames last := preserved_of_filters
    (fun _ => hasLowerNames_filteredAttributes) hlower_first hfilters
  have hhead : (entriesOf entry (sanitizer.filteredAttributes (lower name) last)).head? =
      some b := by
    rcases hb with hhead | ⟨hlength, hmem⟩
    · exact hhead
    · obtain ⟨hlower', hlength'⟩ := preserved_of_filters
        (P := fun kept => HasLowerNames kept ∧ (entriesOf entry kept).length ≤ 1)
        (fun _ hkept => ⟨hasLowerNames_filteredAttributes hkept.1,
          length_entriesOf_filteredAttributes hpolicy hroutes hkept.1 hkept.2⟩)
        ⟨hlower_first, hattributes ▸ hlength⟩ hfilters
      have hsingle := length_entriesOf_filteredAttributes hpolicy hroutes hlower' hlength'
      exact head?_of_mem_of_length_le_one hmem hsingle
  obtain ⟨c, hc, hvalue⟩ := head?_entriesOf_filteredAttributes hpolicy hroutes hlower_last hhead
  obtain ⟨a, ha, hearlier⟩ := exists_first_entry hpolicy hfilters c hc
  exact ⟨a, hattributes ▸ ha, .tail' hearlier hvalue⟩

end Sanitizer

/-! ## Pages with a single element -/

/-- A page with one element that is not marked. -/
def Document.lone (name : String) (attributes : List Attribute) : Document :=
  { nodes := #[⟨.document, none, [⟨1⟩]⟩, ⟨.element name attributes, some ⟨0⟩, []⟩], marks := [] }

theorem Document.reachable_lone (name : String) {attributes : List Attribute}
    (hlower : HasLowerNames attributes) : (Document.lone name attributes).Reachable := by
  have helement := Document.Reachable.empty.createElement name
    (attributes.map fun a => (a.name, a.value))
  have hdata : Document.elementData name (attributes.map fun a => (a.name, a.value)) =
      .element name attributes := by
    rw [Document.elementData, List.map_map, NodeData.element.injEq, eq_self, true_and]
    refine (List.map_congr_left fun a ha => ?_).trans (List.map_id attributes)
    exact congrArg (Attribute.mk · a.value) (hlower a ha)
  rw [hdata] at helement
  have hplaced : Document.Reachable _ :=
    helement.append (show Document.append _ ⟨0⟩ ⟨1⟩ = .ok _ from rfl)
  exact hplaced

theorem Document.shows_lone (name : String) (attributes : List Attribute) :
    (Document.lone name attributes).Shows Document.root ⟨1⟩ := by
  have hopen : ((Document.lone name attributes).item Document.root).IsOpen :=
    ⟨(by decide : Trust.none ≠ .all), .inl rfl⟩
  exact .single ⟨hopen, List.mem_singleton_self _⟩

theorem Document.data?_lone (name : String) (attributes : List Attribute) :
    (Document.lone name attributes).data? ⟨1⟩ = some (.element name attributes) := rfl

theorem Document.trust_lone (name : String) (attributes : List Attribute) :
    (Document.lone name attributes).trust ⟨1⟩ = .none := rfl

theorem Document.attributes_lone (name : String) (attributes : List Attribute) :
    (Document.lone name attributes).attributes ⟨1⟩ = attributes := rfl

/-- The walk over such a page filters the attributes of the element if it is allowed. -/
theorem Sanitizer.sanitize_lone {sanitizer : Sanitizer} {name : String}
    (hallowed : sanitizer.policy.allowsTag name = true) (hstyle : lower name ≠ "style")
    (attributes : List Attribute) :
    (sanitizer.sanitize (.lone name attributes) Document.root).value =
      ⟨.lone name (sanitizer.filteredAttributes (lower name) attributes), none⟩ := by
  have hroot : sanitizer.fate ((Document.lone name attributes).item Document.root) =
      .enter ⟨.document, .none⟩ := rfl
  have helement : sanitizer.fate ((Document.lone name attributes).item ⟨1⟩) =
      .enter ⟨.element name (sanitizer.filteredAttributes (lower name) attributes), .none⟩ := by
    show sanitizer.fate ⟨.element name attributes, .none⟩ = _
    simp [fate, hallowed, hstyle]
  rw [sanitize, visit_value rfl, hroot, outcome, Document.withData_self rfl]
  show (visitEach (sanitizer.visit maxDepth) [⟨1⟩] (.lone name attributes)).value = _
  rw [visitEach_cons_value, maxDepth, visit_value rfl, helement, outcome]
  rfl

namespace ContentGuard

variable {guard : ContentGuard} {gadget : Gadget} {content after : Content}
variable {document cleaned : Document} {id : NodeId} {link value : String}

/-- On whose behalf the links of a gadget are written. -/
def origin (guard : ContentGuard) (gadget : Gadget) : Link.Origin :=
  { gadget := gadget.specification, container := gadget.container, settings := guard.links }

theorem isImageLink_of_isRouted
    (hrouted : Relation.TransGen (guard.sanitizer gadget).IsRouted link value) :
    (guard.origin gadget).IsImageLink value := by
  obtain ⟨previous, _, hlast⟩ := Relation.TransGen.tail'_iff.1 hrouted
  rw [hlast]
  exact Link.isImageLink_forImages (guard.origin gadget) previous _

theorem routes_image {name : String} (hpolicy : guard.policy.IsMade)
    (himage : equalIgnoringCase name "img" = true) :
    (guard.sanitizer gadget).Routes (lower name) "src" := by
  have hlink : namesLink "src" = true := by
    rw [namesLink, lower_eq_self (by simp)]
    rfl
  refine ⟨hlink, ?_⟩
  rw [Policy.isProxied_lower_tag]
  exact hpolicy.isProxied_image himage

theorem routes_registered {policy : Policy} {pairs : List (String × String)}
    {pair : String × String} {tag name : String} (hpolicy : guard.policy = policy.registering pairs)
    (hpair : pair ∈ pairs) (htag : equalIgnoringCase tag pair.1 = true)
    (hname : equalIgnoringCase name pair.2 = true) (hlink : namesLink name = true) :
    (guard.sanitizer gadget).Routes (lower tag) name := by
  refine ⟨hlink, ?_⟩
  rw [Policy.isProxied_lower_tag, sanitizer, hpolicy]
  exact Policy.isProxied_registering hpair htag hname

/-- All elements that sanitized content shows without a mark are settled. -/
theorem settled_of_kept (hdocument : content.document = some document)
    (hreachable : document.Reachable) (hwants : gadget.parameter? "sanitize" = some "1")
    (hafter : (guard.apply gadget content).value = some after)
    (hcleaned : after.document = some cleaned) (hshows : cleaned.Shows Document.root id) :
    (guard.sanitizer gadget).Settled document cleaned id := by
  have hvalue := sanitize_value_of_kept hdocument hwants hafter hcleaned
  have hsettled : _ → _ → (guard.sanitizer gadget).Settled document _ id :=
    Sanitizer.sanitize_root_settled hreachable.consistent
  rw [hvalue] at hsettled
  exact hsettled rfl hshows

/-- If sanitized content keeps its document, the first source of every unmarked image that it
shows is the placeholder or a proxied link that asks for an image, whether or not there are nodes
below themselves.  An image that had at most one source has no other one. -/
theorem apply_proxies_images (guard : ContentGuard) (gadget : Gadget) (content after : Content)
    (document cleaned : Document) (hdocument : content.document = some document)
    (hreachable : document.Reachable) (hpolicy : guard.policy.IsMade)
    (hwants : gadget.parameter? "sanitize" = some "1")
    (hafter : (guard.apply gadget content).value = some after)
    (hcleaned : after.document = some cleaned) (id : NodeId) (name : String)
    (attributes : List Attribute) (hshows : cleaned.Shows Document.root id)
    (hdata : cleaned.data? id = some (.element name attributes))
    (himage : equalIgnoringCase name "img" = true) (hmark : cleaned.trust id = .none) :
    (∀ value, cleaned.attribute? id "src" = some value →
      (guard.origin gadget).IsImageLink value) ∧
    ((entriesOf "src" (document.attributes id)).length ≤ 1 →
      ∀ a ∈ entriesOf "src" attributes, (guard.origin gadget).IsImageLink a.value) := by
  have hsettled := settled_of_kept hdocument hreachable hwants hafter hcleaned hshows
  have hroutes : (guard.sanitizer gadget).Routes (lower name) "src" :=
    routes_image hpolicy himage
  constructor
  · intro value hvalue
    rw [Document.attribute?_eq, Document.attributes, hdata] at hvalue
    obtain ⟨a, ha, rfl⟩ := Option.map_eq_some_iff.1 hvalue
    obtain ⟨_, _, hrouted⟩ := Sanitizer.routed_of_settled hpolicy hreachable.namesInLowerCase
      hsettled hdata hmark hroutes (.inl ha)
    exact isImageLink_of_isRouted hrouted
  · intro hlength a ha
    obtain ⟨_, _, hrouted⟩ := Sanitizer.routed_of_settled hpolicy hreachable.namesInLowerCase
      hsettled hdata hmark hroutes (.inr ⟨hlength, ha⟩)
    exact isImageLink_of_isRouted hrouted

/-- Sanitized content keeps a page with one element that is allowed. -/
theorem exists_apply_lone (guard : ContentGuard) (name : String) (attributes : List Attribute)
    (hallowed : guard.policy.allowsTag name = true) (hlower : lower name = name)
    (hstyle : name ≠ "style") (hwants : gadget.parameter? "sanitize" = some "1") :
    ∃ after, (guard.apply gadget (.ofDocument (.lone name attributes))).value = some after ∧
      after.document = some (.lone name
        ((guard.sanitizer gadget).filteredAttributes (lower name) attributes)) := by
  have hended : (guard.sanitize gadget (.ofDocument (.lone name attributes))).value = _ :=
    sanitize_value_of_document rfl
  rw [Sanitizer.sanitize_lone hallowed (hlower.symm ▸ hstyle)] at hended
  exact ⟨_, apply_value_of_ended hwants hended, rfl⟩

theorem parameter?_addressed : Gadget.addressed.parameter? "sanitize" = some "1" := rfl

theorem allowsTag_standard_img : standard.policy.allowsTag "img" = true :=
  Policy.allowsTag_of _ (by decide)

theorem allowsAttribute_standard_src : standard.policy.allowsAttribute "src" = true :=
  Policy.allowsAttribute_of _ (by decide)

theorem apply_proxies_images_picture :
    ∃ after cleaned attributes,
      (standard.apply .addressed (.ofDocument (.lone "img" [⟨"src", "a.png"⟩]))).value =
        some after ∧
      after.document = some cleaned ∧ cleaned.data? ⟨1⟩ = some (.element "img" attributes) ∧
      entriesOf "src" attributes ≠ [] ∧
      ∀ a ∈ entriesOf "src" attributes, (standard.origin .addressed).IsImageLink a.value := by
  have hlower : HasLowerNames [⟨"src", "a.png"⟩] :=
    List.forall_mem_singleton.2 (lower_eq_self (by simp))
  have hadmits : (standard.sanitizer .addressed).admits ⟨"src", "a.png"⟩ = true :=
    Sanitizer.admits_of_isSafeLink allowsAttribute_standard_src (by decide)
  have hsource : entriesOf "src" ((standard.sanitizer .addressed).filteredAttributes (lower "img")
      [⟨"src", "a.png"⟩]) ≠ [] := by
    rw [Sanitizer.entriesOf_filteredAttributes Policy.isMade_default
      (routes_image Policy.isMade_default (equalIgnoringCase_iff.2 rfl)) hlower, entriesOf_cons,
      if_pos rfl]
    simp [entriesOf, Sanitizer.route, hadmits]
  obtain ⟨after, hafter, hcleaned⟩ := exists_apply_lone standard "img" [⟨"src", "a.png"⟩]
    allowsTag_standard_img (lower_eq_self (by simp)) (by decide) parameter?_addressed
  obtain ⟨-, hall⟩ := apply_proxies_images standard .addressed _ after _ _ rfl
    (Document.reachable_lone "img" hlower) Policy.isMade_default parameter?_addressed hafter
    hcleaned ⟨1⟩ "img" _ (Document.shows_lone _ _) (Document.data?_lone _ _)
    (equalIgnoringCase_iff.2 rfl) (Document.trust_lone _ _)
  refine ⟨after, _, _, hafter, hcleaned, Document.data?_lone _ _, hsource, hall ?_⟩
  rw [Document.attributes_lone]
  exact List.length_filter_le _ _

/-- The second source of an image is left as it was. -/
theorem apply_leaves_second_source :
    (Document.lone "img" [⟨"src", "a.png"⟩, ⟨"src", "b.png"⟩]).Reachable ∧
      standard.policy.IsMade ∧ standard.policy.allowsTag "img" = true ∧
      standard.policy.allowsAttribute "src" = true ∧
      Gadget.addressed.parameter? "sanitize" = some "1" ∧
      ∃ after cleaned attributes,
        (standard.apply .addressed (.ofDocument (.lone "img" [⟨"src", "a.png"⟩,
          ⟨"src", "b.png"⟩]))).value = some after ∧
        after.document = some cleaned ∧ cleaned.Shows Document.root ⟨1⟩ ∧
        cleaned.data? ⟨1⟩ = some (.element "img" attributes) ∧ cleaned.trust ⟨1⟩ = .none ∧
        ⟨"src", "b.png"⟩ ∈ attributes ∧ ¬ (standard.origin .addressed).IsImageLink "b.png" := by
  have hsrc : lower "src" = "src" := lower_eq_self (by simp)
  have hlower : HasLowerNames [⟨"src", "a.png"⟩, ⟨"src", "b.png"⟩] :=
    List.forall_mem_cons.2 ⟨hsrc, List.forall_mem_singleton.2 hsrc⟩
  have hentries : entriesOf "src" [⟨"src", "a.png"⟩, ⟨"src", "b.png"⟩] =
      [⟨"src", "a.png"⟩, ⟨"src", "b.png"⟩] := by
    rw [entriesOf_cons, if_pos rfl, entriesOf_cons, if_pos rfl]
    rfl
  have hadmits : ∀ a ∈ entriesOf "src" [⟨"src", "a.png"⟩, ⟨"src", "b.png"⟩],
      (standard.sanitizer .addressed).admits a = true := by
    intro a ha
    rw [hentries, List.mem_cons, List.mem_singleton] at ha
    rcases ha with rfl | rfl
    · exact Sanitizer.admits_of_isSafeLink allowsAttribute_standard_src (by decide)
    · exact Sanitizer.admits_of_isSafeLink allowsAttribute_standard_src (by decide)
  have hsecond := Sanitizer.tail_entriesOf_filteredAttributes Policy.isMade_default
    (routes_image Policy.isMade_default (equalIgnoringCase_iff.2 rfl)) hlower hadmits
  obtain ⟨after, hafter, hcleaned⟩ := exists_apply_lone standard "img"
    [⟨"src", "a.png"⟩, ⟨"src", "b.png"⟩] allowsTag_standard_img (lower_eq_self (by simp))
    (by decide) parameter?_addressed
  refine ⟨Document.reachable_lone "img" hlower, Policy.isMade_default, allowsTag_standard_img,
    allowsAttribute_standard_src, parameter?_addressed, after, _, _, hafter, hcleaned,
    Document.shows_lone _ _, Document.data?_lone _ _, Document.trust_lone _ _, ?_,
    fun hlink => absurd hlink.length_le (by decide)⟩
  have hmem : ⟨"src", "b.png"⟩ ∈ (entriesOf "src" ((standard.sanitizer .addressed
      ).filteredAttributes (lower "img") [⟨"src", "a.png"⟩, ⟨"src", "b.png"⟩])).tail := by
    rw [hsecond, hentries]
    exact List.mem_singleton_self _
  exact (mem_entriesOf.1 (List.mem_of_mem_tail hmem)).1

/-- Under a policy that was made by registering attributes for the proxy, sanitized content that
keeps its document only shows links of these attributes, on unmarked elements whose attributes
all had different names, that the router for images has made of the value that the attribute had:
the placeholder or a proxied link.  That is so for the attributes whose names hold links. -/
theorem apply_routes_registered (tags attributes : List String) (pairs : List (String × String))
    (guard : ContentGuard) (gadget : Gadget) (content after : Content)
    (document cleaned : Document)
    (hpolicy : guard.policy = (Policy.of tags attributes).registering pairs)
    (hdocument : content.document = some document) (hreachable : document.Reachable)
    (hwants : gadget.parameter? "sanitize" = some "1")
    (hafter : (guard.apply gadget content).value = some after)
    (hcleaned : after.document = some cleaned) (id : NodeId) (name : String)
    (kept : List Attribute) (hshows : cleaned.Shows Document.root id)
    (hdata : cleaned.data? id = some (.element name kept)) (hmark : cleaned.trust id = .none)
    (hdistinct : ((document.attributes id).map Attribute.name).Nodup) :
    ∀ a ∈ kept, ∀ pair ∈ pairs, equalIgnoringCase name pair.1 = true →
      equalIgnoringCase a.name pair.2 = true → namesLink a.name = true →
      (∃ before ∈ document.attributes id, lower before.name = lower a.name ∧
        Relation.TransGen (guard.sanitizer gadget).IsRouted before.value a.value) ∧
      (guard.origin gadget).IsImageLink a.value := by
  have hsettled := settled_of_kept hdocument hreachable hwants hafter hcleaned hshows
  have hmade : guard.policy.IsMade := by
    rw [hpolicy]
    exact Policy.IsMade.registering (.of tags attributes) pairs
  have hlower : HasLowerNames (document.attributes id) := by
    obtain ⟨first, _, hfirst, _⟩ := Sanitizer.exists_last_filtering hsettled hdata hmark
    rw [Document.attributes, hfirst]
    exact hreachable.namesInLowerCase id name first hfirst
  intro a ha pair hpair htag hname hlink
  have hroutes : (guard.sanitizer gadget).Routes (lower name) a.name :=
    routes_registered hpolicy hpair htag hname hlink
  obtain ⟨before, hbefore, hrouted⟩ := Sanitizer.routed_of_settled hmade
    hreachable.namesInLowerCase hsettled hdata hmark hroutes
    (.inr ⟨length_entriesOf_le_one a.name hlower hdistinct, mem_entriesOf.2 ⟨ha, rfl⟩⟩)
  obtain ⟨hmem, hsame⟩ := mem_entriesOf.1 hbefore
  exact ⟨⟨before, hmem, hsame, hrouted⟩, isImageLink_of_isRouted hrouted⟩

/-- A deployment that allows one attribute of one element, and registers it for the proxy. -/
def registering (tag attributeName : String) : ContentGuard :=
  { standard with
    policy := (Policy.of [tag] [attributeName]).registering [(tag, attributeName)] }

theorem apply_routes_registered_link :
    ∃ after cleaned kept,
      ((registering "a" "href").apply .addressed
        (.ofDocument (.lone "a" [⟨"href", "b"⟩]))).value = some after ∧
      after.document = some cleaned ∧ cleaned.data? ⟨1⟩ = some (.element "a" kept) ∧
      entriesOf "href" kept ≠ [] ∧
      ∀ a ∈ entriesOf "href" kept,
        ((registering "a" "href").origin .addressed).IsImageLink a.value := by
  have hpolicy : (registering "a" "href").policy =
      (Policy.of ["a"] ["href"]).registering [("a", "href")] := rfl
  have hlower : HasLowerNames [⟨"href", "b"⟩] :=
    List.forall_mem_singleton.2 (lower_eq_self (by simp))
  have hlink : ∀ {name}, lower name = lower "href" → namesLink name = true := by
    intro name hname
    rw [namesLink, hname, lower_eq_self (by simp)]
    rfl
  have hallowed : (registering "a" "href").policy.allowsTag "a" = true := by
    rw [hpolicy, Policy.allowsTag_registering]
    exact Policy.allowsTag_of _ (List.mem_singleton_self _)
  have hadmits : ((registering "a" "href").sanitizer .addressed).admits ⟨"href", "b"⟩ = true := by
    refine Sanitizer.admits_of_isSafeLink ?_ (by decide)
    rw [sanitizer, hpolicy, Policy.allowsAttribute_registering]
    exact Policy.allowsAttribute_of _ (List.mem_singleton_self _)
  have hsource : entriesOf "href" (((registering "a" "href").sanitizer
      .addressed).filteredAttributes (lower "a") [⟨"href", "b"⟩]) ≠ [] := by
    rw [Sanitizer.entriesOf_filteredAttributes (Policy.IsMade.registering (.of _ _) _)
      (routes_registered hpolicy List.mem_cons_self (equalIgnoringCase_iff.2 rfl)
        (equalIgnoringCase_iff.2 rfl) (hlink rfl)) hlower, entriesOf_cons, if_pos rfl]
    simp [entriesOf, Sanitizer.route, hadmits]
  obtain ⟨after, hafter, hcleaned⟩ := exists_apply_lone (registering "a" "href") "a"
    [⟨"href", "b"⟩] hallowed (lower_eq_self (by simp)) (by decide) parameter?_addressed
  refine ⟨after, _, _, hafter, hcleaned, Document.data?_lone _ _, hsource, fun a ha => ?_⟩
  obtain ⟨hmem, hname⟩ := mem_entriesOf.1 ha
  exact (apply_routes_registered ["a"] ["href"] [("a", "href")] (registering "a" "href")
    .addressed _ after _ _ hpolicy rfl (Document.reachable_lone "a" hlower) parameter?_addressed
    hafter hcleaned ⟨1⟩ "a" _ (Document.shows_lone _ _) (Document.data?_lone _ _)
    (Document.trust_lone _ _) (List.nodup_singleton _) a hmem ("a", "href") List.mem_cons_self
    (equalIgnoringCase_iff.2 rfl) (equalIgnoringCase_iff.2 hname) (hlink hname)).2

/-- What is registered for the proxy under a name that holds no links is left as it was. -/
theorem apply_leaves_registered_background :
    (registering "td" "background").policy =
        (Policy.of ["td"] ["background"]).registering [("td", "background")] ∧
      (Document.lone "td" [⟨"background", "a.png"⟩]).Reachable ∧
      Gadget.addressed.parameter? "sanitize" = some "1" ∧
      ∃ after cleaned,
        ((registering "td" "background").apply .addressed
          (.ofDocument (.lone "td" [⟨"background", "a.png"⟩]))).value = some after ∧
        after.document = some cleaned ∧ cleaned.Shows Document.root ⟨1⟩ ∧
        cleaned.data? ⟨1⟩ = some (.element "td" [⟨"background", "a.png"⟩]) ∧
        cleaned.trust ⟨1⟩ = .none ∧
        ¬ ((registering "td" "background").origin .addressed).IsImageLink "a.png" := by
  have hpolicy : (registering "td" "background").policy =
      (Policy.of ["td"] ["background"]).registering [("td", "background")] := rfl
  have hbackground : lower "background" = "background" := lower_eq_self (by simp)
  have hlink : namesLink "background" = false := by
    rw [namesLink, hbackground]
    rfl
  have hallowed : (registering "td" "background").policy.allowsTag "td" = true := by
    rw [hpolicy, Policy.allowsTag_registering]
    exact Policy.allowsTag_of _ (List.mem_singleton_self _)
  have hadmits : ((registering "td" "background").sanitizer .addressed).admits
      ⟨"background", "a.png"⟩ = true := by
    rw [Sanitizer.admits, sanitizer, hpolicy, Policy.allowsAttribute_registering,
      Policy.allowsAttribute_of _ (List.mem_singleton_self _), hlink]
    rfl
  have hkept : ((registering "td" "background").sanitizer .addressed).filteredAttributes
      (lower "td") [⟨"background", "a.png"⟩] = [⟨"background", "a.png"⟩] := by
    rw [Sanitizer.filteredAttributes, List.foldl_cons, List.foldl_nil,
      Sanitizer.judge_value (Policy.IsMade.registering (.of _ _) _), hadmits, if_pos rfl, hlink]
    rfl
  obtain ⟨after, hafter, hcleaned⟩ := exists_apply_lone (registering "td" "background") "td"
    [⟨"background", "a.png"⟩] hallowed (lower_eq_self (by simp)) (by decide) parameter?_addressed
  rw [hkept] at hcleaned
  exact ⟨hpolicy, Document.reachable_lone "td" (List.forall_mem_singleton.2 hbackground),
    parameter?_addressed, after, _, hafter, hcleaned, Document.shows_lone _ _,
    Document.data?_lone _ _, Document.trust_lone _ _,
    fun hlink => absurd hlink.length_le (by decide)⟩

end ContentGuard

end GadgetGuard
