import GadgetGuard.Proofs.Document.Consistency
import GadgetGuard.Proofs.Text.Ascii
/-!
# Names of attributes

An element is created with the names of its attributes in lower case, and a new attribute is
added under such a name.  All other operations only drop attributes or carry data over, so in
every document that the operations make all names are in lower case.  An element may hold several
attributes of one name: setting the name writes the first of them, and removing it leaves none.
-/

namespace GadgetGuard

open GadgetGuard.Text

def HasLowerNames (attributes : List Attribute) : Prop :=
  ∀ a ∈ attributes, lower a.name = a.name

theorem HasLowerNames.filter {attributes : List Attribute} (hlower : HasLowerNames attributes)
    (stays : Attribute → Bool) : HasLowerNames (attributes.filter stays) :=
  fun a ha => hlower a (List.mem_of_mem_filter ha)

theorem HasLowerNames.of_names_subset {before after : List Attribute}
    (hlower : HasLowerNames before)
    (hnames : after.map Attribute.name ⊆ before.map Attribute.name) : HasLowerNames after := by
  intro a ha
  obtain ⟨b, hb, hname⟩ := List.mem_map.1 (hnames (List.mem_map_of_mem ha))
  exact hname ▸ hlower b hb

theorem HasLowerNames.setIn {attributes : List Attribute} (hlower : HasLowerNames attributes)
    (name value : String) : HasLowerNames (Document.setIn (lower name) value attributes) := by
  induction attributes with
  | nil => exact List.forall_mem_singleton.2 (lower_lower name)
  | cons first later ih =>
    obtain ⟨hfirst, hlater⟩ := List.forall_mem_cons.1 hlower
    rw [Document.setIn]
    split
    · exact List.forall_mem_cons.2 ⟨hfirst, hlater⟩
    · exact List.forall_mem_cons.2 ⟨hfirst, ih hlater⟩

/-! ## The attributes of one name -/

/-- The attributes of one name, in any case. -/
def entriesOf (name : String) (attributes : List Attribute) : List Attribute :=
  attributes.filter fun a => equalIgnoringCase a.name name

theorem equalIgnoringCase_iff {left right : String} :
    equalIgnoringCase left right = true ↔ lower left = lower right := by
  rw [equalIgnoringCase, beq_iff_eq]

theorem mem_entriesOf {a : Attribute} {name : String} {attributes : List Attribute} :
    a ∈ entriesOf name attributes ↔ a ∈ attributes ∧ lower a.name = lower name := by
  rw [entriesOf, List.mem_filter, equalIgnoringCase_iff]

theorem entriesOf_cons {a : Attribute} {name : String} {attributes : List Attribute} :
    entriesOf name (a :: attributes) =
      if lower a.name = lower name then a :: entriesOf name attributes
      else entriesOf name attributes := by
  rw [entriesOf, List.filter_cons, if_congr equalIgnoringCase_iff rfl rfl]
  rfl

theorem Document.attribute?_eq {document : Document} {id : NodeId} (name : String) :
    document.attribute? id name =
      (entriesOf name (document.attributes id)).head?.map (·.value) := by
  rw [attribute?, entriesOf, List.head?_filter]

/-- Where all names are different there is at most one entry of each. -/
theorem length_entriesOf_le_one {attributes : List Attribute} (name : String)
    (hlower : HasLowerNames attributes) (hnodup : (attributes.map Attribute.name).Nodup) :
    (entriesOf name attributes).length ≤ 1 := by
  have hnames : ∀ a ∈ (entriesOf name attributes).map Attribute.name, a = lower name := by
    intro named hnamed
    obtain ⟨a, ha, rfl⟩ := List.mem_map.1 hnamed
    obtain ⟨hmem, hname⟩ := mem_entriesOf.1 ha
    rw [← hname, hlower a hmem]
  have hnodup' : ((entriesOf name attributes).map Attribute.name).Nodup :=
    hnodup.sublist (List.filter_sublist.map _)
  rw [List.eq_replicate_of_mem hnames, List.nodup_replicate, List.length_map] at hnodup'
  exact hnodup'

theorem entriesOf_setIn {attributes : List Attribute} {name : String} (value : String)
    (hlower : HasLowerNames attributes) :
    entriesOf name (Document.setIn (lower name) value attributes) =
      ⟨lower name, value⟩ :: (entriesOf name attributes).tail := by
  induction attributes with
  | nil =>
    rw [Document.setIn, entriesOf_cons, if_pos (lower_lower name)]
    rfl
  | cons first later ih =>
    obtain ⟨hfirst, hlater⟩ := List.forall_mem_cons.1 hlower
    rw [Document.setIn, entriesOf_cons, hfirst]
    split
    next hname =>
      rw [entriesOf_cons, hname, lower_lower, if_pos rfl]
      rfl
    next hname =>
      rw [entriesOf_cons, hfirst, if_neg hname]
      exact ih hlater

theorem entriesOf_setIn_of_ne {attributes : List Attribute} {name other : String} (value : String)
    (hother : lower other ≠ lower name) :
    entriesOf name (Document.setIn (lower other) value attributes) = entriesOf name attributes := by
  have hnot : lower (lower other) ≠ lower name := by
    rw [lower_lower]
    exact hother
  induction attributes with
  | nil => rw [Document.setIn, entriesOf_cons, if_neg hnot]
  | cons first later ih =>
    rw [Document.setIn]
    split
    next hname =>
      rw [← hname] at hnot
      rw [entriesOf_cons, if_neg hnot, entriesOf_cons, if_neg hnot]
    · rw [entriesOf_cons, entriesOf_cons, ih]

theorem entriesOf_filter_of_eq {name other : String} (attributes : List Attribute)
    (hother : lower other = lower name) :
    entriesOf name (attributes.filter fun a => !equalIgnoringCase a.name other) = [] := by
  rw [entriesOf, List.filter_filter, List.filter_eq_nil_iff]
  intro a _
  rw [Bool.and_eq_true, equalIgnoringCase_iff, Bool.not_eq_true', ← Bool.not_eq_true,
    equalIgnoringCase_iff, hother]
  exact fun hboth => hboth.2 hboth.1

theorem entriesOf_filter_of_ne {name other : String} (attributes : List Attribute)
    (hother : lower other ≠ lower name) :
    entriesOf name (attributes.filter fun a => !equalIgnoringCase a.name other) =
      entriesOf name attributes := by
  rw [entriesOf, List.filter_filter, entriesOf]
  apply List.filter_congr
  intro a _
  rw [Bool.eq_iff_iff, Bool.and_eq_true, and_iff_left_iff_imp, Bool.not_eq_true',
    ← Bool.not_eq_true, equalIgnoringCase_iff, equalIgnoringCase_iff]
  exact fun hname hsame => hother (hsame.symm.trans hname)

/-! ## Names in documents -/

namespace Document

variable {document before after : Document} {id copy : NodeId}

/-- Every attribute of every element has its name in lower case. -/
def NamesInLowerCase (document : Document) : Prop :=
  ∀ id name attributes, document.data? id = some (.element name attributes) →
    HasLowerNames attributes

namespace NamesInLowerCase

theorem of_same_data (hnames : before.NamesInLowerCase)
    (hsame : ∀ id, after.data? id = before.data? id) : after.NamesInLowerCase :=
  fun id _ _ hdata => hnames id _ _ ((hsame id).symm.trans hdata)

theorem create (hnames : document.NamesInLowerCase) {data : NodeData}
    (hdata : ∀ name attributes, data = .element name attributes → HasLowerNames attributes) :
    (document.create data).1.NamesInLowerCase := by
  intro id name attributes hcreated
  rw [data?_create] at hcreated
  split at hcreated
  · exact hdata name attributes (Option.some.inj hcreated)
  · exact hnames id name attributes hcreated

theorem modifyAttributes (hnames : document.NamesInLowerCase)
    {change : List Attribute → List Attribute}
    (hchange : ∀ attributes, HasLowerNames attributes → HasLowerNames (change attributes))
    (hmodify : document.modifyAttributes id change = .ok after) : after.NamesInLowerCase := by
  obtain ⟨name, attributes, hdata, rfl⟩ := (modifyAttributes_eq_ok_iff change).1 hmodify
  intro other name' attributes' hother
  by_cases hid : other = id
  · rw [hid, data?_withData _ (contains_of_data? hdata)] at hother
    obtain ⟨rfl, rfl⟩ := NodeData.element.inj (Option.some.inj hother)
    exact hchange attributes (hnames id name attributes hdata)
  · rw [data?_congr (node?_withData _ hid)] at hother
    exact hnames other name' attributes' hother

theorem remove (hnames : document.NamesInLowerCase) (hremove : document.remove id = .ok after) :
    after.NamesInLowerCase :=
  hnames.of_same_data fun _ => data?_of_remove hremove

theorem append {parent child : NodeId} (hnames : document.NamesInLowerCase)
    (happend : document.append parent child = .ok after) : after.NamesInLowerCase :=
  hnames.of_same_data fun _ => data?_of_append happend

theorem withText (hnames : document.NamesInLowerCase) (content : String) :
    (document.withText id content).NamesInLowerCase := by
  intro other name attributes hdata
  rw [data?_withText] at hdata
  split at hdata
  · cases hdata
  · exact hnames other name attributes hdata

theorem mark (hnames : document.NamesInLowerCase) (id : NodeId) (trust : Trust) :
    (document.mark id trust).NamesInLowerCase :=
  hnames.of_same_data fun _ => rfl

theorem cloneAlone (hnames : document.NamesInLowerCase)
    (hclone : document.cloneAlone id = .ok (after, copy)) : after.NamesInLowerCase := by
  obtain ⟨data, hdata, rfl, _⟩ := cloneAlone_eq_ok_iff.1 hclone
  refine (hnames.create ?_).mark _ _
  rintro name attributes rfl
  exact hnames id name attributes hdata

theorem clone (hnames : document.NamesInLowerCase) {deep : Bool}
    (hclone : (document.clone id deep).run = some (.ok (after, copy))) :
    after.NamesInLowerCase := by
  unfold Document.clone at hclone
  cases deep with
  | false => exact hnames.cloneAlone (Option.some.inj hclone)
  | true =>
    refine cloneWithin_preserves (P := NamesInLowerCase) ?_ ?_ hnames hclone
    · exact fun hbefore hcopy => cloneAlone hbefore hcopy
    · exact fun hbefore happend => append hbefore happend

end NamesInLowerCase

theorem hasLowerNames_elementData {name : String} {given : List (String × String)} (tag : String)
    (attributes : List Attribute) (hdata : elementData name given = .element tag attributes) :
    HasLowerNames attributes := by
  obtain ⟨rfl, rfl⟩ := NodeData.element.inj hdata
  intro a ha
  obtain ⟨pair, _, rfl⟩ := List.mem_map.1 ha
  exact lower_lower pair.1

/-- In every document that the operations make all names of attributes are in lower case. -/
theorem Reachable.namesInLowerCase (hreachable : document.Reachable) :
    document.NamesInLowerCase := by
  induction hreachable with
  | empty =>
    rintro ⟨_ | index⟩ name attributes hdata
    · cases hdata
    · cases hdata
  | createElement name attributes _ ih => exact ih.create hasLowerNames_elementData
  | createPlain hplain _ ih =>
    refine ih.create ?_
    rintro name attributes rfl
    contradiction
  | append _ happend ih => exact ih.append happend
  | remove _ hremove ih => exact ih.remove hremove
  | setAttribute _ hset ih =>
    exact ih.modifyAttributes (fun _ hlower => hlower.setIn _ _) hset
  | removeAttribute _ hremove ih =>
    exact ih.modifyAttributes (fun _ hlower => hlower.filter _)
      (modifyAttributes_of_removeAttribute hremove)
  | setText _ hset ih =>
    obtain ⟨_, rfl⟩ := setText_eq_ok_iff.1 hset
    exact ih.withText _
  | clone _ hclone ih => exact ih.clone hclone
  | bypass _ hbypass ih =>
    obtain ⟨_, rfl⟩ := bypass_eq_ok_iff.1 hbypass
    exact ih.mark _ _
  | propagateTrust source target _ ih => exact ih.mark _ _

end Document

end GadgetGuard
