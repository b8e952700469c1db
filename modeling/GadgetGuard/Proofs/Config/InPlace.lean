import GadgetGuard.Proofs.Config.Layer
/-!
# Resolving in place

To resolve a value over layers is to lay it over them first and to resolve what comes out: where a
directive stands among the members of a layer, the files that it includes come below them.
-/

namespace GadgetGuard.Config

/-- Values in which no directive is left. -/
structure IsResolved (value : Json) : Prop where
  ordered : value.IsOrdered
  free : value.Within (fun _ => True) (· ≠ includeName)

/-- Members come out when some members are laid over others: each is one from below, or one from
above laid over what is below it. -/
inductive Covers (below : List Json.Member) : List Json.Member → List Json.Member → Prop
  | nil : Covers below [] []
  | added {name : String} {content : Json} {above merged : List Json.Member}
      (hbelow : below.lookup name = some content) (hname : name ∉ above.map Prod.fst)
      (hmerged : Covers below above merged) : Covers below above ((name, content) :: merged)
  | kept {name : String} {value : Json} {above merged : List Json.Member}
      (hmerged : Covers below above merged) :
      Covers below ((name, value) :: above)
        ((name, (below.lookup name).elim value (·.merge value)) :: merged)

/-- To resolve a value over layers is to lay it over the last one first. -/
def GoesOverLast (include? : String → Resolving Json) (file : String) (value : Json) : Prop :=
  ∀ (layers : List Json) (under : Json), (∀ layer ∈ layers, layer.IsOrdered) →
    IsResolved under → Parallel (· = ·) (resolveOver include? file (layers ++ [under]) value)
      (resolveOver include? file layers (under.merge value))

section

variable {include? : String → Resolving Json} {file name : String}
variable {layers items : List Json} {value under content : Json}
variable {members entries above merged sorted sorted' : List Json.Member}

namespace IsResolved

theorem of_get? (hvalue : IsResolved value) (hcontent : value.get? name = some content) :
    IsResolved content :=
  ⟨hvalue.ordered.of_get? hcontent, hvalue.free.of_get? hcontent⟩

theorem of_mem (hvalue : IsResolved (.object members)) {m : Json.Member} (hm : m ∈ members) :
    m.1 ≠ includeName ∧ IsResolved m.2 := by
  obtain ⟨hordered, hfree⟩ := hvalue
  cases hordered with
  | object _ hvalues => cases hfree with
    | object hnames hvalues' => exact ⟨hnames m hm, hvalues m hm, hvalues' m hm⟩

theorem of_item (hvalue : IsResolved value) {item : Json} (hitem : item ∈ value.items) :
    IsResolved item := by
  obtain ⟨hordered, hfree⟩ := hvalue
  cases hordered with
  | array hitems => cases hfree with
    | array hitems' => exact ⟨hitems item hitem, hitems' item hitem⟩
  | _ => exact nomatch hitem

theorem empty : IsResolved (.object []) :=
  ⟨carries_ordered.empty, .object (List.forall_mem_nil _) (List.forall_mem_nil _)⟩

theorem merge (hunder : IsResolved under) (hvalue : IsResolved value) :
    IsResolved (under.merge value) :=
  ⟨hunder.ordered.merge hvalue.ordered, hunder.free.merge hvalue.free⟩

theorem lookup_includeName (hvalue : IsResolved (.object members)) :
    members.lookup includeName = none := by
  rw [Json.lookup_eq_none_iff]
  intro hname
  obtain ⟨m, hm, hsame⟩ := List.mem_map.1 hname
  exact (hvalue.of_mem hm).1 hsame

end IsResolved

/-! ## What layers hold under a name -/

theorem isOrdered_of_mem_held (hlayers : ∀ layer ∈ layers, layer.IsOrdered) (name : String) :
    ∀ held ∈ layers.filterMap (Json.get? · name), held.IsOrdered := by
  intro held hheld
  obtain ⟨layer, hlayer, hcontent⟩ := List.mem_filterMap.1 hheld
  exact (hlayers layer hlayer).of_get? hcontent

theorem isOrdered_of_mem_objects (hlayers : ∀ layer ∈ layers, layer.IsOrdered) :
    ∀ layer ∈ layers.filter Json.isObject, layer.IsOrdered ∧ layer.isObject = true :=
  fun layer hlayer =>
    ⟨hlayers layer (List.mem_of_mem_filter hlayer), (List.mem_filter.1 hlayer).2⟩

theorem overlaid_append {others : List Json} :
    overlaid (layers ++ others) value = overlaid layers (overlaid others value) :=
  List.foldr_append

theorem overlaid_filter : overlaid (layers.filter Json.isObject) (.object members) =
    overlaid layers (.object members) := by
  induction layers with
  | nil => rfl
  | cons layer layers ih =>
    cases hlayer : layer.isObject with
    | true => rw [List.filter_cons_of_pos hlayer, overlaid_cons, overlaid_cons, ih]
    | false =>
      obtain ⟨entries, hentries⟩ := exists_overlaid layers members
      rw [List.filter_cons_of_neg (by simp [hlayer]), overlaid_cons, ih, hentries,
        Json.merge_object_of_not_object hlayer]

theorem pairwise_overlaid (hlayers : ∀ layer ∈ layers, layer.IsOrdered)
    (hmembers : (members.map Prod.fst).Pairwise (· < ·)) :
    ((overlaid layers (.object members)).members.map Prod.fst).Pairwise (· < ·) := by
  induction layers with
  | nil => exact hmembers
  | cons layer layers ih =>
    obtain ⟨hlayer, hlayers⟩ := List.forall_mem_cons.1 hlayers
    have hbelow := ih hlayers
    obtain ⟨entries, hentries⟩ := exists_overlaid layers members
    rw [hentries] at hbelow
    rw [overlaid_cons, hentries]
    cases layer with
    | object members => exact Json.pairwise_mergeMembers hlayer.pairwise_names
    | _ => exact hbelow

theorem get?_overlaid (hlayers : ∀ layer ∈ layers, layer.IsOrdered ∧ layer.isObject = true)
    (hmembers : (members.map Prod.fst).Pairwise (· < ·)) (name : String) :
    (overlaid layers (.object members)).get? name =
      (members.lookup name).elim ((overlaid layers (.object [])).get? name)
        fun content => some (overlaid (layers.filterMap (·.get? name)) content) := by
  induction layers with
  | nil =>
    change members.lookup name = _
    cases members.lookup name with
    | none => rfl
    | some content => rfl
  | cons layer layers ih =>
    obtain ⟨⟨hlayer, hobject⟩, hlayers⟩ := List.forall_mem_cons.1 hlayers
    have hmerged : ∀ above : List Json.Member, (above.map Prod.fst).Pairwise (· < ·) →
        (overlaid (layer :: layers) (.object above)).get? name =
          Json.laidOver (layer.get? name) ((overlaid layers (.object above)).get? name) := by
      intro above habove
      have hnames := pairwise_overlaid (fun layer hlayer => (hlayers layer hlayer).1) habove
      obtain ⟨entries, hentries⟩ := exists_overlaid layers above
      rw [hentries] at hnames
      rw [overlaid_cons, hentries]
      exact Json.get?_merge_object hobject (hnames.imp ne_of_lt) name
    rw [hmerged members hmembers, hmerged [] .nil, ih hlayers]
    cases members.lookup name with
    | none => rfl
    | some content =>
      cases hheld : layer.get? name with
      | none =>
        rw [List.filterMap_cons, hheld]
        rfl
      | some held =>
        rw [List.filterMap_cons, hheld]
        rfl

/-! ## Nothing left to resolve -/

theorem resolveMembers_resolved (hnames : ∀ m ∈ members, m.1 ≠ includeName)
    (hvalues : ∀ m ∈ members, resolveOver include? file (layers.filterMap (·.get? m.1)) m.2 =
      pure (overlaid (layers.filterMap (·.get? m.1)) m.2)) :
    resolveMembers include? file layers members (.object sorted) =
      pure (.object ((members.map fun m =>
        (m.1, overlaid (layers.filterMap (·.get? m.1)) m.2)).foldl
          (fun sorted m => Json.insertMember m.1 m.2 sorted) sorted)) := by
  induction members generalizing sorted with
  | nil => rfl
  | cons m members ih =>
    obtain ⟨hname, hnames⟩ := List.forall_mem_cons.1 hnames
    obtain ⟨hvalue, hvalues⟩ := List.forall_mem_cons.1 hvalues
    rw [resolveMembers, if_neg hname, hvalue, pure_bind]
    exact ih hnames hvalues

theorem resolveItems_append {first : List Json}
    (hfirst : ∀ item ∈ first, resolveOver include? file [] item = pure item) :
    resolveItems include? file (first ++ items) =
      (do return first ++ (← resolveItems include? file items)) := by
  induction first with
  | nil => exact (bind_pure _).symm
  | cons item first ih =>
    obtain ⟨hitem, hfirst⟩ := List.forall_mem_cons.1 hfirst
    rw [List.cons_append, resolveItems, hitem, pure_bind, ih hfirst, bind_assoc]
    exact bind_congr fun resolved => pure_bind _ _

theorem pairwise_foldl_insertMember (hsorted : (sorted.map Prod.fst).Pairwise (· < ·)) :
    ((members.foldl (fun sorted m => Json.insertMember m.1 m.2 sorted) sorted).map
      Prod.fst).Pairwise (· < ·) := by
  induction members generalizing sorted with
  | nil => exact hsorted
  | cons m members ih => exact ih (Json.pairwise_insertMember hsorted)

theorem lookup_map_members {f : Json.Member → Json} :
    (members.map fun m => (m.1, f m)).lookup name =
      (members.lookup name).map fun content => f (name, content) := by
  induction members with
  | nil => rfl
  | cons m members ih =>
    rw [List.map_cons, Json.lookup_cons, Json.lookup_cons, ih]
    split
    next heq =>
      rw [heq]
      rfl
    next => rfl

/-- A value in which nothing is left to resolve is laid over the layers as it is. -/
theorem resolveOver_resolved (hlayers : ∀ layer ∈ layers, layer.IsOrdered)
    (hvalue : IsResolved value) :
    resolveOver include? file layers value = pure (overlaid layers value) := by
  induction value using Json.induction_on_content generalizing layers with
  | scalar value hscalar =>
    have hover : overlaid layers value = value := by
      induction layers with
      | nil => rfl
      | cons layer layers ih =>
        rw [overlaid_cons, ih (List.forall_mem_cons.1 hlayers).2]
        cases value with
        | array | object => contradiction
        | _ => rfl
    rw [hover]
    cases value with
    | array | object => contradiction
    | _ => rfl
  | array items ih =>
    have hitems : resolveItems include? file (items ++ []) =
        (do return items ++ (← resolveItems include? file [])) :=
      resolveItems_append fun item hitem =>
        ih item hitem (List.forall_mem_nil _) (hvalue.of_item hitem)
    rw [List.append_nil, resolveItems, pure_bind, List.append_nil] at hitems
    rw [resolveOver, hitems, pure_bind]
  | object members ih =>
    have hkept := isOrdered_of_mem_objects hlayers
    have hmembers : (members.map Prod.fst).Pairwise (· < ·) := hvalue.ordered.pairwise_names
    have hstart : ((overlaid (layers.filter Json.isObject) (.object [])).members.map
        Prod.fst).Pairwise (· < ·) :=
      pairwise_overlaid (fun layer hlayer => (hkept layer hlayer).1) .nil
    obtain ⟨below, hbelow⟩ := exists_overlaid (layers.filter Json.isObject) []
    rw [resolveOver, hvalue.lookup_includeName]
    dsimp only
    rw [hbelow] at hstart
    rw [hbelow, resolveMembers_resolved (fun m hm => (hvalue.of_mem hm).1) fun m hm => ?_]
    · obtain ⟨entries, hentries⟩ := exists_overlaid (layers.filter Json.isObject) members
      have hresult := pairwise_overlaid (fun layer hlayer => (hkept layer hlayer).1) hmembers
      have hcontents := get?_overlaid hkept hmembers
      rw [← overlaid_filter, hentries]
      rw [hentries] at hresult hcontents
      rw [hbelow] at hcontents
      refine congrArg (fun entries => pure (Json.object entries))
        (Json.eq_of_lookup (pairwise_foldl_insertMember hstart) hresult fun name => ?_)
      refine Eq.trans ?_ (hcontents name).symm
      rw [Json.lookup_foldl_insertMember, lookup_map_members]
      · cases members.lookup name with
        | none => rfl
        | some content => rfl
      · rw [List.map_map]
        exact hvalue.ordered.nodup_names
    · exact ih m hm (isOrdered_of_mem_held (fun layer hlayer => (hkept layer hlayer).1) m.1)
        (hvalue.of_mem hm).2

/-! ## Members laid over members -/

theorem covers_of_lookup (hmerged : (merged.map Prod.fst).Pairwise (· < ·))
    (habove : (above.map Prod.fst).Pairwise (· < ·))
    (hlookup : ∀ m ∈ merged,
      Json.laidOver (entries.lookup m.1) (above.lookup m.1) = some m.2)
    (hnames : ∀ m ∈ above, m.1 ∈ merged.map Prod.fst) : Covers entries above merged := by
  induction merged generalizing above with
  | nil =>
    cases above with
    | nil => exact .nil
    | cons m above => exact absurd (hnames m List.mem_cons_self) List.not_mem_nil
  | cons first merged ih =>
    obtain ⟨name, content⟩ := first
    obtain ⟨hless, hrest⟩ := List.pairwise_cons.1 hmerged
    obtain ⟨hcontent, hothers⟩ := List.forall_mem_cons.1 hlookup
    -- Both lists are in order, so the first name of all is the first one above if it is there.
    by_cases hname : name ∈ above.map Prod.fst
    · cases above with
      | nil => contradiction
      | cons m above =>
        obtain ⟨hfirst, habove⟩ := List.pairwise_cons.1 habove
        obtain ⟨hm, hnames⟩ := List.forall_mem_cons.1 hnames
        obtain rfl : m.1 = name := by
          obtain heq | hlater := List.mem_cons.1 hm
          · exact heq
          · obtain heq | hname := List.mem_cons.1 hname
            · exact heq.symm
            · exact absurd (hfirst _ hname) (not_lt_of_gt (hless _ hlater))
        obtain rfl : (entries.lookup m.1).elim m.2 (·.merge m.2) = content := by
          rw [Json.lookup_cons, if_pos rfl] at hcontent
          cases hbelow : entries.lookup m.1 with
          | _ => simpa [hbelow, Json.laidOver] using hcontent
        refine .kept (ih hrest habove (fun other hother => ?_) fun other hother => ?_)
        · rw [← hothers other hother, Json.lookup_cons,
            if_neg (ne_of_gt (hless _ (List.mem_map_of_mem hother)))]
        · obtain heq | hlater := List.mem_cons.1 (hnames other hother)
          · exact absurd (hfirst _ (List.mem_map_of_mem hother)) (heq ▸ lt_irrefl _)
          · exact hlater
    · rw [Json.lookup_eq_none_iff.2 hname] at hcontent
      have hbelow : entries.lookup name = some content := by
        cases hbelow : entries.lookup name with
        | none => simp [hbelow, Json.laidOver] at hcontent
        | some held => simpa [hbelow, Json.laidOver] using hcontent
      refine .added hbelow hname (ih hrest habove hothers fun m hm => ?_)
      have hmem := List.mem_map_of_mem (f := Prod.fst) hm
      obtain heq | hlater := List.mem_cons.1 (hnames m hm)
      · rw [heq] at hmem
        exact absurd hmem hname
      · exact hlater

theorem covers_mergeMembers (hentries : (entries.map Prod.fst).Pairwise (· < ·))
    (habove : (above.map Prod.fst).Pairwise (· < ·)) :
    Covers entries above (Json.mergeMembers entries above) := by
  have hmerged : ((Json.mergeMembers entries above).map Prod.fst).Pairwise (· < ·) :=
    Json.pairwise_mergeMembers hentries
  have hlookup : ∀ name, (Json.mergeMembers entries above).lookup name =
      Json.laidOver (entries.lookup name) (above.lookup name) :=
    fun name => Json.lookup_mergeMembers (habove.imp ne_of_lt)
  refine covers_of_lookup hmerged habove (fun m hm => ?_) fun m hm => ?_
  · rw [← hlookup, Json.lookup_of_mem (hmerged.imp ne_of_lt) hm]
  · by_contra hnot
    rw [← Json.lookup_eq_none_iff, hlookup, Json.lookup_of_mem (habove.imp ne_of_lt) hm] at hnot
    cases hbelow : entries.lookup m.1 with
    | _ => simp [hbelow, Json.laidOver] at hnot

/-- What lies over the last layer under a name is laid over what this layer holds there. -/
theorem parallel_under_name (hlayers : ∀ layer ∈ layers, layer.IsOrdered)
    (hentries : IsResolved (.object entries)) (hvalue : GoesOverLast include? file value) :
    Parallel (· = ·)
      (resolveOver include? file
        ((layers ++ [Json.object entries]).filterMap (Json.get? · name)) value)
      (resolveOver include? file (layers.filterMap (·.get? name))
        ((entries.lookup name).elim value (·.merge value))) := by
  rw [List.filterMap_append]
  cases hheld : entries.lookup name with
  | none =>
    have hnone : [Json.object entries].filterMap (Json.get? · name) = [] :=
      List.filterMap_cons_none hheld
    rw [hnone, List.append_nil]
    exact .refl _
  | some held =>
    have hsome : [Json.object entries].filterMap (Json.get? · name) = [held] :=
      List.filterMap_cons_some hheld
    rw [hsome]
    exact hvalue _ held (isOrdered_of_mem_held hlayers name) (hentries.of_get? hheld)

/-- The walk over members that lie over a layer, beside the walk over both laid over one another:
what the layer adds is already there in the first one. -/
theorem Covers.parallel (hcovers : Covers entries above merged)
    (hlayers : ∀ layer ∈ layers, layer.IsOrdered) (hentries : IsResolved (.object entries))
    (hvalues : ∀ m ∈ above, GoesOverLast include? file m.2)
    (hnodup : (merged.map Prod.fst).Nodup)
    (hsorted : (sorted.map Prod.fst).Pairwise (· < ·))
    (hsorted' : (sorted'.map Prod.fst).Pairwise (· < ·))
    (hsame : ∀ name, (name ∈ merged.map Prod.fst → name = includeName) →
      sorted.lookup name = sorted'.lookup name)
    (hadded : ∀ m ∈ merged, m.1 ∉ above.map Prod.fst →
      sorted.lookup m.1 = some (overlaid (layers.filterMap (·.get? m.1)) m.2)) :
    Parallel (· = ·) (resolveMembers include? file (layers ++ [.object entries]) above
      (.object sorted)) (resolveMembers include? file layers merged (.object sorted')) := by
  -- The first walk has from its start what the second one sets when it comes to an added name.
  induction hcovers generalizing sorted sorted' with
  | nil =>
    have hequal := Json.eq_of_lookup hsorted hsorted' fun name => hsame name fun hname =>
      nomatch hname
    rw [hequal]
    exact .refl _
  | @added name content above merged hbelow hname _ ih =>
    obtain ⟨hnew, hnodup⟩ := List.nodup_cons.1 hnodup
    obtain ⟨hfirst, hadded⟩ := List.forall_mem_cons.1 hadded
    have hm : (name, content) ∈ entries := Json.mem_of_lookup hbelow
    have hover : resolveOver include? file (layers.filterMap (·.get? name)) content =
        pure (overlaid (layers.filterMap (·.get? name)) content) :=
      resolveOver_resolved (isOrdered_of_mem_held hlayers name) (hentries.of_mem hm).2
    have hstep : resolveMembers include? file layers ((name, content) :: merged)
        (.object sorted') = resolveMembers include? file layers merged (.object <|
          Json.insertMember name (overlaid (layers.filterMap (·.get? name)) content) sorted') := by
      rw [resolveMembers, if_neg (hentries.of_mem hm).1, hover, pure_bind]
      rfl
    rw [hstep]
    refine ih hvalues hnodup hsorted (Json.pairwise_insertMember hsorted') (fun other hother => ?_)
      hadded
    rw [Json.lookup_insertMember]
    split
    next heq => rw [heq, hfirst hname]
    next hne =>
      refine hsame other fun hmem => ?_
      obtain heq | hlater := List.mem_cons.1 hmem
      · exact absurd heq hne
      · exact hother hlater
  | @kept name value above merged _ ih =>
    obtain ⟨hnew, hnodup⟩ := List.nodup_cons.1 hnodup
    obtain ⟨hvalue, hvalues⟩ := List.forall_mem_cons.1 hvalues
    obtain ⟨-, hadded⟩ := List.forall_mem_cons.1 hadded
    have hother : ∀ m ∈ merged, m.1 ≠ name := by
      intro m hm heq
      have hmem := List.mem_map_of_mem (f := Prod.fst) hm
      rw [heq] at hmem
      exact hnew hmem
    have hlater : ∀ m ∈ merged, m.1 ∉ above.map Prod.fst → m.1 ∉ name :: above.map Prod.fst :=
      fun m hm hnot hmem => (List.mem_cons.1 hmem).elim (hother m hm) hnot
    rw [resolveMembers, resolveMembers]
    split
    next hname =>
      refine ih hvalues hnodup hsorted hsorted' (fun other hkept => hsame other fun hmem => ?_)
        fun m hm hnot => hadded m hm (hlater m hm hnot)
      obtain heq | hmem := List.mem_cons.1 hmem
      · exact heq.trans hname
      · exact hkept hmem
    next hname =>
      refine (parallel_under_name hlayers hentries hvalue).bind ?_
      rintro resolved _ rfl
      refine ih hvalues hnodup (Json.pairwise_insertMember hsorted)
        (Json.pairwise_insertMember hsorted') (fun other hkept => ?_) fun m hm hnot => ?_
      · rw [Json.lookup_insertMember, Json.lookup_insertMember]
        split
        next => rfl
        next hne =>
          refine hsame other fun hmem => ?_
          obtain heq | hmem := List.mem_cons.1 hmem
          · exact absurd heq hne
          · exact hkept hmem
      · rw [Json.lookup_insertMember, if_neg (hother m hm)]
        exact hadded m hm (hlater m hm hnot)

/-! ## Resolving what is laid over -/

theorem mem_names_mergeMembers (hmembers : (members.map Prod.fst).Pairwise (· < ·)) :
    name ∈ (Json.mergeMembers entries members).map Prod.fst ↔
      name ∈ entries.map Prod.fst ∨ name ∈ members.map Prod.fst := by
  have hlookup : (Json.mergeMembers entries members).lookup name =
      Json.laidOver (entries.lookup name) (members.lookup name) :=
    Json.lookup_mergeMembers (hmembers.imp ne_of_lt)
  rw [← not_iff_not, not_or, ← Json.lookup_eq_none_iff, ← Json.lookup_eq_none_iff,
    ← Json.lookup_eq_none_iff, hlookup]
  cases entries.lookup name with
  | _ => cases members.lookup name with
    | _ => simp [Json.laidOver]

/-- The walk over members that lie over layers is the walk over what comes out when they are laid
over the last one. -/
theorem resolveMembers_append (layers : List Json)
    (hlayers : ∀ layer ∈ layers, layer.IsOrdered ∧ layer.isObject = true)
    (hentries : IsResolved (.object entries)) (hmembers : (Json.object members).IsOrdered)
    (hvalues : ∀ m ∈ members, GoesOverLast include? file m.2) :
    Parallel (· = ·)
      (resolveMembers include? file (layers ++ [.object entries]) members
        (overlaid (layers ++ [.object entries]) (.object [])))
      (resolveMembers include? file layers (Json.mergeMembers entries members)
        (overlaid layers (.object []))) := by
  have hordered : ∀ layer ∈ layers, layer.IsOrdered := fun layer hlayer => (hlayers layer hlayer).1
  have hnames : (entries.map Prod.fst).Pairwise (· < ·) := hentries.ordered.pairwise_names
  have hnames' : (members.map Prod.fst).Pairwise (· < ·) := hmembers.pairwise_names
  have hstart : overlaid (layers ++ [.object entries]) (.object []) =
      overlaid layers (.object entries) := by
    rw [overlaid_append]
    rfl
  obtain ⟨sorted, hsorted⟩ := exists_overlaid layers entries
  obtain ⟨sorted', hsorted'⟩ := exists_overlaid layers []
  have hpairwise := pairwise_overlaid hordered hnames
  have hpairwise' : ((overlaid layers (.object [])).members.map Prod.fst).Pairwise (· < ·) :=
    pairwise_overlaid hordered .nil
  have hcontents := get?_overlaid hlayers hnames
  rw [hsorted] at hpairwise hcontents
  rw [hsorted'] at hpairwise' hcontents
  rw [hstart, hsorted, hsorted']
  refine (covers_mergeMembers hnames hnames').parallel hordered hentries hvalues
    ((Json.pairwise_mergeMembers hnames).imp ne_of_lt) hpairwise hpairwise' (fun name hname => ?_)
    fun m hm hnot => ?_
  · have hnone : entries.lookup name = none := by
      rw [Json.lookup_eq_none_iff]
      intro hmem
      obtain rfl := hname ((mem_names_mergeMembers hnames').2 (.inl hmem))
      exact Json.lookup_eq_none_iff.1 hentries.lookup_includeName hmem
    refine (hcontents name).trans ?_
    rw [hnone]
    rfl
  · have hmerged : (Json.mergeMembers entries members).lookup m.1 = some m.2 :=
      Json.lookup_of_mem ((Json.pairwise_mergeMembers hnames).imp ne_of_lt) hm
    rw [Json.lookup_mergeMembers (hnames'.imp ne_of_lt), Json.lookup_eq_none_iff.2 hnot] at hmerged
    have hbelow : entries.lookup m.1 = some m.2 := by
      cases hbelow : entries.lookup m.1 with
      | none => simp [hbelow, Json.laidOver] at hmerged
      | some held => simpa [hbelow, Json.laidOver] using hmerged
    refine (hcontents m.1).trans ?_
    rw [hbelow]
    rfl

/-- Beside a directive there is nothing in an object that is laid over another one, exactly if there
is nothing in either. -/
theorem all_mergeMembers (hentries : IsResolved (.object entries))
    (hmembers : (members.map Prod.fst).Pairwise (· < ·)) :
    (Json.mergeMembers entries members).all (·.1 == includeName) =
      (members.all (·.1 == includeName) && entries.isEmpty) := by
  rw [Bool.eq_iff_iff, Bool.and_eq_true, List.isEmpty_iff]
  simp only [List.all_eq_true, beq_iff_eq]
  constructor
  · intro hall
    have hnames : ∀ name ∈ (Json.mergeMembers entries members).map Prod.fst,
        name = includeName := List.forall_mem_map.2 hall
    refine ⟨fun m hm => hnames _ ((mem_names_mergeMembers hmembers).2
      (.inr (List.mem_map_of_mem hm))), List.eq_nil_iff_forall_not_mem.2 fun m hm => ?_⟩
    exact (hentries.of_mem hm).1
      (hnames _ ((mem_names_mergeMembers hmembers).2 (.inl (List.mem_map_of_mem hm))))
  · rintro ⟨hall, rfl⟩ m hm
    obtain hbelow | habove := (mem_names_mergeMembers hmembers).1 (List.mem_map_of_mem hm)
    · contradiction
    · obtain ⟨other, hother, hsame⟩ := List.mem_map.1 habove
      exact hsame.symm.trans (hall other hother)

/-- It makes no difference whether the last layer is laid below a value before it is resolved. -/
theorem goesOverLast (hyields : Yields include? Json.IsOrdered) (hvalue : value.IsOrdered) :
    GoesOverLast include? file value := by
  induction value using Json.induction_on_content with
  | scalar value hscalar =>
    intro layers under hlayers hunder
    cases value with
    | array | object => contradiction
    | _ => exact .refl _
  | array items ih =>
    intro layers under hlayers hunder
    have hitems : resolveItems include? file (under.items ++ items) =
        (do return under.items ++ (← resolveItems include? file items)) :=
      resolveItems_append fun item hitem =>
        resolveOver_resolved (List.forall_mem_nil _) (hunder.of_item hitem)
    rw [Json.merge_array, resolveOver, resolveOver, hitems, bind_assoc]
    refine (Parallel.refl _).bind ?_
    rintro resolved _ rfl
    rw [pure_bind, overlaid_append, ← Json.merge_array]
    exact .pure rfl
  | object members ih =>
    have hvalues : ∀ m ∈ members, GoesOverLast include? file m.2 := fun m hm =>
      ih m hm (hvalue.of_get? (Json.lookup_of_mem hvalue.nodup_names hm))
    intro layers under hlayers hunder
    have hkept := isOrdered_of_mem_objects hlayers
    cases hobject : under.isObject with
    | false =>
      have hsame : resolveOver include? file (layers ++ [under]) (.object members) =
          resolveOver include? file layers (.object members) := by
        rw [resolveOver, resolveOver, List.filter_append,
          List.filter_cons_of_neg (by simp [hobject]), List.filter_nil, List.append_nil]
      rw [hsame, Json.merge_object_of_not_object hobject]
      exact .refl _
    | true =>
      obtain ⟨entries, rfl⟩ := Json.exists_of_isObject hobject
      have hnames : (members.map Prod.fst).Pairwise (· < ·) := hvalue.pairwise_names
      have hlast : [Json.object entries].filter Json.isObject = [.object entries] := rfl
      have hmerged : (Json.object entries).merge (.object members) =
          .object (Json.mergeMembers entries members) := rfl
      have hdirective : (Json.mergeMembers entries members).lookup includeName =
          members.lookup includeName := by
        rw [Json.lookup_mergeMembers (hnames.imp ne_of_lt), hunder.lookup_includeName]
        rfl
      rw [hmerged, resolveOver, resolveOver, List.filter_append, hlast, hdirective]
      cases members.lookup includeName with
      | none => exact resolveMembers_append _ hkept hunder hvalue hvalues
      | some directive =>
        refine (includeAll_parallel carries_ordered.empty (fun _ _ => carries_ordered.merge)
          hyields).bind ?_
        rintro included _ ⟨rfl, hordered⟩
        have halone : ((members.all fun m => m.1 == includeName) &&
              (layers.filter Json.isObject ++ [Json.object entries]).all
                fun layer => layer.members.isEmpty) =
            (((Json.mergeMembers entries members).all fun m => m.1 == includeName) &&
              (layers.filter Json.isObject).all fun layer => layer.members.isEmpty) := by
          have hempty : ([Json.object entries].all fun layer => layer.members.isEmpty) =
              entries.isEmpty := Bool.and_true _
          rw [all_mergeMembers hunder hnames, List.all_append, hempty, Bool.and_assoc,
            Bool.and_comm entries.isEmpty]
        dsimp only
        rw [halone]
        split
        · exact .pure rfl
        split
        · exact .throw
        next hobject =>
          refine resolveMembers_append (included :: layers.filter Json.isObject)
            (List.forall_mem_cons.2 ⟨⟨hordered, by simpa using hobject⟩, hkept⟩) hunder hvalue
            hvalues

end

end GadgetGuard.Config
