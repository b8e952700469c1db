import GadgetGuard.Proofs.Config.Alike
/-!
# Resolving a value over a layer

To resolve a value over a layer is not to resolve it and to lay it over afterwards: the files that a
directive in it includes come below the layer.  It is, if no directive stands where the layer has
members or items.
-/

namespace GadgetGuard.Config

/-- No directive stands in a value where another one has members or items. -/
def LiesApart (below above : Json) : Prop :=
  ∀ (names : List String) (entries : List Json.Member) (held : Json),
    above.at? (names.map .member) = some (.object entries) →
    (entries.lookup includeName).isSome = true → below.at? (names.map .member) = some held →
    held.members = [] ∧ held.items = []

section

variable {include? : String → Resolving Json} {file : String} {layers others : List Json}
variable {value under : Json} {members : List Json.Member}

/-! ## Layers -/

/-- Layers matter only by what they hold under each name. -/
theorem resolveMembers_congr
    (hsame : ∀ name, layers.filterMap (·.get? name) = others.filterMap (·.get? name)) :
    resolveMembers include? file layers members value =
      resolveMembers include? file others members value := by
  have hwalk : (alike fun _ => True).Holds (memberPaths file members) (· = ·)
      (resolveMembers include? file layers members value)
      (resolveMembers include? file others members value) := by
    refine (alike fun _ => True).resolveMembers_compared rfl fun m _ _ => ?_
    rw [hsame]
    refine (Parallel.refl _).mono ?_
    rintro resolved _ rfl below _ rfl
    rfl
  exact Parallel.eq hwalk

theorem filterMap_get?_layer {name : String} :
    ([under].filter Json.isObject).filterMap (·.get? name) = (under.get? name).toList := by
  cases under with
  | object entries =>
    change [Json.object entries].filterMap _ = _
    cases hcontent : (Json.object entries).get? name with
    | none => simp [hcontent]
    | some content => simp [hcontent]
  | _ => rfl

/-- A layer with neither members nor items is like none. -/
theorem resolveOver_empty (hmembers : under.members = []) (hitems : under.items = []) :
    resolveOver include? file [under] value = resolveOver include? file [] value := by
  cases value with
  | array items =>
    rw [resolveOver, resolveOver]
    refine bind_congr fun resolved => ?_
    rw [overlaid_cons, overlaid, List.foldr_nil, Json.merge_array, hitems]
    rfl
  | object members =>
    rw [resolveOver, resolveOver]
    cases hobject : under.isObject with
    | false => rw [List.filter_cons_of_neg (by simp [hobject])]
    | true =>
      obtain ⟨entries, rfl⟩ := Json.exists_of_isObject hobject
      obtain rfl : entries = [] := hmembers
      have hnothing : ∀ (included : List Json) (name : String),
          (included ++ [Json.object []]).filterMap (Json.get? · name) =
            (included ++ []).filterMap (Json.get? · name) := by
        intro included name
        rw [List.filterMap_append, List.filterMap_append]
        rfl
      cases members.lookup includeName with
      | none => exact resolveMembers_congr (hnothing [])
      | some directive =>
        refine bind_congr fun included => ?_
        have hrest : resolveMembers include? file
            (included :: [Json.object []].filter Json.isObject) members
            (overlaid (included :: [Json.object []].filter Json.isObject) (.object [])) =
            resolveMembers include? file (included :: [].filter Json.isObject) members
              (overlaid (included :: [].filter Json.isObject) (.object [])) :=
          resolveMembers_congr (hnothing [included])
        dsimp only
        rw [hrest]
        rfl
  | _ => rfl

/-! ## Resolving first, laying over afterwards -/

theorem resolveMembers_lays_over
    (hunder : (under.members.map Prod.fst).Pairwise (· < ·))
    (hmembers : ∀ m ∈ members, m.1 ≠ includeName →
      Parallel (fun result other => result = (under.get? m.1).elim other (·.merge other))
        (resolveOver include? file (under.get? m.1).toList m.2)
        (resolveOver include? file [] m.2)) :
    Parallel (fun result other => result = under.merge other)
      (resolveMembers include? file ([under].filter Json.isObject) members
        (under.merge (.object [])))
      (resolveMembers include? file [] members (.object [])) := by
  have hwalk : (alike fun _ => True).Holds (memberPaths file members)
      (fun result other => result = under.merge other ∧
        ∃ entries, other = .object entries ∧ (entries.map Prod.fst).Pairwise (· < ·))
      (resolveMembers include? file ([under].filter Json.isObject) members
        (under.merge (.object [])))
      (resolveMembers include? file [] members (.object [])) := by
    refine (alike fun _ => True).resolveMembers_compared ⟨rfl, [], rfl, .nil⟩ fun m hm hname => ?_
    rw [filterMap_get?_layer]
    refine (hmembers m hm hname).mono ?_
    rintro _ resolved rfl _ _ ⟨rfl, entries, rfl, hentries⟩
    refine ⟨?_, _, rfl, Json.pairwise_insertMember hentries⟩
    cases under with
    | object members => exact congrArg Json.object (Json.merge_insertMember hunder hentries).symm
    | _ => rfl
  exact (alike fun _ => True).mono hwalk fun _ _ hlaid => hlaid.1

theorem LiesApart.of_get? {name : String} {under' value' : Json}
    (hapart : LiesApart under value) (hvalue : value.get? name = some value')
    (hunder : under.get? name = some under') : LiesApart under' value' := by
  intro names entries held hentries hdirective hheld
  refine hapart (name :: names) entries held ?_ hdirective ?_
  · rw [List.map_cons, Json.at?, List.foldlM_cons, Json.child?, hvalue]
    exact hentries
  · rw [List.map_cons, Json.at?, List.foldlM_cons, Json.child?, hunder]
    exact hheld

/-- A value can be resolved on its own and then be laid over another one, if no directive in it
stands where the other one has members or items. -/
theorem resolveOver_lays_over (hyields : Yields include? Json.IsOrdered)
    (hunder : under.IsOrdered) (hvalue : value.IsOrdered) (hapart : LiesApart under value) :
    Parallel (fun result other => result = under.merge other)
      (resolveOver include? file [under] value) (resolveOver include? file [] value) := by
  induction value using Json.induction_on_content generalizing under with
  | scalar value hscalar =>
    cases value with
    | array | object => contradiction
    | _ => exact .pure rfl
  | array items =>
    rw [resolveOver, resolveOver]
    refine (Parallel.refl _).bind ?_
    rintro resolved _ rfl
    exact .pure rfl
  | object members ih =>
    -- A directive is left only over a value with nothing in it, which is like none.
    by_cases hempty : under.members = [] ∧ under.items = []
    · rw [resolveOver_empty hempty.1 hempty.2]
      refine (resolveOver_parallel carries_ordered hyields hvalue (List.forall_mem_nil _)).mono ?_
      rintro resolved _ ⟨rfl, hgood⟩
      exact (Json.merge_of_empty hempty.1 hempty.2 hgood).symm
    · have hnone : members.lookup includeName = none := by
        rw [← Option.not_isSome_iff_eq_none]
        exact fun hdirective => hempty (hapart [] members under rfl hdirective rfl)
      have hbelow : overlaid ([under].filter Json.isObject) (.object []) =
          under.merge (.object []) := by
        cases under with
        | _ => rfl
      rw [resolveOver, resolveOver, hnone]
      dsimp only
      rw [hbelow]
      refine resolveMembers_lays_over hunder.pairwise_names fun m hm _ => ?_
      have hcontent : (Json.object members).get? m.1 = some m.2 :=
        Json.lookup_of_mem hvalue.nodup_names hm
      cases hheld : under.get? m.1 with
      | none => exact .refl _
      | some held =>
        exact ih m hm (hunder.of_get? hheld) (hvalue.of_get? hcontent)
          (hapart.of_get? hcontent hheld)

end

end GadgetGuard.Config
