import Mathlib.Data.List.Basic
import Mathlib.Data.List.Nodup
import GadgetGuard.Proofs.Config.Followed
import GadgetGuard.Proofs.Text.Utf8
/-!
# Ways of includes

From the file that is loaded, ways of includes lead to other files.  To resolve it is to go these
ways in their order and to read the file at the end of each.  No file is read twice, and no way
leads further than the limit allows, whatever the files say.
-/

namespace GadgetGuard.Config

/-- Where a path leads that a file names. -/
def includedPath (including relative : String) : String :=
  Path.joined (Path.parent including) relative

/-- What the file at a path holds, if there is one that can be read. -/
def held? (files : FileSystem) (path : String) : Option Json :=
  (files path).bind fun entry => (readFile path entry).toOption

/-- The canonical name of what stands at a path. -/
def nameAt (files : FileSystem) (path : String) : Option String :=
  (files path).map Entry.canonicalName

/-- The paths that the file at a path names. -/
def namedBy (files : FileSystem) (path : String) : List String :=
  (held? files path).elim [] (namedPaths path)

/-- A file that holds a text. -/
def textEntry (canonicalName text : String) : Entry where
  canonicalName := canonicalName
  content := some (Text.encodeUtf8 text.toList)

/-- A way of includes from one file to another: which of the paths that it names each file on the
way includes, the last one first. -/
inductive Way (files : FileSystem) (root : String) : List Nat → String → Prop
  | start : Way files root [] root
  | into {way : List Nat} {path relative : String} {index : Nat} (hway : Way files root way path)
      (hnamed : (namedBy files path)[index]? = some relative) :
      Way files root (index :: way) (includedPath path relative)

/-- A way and the path at its end. -/
abbrev Leg := List Nat × String

/-- The ways that lead on from a way, with at most so many includes more, in their order. -/
def waysBelow (files : FileSystem) : Nat → Leg → List Leg
  | 0, _ => []
  | levels + 1, leg =>
    (namedBy files leg.2).zipIdx.flatMap fun (relative, index) =>
      let next := (index :: leg.1, includedPath leg.2 relative)
      next :: waysBelow files levels next

/-- The ways that lead on through some of the paths that a file names, numbered from a start. -/
def waysThrough (files : FileSystem) (levels : Nat) (leg : Leg) (relatives : List String)
    (start : Nat) : List Leg :=
  (relatives.zipIdx start).flatMap fun (relative, index) =>
    let next := (index :: leg.1, includedPath leg.2 relative)
    next :: waysBelow files levels next

section

variable {files : FileSystem} {root path relative : String} {way : List Nat} {leg next : Leg}
variable {levels index start : Nat} {relatives : List String}

theorem held?_eq_some {entry : Entry} {value : Json} (hfile : files path = some entry)
    (hread : readFile path entry = .ok value) : held? files path = some value := by
  rw [held?, hfile, Option.bind_some, hread]
  rfl

theorem readFile_textEntry {text : String} {value : Json}
    (hvalue : Json.ofJson5? text.toList = some value) :
    readFile path (textEntry root text) = .ok value := by
  have hdecoded : Text.decodeUtf8? (Text.encodeUtf8 text.toList) = some text.toList :=
    Text.decodeUtf8?_eq_some_iff.2 rfl
  rw [readFile, textEntry, Option.bind_some, hdecoded]
  dsimp only
  rw [hvalue]

/-! ## The ways of limited length -/

theorem mem_waysBelow_succ : next ∈ waysBelow files (levels + 1) leg ↔
    ∃ index relative, (namedBy files leg.2)[index]? = some relative ∧
      (next = (index :: leg.1, includedPath leg.2 relative) ∨
        next ∈ waysBelow files levels (index :: leg.1, includedPath leg.2 relative)) := by
  simp only [waysBelow, List.mem_flatMap, List.mem_cons, Prod.exists, List.mem_zipIdx_iff_getElem?]
  exact exists_comm

theorem exists_of_mem_waysBelow (hnext : next ∈ waysBelow files levels leg) :
    ∃ more, more ≠ [] ∧ next.1 = more ++ leg.1 ∧ more.length ≤ levels := by
  induction levels generalizing leg with
  | zero => contradiction
  | succ levels ih =>
    obtain ⟨index, relative, -, rfl | hlater⟩ := mem_waysBelow_succ.1 hnext
    · exact ⟨[index], List.cons_ne_nil _ _, rfl, Nat.succ_le_succ (Nat.zero_le levels)⟩
    · obtain ⟨more, -, hway, hlength⟩ := ih hlater
      refine ⟨more ++ [index], by simp, by simp [hway], ?_⟩
      simpa using hlength

theorem Way.of_mem_waysBelow (hway : Way files root leg.1 leg.2)
    (hnext : next ∈ waysBelow files levels leg) : Way files root next.1 next.2 := by
  induction levels generalizing leg with
  | zero => contradiction
  | succ levels ih =>
    obtain ⟨index, relative, hnamed, rfl | hlater⟩ := mem_waysBelow_succ.1 hnext
    · exact hway.into hnamed
    · exact ih (hway.into hnamed) hlater

theorem waysBelow_into (hleg : next ∈ waysBelow files levels leg)
    (hlength : next.1.length < leg.1.length + levels)
    (hnamed : (namedBy files next.2)[index]? = some relative) :
    (index :: next.1, includedPath next.2 relative) ∈ waysBelow files levels leg := by
  induction levels generalizing leg with
  | zero => contradiction
  | succ levels ih =>
    obtain ⟨first, named, hfirst, rfl | hlater⟩ := mem_waysBelow_succ.1 hleg
    · refine mem_waysBelow_succ.2 ⟨first, named, hfirst, .inr ?_⟩
      cases levels with
      | zero => simp at hlength
      | succ levels => exact mem_waysBelow_succ.2 ⟨index, relative, hnamed, .inl rfl⟩
    · refine mem_waysBelow_succ.2 ⟨first, named, hfirst, .inr (ih hlater ?_)⟩
      simp only [List.length_cons]
      omega

/-- Every way of limited length is among the ways below its start. -/
theorem Way.mem_waysBelow (hway : Way files root way path) (hne : way ≠ [])
    (hlength : way.length ≤ levels) : (way, path) ∈ waysBelow files levels ([], root) := by
  induction hway with
  | start => contradiction
  | @into way path relative index hway hnamed ih =>
    simp only [List.length_cons] at hlength
    cases way with
    | nil =>
      cases hway
      obtain ⟨levels, rfl⟩ := Nat.exists_eq_succ_of_ne_zero (Nat.ne_of_gt hlength)
      exact mem_waysBelow_succ.2 ⟨index, relative, hnamed, .inl rfl⟩
    | cons first way =>
      exact waysBelow_into (ih (List.cons_ne_nil _ _) (Nat.le_of_succ_le hlength))
        (by simp only [List.length_cons] at hlength ⊢; omega) hnamed

theorem Way.mem_legs (hway : Way files root way path) (hlength : way.length ≤ levels) :
    (way, path) ∈ ([], root) :: waysBelow files levels ([], root) := by
  cases way with
  | nil =>
    cases hway
    exact List.mem_cons_self
  | cons index way =>
    exact List.mem_cons_of_mem _ (hway.mem_waysBelow (List.cons_ne_nil index way) hlength)

theorem waysThrough_cons : waysThrough files levels leg (relative :: relatives) start =
    (start :: leg.1, includedPath leg.2 relative) ::
      waysBelow files levels (start :: leg.1, includedPath leg.2 relative) ++
        waysThrough files levels leg relatives (start + 1) := by
  rw [waysThrough, List.zipIdx_cons, List.flatMap_cons]
  rfl

theorem exists_of_mem_waysThrough (hnext : next ∈ waysThrough files levels leg relatives start) :
    ∃ index more, start ≤ index ∧ next.1 = more ++ index :: leg.1 := by
  induction relatives generalizing start with
  | nil => contradiction
  | cons relative relatives ih =>
    rw [waysThrough_cons] at hnext
    obtain hfirst | hlater := List.mem_append.1 hnext
    · obtain rfl | hbelow := List.mem_cons.1 hfirst
      · exact ⟨start, [], Nat.le_refl start, rfl⟩
      · obtain ⟨more, -, hway, -⟩ := exists_of_mem_waysBelow hbelow
        exact ⟨start, more, Nat.le_refl start, hway⟩
    · obtain ⟨index, more, hindex, hway⟩ := ih hlater
      exact ⟨index, more, Nat.le_of_succ_le hindex, hway⟩

/-- The ways through different places are different. -/
theorem nodup_waysThrough (hbelow : ∀ leg, ((waysBelow files levels leg).map Prod.fst).Nodup) :
    ((waysThrough files levels leg relatives start).map Prod.fst).Nodup := by
  induction relatives generalizing start with
  | nil => exact List.nodup_nil
  | cons relative relatives ih =>
    have hfirst : ∀ next ∈ (start :: leg.1, includedPath leg.2 relative) ::
        waysBelow files levels (start :: leg.1, includedPath leg.2 relative),
        ∃ more, next.1 = more ++ start :: leg.1 := by
      intro next hnext
      obtain rfl | hnext := List.mem_cons.1 hnext
      · exact ⟨[], rfl⟩
      · obtain ⟨more, -, hway, -⟩ := exists_of_mem_waysBelow hnext
        exact ⟨more, hway⟩
    rw [waysThrough_cons, List.map_append]
    refine List.nodup_append'.2 ⟨List.nodup_cons.2 ⟨?_, hbelow _⟩, ih, ?_⟩
    · intro hagain
      obtain ⟨next, hnext, hsame⟩ := List.mem_map.1 hagain
      obtain ⟨more, hne, hway, -⟩ := exists_of_mem_waysBelow hnext
      exact hne (List.append_left_eq_self.1 (hway.symm.trans hsame))
    · intro way hway hlater
      obtain ⟨next, hnext, rfl⟩ := List.mem_map.1 hway
      obtain ⟨other, hother, hsame⟩ := List.mem_map.1 hlater
      obtain ⟨more, hmore⟩ := hfirst next hnext
      obtain ⟨index, later, hindex, hafter⟩ := exists_of_mem_waysThrough hother
      have hends := List.append_inj_right' (hmore.symm.trans (hsame.symm.trans hafter)) rfl
      obtain ⟨rfl, -⟩ := List.cons.inj hends
      exact absurd hindex (Nat.not_succ_le_self _)

theorem nodup_waysBelow : ((waysBelow files levels leg).map Prod.fst).Nodup := by
  induction levels generalizing leg with
  | zero => exact List.nodup_nil
  | succ levels ih => exact nodup_waysThrough fun _ => ih

/-- Every way is the end of a shorter one, down to the start. -/
theorem Way.exists_of_length_le {length : Nat} (hway : Way files root way path)
    (hlength : length ≤ way.length) :
    ∃ short other, Way files root short other ∧ short.length = length := by
  induction hway with
  | start => exact ⟨[], root, .start, (Nat.le_zero.1 hlength).symm⟩
  | @into way path relative index hway hnamed ih =>
    obtain rfl | hless := Nat.eq_or_lt_of_le hlength
    · exact ⟨_, _, hway.into hnamed, rfl⟩
    · exact ih (Nat.le_of_lt_succ hless)

end

end GadgetGuard.Config
