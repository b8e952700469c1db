import GadgetGuard.Proofs.Config.Inclusion
/-!
# Which files resolving reads

The name of a file is noted before the file is read.  What has been noted are the files at the
ends of the ways of includes, in the order of the ways, up to the one at which resolving fails.
-/

namespace GadgetGuard.Config

/-- How it ends to include the file at a path: it fails before the file is read, the file cannot
be read, or what it holds is resolved. -/
inductive Including (files : FileSystem) (resolveFile : String → Json → Resolving Json)
    (path : String) (names : List String) : Except ConfigError Json × List String → Prop
  | missing (hfile : files path = none) :
      Including files resolveFile path names (.error (.includeNotFound path), names)
  | again {entry : Entry} (hfile : files path = some entry)
      (hagain : entry.canonicalName ∈ names) :
      Including files resolveFile path names (.error (.circularInclude path), names)
  | unreadable {entry : Entry} {cause : ConfigError} (hfile : files path = some entry)
      (hnew : entry.canonicalName ∉ names) (hread : readFile path entry = .error cause) :
      Including files resolveFile path names (.error cause, entry.canonicalName :: names)
  | opened {entry : Entry} {value : Json} (hfile : files path = some entry)
      (hnew : entry.canonicalName ∉ names) (hread : readFile path entry = .ok value) :
      Including files resolveFile path names
        ((resolveFile path value).run.run (entry.canonicalName :: names))

/-- The canonical names of the files at the ends of ways. -/
def namesAt (files : FileSystem) (legs : List Leg) : List (Option String) :=
  legs.map fun leg => nameAt files leg.2

/-- A computation has read the files at the ends of the first of some ways, and all of them if it
has succeeded. -/
def Reads (files : FileSystem) (legs : List Leg) (names : List String) {α : Type}
    (outcome : Except ConfigError α × List String) : Prop :=
  ∃ done, done <+: legs ∧
    outcome.2.map some = (namesAt files done).reverse ++ names.map some ∧
    (outcome.1.isOk = true → done = legs)

section

variable {files : FileSystem} {resolveFile : String → Json → Resolving Json} {α β : Type}
variable {include? : String → Resolving Json} {fault : ConfigError → Prop} {good : α → Prop}
variable {path including relative : String} {names later paths relatives : List String}
variable {levels start : Nat} {leg : Leg} {legs others : List Leg} {value : Json}
variable {cause : ConfigError} {entry : Entry}

theorem includeFile_including : Including files resolveFile (includedPath including relative) names
    ((includeFile files resolveFile including relative).run.run names) := by
  rw [includeFile, ← includedPath]
  dsimp only
  cases hfile : files (includedPath including relative) with
  | none => exact .missing hfile
  | some entry =>
    dsimp only
    rw [run_bind, run_get]
    by_cases hagain : entry.canonicalName ∈ names
    · simp only [List.contains_eq_mem, hagain, decide_true, ↓reduceIte, run_bind, run_throw]
      exact .again hfile hagain
    · simp only [List.contains_eq_mem, hagain, decide_false, Bool.false_eq_true, ↓reduceIte,
        run_bind, run_modify, run_lift]
      cases hread : readFile (includedPath including relative) entry with
      | error cause => exact .unreadable hfile hagain hread
      | ok value => exact .opened hfile hagain hread

theorem Including.unique {outcome other : Except ConfigError Json × List String}
    (hincluding : Including files resolveFile path names outcome)
    (hother : Including files resolveFile path names other) : outcome = other := by
  cases hincluding with
  | _ => cases hother with
    | _ => grind

theorem namesAt_append :
    namesAt files (legs ++ others) = namesAt files legs ++ namesAt files others :=
  List.map_append

namespace Reads

theorem nothing {outcome : Except ConfigError α} (hend : outcome.isOk = true → legs = []) :
    Reads files legs names (outcome, names) :=
  ⟨[], List.nil_prefix, by simp [namesAt], fun hok => (hend hok).symm⟩

theorem append {first : α} {outcome : Except ConfigError β × List String}
    (hfirst : Reads files legs names (.ok first, later))
    (hrest : Reads files others later outcome) :
    Reads files (legs ++ others) names outcome := by
  obtain ⟨done, -, hlater, hall⟩ := hfirst
  obtain rfl := hall rfl
  obtain ⟨more, hmore, hnames, hend⟩ := hrest
  refine ⟨done ++ more, (List.prefix_append_right_inj done).2 hmore, ?_, fun hok => ?_⟩
  · rw [hnames, hlater, namesAt_append, List.reverse_append, List.append_assoc]
  · rw [hend hok]

theorem stop (hreads : Reads files legs names ((.error cause : Except ConfigError α), later)) :
    Reads files (legs ++ others) names ((.error cause : Except ConfigError β), later) := by
  obtain ⟨done, hdone, hnames, -⟩ := hreads
  exact ⟨done, hdone.trans (List.prefix_append legs others), hnames, fun hok => nomatch hok⟩

end Reads

/-- To include the file at the end of a way is to read it before what is below it. -/
theorem Including.reads (leg : Leg) {outcome : Except ConfigError Json × List String}
    (hopened : ∀ value names, held? files leg.2 = some value →
      Reads files legs names ((resolveFile leg.2 value).run.run names))
    (hincluding : Including files resolveFile leg.2 names outcome) :
    Reads files (leg :: legs) names outcome := by
  cases hincluding with
  | missing | again => exact .nothing fun hok => nomatch hok
  | unreadable hfile =>
    refine ⟨[leg], ⟨legs, rfl⟩, ?_, fun hok => nomatch hok⟩
    simp [namesAt, nameAt, hfile]
  | @opened entry value hfile hnew hread =>
    obtain ⟨done, hdone, hnames, hend⟩ :=
      hopened value (entry.canonicalName :: names) (held?_eq_some hfile hread)
    refine ⟨leg :: done, (List.prefix_cons_inj leg).2 hdone, ?_, fun hok => ?_⟩
    · rw [hnames]
      simp [namesAt, nameAt, hfile]
    · rw [hend hok]

theorem Ends.reads {outcome : Except ConfigError α × List String}
    (hopened : ∀ (next : Leg) value names, held? files next.2 = some value →
      Reads files (waysBelow files levels next) names ((resolveFile next.2 value).run.run names))
    (hends : Ends (includeFile files resolveFile leg.2) fault good relatives names outcome) :
    Reads files (waysThrough files levels leg relatives start) names outcome := by
  induction hends generalizing start with
  | done => exact .nothing fun _ => rfl
  | fault => exact .nothing fun hok => nomatch hok
  | @failed relative relatives names later cause hpath =>
    have hincluding : Including files resolveFile (includedPath leg.2 relative) names _ :=
      includeFile_including
    rw [waysThrough_cons]
    exact ((hpath ▸ hincluding).reads (start :: leg.1, _) (hopened (start :: leg.1, _))).stop
  | @included relative relatives names later value outcome hpath _ ih =>
    have hincluding : Including files resolveFile (includedPath leg.2 relative) names _ :=
      includeFile_including
    rw [waysThrough_cons]
    exact ((hpath ▸ hincluding).reads (start :: leg.1, _) (hopened (start :: leg.1, _))).append ih

/-- To resolve what a file holds is to read the files at the ends of the ways below it. -/
theorem resolve_reads (leg : Leg) (hheld : held? files leg.2 = some value) :
    Reads files (waysBelow files levels leg) names
      ((resolve files levels leg.2 value).run.run names) := by
  induction levels generalizing leg value names with
  | zero => exact .nothing fun hok => nomatch hok
  | succ levels ih =>
    have hways : waysBelow files (levels + 1) leg =
        waysThrough files levels leg (namedPaths leg.2 value) 0 := by
      rw [waysBelow, namedBy, hheld]
      rfl
    rw [hways]
    exact (resolveOver_follows_all names).reads fun next value names hheld => ih next hheld

/-! ## No file is read twice -/

theorem Ends.keeps {holds : List String → Prop} {outcome : Except ConfigError α × List String}
    (hinclude : ∀ path names, holds names → holds ((include? path).run.run names).2)
    (hends : Ends include? fault good paths names outcome) (hnames : holds names) :
    holds outcome.2 := by
  induction hends with
  | done | fault => exact hnames
  | @failed path _ _ _ _ hpath =>
    have hlater := hinclude path _ hnames
    rwa [hpath] at hlater
  | @included path _ _ _ _ _ hpath _ ih =>
    have hlater := hinclude path _ hnames
    rw [hpath] at hlater
    exact ih hlater

theorem resolve_nodup (hnames : names.Nodup) :
    ((resolve files levels path value).run.run names).2.Nodup := by
  induction levels generalizing path value names with
  | zero => exact hnames
  | succ levels ih =>
    -- A name is noted only where it was looked for among those noted and not found.
    refine (resolveOver_follows_all names).keeps (fun relative names hnames => ?_) hnames
    have hincluding : Including files (resolve files levels) (includedPath path relative) names _ :=
      includeFile_including
    generalize StateT.run _ names = outcome at hincluding ⊢
    cases hincluding with
    | missing | again => exact hnames
    | unreadable _ hnew => exact List.nodup_cons.2 ⟨hnew, hnames⟩
    | opened _ hnew => exact ih (List.nodup_cons.2 ⟨hnew, hnames⟩)

/-! ## What resolving gives -/

theorem Ends.good_of_ok {result : α} (hends : Ends include? fault good paths names
    (.ok result, later)) : good result := by
  generalize houtcome : ((.ok result, later) : Except ConfigError α × List String) = outcome
    at hends
  induction hends with
  | done hresult =>
    cases houtcome
    exact hresult
  | fault | failed => cases houtcome
  | included _ _ ih => exact ih houtcome

/-- What an include gives is what its file holds, resolved. -/
theorem exists_held_of_includeFile
    (hrun : (includeFile files resolveFile path relative).run.run names = (.ok value, later)) :
    ∃ held before, held? files (includedPath path relative) = some held ∧
      (resolveFile (includedPath path relative) held).run.run before = (.ok value, later) := by
  have hincluding : Including files resolveFile (includedPath path relative) names _ :=
    includeFile_including
  rw [hrun] at hincluding
  generalize houtcome : ((.ok value, later) : Except ConfigError Json × List String) = outcome
    at hincluding
  cases hincluding with
  | missing | again | unreadable => cases houtcome
  | @opened entry held hfile hnew hread =>
    exact ⟨held, _, held?_eq_some hfile hread, rfl⟩

/-- What resolving gives is as good as what all files hold. -/
theorem resolve_yields {raw good : Json → Prop} {resolved : Json} (hcarries : Carries raw good)
    (hfiles : ∀ path value, held? files path = some value → raw value) (hraw : raw value)
    (hrun : (resolve files levels path value).run.run names = (.ok resolved, later)) :
    good resolved ∧ (value.isObject = true →
      (∀ path value, held? files path = some value → value.isObject = true) →
      resolved.isObject = true) := by
  induction levels generalizing path value names resolved later with
  | zero => cases hrun
  | succ levels ih =>
    have hfollows : Follows (includeFile files (resolve files levels) path) (fun _ => True) _
        (namedPaths path value)
        (resolveOver (includeFile files (resolve files levels) path) path [] value) :=
      resolveOver_follows hcarries (fun relative names value later hincluded => ?_) (.inr trivial)
        (.inr trivial) hraw (List.forall_mem_nil _)
    · have hends := hfollows names
      rw [resolve] at hrun
      rw [hrun] at hends
      obtain ⟨hgood, hobject⟩ := hends.good_of_ok
      refine ⟨hgood, fun hvalue hobjects => hobject hvalue ?_⟩
      intro relative names value later hincluded
      obtain ⟨held, before, hheld, hrun⟩ := exists_held_of_includeFile hincluded
      exact (ih (hfiles _ _ hheld) hrun).2 (hobjects _ _ hheld) hobjects
    · obtain ⟨held, before, hheld, hrun⟩ := exists_held_of_includeFile hincluded
      exact (ih (hfiles _ _ hheld) hrun).1

/-- Resolving leaves no directive. -/
theorem within_of_resolve {resolved : Json}
    (hrun : (resolve files levels path value).run.run names = (.ok resolved, later)) :
    resolved.Within (fun _ => True) (· ≠ includeName) := by
  have hall : ∀ value : Json, value.Within (fun _ => True) fun _ => True :=
    Json.Within.of_forall (fun _ => trivial) fun _ => trivial
  have hyields := resolve_yields (carries_within _ _) (fun _ value _ => hall value) (hall value)
    hrun
  simpa using hyields.1

/-- If all files hold objects, only objects are included. -/
theorem includeFile_yields_objects
    (hobjects : ∀ path value, held? files path = some value → value.isObject = true) :
    Yields (includeFile files (resolve files levels) path) (·.isObject = true) := by
  intro relative names value later hincluded
  obtain ⟨held, before, hheld, hrun⟩ := exists_held_of_includeFile hincluded
  exact (resolve_yields carries_all (fun _ _ _ => trivial) trivial hrun).2
    (hobjects _ _ hheld) hobjects

end

end GadgetGuard.Config
