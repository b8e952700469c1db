import GadgetGuard.Proofs.Config.Alike
import GadgetGuard.Proofs.Config.Reading
/-!
# What resolving depends on

Resolving depends on what the files hold whose names it has noted, and on nothing that any other
file holds: whoever changes those does not change how resolving ends.
-/

namespace GadgetGuard.Config

/-- Two file systems with the same names, in which the noted files hold the same. -/
structure AgreeOn (noted : List String) (files others : FileSystem) : Prop where
  names : ∀ path, nameAt others path = nameAt files path
  contents : ∀ path entry, files path = some entry → entry.canonicalName ∈ noted →
    others path = some entry

section

variable {noted : List String} {file path relative : String} {value : Json}
variable {files others : FileSystem} {resolveFile resolveFile' : String → Json → Resolving Json}
variable {levels : Nat}

theorem AgreeOn.eq_none (hagree : AgreeOn noted files others) (hfile : files path = none) :
    others path = none := by
  have hname := hagree.names path
  rwa [nameAt, nameAt, hfile, Option.map_none, Option.map_eq_none_iff] at hname

theorem AgreeOn.exists_entry {entry : Entry} (hagree : AgreeOn noted files others)
    (hfile : files path = some entry) :
    ∃ other, others path = some other ∧ other.canonicalName = entry.canonicalName := by
  have hname := hagree.names path
  rwa [nameAt, nameAt, hfile, Option.map_some, Option.map_eq_some_iff] at hname

theorem includeFile_runsAlike (hagree : AgreeOn noted files others)
    (hresolve : ∀ path value,
      RunsAlike (· ⊆ noted) (· = ·) (resolveFile path value) (resolveFile' path value)) :
    RunsAlike (· ⊆ noted) (· = ·) (includeFile files resolveFile file relative)
      (includeFile others resolveFile' file relative) where
  reflects names hnoted := by
    have hincluding : Including files resolveFile (includedPath file relative) names _ :=
      includeFile_including
    generalize StateT.run _ names = outcome at hincluding hnoted
    cases hincluding with
    | missing | again => exact hnoted
    | unreadable => exact (List.cons_subset.1 hnoted).2
    | opened => exact (List.cons_subset.1 ((hresolve _ _).reflects _ hnoted)).2
  yields _ value _ := ⟨value, rfl⟩
  paired names hnoted := by
    have hincluding : Including files resolveFile (includedPath file relative) names _ :=
      includeFile_including
    have hother : Including others resolveFile' (includedPath file relative) names _ :=
      includeFile_including
    suffices hsame : Including others resolveFile' (includedPath file relative) names
        ((includeFile files resolveFile file relative).run.run names) by
      rw [hother.unique hsame]
      exact ((Parallel.refl _).paired names trivial)
    generalize StateT.run (includeFile files resolveFile file relative).run names = outcome
      at hincluding hnoted ⊢
    cases hincluding with
    | missing hfile => exact .missing (hagree.eq_none hfile)
    | again hfile hagain =>
      obtain ⟨other, hother, hname⟩ := hagree.exists_entry hfile
      exact .again hother (hname.symm ▸ hagain)
    | unreadable hfile hnew hread =>
      exact .unreadable (hagree.contents _ _ hfile (hnoted List.mem_cons_self)) hnew hread
    | @opened entry value hfile hnew hread =>
      have hin := (List.cons_subset.1 ((hresolve _ value).reflects _ hnoted)).1
      rw [((hresolve _ value).paired _ hnoted).eq]
      exact .opened (hagree.contents _ _ hfile hin) hnew hread

theorem resolve_runsAlike (hagree : AgreeOn noted files others) :
    RunsAlike (· ⊆ noted) (· = ·) (resolve files levels path value)
      (resolve others levels path value) := by
  induction levels generalizing path value with
  | zero => exact .throw
  | succ levels ih =>
    rw [resolve, resolve]
    exact resolveOver_runsAlike fun relative => includeFile_runsAlike hagree fun path value => ih

/-! ## The file that is loaded -/

/-- How it ends to resolve the file that is loaded, and the canonical names of the files that are
read for it, the last one first. -/
def rootRun (files : FileSystem) (path : String) (entry : Entry) :
    Except ConfigError Json × List String :=
  match readFile path entry with
  | .error cause => (.error cause, [entry.canonicalName])
  | .ok value =>
    (resolve files (maxIncludeDepth + 1) path value).run.run [entry.canonicalName]

variable {entry : Entry}

theorem resolveRoot_eq : resolveRoot files path entry = (rootRun files path entry).1 := by
  rw [resolveRoot, rootRun]
  cases readFile path entry with
  | error | ok => rfl

theorem rootRun_reads (hfile : files path = some entry) :
    Reads files (waysBelow files (maxIncludeDepth + 1) ([], path)) [entry.canonicalName]
      (rootRun files path entry) := by
  rw [rootRun]
  cases hread : readFile path entry with
  | error cause => exact .nothing fun hok => nomatch hok
  | ok value => exact resolve_reads ([], path) (held?_eq_some hfile hread)

theorem rootRun_nodup : (rootRun files path entry).2.Nodup := by
  rw [rootRun]
  cases readFile path entry with
  | error cause => exact List.nodup_singleton _
  | ok value => exact resolve_nodup (List.nodup_singleton _)

theorem rootRun_runsAlike (hagree : AgreeOn (rootRun files path entry).2 files others) :
    rootRun others path entry = rootRun files path entry := by
  rw [rootRun] at hagree
  rw [rootRun, rootRun]
  cases hread : readFile path entry with
  | error cause => rfl
  | ok value =>
    rw [hread] at hagree
    exact ((resolve_runsAlike hagree).paired _ (List.Subset.refl _)).eq.symm

theorem within_of_rootRun {resolved : Json} (hrun : (rootRun files path entry).1 = .ok resolved) :
    resolved.Within (fun _ => True) (· ≠ includeName) := by
  rw [rootRun] at hrun
  cases hread : readFile path entry with
  | error cause =>
    rw [hread] at hrun
    contradiction
  | ok value =>
    rw [hread] at hrun
    exact within_of_resolve (Prod.ext hrun rfl)

end

end GadgetGuard.Config
