import GadgetGuard.Proofs.Config.Followed
/-!
# Computations that end alike

Two computations that note the names of files as they go may be told to end alike for all runs, or
only for those in which no names come up but some that can be trusted.
-/

namespace GadgetGuard.Config

/-- Two runs end alike: with the same error, or with related results, and with the same names. -/
inductive Paired {α β : Type} (related : α → β → Prop) :
    Except ConfigError α × List String → Except ConfigError β × List String → Prop
  | ok {result : α} {other : β} {names : List String} (hrelated : related result other) :
      Paired related (.ok result, names) (.ok other, names)
  | error {cause : ConfigError} {names : List String} :
      Paired related (.error cause, names) (.error cause, names)

/-- Two computations end alike wherever the names can be trusted that the first one ends with.
Then those that it starts from can be trusted, too; and whatever it gives, trusted or not, is
related to something. -/
structure RunsAlike (trusted : List String → Prop) {α β : Type} (related : α → β → Prop)
    (computation : Resolving α) (other : Resolving β) : Prop where
  reflects : ∀ names, trusted (computation.run.run names).2 → trusted names
  yields : ∀ names result, (computation.run.run names).1 = .ok result →
    ∃ result', related result result'
  paired : ∀ names, trusted (computation.run.run names).2 →
    Paired related (computation.run.run names) (other.run.run names)

/-- Two computations end alike, whatever was read before. -/
abbrev Parallel {α β : Type} (related : α → β → Prop) (computation : Resolving α)
    (other : Resolving β) : Prop :=
  RunsAlike (fun _ => True) related computation other

section

variable {trusted : List String → Prop} {include? include?' : String → Resolving Json}
variable {α β γ δ : Type} {related : α → β → Prop} {next : γ → δ → Prop}
variable {computation : Resolving α} {other : Resolving β} {file : String}
variable {continuation : α → Resolving γ} {continuation' : β → Resolving δ}
variable {layers : List Json} {value directive : Json} {names later : List String}

theorem Paired.eq {outcome other : Except ConfigError α × List String}
    (hpaired : Paired (· = ·) outcome other) : outcome = other := by
  cases hpaired with
  | ok hsame => rw [hsame]
  | error => rfl

namespace RunsAlike

theorem pure {result : α} {other : β} (hrelated : related result other) :
    RunsAlike trusted related (Pure.pure result) (Pure.pure other) where
  reflects _ htrusted := htrusted
  yields _ _ hresult := ⟨other, Except.ok.inj hresult ▸ hrelated⟩
  paired _ _ := .ok hrelated

theorem throw {cause : ConfigError} :
    RunsAlike trusted related (MonadExcept.throw cause) (MonadExcept.throw cause) where
  reflects _ htrusted := htrusted
  yields _ _ hresult := nomatch hresult
  paired _ _ := .error

theorem bind (hfirst : RunsAlike trusted related computation other)
    (hrest : ∀ result result', related result result' →
      RunsAlike trusted next (continuation result) (continuation' result')) :
    RunsAlike trusted next (computation >>= continuation) (other >>= continuation') where
  reflects names htrusted := by
    have hreflects := hfirst.reflects names
    have hyields := hfirst.yields names
    rw [run_bind] at htrusted
    generalize computation.run.run names = outcome at hreflects hyields htrusted
    obtain ⟨cause | result, later⟩ := outcome
    · exact hreflects htrusted
    · obtain ⟨result', hrelated⟩ := hyields result rfl
      exact hreflects ((hrest result result' hrelated).reflects later htrusted)
  yields names last hlast := by
    have hyields := hfirst.yields names
    rw [run_bind] at hlast
    generalize computation.run.run names = outcome at hyields hlast
    obtain ⟨cause | result, later⟩ := outcome
    · contradiction
    · obtain ⟨result', hrelated⟩ := hyields result rfl
      exact (hrest result result' hrelated).yields later last hlast
  paired names htrusted := by
    have hyields := hfirst.yields names
    have hpaired := hfirst.paired names
    rw [run_bind] at htrusted
    rw [run_bind, run_bind]
    generalize computation.run.run names = outcome at hyields hpaired htrusted
    generalize other.run.run names = outcome' at hpaired
    obtain ⟨cause | result, later⟩ := outcome
    · cases hpaired htrusted with
      | error => exact .error
    · -- Trust goes back from the end to what the first computation ends with.
      obtain ⟨result', hrelated⟩ := hyields result rfl
      cases hpaired ((hrest result result' hrelated).reflects later htrusted) with
      | ok hrelated => exact (hrest _ _ hrelated).paired later htrusted

end RunsAlike

/-- To end alike is kept by the steps that resolving is made of. -/
def alike (trusted : List String → Prop) : Comparison fun _ => True where
  Holds _ related computation other := RunsAlike trusted related computation other
  pure := .pure
  throw _ := .throw
  bind := .bind

namespace Parallel

theorem of_paired (hpaired : ∀ names,
    Paired related (computation.run.run names) (other.run.run names)) :
    Parallel related computation other where
  reflects _ _ := trivial
  yields names result hresult := by
    have hpair := hpaired names
    generalize computation.run.run names = outcome at hpair hresult
    generalize other.run.run names = outcome' at hpair
    cases hpair with
    | ok hrelated => exact ⟨_, Except.ok.inj hresult ▸ hrelated⟩
    | error => contradiction
  paired names _ := hpaired names

theorem refl (computation : Resolving α) : Parallel (· = ·) computation computation := by
  refine of_paired fun names => ?_
  generalize computation.run.run names = outcome
  obtain ⟨cause | result, later⟩ := outcome
  · exact .error
  · exact .ok rfl

theorem mono {wider : α → β → Prop} (hparallel : Parallel related computation other)
    (hwider : ∀ result other, related result other → wider result other) :
    Parallel wider computation other := by
  have holds : (alike fun _ => True).Holds [] related computation other := hparallel
  exact (alike fun _ => True).mono holds hwider

theorem exists_of_run_ok {result : α} (hparallel : Parallel related computation other)
    (hrun : computation.run.run names = (.ok result, later)) :
    ∃ result', other.run.run names = (.ok result', later) ∧ related result result' := by
  have hpaired := hparallel.paired names trivial
  rw [hrun] at hpaired
  generalize other.run.run names = outcome at hpaired
  cases hpaired with
  | ok hrelated => exact ⟨_, rfl, hrelated⟩

/-- Computations that give the same in all runs are the same. -/
theorem eq {computation other : Resolving α} (hparallel : Parallel (· = ·) computation other) :
    computation = other :=
  funext fun names => (hparallel.paired names trivial).eq

end Parallel

/-- Wherever only such names come up as can be trusted, a value is resolved to the same with two
ways of including that run alike there. -/
theorem resolveOver_runsAlike
    (hinclude : ∀ path, RunsAlike trusted (· = ·) (include? path) (include?' path)) :
    RunsAlike trusted (· = ·) (resolveOver include? file layers value)
      (resolveOver include?' file layers value) :=
  (alike trusted).mono
    ((alike trusted).resolveOver_compared carries_all
      (fun path => (alike trusted).mono (hinclude path) fun _ _ hsame =>
        ⟨hsame, trivial, False.elim⟩)
      (.inr trivial) (.inr trivial) trivial fun _ _ => trivial)
    fun _ _ hsame => hsame.1

/-! ## What a computation gives -/

theorem Yields.parallel {good : Json → Prop} {path : String} (hyields : Yields include? good) :
    Parallel (Same good) (include? path) (include? path) := by
  refine .of_paired fun names => ?_
  cases hrun : (include? path).run.run names with
  | mk outcome later =>
    cases outcome with
    | error cause => exact .error
    | ok value => exact .ok ⟨rfl, hyields path names value later hrun⟩

/-- What a directive includes is good if all that can be included is. -/
theorem includeAll_parallel {good : Json → Prop} (hempty : good (.object []))
    (hmerge : ∀ base overlay : Json, good base → good overlay → good (base.merge overlay))
    (hyields : Yields include? good) :
    Parallel (Same good) (includeAll include? file directive)
      (includeAll include? file directive) :=
  (alike fun _ => True).includeAll_compared hempty hmerge (fun _ => hyields.parallel)
    (.inr trivial)

/-- What a value is resolved to is good if it is made of good values. -/
theorem resolveOver_parallel {raw good : Json → Prop} (hcarries : Carries raw good)
    (hyields : Yields include? good) (hraw : raw value) (hlayers : ∀ layer ∈ layers, good layer) :
    Parallel (Same good) (resolveOver include? file layers value)
      (resolveOver include? file layers value) := by
  have hinclude : ∀ path, Parallel (Same good) (include? path) (include? path) :=
    fun path => hyields.parallel
  exact Parallel.mono
    ((alike fun _ => True).resolveOver_compared hcarries
      (fun path => (hinclude path).mono fun _ _ hsame => ⟨hsame.1, hsame.2, False.elim⟩)
      (.inr trivial) (.inr trivial) hraw hlayers)
    fun _ _ hsame => ⟨hsame.1, hsame.2.1⟩

end

end GadgetGuard.Config
