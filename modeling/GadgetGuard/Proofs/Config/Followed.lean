import GadgetGuard.Proofs.Config.Compared
/-!
# Which includes a value follows

To resolve a value is to follow the paths that its directives name, one after the other, until one
of them fails.  Which paths those are is seen from the value alone, whatever they lead to.
-/

namespace GadgetGuard.Config

/-- How a computation ends that follows some paths, one after the other, from the given names of
files: with a good result once all paths are followed, with the error of the first path that
fails, or with a fault of its own in between. -/
inductive Ends (include? : String → Resolving Json) (fault : ConfigError → Prop) {α : Type}
    (good : α → Prop) :
    List String → List String → Except ConfigError α × List String → Prop
  | done {names : List String} {result : α} (hresult : good result) :
      Ends include? fault good [] names (.ok result, names)
  | fault {paths names : List String} {cause : ConfigError} (hcause : fault cause) :
      Ends include? fault good paths names (.error cause, names)
  | failed {path : String} {paths names later : List String} {cause : ConfigError}
      (hpath : (include? path).run.run names = (.error cause, later)) :
      Ends include? fault good (path :: paths) names (.error cause, later)
  | included {path : String} {paths names later : List String} {value : Json}
      {outcome : Except ConfigError α × List String}
      (hpath : (include? path).run.run names = (.ok value, later))
      (hrest : Ends include? fault good paths later outcome) :
      Ends include? fault good (path :: paths) names outcome

/-- A computation follows the given paths, whatever was read before. -/
def Follows (include? : String → Resolving Json) (fault : ConfigError → Prop) {α : Type}
    (good : α → Prop) (paths : List String) (computation : Resolving α) : Prop :=
  ∀ names, Ends include? fault good paths names (computation.run.run names)

/-- All that can be included is good. -/
def Yields (include? : String → Resolving Json) (good : Json → Prop) : Prop :=
  ∀ path names value later, (include? path).run.run names = (.ok value, later) → good value

section

variable {include? : String → Resolving Json} {fault : ConfigError → Prop} {α β : Type}
variable {good : α → Prop} {next : β → Prop} {paths others names : List String}
variable {computation : Resolving α} {continuation : α → Resolving β} {path file : String}
variable {layers : List Json} {value : Json}

theorem Ends.mono {wider : α → Prop} {outcome : Except ConfigError α × List String}
    (hwider : ∀ result, good result → wider result)
    (hends : Ends include? fault good paths names outcome) :
    Ends include? fault wider paths names outcome := by
  induction hends with
  | done hresult => exact .done (hwider _ hresult)
  | fault hcause => exact .fault hcause
  | failed hpath => exact .failed hpath
  | included hpath _ ih => exact .included hpath ih

namespace Follows

theorem mono {wider : α → Prop} (hcomputation : Follows include? fault good paths computation)
    (hwider : ∀ result, good result → wider result) :
    Follows include? fault wider paths computation :=
  fun names => (hcomputation names).mono hwider

theorem single {good : Json → Prop} (hgood : Yields include? good) :
    Follows include? fault good [path] (include? path) := by
  intro names
  cases hpath : (include? path).run.run names with
  | mk outcome later =>
    cases outcome with
    | error cause => exact .failed hpath
    | ok value => exact .included hpath (.done (hgood path names value later hpath))

theorem bind (hcomputation : Follows include? fault good paths computation)
    (hcontinuation : ∀ result, good result →
      Follows include? fault next others (continuation result)) :
    Follows include? fault next (paths ++ others) (computation >>= continuation) := by
  intro names
  rw [run_bind]
  have hends := hcomputation names
  clear hcomputation
  generalize computation.run.run names = outcome at hends
  induction hends with
  | done hresult => exact hcontinuation _ hresult _
  | fault hcause => exact .fault hcause
  | failed hpath => exact .failed hpath
  | included hpath _ ih => exact .included hpath ih

end Follows

/-- To follow paths is a property of one computation: any other one may stand beside it. -/
def followed (include? : String → Resolving Json) (fault : ConfigError → Prop) :
    Comparison fault where
  Holds paths related computation _ :=
    Follows include? fault (fun result => ∃ other, related result other) paths computation
  pure hrelated _ := .done ⟨_, hrelated⟩
  throw hcause _ := .fault hcause
  bind hcomputation hcontinuation :=
    hcomputation.bind fun result ⟨other, hrelated⟩ => hcontinuation result other hrelated

/-- Resolving a value follows the paths that its directives name.  It has no fault of its own if
the directives are valid and only objects are included. -/
theorem resolveOver_follows {raw good : Json → Prop} (hcarries : Carries raw good)
    (hyields : Yields include? good)
    (hobjects : Yields include? (·.isObject = true) ∨ fault (.includeNotObject file))
    (hvalid : HasValidDirectives file value ∨ fault (.invalidDirective file))
    (hraw : raw value) (hlayers : ∀ layer ∈ layers, good layer) :
    Follows include? fault
      (fun resolved => good resolved ∧ (value.isObject = true →
        Yields include? (·.isObject = true) → resolved.isObject = true))
      (namedPaths file value) (resolveOver include? file layers value) := by
  have hinclude : ∀ path, (followed include? fault).Holds [path]
      (Same fun value => good value ∧ (Yields include? (·.isObject = true) →
        value.isObject = true)) (include? path) (include? path) := by
    intro path
    have hboth : Yields include? fun value => good value ∧
        (Yields include? (·.isObject = true) → value.isObject = true) := by
      intro path names value later hrun
      exact ⟨hyields path names value later hrun,
        fun hobjects => hobjects path names value later hrun⟩
    exact (Follows.single hboth).mono fun value hvalue => ⟨value, rfl, hvalue⟩
  refine Follows.mono ((followed include? fault).resolveOver_compared hcarries hinclude hobjects
    hvalid hraw hlayers) ?_
  rintro resolved ⟨_, rfl, hgood⟩
  exact hgood

theorem resolveOver_follows_all :
    Follows include? (fun _ => True) (fun _ => True) (namedPaths file value)
      (resolveOver include? file layers value) := by
  have hfollows : Follows include? (fun _ => True) _ (namedPaths file value)
      (resolveOver include? file layers value) :=
    resolveOver_follows carries_all (fun _ _ _ _ _ => trivial) (.inr trivial) (.inr trivial)
      trivial fun _ _ => trivial
  exact hfollows.mono fun _ _ => trivial

end

end GadgetGuard.Config
