import GadgetGuard.Config.Include
import GadgetGuard.Proofs.Json.Overlay
/-!
# Resolving a value, compared

To resolve a value is to follow the paths that its directives name, one after the other.  So
whatever two ways of including have in common passes on to what a value is resolved to with each of
them: every such statement is one comparison of computations, and the walk over the value is gone
through here once for all of them.
-/

namespace GadgetGuard.Config

/-- The paths that a directive names; a directive that is not well formed names none. -/
def directivePaths (file : String) (directive : Json) : List String :=
  (includePaths file directive).toOption.getD []

mutual

/-- The paths that the directives in a value name, in the order in which they are followed. -/
def namedPaths (file : String) : Json → List String
  | .object members =>
    (members.lookup includeName).elim [] (directivePaths file) ++ memberPaths file members
  | .array items => itemPaths file items
  | _ => []

def memberPaths (file : String) : List Json.Member → List String
  | [] => []
  | (name, value) :: members =>
    (if name = includeName then [] else namedPaths file value) ++ memberPaths file members

def itemPaths (file : String) : List Json → List String
  | [] => []
  | item :: items => namedPaths file item ++ itemPaths file items

end

/-- Every directive in a value names paths. -/
inductive HasValidDirectives (file : String) : Json → Prop
  | scalar {value : Json} (hvalue : value.isScalar = true) : HasValidDirectives file value
  | array {items : List Json} (hitems : ∀ item ∈ items, HasValidDirectives file item) :
      HasValidDirectives file (.array items)
  | object {members : List Json.Member}
      (hdirective : ∀ directive, members.lookup includeName = some directive →
        ∃ paths, includePaths file directive = .ok paths)
      (hvalues : ∀ m ∈ members, m.1 ≠ includeName → HasValidDirectives file m.2) :
      HasValidDirectives file (.object members)

/-- A relation between computations, and the paths that they follow.  It is kept by the steps that
resolving is made of; faults in `fault` may come at any time. -/
structure Comparison (fault : ConfigError → Prop) where
  Holds : {α β : Type} → List String → (α → β → Prop) → Resolving α → Resolving β → Prop
  pure : ∀ {α β : Type} {related : α → β → Prop} {result : α} {other : β}, related result other →
    Holds [] related (Pure.pure result) (Pure.pure other)
  throw : ∀ {α β : Type} {related : α → β → Prop} {paths : List String} {cause : ConfigError},
    fault cause → Holds paths related (MonadExcept.throw cause) (MonadExcept.throw cause)
  bind : ∀ {α β γ δ : Type} {related : α → β → Prop} {next : γ → δ → Prop}
    {paths others : List String} {computation : Resolving α} {other : Resolving β}
    {continuation : α → Resolving γ} {continuation' : β → Resolving δ},
    Holds paths related computation other →
    (∀ result result', related result result' →
      Holds others next (continuation result) (continuation' result')) →
    Holds (paths ++ others) next (computation >>= continuation) (other >>= continuation')

/-- Two results are the same, and good. -/
def Same {α : Type} (good : α → Prop) (result other : α) : Prop :=
  result = other ∧ good result

/-- What resolving makes of values: what it makes is good if it is made of something raw and of
included files that are good. -/
structure Carries (raw good : Json → Prop) : Prop where
  scalar {value : Json} (hvalue : value.isScalar = true) (hraw : raw value) : good value
  item {items : List Json} {item : Json} (hraw : raw (.array items)) (hitem : item ∈ items) :
    raw item
  array {items : List Json} (hitems : ∀ item ∈ items, good item) : good (.array items)
  member {members : List Json.Member} {m : Json.Member} (hraw : raw (.object members))
    (hm : m ∈ members) : raw m.2
  empty : good (.object [])
  insert {members entries : List Json.Member} {m : Json.Member} {value : Json}
    (hraw : raw (.object members)) (hm : m ∈ members) (hname : m.1 ≠ includeName)
    (hentries : good (.object entries)) (hvalue : good value) :
    good (.object (Json.insertMember m.1 value entries))
  merge {base overlay : Json} (hbase : good base) (hoverlay : good overlay) :
    good (base.merge overlay)
  get? {value content : Json} {name : String} (hvalue : good value)
    (hcontent : value.get? name = some content) : good content

/-- Any values. -/
theorem carries_all : Carries (fun _ => True) (fun _ => True) := by
  constructor <;> intros <;> trivial

theorem carries_ordered : Carries Json.IsOrdered Json.IsOrdered where
  scalar _ hraw := hraw
  item := Json.isHereditary_isOrdered.item
  array := .array
  member := Json.isHereditary_isOrdered.member
  empty := .object .nil (List.forall_mem_nil _)
  insert _ _ _ hentries hvalue := hentries.insertMember hvalue
  merge := .merge
  get? := .of_get?

/-- No directive is left, and every text and every other name was there before. -/
theorem carries_within (texts names : String → Prop) :
    Carries (Json.Within texts names)
      (Json.Within texts fun name => names name ∧ name ≠ includeName) where
  scalar hvalue hraw := by
    cases hraw with
    | array | object => contradiction
    | string htext => exact .string htext
    | _ => constructor
  item := (Json.Within.isHereditary texts names).item
  array := .array
  member := (Json.Within.isHereditary texts names).member
  empty := .object (List.forall_mem_nil _) (List.forall_mem_nil _)
  insert hraw hm hname hentries hvalue := by
    cases hraw with
    | object hnames _ => exact hentries.insertMember ⟨hnames _ hm, hname⟩ hvalue
  merge := .merge
  get? := .of_get?

section

variable {file : String} {raw good : Json → Prop} {α β : Type}
variable {layers others : List Json} {value below below' : Json}
variable {members : List Json.Member} {items : List Json} {names : List String}

/-! ## The steps of a computation -/

theorem run_bind {computation : Resolving α} {continuation : α → Resolving β} :
    (computation >>= continuation).run.run names =
      match computation.run.run names with
      | (.ok result, later) => (continuation result).run.run later
      | (.error cause, later) => (.error cause, later) := by
  rw [ExceptT.run_bind, StateT.run_bind]
  generalize computation.run.run names = outcome
  obtain ⟨_ | _, later⟩ := outcome
  · rfl
  · rfl

theorem run_lift {outcome : Except ConfigError α} :
    (liftM outcome : Resolving α).run.run names = (outcome, names) := by
  cases outcome with
  | _ => rfl

theorem liftM_error {cause : ConfigError} :
    (liftM (.error cause : Except ConfigError α) : Resolving α) = throw cause :=
  rfl

theorem liftM_ok {result : α} :
    (liftM (.ok result : Except ConfigError α) : Resolving α) = pure result :=
  rfl

theorem run_get : (get : Resolving (List String)).run.run names = (.ok names, names) := rfl

theorem run_modify {change : List String → List String} :
    (modify change : Resolving PUnit).run.run names = (.ok ⟨⟩, change names) := rfl

theorem run_throw {cause : ConfigError} :
    (throw cause : Resolving α).run.run names = (.error cause, names) := rfl

theorem eq_error_of_bind {start : Except ConfigError α} {continuation : α → Except ConfigError β}
    {cause : ConfigError} (herror : (start >>= continuation) = .error cause) :
    start = .error cause ∨ ∃ result, start = .ok result ∧ continuation result = .error cause := by
  cases start with
  | error reason => exact .inl (congrArg _ (Except.error.inj herror))
  | ok result => exact .inr ⟨result, rfl, herror⟩

theorem includePaths_eq_error {directive : Json} {cause : ConfigError}
    (herror : includePaths file directive = .error cause) : cause = .invalidDirective file := by
  rw [includePaths.eq_def] at herror
  split at herror
  · contradiction
  next items =>
    induction items with
    | nil => contradiction
    | cons item items ih =>
      rw [List.mapM_cons] at herror
      split at herror
      next path =>
        obtain hfirst | ⟨first, -, hrest⟩ := eq_error_of_bind herror
        · contradiction
        · obtain hlater | ⟨paths, -, hdone⟩ := eq_error_of_bind hrest
          · exact ih hlater
          · contradiction
      next => exact (Except.error.inj herror).symm
  · exact (Except.error.inj herror).symm

theorem overlaid_cons {layer : Json} :
    overlaid (layer :: layers) value = layer.merge (overlaid layers value) :=
  rfl

theorem Carries.overlaid (hcarries : Carries raw good) (hlayers : ∀ layer ∈ layers, good layer)
    (htop : good value) : good (overlaid layers value) := by
  induction layers with
  | nil => exact htop
  | cons layer layers ih =>
    obtain ⟨hlayer, hlayers⟩ := List.forall_mem_cons.1 hlayers
    exact hcarries.merge hlayer (ih hlayers)

theorem exists_overlaid (layers : List Json) (members : List Json.Member) :
    ∃ entries, overlaid layers (.object members) = .object entries := by
  induction layers with
  | nil => exact ⟨members, rfl⟩
  | cons layer layers ih =>
    obtain ⟨entries, hentries⟩ := ih
    rw [overlaid_cons, hentries]
    exact Json.exists_of_isObject (Json.isObject_merge_object layer entries)

theorem isObject_overlaid : (overlaid layers (.object members)).isObject = true := by
  obtain ⟨entries, hentries⟩ := exists_overlaid layers members
  rw [hentries]
  rfl

theorem memberPaths_of_alone (halone : (members.all (·.1 == includeName)) = true) :
    memberPaths file members = [] := by
  induction members with
  | nil => rfl
  | cons m members ih =>
    rw [List.all_cons, Bool.and_eq_true, beq_iff_eq] at halone
    obtain ⟨name, value⟩ := m
    rw [memberPaths, if_pos halone.1, ih halone.2]
    rfl

/-! ## Two walks side by side -/

variable {fault : ConfigError → Prop} {include? include?' : String → Resolving Json}

namespace Comparison

variable (comparison : Comparison fault)

theorem mono {related wider : α → β → Prop} {paths : List String} {computation : Resolving α}
    {other : Resolving β} (hcomputation : comparison.Holds paths related computation other)
    (hwider : ∀ result result', related result result' → wider result result') :
    comparison.Holds paths wider computation other := by
  simpa using comparison.bind hcomputation fun result result' hrelated =>
    comparison.pure (hwider result result' hrelated)

/-- What two computations give is passed on. -/
theorem map {related : α → β → Prop} {γ δ : Type} {next : γ → δ → Prop} {paths : List String}
    {computation : Resolving α} {other : Resolving β} {f : α → γ} {g : β → δ}
    (hcomputation : comparison.Holds paths related computation other)
    (hnext : ∀ result result', related result result' → next (f result) (g result')) :
    comparison.Holds paths next (do return f (← computation)) (do return g (← other)) := by
  simpa using comparison.bind hcomputation fun result result' hrelated =>
    comparison.pure (hnext result result' hrelated)

/-- The included files of a directive are laid over one another. -/
theorem includeAll_compared {directive : Json} (hempty : good (.object []))
    (hmerge : ∀ base overlay : Json, good base → good overlay → good (base.merge overlay))
    (hinclude : ∀ path, comparison.Holds [path] (Same good) (include? path) (include?' path))
    (hvalid : (∃ paths, includePaths file directive = .ok paths) ∨ fault (.invalidDirective file)) :
    comparison.Holds (directivePaths file directive) (Same good)
      (includeAll include? file directive) (includeAll include?' file directive) := by
  have hfold : ∀ (paths : List String) (below : Json), good below →
      comparison.Holds paths (Same good)
        (paths.foldlM (fun below path => do return below.merge (← include? path)) below)
        (paths.foldlM (fun below path => do return below.merge (← include?' path)) below) := by
    intro paths
    induction paths with
    | nil => exact fun below hbelow => comparison.pure ⟨rfl, hbelow⟩
    | cons path paths ih =>
      intro below hbelow
      rw [List.foldlM_cons, List.foldlM_cons]
      have hlaid : comparison.Holds [path] (Same good)
          (do return below.merge (← include? path)) (do return below.merge (← include?' path)) := by
        refine comparison.map (hinclude path) ?_
        rintro value _ ⟨rfl, hvalue⟩
        exact ⟨rfl, hmerge below value hbelow hvalue⟩
      refine comparison.bind hlaid ?_
      rintro merged _ ⟨rfl, hmerged⟩
      exact ih merged hmerged
  rw [includeAll, includeAll, directivePaths]
  cases hpaths : includePaths file directive with
  | error cause =>
    obtain ⟨paths, hok⟩ | hfault := hvalid
    · rw [hpaths] at hok
      contradiction
    · rw [includePaths_eq_error hpaths, liftM_error]
      exact comparison.throw hfault
  | ok paths =>
    rw [liftM_ok, pure_bind, pure_bind]
    exact hfold paths _ hempty

theorem resolveItems_compared
    (hitems : ∀ item ∈ items, comparison.Holds (namedPaths file item) (Same good)
      (resolveOver include? file [] item) (resolveOver include?' file [] item)) :
    comparison.Holds (itemPaths file items) (Same fun resolved => ∀ item ∈ resolved, good item)
      (resolveItems include? file items) (resolveItems include?' file items) := by
  induction items with
  | nil => exact comparison.pure ⟨rfl, List.forall_mem_nil _⟩
  | cons item items ih =>
    obtain ⟨hitem, hitems⟩ := List.forall_mem_cons.1 hitems
    rw [resolveItems, resolveItems, itemPaths]
    refine comparison.bind hitem ?_
    rintro resolved _ ⟨rfl, hresolved⟩
    refine comparison.map (ih hitems) ?_
    rintro later _ ⟨rfl, hlater⟩
    exact ⟨rfl, List.forall_mem_cons.2 ⟨hresolved, hlater⟩⟩

/-- The walk over members that lie over different layers: what it comes to at each of them keeps
the values related in which it is set. -/
theorem resolveMembers_compared {related : Json → Json → Prop} (hbelow : related below below')
    (hmembers : ∀ m ∈ members, m.1 ≠ includeName → comparison.Holds (namedPaths file m.2)
      (fun resolved resolved' => ∀ below below', related below below' →
        related (.object (Json.insertMember m.1 resolved below.members))
          (.object (Json.insertMember m.1 resolved' below'.members)))
      (resolveOver include? file (layers.filterMap (·.get? m.1)) m.2)
      (resolveOver include?' file (others.filterMap (·.get? m.1)) m.2)) :
    comparison.Holds (memberPaths file members) related
      (resolveMembers include? file layers members below)
      (resolveMembers include?' file others members below') := by
  induction members generalizing below below' with
  | nil => exact comparison.pure hbelow
  | cons m members ih =>
    obtain ⟨name, value⟩ := m
    obtain ⟨hvalue, hmembers⟩ := List.forall_mem_cons.1 hmembers
    rw [resolveMembers, resolveMembers, memberPaths]
    split
    next => exact ih hbelow hmembers
    next hname =>
      refine comparison.bind (hvalue hname) fun resolved resolved' hresolved => ?_
      exact ih (hresolved below below' hbelow) hmembers

/-- Two ways of including that are compared make the same of a value, laid over the same layers.
Resolving has no fault of its own if the directives are valid and only objects are included. -/
theorem resolveOver_compared {objects : Prop} (hcarries : Carries raw good)
    (hinclude : ∀ path, comparison.Holds [path]
      (Same fun value => good value ∧ (objects → value.isObject = true))
      (include? path) (include?' path))
    (hobjects : objects ∨ fault (.includeNotObject file))
    (hvalid : HasValidDirectives file value ∨ fault (.invalidDirective file))
    (hraw : raw value) (hlayers : ∀ layer ∈ layers, good layer) :
    comparison.Holds (namedPaths file value)
      (Same fun resolved => good resolved ∧ (value.isObject = true → objects →
        resolved.isObject = true))
      (resolveOver include? file layers value) (resolveOver include?' file layers value) := by
  induction value using Json.induction_on_content generalizing layers with
  | scalar value hvalue =>
    cases value with
    | array | object => contradiction
    | _ => exact comparison.pure ⟨rfl, hcarries.scalar rfl hraw, fun hobject => nomatch hobject⟩
  | array items ih =>
    have hitems : ∀ item ∈ items, comparison.Holds (namedPaths file item) (Same good)
        (resolveOver include? file [] item) (resolveOver include?' file [] item) := by
      intro item hitem
      refine comparison.mono (ih item hitem ?_ (hcarries.item hraw hitem) (List.forall_mem_nil _))
        fun resolved resolved' hsame => ⟨hsame.1, hsame.2.1⟩
      refine hvalid.imp_left fun hvalid => ?_
      cases hvalid with
      | scalar => contradiction
      | array hitems => exact hitems item hitem
    rw [resolveOver, resolveOver, namedPaths]
    refine comparison.map (comparison.resolveItems_compared hitems) ?_
    rintro resolved _ ⟨rfl, hgood⟩
    exact ⟨rfl, hcarries.overlaid hlayers (hcarries.array hgood), fun hobject => nomatch hobject⟩
  | object members ih =>
    have hkept : ∀ layer ∈ layers.filter Json.isObject, good layer :=
      fun layer hlayer => hlayers layer (List.mem_of_mem_filter hlayer)
    have hmembers : ∀ layers, (∀ layer ∈ layers, good layer) →
        comparison.Holds (memberPaths file members)
          (Same fun resolved => good resolved ∧ resolved.isObject = true)
          (resolveMembers include? file layers members (overlaid layers (.object [])))
          (resolveMembers include?' file layers members (overlaid layers (.object []))) := by
      intro layers hlayers
      refine comparison.resolveMembers_compared
        ⟨rfl, hcarries.overlaid hlayers hcarries.empty, isObject_overlaid⟩ fun m hm hname => ?_
      refine comparison.mono (ih m hm ?_ (hcarries.member hraw hm) fun layer hlayer => ?_) ?_
      · refine hvalid.imp_left fun hvalid => ?_
        cases hvalid with
        | scalar => contradiction
        | object _ hvalues => exact hvalues m hm hname
      · obtain ⟨under, hunder, hcontent⟩ := List.mem_filterMap.1 hlayer
        exact hcarries.get? (hlayers under hunder) hcontent
      · rintro resolved _ ⟨rfl, hresolved, -⟩ below _ ⟨rfl, hbelow, hobject⟩
        obtain ⟨entries, rfl⟩ := Json.exists_of_isObject hobject
        exact ⟨rfl, hcarries.insert hraw hm hname hbelow hresolved, rfl⟩
    rw [resolveOver, resolveOver, namedPaths]
    cases hdirective : members.lookup includeName with
    | none =>
      refine comparison.mono (hmembers _ hkept) ?_
      rintro resolved _ ⟨rfl, hgood, hobject⟩
      exact ⟨rfl, hgood, fun _ _ => hobject⟩
    | some directive =>
      have hpaths : (∃ paths, includePaths file directive = .ok paths) ∨
          fault (.invalidDirective file) := by
        refine hvalid.imp_left fun hvalid => ?_
        cases hvalid with
        | scalar => contradiction
        | object hdirectives _ => exact hdirectives directive hdirective
      have hincluded : comparison.Holds (directivePaths file directive)
          (Same fun included => good included ∧ (objects → included.isObject = true))
          (includeAll include? file directive) (includeAll include?' file directive) := by
        refine comparison.includeAll_compared ⟨hcarries.empty, fun _ => rfl⟩ ?_ hinclude hpaths
        rintro base overlay ⟨hbase, -⟩ ⟨hoverlay, hobject⟩
        refine ⟨hcarries.merge hbase hoverlay, fun hobjects => ?_⟩
        obtain ⟨entries, rfl⟩ := Json.exists_of_isObject (hobject hobjects)
        exact Json.isObject_merge_object base entries
      -- The paths of the directive come first, then those of the members beside it.
      refine comparison.bind hincluded ?_
      rintro included _ ⟨rfl, hgood, hobject⟩
      dsimp only
      split
      next halone =>
        rw [memberPaths_of_alone (Bool.and_eq_true_iff.1 halone).1]
        exact comparison.pure ⟨rfl, hgood, fun _ => hobject⟩
      next =>
        split
        next hother =>
          obtain hobjects | hfault := hobjects
          · rw [hobject hobjects] at hother
            contradiction
          · exact comparison.throw hfault
        next =>
          refine comparison.mono (hmembers (included :: layers.filter Json.isObject)
            (List.forall_mem_cons.2 ⟨hgood, hkept⟩)) ?_
          rintro resolved _ ⟨rfl, hgood, hobject⟩
          exact ⟨rfl, hgood, fun _ _ => hobject⟩

end Comparison

end

end GadgetGuard.Config
