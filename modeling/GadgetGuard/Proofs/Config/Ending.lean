import Mathlib.Data.List.Perm.Subperm
import GadgetGuard.Proofs.Config.Footprint
import GadgetGuard.Proofs.Config.Sibling
/-!
# Resolving ends

A value grows while it is resolved: what a directive includes takes the place of the object that
holds the directive, the members beside it are laid over, and what comes out is walked in turn.  It
still ends.  What files bring in has no directive left, so the walk over it reads nothing, and no
file is read twice.
-/

namespace GadgetGuard.Config

/-- What takes the place of an object: the object itself, or what its directive includes, with the
members beside the directive laid over. -/
def mergeInPlace (include? : String → Resolving Json) (file : String)
    (members : List Json.Member) : Resolving Json :=
  match members.lookup includeName with
  | none => return .object members
  | some directive => do
    let included ← includeAll include? file directive
    if siblings members = [] then return included
    else if !included.isObject then throw (.includeNotObject file)
    else return included.merge (.object (siblings members))

/-- Resolves the values in an object with `walk`, one after the other. -/
def walkMembers (walk : Json → Resolving Json) : Json → Resolving Json
  | .object members => do return .object (← members.mapM fun m => do return (m.1, ← walk m.2))
  | other => return other

/-- One step of resolving in place.  `walk` resolves the values in what comes out. -/
def resolveInPlace (include? : String → Resolving Json) (file : String)
    (walk : Json → Resolving Json) : Json → Resolving Json
  | .object members => do walkMembers walk (← mergeInPlace include? file members)
  | .array items => do return .array (← items.mapM walk)
  | scalar => return scalar

section

variable {include? : String → Resolving Json} {file path : String} {value directive : Json}
variable {members sorted : List Json.Member} {items : List Json} {files : FileSystem}
variable {levels : Nat}

theorem insertMember_append {name : String} (hnames : ∀ m ∈ sorted, m.1 < name) :
    Json.insertMember name value sorted = sorted ++ [(name, value)] := by
  induction sorted with
  | nil => rfl
  | cons m sorted ih =>
    obtain ⟨hfirst, hrest⟩ := List.forall_mem_cons.1 hnames
    rw [Json.insertMember, if_neg (not_lt_of_gt hfirst), if_neg (ne_of_gt hfirst), ih hrest]
    rfl

theorem resolveItems_eq_mapM :
    resolveItems include? file items = items.mapM (resolveOver include? file []) := by
  induction items with
  | nil => rfl
  | cons item items ih => rw [resolveItems, List.mapM_cons, ih]

/-- Without a directive among them, members are set one after the other, each behind those before
it. -/
theorem resolveMembers_eq_mapM
    (hnames : ((sorted ++ members).map Prod.fst).Pairwise (· < ·))
    (hnone : ∀ m ∈ members, m.1 ≠ includeName) :
    resolveMembers include? file [] members (.object sorted) = do
      return .object (sorted ++ (← members.mapM fun m => do
        return (m.1, ← resolveOver include? file [] m.2))) := by
  induction members generalizing sorted with
  | nil => simp [resolveMembers]
  | cons m members ih =>
    obtain ⟨hname, hnone⟩ := List.forall_mem_cons.1 hnone
    have hbefore : ∀ other ∈ sorted, other.1 < m.1 := by
      intro other hother
      rw [List.map_append] at hnames
      exact (List.pairwise_append.1 hnames).2.2 _ (List.mem_map_of_mem hother) _
        List.mem_cons_self
    rw [resolveMembers, if_neg hname, List.filterMap_nil, List.mapM_cons, bind_assoc, bind_assoc]
    refine bind_congr fun resolved => ?_
    have hinserted : Json.insertMember m.1 resolved (Json.object sorted).members =
        sorted ++ [(m.1, resolved)] := insertMember_append hbefore
    rw [hinserted, ih (by simpa using hnames) hnone]
    simp

/-- Where an object has no directive of its own, it is resolved value by value. -/
theorem walkMembers_object (hordered : (Json.object members).IsOrdered)
    (hnone : members.lookup includeName = none) :
    walkMembers (resolveOver include? file []) (.object members) =
      resolveOver include? file [] (.object members) := by
  have hnames : ∀ m ∈ members, m.1 ≠ includeName := fun m hm heq =>
    Json.lookup_eq_none_iff.1 hnone (heq ▸ List.mem_map_of_mem hm)
  have hpairwise : (([] ++ members).map Prod.fst).Pairwise (· < ·) := hordered.pairwise_names
  rw [resolveOver, hnone]
  exact (resolveMembers_eq_mapM hpairwise hnames).symm

/-- The walk over what an include brings in changes nothing. -/
theorem walkMembers_resolved (hvalue : IsResolved value) :
    walkMembers (resolveOver include? file []) value = pure value := by
  cases value with
  | object members =>
    rw [walkMembers_object hvalue.ordered hvalue.lookup_includeName]
    exact resolveOver_resolved (List.forall_mem_nil _) hvalue
  | _ => rfl

/-- What lies over an include is laid over it first, and then the walk goes over both. -/
theorem walkMembers_merge (hyields : Yields include? Json.IsOrdered)
    (hunder : IsResolved (.object sorted)) (hmembers : (Json.object members).IsOrdered)
    (hnone : members.lookup includeName = none) :
    walkMembers (resolveOver include? file []) ((Json.object sorted).merge (.object members)) =
      resolveOver include? file [.object sorted] (.object members) := by
  have hnames : (members.map Prod.fst).Nodup := hmembers.nodup_names
  have hmerged : (Json.mergeMembers sorted members).lookup includeName = none := by
    rw [Json.lookup_mergeMembers hnames, hunder.lookup_includeName, hnone]
    rfl
  have hordered : ((Json.object sorted).merge (.object members)).IsOrdered :=
    hunder.ordered.merge hmembers
  exact (walkMembers_object hordered hmerged).trans
    (goesOverLast hyields hmembers [] _ (List.forall_mem_nil _) hunder).eq.symm

/-- To resolve a value is to merge in place and to resolve what comes out: the recursion on the
value that grows has resolving for its result. -/
theorem resolveOver_in_place (hyields : Yields include? IsResolved) (hvalue : value.IsOrdered) :
    resolveOver include? file [] value =
      resolveInPlace include? file (resolveOver include? file []) value := by
  have hordered : Yields include? Json.IsOrdered :=
    fun path names value later hrun => (hyields path names value later hrun).ordered
  cases value with
  | array items =>
    rw [resolveOver, resolveItems_eq_mapM]
    rfl
  | object members =>
    rw [resolveInPlace, mergeInPlace]
    cases hdirective : members.lookup includeName with
    | none => exact (walkMembers_object hvalue hdirective).symm
    | some directive =>
      rw [resolveOver_of_directive hdirective]
      dsimp only
      rw [bind_assoc]
      refine Parallel.eq ((includeAll_parallel .empty (fun _ _ => IsResolved.merge)
        hyields).bind ?_)
      rintro included _ ⟨rfl, hincluded⟩
      by_cases halone : siblings members = []
      · rw [if_pos halone, if_pos halone, pure_bind, walkMembers_resolved hincluded]
        exact .pure rfl
      rw [if_neg halone, if_neg halone]
      cases hobject : included.isObject with
      | false => exact .throw
      | true =>
        obtain ⟨entries, rfl⟩ := Json.exists_of_isObject hobject
        rw [Bool.not_true, if_neg Bool.false_ne_true, if_neg Bool.false_ne_true, pure_bind,
          walkMembers_merge hordered hincluded (isOrdered_siblings hvalue) lookup_siblings]
        exact Parallel.refl _
  | _ => rfl

theorem resolve_in_place (hvalue : value.IsOrdered) :
    resolve files (levels + 1) file value =
      resolveInPlace (includeFile files (resolve files levels) file) file
        (resolve files (levels + 1) file) value :=
  resolveOver_in_place includeFile_yields_resolved hvalue

/-! ## The file that is loaded -/

theorem length_le_of_reads {legs : List Leg} {names stored : List String} (hnodup : names.Nodup)
    (hnames : names.map some = namesAt files legs)
    (hstored : ∀ path entry, files path = some entry → entry.canonicalName ∈ stored) :
    names.length ≤ stored.length := by
  refine (hnodup.subperm fun name hname => ?_).length_le
  have hsome : some name ∈ namesAt files legs := hnames ▸ List.mem_map_of_mem hname
  obtain ⟨leg, -, hleg⟩ := List.mem_map.1 hsome
  obtain ⟨entry, hfile, rfl⟩ := Option.map_eq_some_iff.1 hleg
  exact hstored _ entry hfile

/-- To resolve the file that is loaded is to read files, none of them twice: it is read first, and
then the files at the ends of the ways of at most `maxIncludeDepth + 1` includes, in their order,
of all of them if it succeeds.  So there are no more reads than files.  What any other file holds
makes no difference.  No object in what it gives has a directive, at any depth.  And it is to merge
in place and to walk what comes out: the recursion on the value that grows comes to an end. -/
theorem resolveRoot_reads_once (files : FileSystem) (path : String) (entry : Entry)
    (hfile : files path = some entry) :
    ∃ result reads, rootRun files path entry = (result, reads) ∧
      resolveRoot files path entry = result ∧
      reads.Nodup ∧
      (∀ stored : List String,
        (∀ path entry, files path = some entry → entry.canonicalName ∈ stored) →
        reads.length ≤ stored.length) ∧
      (∃ legs, legs <+: ([], path) :: waysBelow files (maxIncludeDepth + 1) ([], path) ∧
        reads.reverse.map some = namesAt files legs ∧
        (∀ leg ∈ legs, Way files path leg.1 leg.2 ∧ leg.1.length ≤ maxIncludeDepth + 1) ∧
        ∀ value, result = .ok value →
          ∀ way reached, Way files path way reached → way.length ≤ maxIncludeDepth + 1 →
            (way, reached) ∈ legs) ∧
      (∀ others, AgreeOn reads files others → rootRun others path entry = (result, reads)) ∧
      (∀ value, result = .ok value → value.Within (fun _ => True) (· ≠ includeName)) ∧
      ∀ (levels : Nat) (file : String) (value : Json), value.IsOrdered →
        resolve files (levels + 1) file value =
          resolveInPlace (includeFile files (resolve files levels) file) file
            (resolve files (levels + 1) file) value := by
  obtain ⟨done, hdone, hnames, hall⟩ := rootRun_reads hfile
  have hlegs : (rootRun files path entry).2.reverse.map some =
      namesAt files (([], path) :: done) := by
    rw [List.map_reverse, hnames]
    simp [namesAt, nameAt, hfile]
  have hsteps : ∀ leg ∈ ([], path) :: done,
      Way files path leg.1 leg.2 ∧ leg.1.length ≤ maxIncludeDepth + 1 := by
    refine List.forall_mem_cons.2 ⟨⟨.start, Nat.zero_le _⟩, fun leg hleg => ?_⟩
    have hbelow := hdone.subset hleg
    obtain ⟨more, -, hway, hlength⟩ := exists_of_mem_waysBelow hbelow
    refine ⟨Way.of_mem_waysBelow .start hbelow, ?_⟩
    rwa [hway, List.append_nil]
  refine ⟨_, _, rfl, resolveRoot_eq, rootRun_nodup, fun stored hstored => ?_,
    ⟨([], path) :: done, (List.prefix_cons_inj _).2 hdone, hlegs, hsteps, ?_⟩,
    fun others hagree => rootRun_runsAlike hagree, fun value => within_of_rootRun,
    fun levels file value => resolve_in_place⟩
  · rw [← List.length_reverse]
    exact length_le_of_reads (List.nodup_reverse.2 rootRun_nodup) hlegs hstored
  · intro value hok way reached hway hlength
    obtain rfl := hall (hok ▸ rfl)
    exact hway.mem_legs hlength

end

/-- A file that includes itself. -/
def circularEntry : Entry :=
  textEntry "main.json5" "\x7b$include: \"main.json5\"\x7d"

def circularFiles : FileSystem := fun path =>
  if path = "main.json5" then some circularEntry else none

theorem rootRun_nestedFiles :
    rootRun nestedFiles "main.json5" (textEntry "main.json5" nestedText) =
      (.ok (portValue 1111), ["extra.json5", "base.json5", "main.json5"]) := by
  rw [rootRun, readFile_textEntry ofJson5?_nestedText]
  exact run_nested

/-- A file that includes itself is read once.  A file with a nested directive is resolved: two more
files are read, and no directive is left. -/
theorem resolveRoot_reads_once_circular_nested :
    (circularFiles "main.json5" = some circularEntry ∧
      (rootRun circularFiles "main.json5" circularEntry).2.length ≤ 1) ∧
    (nestedFiles "main.json5" = some (textEntry "main.json5" nestedText) ∧
      ∃ value reads, rootRun nestedFiles "main.json5" (textEntry "main.json5" nestedText) =
          (.ok value, reads) ∧
        reads = ["extra.json5", "base.json5", "main.json5"] ∧ reads.Nodup ∧
        (∀ way reached, Way nestedFiles "main.json5" way reached →
          way.length ≤ maxIncludeDepth + 1 → nameAt nestedFiles reached ∈ reads.map some) ∧
        value.Within (fun _ => True) (· ≠ includeName) ∧
        (Json.object nestedMembers).IsOrdered ∧
        (resolveInPlace
          (includeFile nestedFiles (resolve nestedFiles maxIncludeDepth) "main.json5") "main.json5"
          (resolve nestedFiles (maxIncludeDepth + 1) "main.json5")
          (.object nestedMembers)).run.run ["main.json5"] = (.ok value, reads)) := by
  refine ⟨⟨rfl, ?_⟩, rfl, ?_⟩
  · obtain ⟨result, reads, hrun, -, -, hlength, -⟩ :=
      resolveRoot_reads_once circularFiles "main.json5" circularEntry rfl
    rw [hrun]
    refine hlength ["main.json5"] fun path entry hfile => ?_
    rw [circularFiles] at hfile
    split at hfile
    · obtain rfl := Option.some.inj hfile
      exact List.mem_singleton.2 rfl
    · contradiction
  · obtain ⟨result, reads, hrun, -, hnodup, -, ⟨legs, -, hreads, -, hall⟩, -, hwithin, hinPlace⟩ :=
      resolveRoot_reads_once nestedFiles "main.json5" (textEntry "main.json5" nestedText) rfl
    have hordered : (Json.object nestedMembers).IsOrdered := .of_ofJson5? ofJson5?_nestedText
    obtain ⟨rfl, rfl⟩ := Prod.mk.inj (rootRun_nestedFiles.symm.trans hrun)
    refine ⟨_, _, hrun, rfl, hnodup, fun way reached hway hlength => ?_, hwithin _ rfl, hordered,
      ?_⟩
    · have hname := List.mem_map_of_mem (f := fun leg : Leg => nameAt nestedFiles leg.2)
        (hall _ rfl way reached hway hlength)
      change _ ∈ namesAt nestedFiles legs at hname
      rwa [← hreads, List.map_reverse, List.mem_reverse] at hname
    · rw [← hinPlace maxIncludeDepth "main.json5" _ hordered]
      exact run_nested

end GadgetGuard.Config
