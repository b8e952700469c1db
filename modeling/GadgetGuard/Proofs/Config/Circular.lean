import GadgetGuard.Config.Load
import GadgetGuard.Proofs.Config.Footprint
import GadgetGuard.Proofs.Config.Variable
import GadgetGuard.Proofs.Json.Ordered
/-!
# When an include counts as circular

A file is included at most once for the whole configuration.  So it counts as circular to come to a
file again, on whatever way: on a cycle, and also where two ways lead to one file that includes
nothing.  If all includes can be followed, this is the only reason to refuse a configuration.
-/

namespace GadgetGuard.Config

open GadgetGuard.Text

/-- A chain of includes from the file that is loaded, by the names of its files, the last one
first. -/
inductive Chain (files : FileSystem) (root : String) : List String → String → Prop
  | start {entry : Entry} (hfile : files root = some entry) :
      Chain files root [entry.canonicalName] root
  | into {names : List String} {path relative : String} {entry : Entry}
      (hchain : Chain files root names path) (hnamed : relative ∈ namedBy files path)
      (hfile : files (includedPath path relative) = some entry) :
      Chain files root (entry.canonicalName :: names) (includedPath path relative)

/-- A file that is reached includes itself, directly or through others. -/
def IncludesItself (files : FileSystem) (root : String) : Prop :=
  ∃ name names path, Chain files root (name :: names) path ∧ name ∈ names

/-- Two ways of includes lead to one file. -/
def IncludesTwice (files : FileSystem) (root : String) : Prop :=
  ∃ way other path path', Way files root way path ∧ Way files root other path' ∧ way ≠ other ∧
    nameAt files path = nameAt files path'

/-- Texts without references to variables. -/
def IsPlain (text : String) : Prop :=
  ∀ before name after, ¬ Refers text.toList before name after

/-- Files whose includes can all be followed: none is missing, each holds an object with valid
directives and without references, and no chain of different files has more includes than are
allowed. -/
structure IsFollowable (files : FileSystem) (root : String) : Prop where
  held : ∀ way path, Way files root way path → ∃ value, held? files path = some value
  objects : ∀ path value, held? files path = some value → value.isObject = true
  directives : ∀ path value, held? files path = some value → HasValidDirectives path value
  plain : ∀ path value, held? files path = some value → value.Within IsPlain fun _ => True
  short : ∀ names path, Chain files root names path → names.Nodup →
    names.length ≤ maxIncludeDepth + 1

section

variable {files : FileSystem} {root path : String} {name : String} {names chain : List String}
variable {way : List Nat} {levels start : Nat} {leg : Leg} {legs others : List Leg}
variable {value : Json} {cause : ConfigError}
variable {environment : Environment} {later relatives : List String} {α : Type} {good : α → Prop}

theorem exists_entry_of_held? (hheld : held? files path = some value) :
    ∃ entry, files path = some entry ∧ readFile path entry = .ok value := by
  obtain ⟨entry, hfile, hread⟩ := Option.bind_eq_some_iff.1 hheld
  refine ⟨entry, hfile, ?_⟩
  cases hcontent : readFile path entry with
  | error cause => simp [hcontent, Except.toOption] at hread
  | ok content => simpa [hcontent, Except.toOption] using hread

/-! ## Chains and ways -/

/-- A chain goes along a way. -/
theorem Chain.exists_way (hchain : Chain files root names path) :
    ∃ way, Way files root way path ∧ way.length + 1 = names.length ∧
      nameAt files path = names.head? := by
  induction hchain with
  | start hfile => exact ⟨[], .start, rfl, by rw [nameAt, hfile]; rfl⟩
  | into _ hnamed hfile ih =>
    obtain ⟨way, hway, hlength, -⟩ := ih
    obtain ⟨index, hindex⟩ := List.mem_iff_getElem?.1 hnamed
    exact ⟨index :: way, hway.into hindex, by simpa using hlength, by rw [nameAt, hfile]; rfl⟩

theorem Chain.exists_of_mem (hchain : Chain files root names path) (hname : name ∈ names) :
    ∃ way path, Way files root way path ∧ way.length < names.length ∧
      nameAt files path = some name := by
  induction hchain with
  | @start entry hfile =>
    obtain rfl := List.mem_singleton.1 hname
    exact ⟨[], root, .start, Nat.zero_lt_one, by rw [nameAt, hfile]; rfl⟩
  | into hchain hnamed hfile ih =>
    obtain rfl | hname := List.mem_cons.1 hname
    · obtain ⟨way, hway, hlength, hlast⟩ := (hchain.into hnamed hfile).exists_way
      exact ⟨way, _, hway, by omega, hlast⟩
    · obtain ⟨way, path, hway, hlength, hlast⟩ := ih hname
      exact ⟨way, path, hway, Nat.lt_succ_of_lt hlength, hlast⟩

/-- On a cycle two ways lead to one file. -/
theorem IncludesItself.includesTwice (hitself : IncludesItself files root) :
    IncludesTwice files root := by
  obtain ⟨name, names, path, hchain, hname⟩ := hitself
  obtain ⟨way, hway, hlength, hlast⟩ := hchain.exists_way
  cases hchain with
  | start => contradiction
  | into hchain hnamed hfile =>
    obtain ⟨short, path', hshort, hless, hagain⟩ := hchain.exists_of_mem hname
    refine ⟨way, short, _, path', hway, hshort, ?_, hlast.trans hagain.symm⟩
    rintro rfl
    simp only [List.length_cons] at hlength
    omega

/-- If no two ways of limited length lead to one file, no file comes twice on such a way. -/
theorem Way.exists_chain
    (hheld : ∀ way path, Way files root way path → ∃ value, held? files path = some value)
    (hdistinct : ∀ way other path path', Way files root way path → Way files root other path' →
      way.length ≤ levels → other.length ≤ levels → nameAt files path = nameAt files path' →
      way = other)
    (hway : Way files root way path) (hlength : way.length ≤ levels) :
    ∃ names, Chain files root names path ∧ names.length = way.length + 1 ∧ names.Nodup := by
  induction hway with
  | start =>
    obtain ⟨value, hvalue⟩ := hheld _ _ .start
    obtain ⟨entry, hfile, -⟩ := exists_entry_of_held? hvalue
    exact ⟨_, .start hfile, rfl, List.nodup_singleton _⟩
  | @into way path relative index hway hnamed ih =>
    obtain ⟨names, hchain, hnames, hnodup⟩ := ih (Nat.le_of_succ_le hlength)
    obtain ⟨value, hvalue⟩ := hheld _ _ (hway.into hnamed)
    obtain ⟨entry, hfile, -⟩ := exists_entry_of_held? hvalue
    refine ⟨_, hchain.into (List.mem_of_getElem? hnamed) hfile, congrArg Nat.succ hnames,
      List.nodup_cons.2 ⟨fun hagain => ?_, hnodup⟩⟩
    obtain ⟨short, path', hshort, hless, hname⟩ := hchain.exists_of_mem hagain
    have hlast : nameAt files (includedPath path relative) = some entry.canonicalName := by
      rw [nameAt, hfile]
      rfl
    simp only [List.length_cons] at hlength
    obtain rfl := hdistinct _ short _ path' (hway.into hnamed) hshort hlength (by omega)
      (hlast.trans hname.symm)
    simp only [List.length_cons] at hless
    omega

theorem eq_of_nameAt_eq {other : List Nat} {path' : String}
    (hnodup : (namesAt files (([], root) :: waysBelow files levels ([], root))).Nodup)
    (hway : Way files root way path) (hother : Way files root other path')
    (hlength : way.length ≤ levels) (hlength' : other.length ≤ levels)
    (hsame : nameAt files path = nameAt files path') : way = other :=
  congrArg Prod.fst
    (List.inj_on_of_nodup_map hnodup (hway.mem_legs hlength) (hother.mem_legs hlength') hsame)

theorem includesTwice_of_not_nodup (levels : Nat)
    (hagain : ¬ (namesAt files (([], root) :: waysBelow files levels ([], root))).Nodup) :
    IncludesTwice files root := by
  have hleg : ∀ leg ∈ ([], root) :: waysBelow files levels ([], root),
      Way files root leg.1 leg.2 :=
    List.forall_mem_cons.2 ⟨.start, fun leg hleg => Way.of_mem_waysBelow .start hleg⟩
  have hways : ((([], root) :: waysBelow files levels ([], root)).map Prod.fst).Nodup := by
    refine List.nodup_cons.2 ⟨fun hstart => ?_, nodup_waysBelow⟩
    obtain ⟨leg, hbelow, hnil⟩ := List.mem_map.1 hstart
    obtain ⟨more, hne, hway, -⟩ := exists_of_mem_waysBelow hbelow
    exact hne (List.append_eq_nil_iff.1 (hway.symm.trans hnil)).1
  by_contra honce
  refine hagain (List.Nodup.map_on (fun leg hfirst other hsecond hsame => ?_) hways.of_map)
  by_contra hne
  refine honce ⟨leg.1, other.1, leg.2, other.2, hleg leg hfirst, hleg other hsecond, ?_, hsame⟩
  exact fun heq => hne (List.inj_on_of_nodup_map hways hfirst hsecond heq)

/-! ## Why resolving fails -/

theorem IsFollowable.exists_named {relative : String} (hfollowable : IsFollowable files root)
    (hchain : Chain files root names path) (hnamed : relative ∈ namedBy files path) :
    ∃ entry value, files (includedPath path relative) = some entry ∧
      readFile (includedPath path relative) entry = .ok value := by
  obtain ⟨way, hway, -⟩ := hchain.exists_way
  obtain ⟨index, hindex⟩ := List.mem_iff_getElem?.1 hnamed
  obtain ⟨value, hvalue⟩ := hfollowable.held _ _ (hway.into hindex)
  obtain ⟨entry, hfile, hread⟩ := exists_entry_of_held? hvalue
  exact ⟨entry, value, hfile, hread⟩

/-- A computation fails because an include is circular, and the files at the ends of the ways, with
those that were read before, are not all different. -/
def FailsTwice (files : FileSystem) (legs : List Leg) (names : List String)
    (cause : ConfigError) : Prop :=
  (∃ place, cause = .circularInclude place) ∧
    ¬ ((namesAt files legs).reverse ++ names.map some).Nodup

namespace FailsTwice

theorem again {place : String} (hlast : nameAt files leg.2 = some name) (hname : name ∈ names) :
    FailsTwice files (leg :: legs) names (.circularInclude place) := by
  refine ⟨⟨place, rfl⟩, fun hnodup => ?_⟩
  rw [namesAt, List.map_cons, List.reverse_cons, hlast] at hnodup
  exact (List.nodup_append'.1 hnodup).2.2 (by simp) (List.mem_map_of_mem hname)

theorem after (hlast : nameAt files leg.2 = some name)
    (hfails : FailsTwice files legs (name :: names) cause) :
    FailsTwice files (leg :: legs) names cause := by
  refine ⟨hfails.1, fun hnodup => hfails.2 ?_⟩
  rwa [namesAt, List.map_cons, List.reverse_cons, hlast, List.append_assoc] at hnodup

theorem append (hfails : FailsTwice files legs names cause) :
    FailsTwice files (legs ++ others) names cause := by
  refine ⟨hfails.1, fun hnodup => hfails.2 ?_⟩
  rw [namesAt_append, List.reverse_append, List.append_assoc] at hnodup
  exact hnodup.of_append_right

theorem prepend (hlater : later.map some = (namesAt files legs).reverse ++ names.map some)
    (hfails : FailsTwice files others later cause) :
    FailsTwice files (legs ++ others) names cause := by
  refine ⟨hfails.1, fun hnodup => hfails.2 ?_⟩
  rwa [hlater, ← List.append_assoc, ← List.reverse_append, ← namesAt_append]

end FailsTwice

/-- With so many levels left, to resolve what the file at the end of a chain holds fails only where
a file is included twice. -/
def FailsOnlyTwice (files : FileSystem) (root : String) (levels : Nat) : Prop :=
  ∀ (leg : Leg) (chain names later : List String) (value : Json) (cause : ConfigError),
    Chain files root chain leg.2 → chain.Nodup → chain ⊆ names →
    chain.length + levels = maxIncludeDepth + 2 → held? files leg.2 = some value →
    (resolve files levels leg.2 value).run.run names = (.error cause, later) →
    FailsTwice files (waysBelow files levels leg) names cause

/-- An include fails because it is circular or because of what is below it. -/
theorem Including.failsTwice {relative : String} {index : Nat}
    (hfollowable : IsFollowable files root) (hbelow : FailsOnlyTwice files root levels)
    (hchain : Chain files root chain leg.2) (hnodup : chain.Nodup) (hsubset : chain ⊆ names)
    (hlength : chain.length + (levels + 1) = maxIncludeDepth + 2)
    (hnamed : relative ∈ namedBy files leg.2)
    (hincluding : Including files (resolve files levels) (includedPath leg.2 relative) names
      (.error cause, later)) :
    FailsTwice files ((index :: leg.1, includedPath leg.2 relative) ::
      waysBelow files levels (index :: leg.1, includedPath leg.2 relative)) names cause := by
  obtain ⟨entry, value, hfile, hread⟩ := hfollowable.exists_named hchain hnamed
  have hlast : nameAt files (includedPath leg.2 relative) = some entry.canonicalName := by
    rw [nameAt, hfile]
    rfl
  generalize houtcome : ((.error cause, later) : Except ConfigError Json × List String) = outcome
    at hincluding
  cases hincluding with
  | missing hmissing => simp [hfile] at hmissing
  | again hfile' hagain =>
    obtain rfl := Option.some.inj (hfile.symm.trans hfile')
    cases houtcome
    exact .again hlast hagain
  | unreadable hfile' _ hfails =>
    obtain rfl := Option.some.inj (hfile.symm.trans hfile')
    simp [hread] at hfails
  | opened hfile' hnew hread' =>
    obtain rfl := Option.some.inj (hfile.symm.trans hfile')
    refine .after hlast (hbelow _ _ _ later _ cause (hchain.into hnamed hfile)
      (List.nodup_cons.2 ⟨fun hagain => hnew (hsubset hagain), hnodup⟩)
      (List.cons_subset_cons _ hsubset) ?_ (held?_eq_some hfile hread') houtcome.symm)
    rw [List.length_cons]
    omega

theorem Ends.failsTwice (hfollowable : IsFollowable files root)
    (hbelow : FailsOnlyTwice files root levels) (hchain : Chain files root chain leg.2)
    (hnodup : chain.Nodup) (hsubset : chain ⊆ names)
    (hlength : chain.length + (levels + 1) = maxIncludeDepth + 2)
    (hrelatives : ∀ relative ∈ relatives, relative ∈ namedBy files leg.2)
    (hends : Ends (includeFile files (resolve files levels) leg.2) (fun _ => False) good relatives
      names (.error cause, later)) :
    FailsTwice files (waysThrough files levels leg relatives start) names cause := by
  generalize houtcome : ((.error cause, later) : Except ConfigError α × List String) = outcome
    at hends
  induction hends generalizing start with
  | done => cases houtcome
  | fault hfault => exact hfault.elim
  | @failed relative relatives names after reason hpath =>
    cases houtcome
    obtain ⟨hnamed, -⟩ := List.forall_mem_cons.1 hrelatives
    have hincluding : Including files (resolve files levels) (includedPath leg.2 relative) names
      (.error cause, later) := hpath ▸ includeFile_including
    rw [waysThrough_cons]
    exact (hincluding.failsTwice hfollowable hbelow hchain hnodup hsubset hlength hnamed).append
  | @included relative relatives names after value outcome hpath _ ih =>
    obtain ⟨-, hrelatives⟩ := List.forall_mem_cons.1 hrelatives
    have hincluding : Including files (resolve files levels) (includedPath leg.2 relative) names
      (.ok value, after) := hpath ▸ includeFile_including
    obtain ⟨done, -, hafter, hall⟩ := hincluding.reads (start :: leg.1, _)
      fun value names hheld => resolve_reads (start :: leg.1, _) hheld
    obtain rfl := hall rfl
    rw [waysThrough_cons]
    -- All that was read below this path is noted when the later paths are followed.
    refine .prepend hafter (ih (fun name hname => ?_) hrelatives houtcome)
    have hmem : some name ∈ after.map some :=
      hafter ▸ List.mem_append_right _ (List.mem_map_of_mem (hsubset hname))
    simpa using hmem

theorem failsOnlyTwice (hfollowable : IsFollowable files root) (levels : Nat) :
    FailsOnlyTwice files root levels := by
  induction levels with
  | zero =>
    -- Without a level left, the chain would be longer than chains of different files are.
    intro leg chain names later value cause hchain hnodup _ hlength
    have hshort := hfollowable.short chain leg.2 hchain hnodup
    omega
  | succ levels ih =>
    intro leg chain names later value cause hchain hnodup hsubset hlength hheld hrun
    have hnamed : namedBy files leg.2 = namedPaths leg.2 value := by
      rw [namedBy, hheld]
      rfl
    have hfollows : Follows (includeFile files (resolve files levels) leg.2) (fun _ => False) _
        (namedPaths leg.2 value)
        (resolveOver (includeFile files (resolve files levels) leg.2) leg.2 [] value) :=
      resolveOver_follows carries_all (fun _ _ _ _ _ => trivial)
        (.inl (includeFile_yields_objects hfollowable.objects))
        (.inl (hfollowable.directives leg.2 value hheld)) trivial fun _ _ => trivial
    have hends := hfollows names
    rw [resolve] at hrun
    rw [hrun, ← hnamed] at hends
    exact hends.failsTwice hfollowable ih hchain hnodup hsubset hlength fun _ hmem => hmem

/-! ## Loading files whose includes can be followed -/

theorem exists_ok_of_forall_ne {ε α : Type} {result : Except ε α}
    (hresult : ∀ cause, result ≠ .error cause) : ∃ value, result = .ok value := by
  cases result with
  | error cause => exact absurd rfl (hresult cause)
  | ok value => exact ⟨value, rfl⟩

theorem exists_substitute {text : String} (environment : Environment) (hplain : IsPlain text) :
    ∃ result, substitute environment text.toList = .ok result := by
  refine exists_ok_of_forall_ne fun cause herror => ?_
  obtain ⟨before, name, ⟨after, ⟨hrefers, -⟩, -⟩, -⟩ := substitute_eq_error_iff.1 herror
  exact hplain before name after hrefers

theorem exists_substituteAll {allowed : String → Prop} (environment : Environment)
    (hplain : value.Within IsPlain allowed) :
    ∃ result, substituteAll environment value = .ok result := by
  induction value using Json.induction_on_content with
  | scalar value hvalue =>
    cases hplain with
    | array | object => contradiction
    | string htext =>
      obtain ⟨result, hresult⟩ := exists_substitute environment htext
      exact ⟨_, by rw [substituteAll, hresult]; rfl⟩
    | _ => exact ⟨_, rfl⟩
  | array items ih =>
    have hitems : ∃ results, substituteItems environment items = .ok results := by
      cases hplain with
      | array hplain =>
        induction items with
        | nil => exact ⟨_, rfl⟩
        | cons item items ihItems =>
          obtain ⟨hitem, hitems⟩ := List.forall_mem_cons.1 hplain
          obtain ⟨ihItem, ihLater⟩ := List.forall_mem_cons.1 ih
          obtain ⟨result, hresult⟩ := ihItem hitem
          obtain ⟨results, hresults⟩ := ihItems ihLater hitems
          exact ⟨_, by rw [substituteItems, hresult, hresults]; rfl⟩
    obtain ⟨results, hresults⟩ := hitems
    exact ⟨_, by rw [substituteAll, hresults]; rfl⟩
  | object members ih =>
    have hmembers : ∃ results, substituteMembers environment members = .ok results := by
      cases hplain with
      | object hnames hplain =>
        clear hnames
        induction members with
        | nil => exact ⟨_, rfl⟩
        | cons m members ihMembers =>
          obtain ⟨hvalue, hvalues⟩ := List.forall_mem_cons.1 hplain
          obtain ⟨ihValue, ihLater⟩ := List.forall_mem_cons.1 ih
          obtain ⟨result, hresult⟩ := ihValue hvalue
          obtain ⟨results, hresults⟩ := ihMembers ihLater hvalues
          exact ⟨_, by rw [substituteMembers, hresult, hresults]; rfl⟩
    obtain ⟨results, hresults⟩ := hmembers
    exact ⟨_, by rw [substituteAll, hresults]; rfl⟩

/-- If no file is included twice on ways of any allowed length, none is on longer ways: there are
no longer ones. -/
theorem not_includesTwice (hfollowable : IsFollowable files root)
    (hnodup : (namesAt files (([], root) ::
      waysBelow files (maxIncludeDepth + 1) ([], root))).Nodup) :
    ¬ IncludesTwice files root := by
  have hlimit : ∀ way path, Way files root way path → way.length ≤ maxIncludeDepth + 1 := by
    intro way path hway
    by_contra hlong
    obtain ⟨short, other, hshort, hlength⟩ :=
      hway.exists_of_length_le (Nat.le_of_lt (Nat.lt_of_not_le hlong))
    obtain ⟨names, hchain, hnames, hdifferent⟩ := hshort.exists_chain hfollowable.held
      (fun _ _ _ _ hway hother => eq_of_nameAt_eq hnodup hway hother) (Nat.le_of_eq hlength)
    have hmost := hfollowable.short names other hchain hdifferent
    omega
  rintro ⟨way, other, path, path', hway, hother, hne, hsame⟩
  exact hne (eq_of_nameAt_eq hnodup hway hother (hlimit _ _ hway) (hlimit _ _ hother) hsame)

/-- The files are read without a fault exactly if no two ways lead to one of them. -/
theorem loadFile_cases {entry : Entry} (environment : Environment)
    (hfollowable : IsFollowable files root) (hfile : files root = some entry) :
    ((∃ place, loadFile files environment root entry = .error (.circularInclude place)) ∧
        IncludesTwice files root) ∨
      ((∃ value, loadFile files environment root entry = .ok value) ∧
        ¬ IncludesTwice files root) := by
  obtain ⟨value, hheld⟩ := hfollowable.held [] root .start
  obtain ⟨entry', hfile', hread⟩ := exists_entry_of_held? hheld
  obtain rfl := Option.some.inj (hfile.symm.trans hfile')
  have hroot : namesAt files (([], root) :: waysBelow files (maxIncludeDepth + 1) ([], root)) =
      some entry.canonicalName ::
        namesAt files (waysBelow files (maxIncludeDepth + 1) ([], root)) := by
    rw [namesAt, List.map_cons, nameAt, hfile]
    rfl
  have hrun : rootRun files root entry =
      (resolve files (maxIncludeDepth + 1) root value).run.run [entry.canonicalName] := by
    rw [rootRun, hread]
  rw [loadFile, resolveRoot_eq]
  cases houtcome : rootRun files root entry with
  | mk outcome later =>
    cases outcome with
    | error cause =>
      obtain ⟨⟨place, rfl⟩, htwice⟩ := failsOnlyTwice hfollowable (maxIncludeDepth + 1) ([], root)
        [entry.canonicalName] [entry.canonicalName] later value cause (.start hfile)
        (List.nodup_singleton _) (List.Subset.refl _) (Nat.add_comm _ _) hheld
        (hrun.symm.trans houtcome)
      refine .inl ⟨⟨place, rfl⟩, includesTwice_of_not_nodup (maxIncludeDepth + 1) ?_⟩
      intro hnodup
      refine htwice (List.nodup_reverse.1 ?_)
      simpa [hroot] using hnodup
    | ok resolved =>
      have hplain := (resolve_yields (carries_within IsPlain fun _ => True) hfollowable.plain
        (hfollowable.plain root value hheld) (hrun.symm.trans houtcome)).1
      obtain ⟨result, hresult⟩ := exists_substituteAll environment hplain
      refine .inr ⟨⟨result, hresult⟩, not_includesTwice hfollowable ?_⟩
      have hdifferent : (rootRun files root entry).2.Nodup := rootRun_nodup
      obtain ⟨done, -, hnames, hall⟩ := rootRun_reads hfile
      rw [houtcome] at hdifferent hnames hall
      obtain rfl := hall rfl
      have hread := hdifferent.map (Option.some_injective _)
      rw [hnames, List.map_singleton, ← List.reverse_cons, ← hroot] at hread
      exact List.nodup_reverse.1 hread

theorem load_cases (environment : Environment) (hfollowable : IsFollowable files root) :
    ((∃ place, (load files environment root).value = .error (.circularInclude place)) ∧
        IncludesTwice files root) ∨
      ((∃ loaded, (load files environment root).value = .ok loaded) ∧
        ¬ IncludesTwice files root) := by
  obtain ⟨value, hvalue⟩ := hfollowable.held [] root .start
  obtain ⟨entry, hfile, -⟩ := exists_entry_of_held? hvalue
  rw [load, hfile]
  dsimp only
  obtain ⟨⟨place, hplace⟩, htwice⟩ | ⟨⟨loaded, hloaded⟩, honce⟩ :=
    loadFile_cases environment hfollowable hfile
  · rw [hplace]
    exact .inl ⟨⟨place, rfl⟩, htwice⟩
  · rw [hloaded]
    exact .inr ⟨⟨_, rfl⟩, honce⟩

/-- If all includes can be followed, loading a configuration fails only because of a circular
include, and exactly if two ways of includes lead to one file.  So every cycle is found, but two
files that include the same third one are refused as well. -/
theorem load_is_circular_iff (files : FileSystem) (environment : Environment) (root : String)
    (hfollowable : IsFollowable files root) :
    ((∃ place, (load files environment root).value = .error (.circularInclude place)) ↔
        IncludesTwice files root) ∧
      (IncludesItself files root → IncludesTwice files root) ∧
      (¬ IncludesTwice files root →
        ∃ loaded, (load files environment root).value = .ok loaded) := by
  refine ⟨⟨?_, ?_⟩, IncludesItself.includesTwice, ?_⟩
  · rintro ⟨place, hplace⟩
    obtain ⟨-, htwice⟩ | ⟨⟨loaded, hloaded⟩, -⟩ := load_cases environment hfollowable
    · exact htwice
    · simp [hplace] at hloaded
  · intro htwice
    obtain ⟨hcircular, -⟩ | ⟨-, honce⟩ := load_cases environment hfollowable
    · exact hcircular
    · exact absurd htwice honce
  · intro honce
    obtain ⟨-, htwice⟩ | ⟨hloaded, -⟩ := load_cases environment hfollowable
    · exact absurd htwice honce
    · exact hloaded

end

/-! ## A file that two sections include -/

/-- What a file holds whose two sections include the same other file. -/
def sharingValue : Json :=
  .object
    [("logging", .object [(includeName, .string "common.json5")]),
      ("server", .object [(includeName, .string "common.json5")])]

def sharingFiles : FileSystem := fun path =>
  if path = "main.json5" then
    some (textEntry "main.json5" ("\x7blogging:\x7b$include:\"common.json5\"\x7d," ++
      "server:\x7b$include:\"common.json5\"\x7d\x7d"))
  else if path = "common.json5" then some (textEntry "common.json5" "\x7b\x7d")
  else none

theorem held?_sharingFiles_main : held? sharingFiles "main.json5" = some sharingValue := by
  have hvalue : sharingValue = .ofMembers
      [("logging", .ofMembers [("$include", .string "common.json5")]),
        ("server", .ofMembers [("$include", .string "common.json5")])] := by
    decide +kernel
  rw [hvalue]
  refine held?_eq_some rfl (readFile_textEntry ?_)
  have hdense : Json5.denseTokens? 17 ("\x7blogging:\x7b$include:\"common.json5\"\x7d," ++
      "server:\x7b$include:\"common.json5\"\x7d\x7d").toList = some
        [.mark '\x7b', .name "logging" true, .mark ':', .mark '\x7b', .name "$include" true,
          .mark ':', .text "common.json5", .mark '\x7d', .mark ',', .name "server" true, .mark ':',
          .mark '\x7b', .name "$include" true, .mark ':', .text "common.json5", .mark '\x7d',
          .mark '\x7d'] := by
    decide +kernel
  refine Json.ofJson5?_of_denseTokens? _ hdense ?_
  simp [Json5.value?, Json5.members?, Json5.memberName?, Json5.Rest.within]

theorem held?_sharingFiles_common : held? sharingFiles "common.json5" = some (.object []) := by
  refine held?_eq_some rfl (readFile_textEntry ?_)
  have hdense : Json5.denseTokens? 2 "\x7b\x7d".toList =
      some [.mark '\x7b', .mark '\x7d'] := by
    decide +kernel
  refine Json.ofJson5?_of_denseTokens? _ hdense ?_
  simp [Json5.value?, Json5.members?, Json5.Rest.within, Json.ofMembers]

theorem eq_of_held?_sharingFiles {path : String} {value : Json}
    (hheld : held? sharingFiles path = some value) :
    (path = "main.json5" ∧ value = sharingValue) ∨
      (path = "common.json5" ∧ value = .object []) := by
  by_cases hmain : path = "main.json5"
  · subst hmain
    exact .inl ⟨rfl, Option.some.inj (hheld.symm.trans held?_sharingFiles_main)⟩
  by_cases hcommon : path = "common.json5"
  · subst hcommon
    exact .inr ⟨rfl, Option.some.inj (hheld.symm.trans held?_sharingFiles_common)⟩
  · simp [held?, sharingFiles, hmain, hcommon] at hheld

theorem namedBy_sharingFiles {path relative : String}
    (hnamed : relative ∈ namedBy sharingFiles path) :
    path = "main.json5" ∧ includedPath path relative = "common.json5" := by
  cases hheld : held? sharingFiles path with
  | none => simp [namedBy, hheld] at hnamed
  | some value =>
    rw [namedBy, hheld, Option.elim_some] at hnamed
    obtain ⟨rfl, rfl⟩ | ⟨rfl, rfl⟩ := eq_of_held?_sharingFiles hheld
    · have hpaths : namedPaths "main.json5" sharingValue = ["common.json5", "common.json5"] := by
        decide +kernel
      rw [hpaths] at hnamed
      have hrelative : relative = "common.json5" := by simpa using hnamed
      subst hrelative
      exact ⟨rfl, by decide +kernel⟩
    · contradiction

theorem way_sharingFiles {way : List Nat} {path : String}
    (hway : Way sharingFiles "main.json5" way path) :
    path = "main.json5" ∨ path = "common.json5" := by
  cases hway with
  | start => exact .inl rfl
  | into _ hnamed => exact .inr (namedBy_sharingFiles (List.mem_of_getElem? hnamed)).2

theorem chain_sharingFiles {names : List String} {path : String}
    (hchain : Chain sharingFiles "main.json5" names path) :
    names = ["main.json5"] ∨ names = ["common.json5", "main.json5"] := by
  cases hchain with
  | start hfile =>
    obtain rfl := Option.some.inj hfile
    exact .inl rfl
  | into hchain hnamed hfile =>
    obtain ⟨rfl, hcommon⟩ := namedBy_sharingFiles hnamed
    rw [hcommon] at hfile
    obtain rfl := Option.some.inj hfile
    generalize hmain : "main.json5" = main at hchain
    cases hchain with
    | start hfile =>
      subst hmain
      obtain rfl := Option.some.inj hfile
      exact .inr rfl
    | into _ hnamed =>
      have hother := hmain.trans (namedBy_sharingFiles hnamed).2
      contradiction

theorem hasValidDirectives_sharingValue {path : String} :
    HasValidDirectives path sharingValue := by
  have hsection : HasValidDirectives path (.object [(includeName, .string "common.json5")]) := by
    refine .object (fun directive hdirective => ?_)
      (List.forall_mem_singleton.2 fun hname => absurd rfl hname)
    obtain rfl : .string "common.json5" = directive := by simpa using hdirective
    exact ⟨_, rfl⟩
  refine .object (fun directive hdirective => ?_)
    (List.forall_mem_cons.2 ⟨fun _ => hsection, List.forall_mem_singleton.2 fun _ => hsection⟩)
  have hnone : sharingValue.members.lookup includeName = none := by decide +kernel
  exact nomatch hnone.symm.trans hdirective

theorem within_sharingValue : sharingValue.Within IsPlain fun _ => True := by
  have hplain : IsPlain "common.json5" := by
    intro before name after hrefers
    have hsign : '$' ∈ "common.json5".toList := by
      rw [hrefers.text_eq]
      simp [referenceText]
    exact absurd hsign (by decide)
  have hsection : (Json.object [(includeName, .string "common.json5")]).Within IsPlain
      fun _ => True :=
    .object (fun _ _ => trivial) (List.forall_mem_singleton.2 (.string hplain))
  exact .object (fun _ _ => trivial)
    (List.forall_mem_cons.2 ⟨hsection, List.forall_mem_singleton.2 hsection⟩)

theorem isFollowable_sharingFiles : IsFollowable sharingFiles "main.json5" where
  held way path hway := by
    obtain rfl | rfl := way_sharingFiles hway
    · exact ⟨_, held?_sharingFiles_main⟩
    · exact ⟨_, held?_sharingFiles_common⟩
  objects path value hheld := by
    obtain ⟨-, rfl⟩ | ⟨-, rfl⟩ := eq_of_held?_sharingFiles hheld
    · rfl
    · rfl
  directives path value hheld := by
    obtain ⟨-, rfl⟩ | ⟨-, rfl⟩ := eq_of_held?_sharingFiles hheld
    · exact hasValidDirectives_sharingValue
    · exact .object (fun directive hdirective => nomatch hdirective) (List.forall_mem_nil _)
  plain path value hheld := by
    obtain ⟨-, rfl⟩ | ⟨-, rfl⟩ := eq_of_held?_sharingFiles hheld
    · exact within_sharingValue
    · exact .object (List.forall_mem_nil _) (List.forall_mem_nil _)
  short names path hchain _ := by
    obtain rfl | rfl := chain_sharingFiles hchain
    · decide
    · decide

theorem includesTwice_sharingFiles : IncludesTwice sharingFiles "main.json5" := by
  have hnamed : namedBy sharingFiles "main.json5" = ["common.json5", "common.json5"] := by
    rw [namedBy, held?_sharingFiles_main]
    decide +kernel
  have hfirst : (namedBy sharingFiles "main.json5")[0]? = some "common.json5" := by
    rw [hnamed]
    rfl
  have hsecond : (namedBy sharingFiles "main.json5")[1]? = some "common.json5" := by
    rw [hnamed]
    rfl
  exact ⟨[0], [1], _, _, Way.start.into hfirst, Way.start.into hsecond, by decide, rfl⟩

/-- Files without a cycle are refused as circular. -/
theorem load_refuses_sharing :
    IsFollowable sharingFiles "main.json5" ∧ ¬ IncludesItself sharingFiles "main.json5" ∧
      ∀ environment, ∃ place,
        (load sharingFiles environment "main.json5").value = .error (.circularInclude place) := by
  refine ⟨isFollowable_sharingFiles, ?_, fun environment => ?_⟩
  · rintro ⟨name, names, path, hchain, hname⟩
    obtain hnames | hnames := chain_sharingFiles hchain
    · obtain ⟨rfl, rfl⟩ := List.cons.inj hnames
      contradiction
    · obtain ⟨rfl, rfl⟩ := List.cons.inj hnames
      exact absurd hname (by decide)
  · obtain ⟨hcircular, -⟩ | ⟨-, honce⟩ :=
      load_cases environment isFollowable_sharingFiles
    · exact hcircular
    · exact absurd includesTwice_sharingFiles honce

/-- The includes of these files can be followed, and two ways lead to the file of both sections. -/
theorem load_is_circular_iff_sharing :
    IsFollowable sharingFiles "main.json5" ∧
      ∃ place, (load sharingFiles (fun _ => none) "main.json5").value =
        .error (.circularInclude place) :=
  ⟨isFollowable_sharingFiles,
    (load_is_circular_iff sharingFiles (fun _ => none) "main.json5"
      isFollowable_sharingFiles).1.2 includesTwice_sharingFiles⟩

end GadgetGuard.Config
