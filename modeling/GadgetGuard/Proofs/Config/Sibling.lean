import GadgetGuard.Proofs.Config.InPlace
import GadgetGuard.Proofs.Config.Reading
import GadgetGuard.Proofs.Json.Ordered
/-!
# Members beside a directive

What an object holds beside its directive lies over what the directive includes.  If a directive is
nested in it, the files that this one includes come below everything else that is in its place.
-/

namespace GadgetGuard.Config

/-- The members of an object beside its directive. -/
def siblings (members : List Json.Member) : List Json.Member :=
  members.filter (·.1 != includeName)

/-- What the files give that some paths lead to, one after the other. -/
inductive Gives (include? : String → Resolving Json) :
    List String → List String → List Json → List String → Prop
  | nil {names : List String} : Gives include? [] names [] names
  | cons {path : String} {paths names later last : List String} {value : Json}
      {values : List Json} (hfirst : (include? path).run.run names = (.ok value, later))
      (hrest : Gives include? paths later values last) :
      Gives include? (path :: paths) names (value :: values) last

section

variable {files : FileSystem} {include? : String → Resolving Json} {file : String} {levels : Nat}
variable {layers : List Json} {value directive included : Json} {members : List Json.Member}
variable {names later : List String}

theorem foldlM_gives {paths : List String} {below : Json}
    (hrun : (paths.foldlM (fun (below : Json) path => do return below.merge (← include? path))
      below : Resolving Json).run.run names = (.ok included, later)) :
    ∃ values, Gives include? paths names values later ∧
      included = values.foldl Json.merge below := by
  induction paths generalizing names below with
  | nil =>
    cases hrun
    exact ⟨[], .nil, rfl⟩
  | cons path paths ih =>
    rw [List.foldlM_cons, bind_assoc, run_bind] at hrun
    cases hpath : (include? path).run.run names with
    | mk outcome between =>
      rw [hpath] at hrun
      cases outcome with
      | error cause => cases hrun
      | ok value =>
        dsimp only at hrun
        rw [pure_bind] at hrun
        obtain ⟨values, hgives, hincluded⟩ := ih hrun
        exact ⟨value :: values, .cons hpath hgives, hincluded⟩

/-- What a directive includes are the values that its paths give, laid over one another. -/
theorem includeAll_gives
    (hrun : (includeAll include? file directive).run.run names = (.ok included, later)) :
    ∃ paths values, includePaths file directive = .ok paths ∧
      Gives include? paths names values later ∧
        included = values.foldl Json.merge (.object []) := by
  rw [includeAll, run_bind, run_lift] at hrun
  cases hpaths : includePaths file directive with
  | error cause =>
    rw [hpaths] at hrun
    cases hrun
  | ok paths =>
    rw [hpaths] at hrun
    obtain ⟨values, hgives, hincluded⟩ := foldlM_gives hrun
    exact ⟨paths, values, rfl, hgives, hincluded⟩

theorem run_includeAll_string {path : String}
    (hrun : (include? path).run.run names = (.ok value, later)) :
    (includeAll include? file (.string path)).run.run names =
      (.ok ((Json.object []).merge value), later) := by
  rw [includeAll, run_bind, run_lift]
  dsimp only [includePaths]
  rw [List.foldlM_cons, bind_assoc, run_bind, hrun]
  rfl

theorem isResolved_of_includeAll (hyields : Yields include? IsResolved)
    (hrun : (includeAll include? file directive).run.run names = (.ok included, later)) :
    IsResolved included := by
  obtain ⟨_, -, -, hresolved⟩ :=
    (includeAll_parallel .empty (fun _ _ => IsResolved.merge) hyields).exists_of_run_ok hrun
  exact hresolved

theorem resolveMembers_siblings : resolveMembers include? file layers (siblings members) value =
    resolveMembers include? file layers members value := by
  induction members generalizing value with
  | nil => rfl
  | cons m members ih =>
    by_cases hname : m.1 = includeName
    · rw [siblings, List.filter_cons_of_neg (by simp [hname]), ← siblings, ih]
      conv => rhs; rw [resolveMembers, if_pos hname]
    · rw [siblings, List.filter_cons_of_pos (by simp [hname]), ← siblings, resolveMembers,
        resolveMembers, if_neg hname, if_neg hname]
      exact bind_congr fun resolved => ih

theorem lookup_siblings : (siblings members).lookup includeName = none := by
  rw [Json.lookup_eq_none_iff]
  intro hname
  obtain ⟨m, hm, hsame⟩ := List.mem_map.1 hname
  simpa [hsame] using (List.mem_filter.1 hm).2

theorem siblings_eq_nil_iff : siblings members = [] ↔ members.all (·.1 == includeName) = true := by
  simp [siblings, List.filter_eq_nil_iff]

theorem isOrdered_siblings (hmembers : (Json.object members).IsOrdered) :
    (Json.object (siblings members)).IsOrdered := by
  cases hmembers with
  | object hnames hvalues =>
    exact .object (hnames.sublist (List.filter_sublist.map Prod.fst))
      fun m hm => hvalues m (List.mem_of_mem_filter hm)

/-- An object with a directive is what it includes, if nothing stands beside the directive;
otherwise, what stands there is resolved over what it includes. -/
theorem resolveOver_of_directive (hdirective : members.lookup includeName = some directive) :
    resolveOver include? file [] (.object members) = (do
      let included ← includeAll include? file directive
      if siblings members = [] then return included
      else if !included.isObject then throw (.includeNotObject file)
      else resolveOver include? file [included] (.object (siblings members))) := by
  rw [resolveOver, hdirective]
  refine bind_congr fun included => ?_
  dsimp only
  by_cases halone : siblings members = []
  · rw [if_pos halone, if_pos (by simpa using siblings_eq_nil_iff.1 halone)]
  · rw [if_neg halone, if_neg (by simpa using fun hall => halone (siblings_eq_nil_iff.2 hall))]
    cases hobject : included.isObject with
    | false => rfl
    | true =>
      rw [resolveOver, lookup_siblings, List.filter_cons_of_pos hobject]
      exact resolveMembers_siblings.symm

/-! ## Files -/

theorem isOrdered_of_held? {path : String} (hheld : held? files path = some value) :
    value.IsOrdered := by
  obtain ⟨entry, -, hread⟩ := Option.bind_eq_some_iff.1 hheld
  rw [readFile.eq_def] at hread
  split at hread
  · contradiction
  split at hread
  next hvalue =>
    obtain rfl := Option.some.inj hread
    exact .of_ofJson5? hvalue
  · contradiction

theorem includeFile_yields_resolved :
    Yields (includeFile files (resolve files levels) file) IsResolved := by
  intro relative names value later hincluded
  obtain ⟨held, before, hheld, hrun⟩ := exists_held_of_includeFile hincluded
  have hordered := resolve_yields carries_ordered (fun _ _ => isOrdered_of_held?)
    (isOrdered_of_held? hheld) hrun
  exact ⟨hordered.1, within_of_resolve hrun⟩

/-- If an object with a directive is resolved, the directive names paths, and their files are
included one after the other and laid over one another.  If nothing stands beside the directive,
this is all.  Otherwise this is an object, and what stands beside the directive is laid over it
before the directives nested there are resolved.  It makes no difference to resolve these first, if
none of them stands where the included files have members or items. -/
theorem resolveOver_lays_siblings_over (files : FileSystem) (levels : Nat) (file : String)
    (members : List Json.Member) (directive result : Json) (names later : List String)
    (hordered : (Json.object members).IsOrdered)
    (hdirective : members.lookup includeName = some directive)
    (hrun : (resolveOver (includeFile files (resolve files levels) file) file []
      (.object members)).run.run names = (.ok result, later)) :
    ∃ paths values included between, includePaths file directive = .ok paths ∧
      Gives (includeFile files (resolve files levels) file) paths names values between ∧
      included = values.foldl Json.merge (.object []) ∧
      (siblings members = [] → result = included ∧ later = between) ∧
      (siblings members ≠ [] → included.isObject = true ∧
        (resolveOver (includeFile files (resolve files levels) file) file []
          (included.merge (.object (siblings members)))).run.run between = (.ok result, later) ∧
        (LiesApart included (.object (siblings members)) →
          ∃ resolved, (resolveOver (includeFile files (resolve files levels) file) file []
              (.object (siblings members))).run.run between = (.ok resolved, later) ∧
            result = included.merge resolved)) := by
  rw [resolveOver_of_directive hdirective, run_bind] at hrun
  cases hincluded : (includeAll (includeFile files (resolve files levels) file) file
      directive).run.run names with
  | mk outcome between =>
    rw [hincluded] at hrun
    cases outcome with
    | error cause => cases hrun
    | ok included =>
      dsimp only at hrun
      obtain ⟨paths, values, hpaths, hgives, hvalues⟩ := includeAll_gives hincluded
      refine ⟨paths, values, included, between, hpaths, hgives, hvalues, fun halone => ?_,
        fun hbeside => ?_⟩
      · rw [if_pos halone] at hrun
        cases hrun
        exact ⟨rfl, rfl⟩
      · have hyields : Yields (includeFile files (resolve files levels) file) IsResolved :=
          includeFile_yields_resolved
        have hresolved := isResolved_of_includeAll hyields hincluded
        rw [if_neg hbeside] at hrun
        cases hobject : included.isObject with
        | false =>
          rw [hobject] at hrun
          cases hrun
        | true =>
          rw [hobject] at hrun
          have hyields' : Yields (includeFile files (resolve files levels) file) Json.IsOrdered :=
            fun path names value later hrun => (hyields path names value later hrun).ordered
          have hsiblings := isOrdered_siblings hordered
          obtain ⟨_, hmerged, rfl⟩ := (goesOverLast hyields' hsiblings [] included
            (List.forall_mem_nil _) hresolved).exists_of_run_ok hrun
          refine ⟨rfl, hmerged, fun hapart => ?_⟩
          exact (resolveOver_lays_over hyields' hresolved.ordered hsiblings hapart).exists_of_run_ok
            hrun

theorem run_includeFile {resolveFile : String → Json → Resolving Json} {relative : String}
    {entry : Entry} (hfile : files (includedPath file relative) = some entry)
    (hnew : entry.canonicalName ∉ names)
    (hread : readFile (includedPath file relative) entry = .ok value) :
    (includeFile files resolveFile file relative).run.run names =
      (resolveFile (includedPath file relative) value).run.run (entry.canonicalName :: names) :=
  includeFile_including.unique (.opened hfile hnew hread)

end

/-! ## A directive where the included file has members -/

/-- A port under the name of its section. -/
def portValue (port : Int) : Json :=
  .object [("server", .object [("port", .integer port)])]

def nestedMembers : List Json.Member :=
  [(includeName, .string "base.json5"),
    ("server", .object [(includeName, .string "extra.json5")])]

def nestedText : String :=
  "\x7b$include:\"base.json5\",server:\x7b$include:\"extra.json5\"\x7d\x7d"

def baseText : String :=
  "\x7bserver:\x7bport:1111\x7d\x7d"

def extraText : String :=
  "\x7bport:2222\x7d"

/-- A file includes another one that sets a port, and in place of the port's section a third one
that sets the port as well. -/
def nestedFiles : FileSystem := fun path =>
  if path = "main.json5" then some (textEntry "main.json5" nestedText)
  else if path = "base.json5" then some (textEntry "base.json5" baseText)
  else if path = "extra.json5" then some (textEntry "extra.json5" extraText)
  else none

theorem ofJson5?_nestedText :
    Json.ofJson5? nestedText.toList = some (.object nestedMembers) := by
  have hvalue : Json.object nestedMembers = .ofMembers [("$include", .string "base.json5"),
      ("server", .ofMembers [("$include", .string "extra.json5")])] := rfl
  have hdense : Json5.denseTokens? 13 nestedText.toList = some [.mark '\x7b',
      .name "$include" true, .mark ':', .text "base.json5", .mark ',', .name "server" true,
      .mark ':', .mark '\x7b', .name "$include" true, .mark ':', .text "extra.json5",
      .mark '\x7d', .mark '\x7d'] := by
    decide +kernel
  rw [hvalue]
  refine Json.ofJson5?_of_denseTokens? _ hdense ?_
  simp [Json5.value?, Json5.members?, Json5.memberName?, Json5.Rest.within]

theorem ofJson5?_baseText : Json.ofJson5? baseText.toList = some (portValue 1111) := by
  have hvalue : portValue 1111 =
      .ofMembers [("server", .ofMembers [("port", .integer 1111)])] := rfl
  have hdense : Json5.denseTokens? 9 baseText.toList = some [.mark '\x7b', .name "server" true,
      .mark ':', .mark '\x7b', .name "port" true, .mark ':', .number (.integer 1111),
      .mark '\x7d', .mark '\x7d'] := by
    decide +kernel
  rw [hvalue]
  refine Json.ofJson5?_of_denseTokens? _ hdense ?_
  simp [Json5.value?, Json5.members?, Json5.memberName?, Json5.Rest.within]

theorem ofJson5?_extraText :
    Json.ofJson5? extraText.toList = some (.object [("port", .integer 2222)]) := by
  have hvalue : Json.object [("port", .integer 2222)] = .ofMembers [("port", .integer 2222)] := rfl
  have hdense : Json5.denseTokens? 5 extraText.toList = some [.mark '\x7b', .name "port" true,
      .mark ':', .number (.integer 2222), .mark '\x7d'] := by
    decide +kernel
  rw [hvalue]
  refine Json.ofJson5?_of_denseTokens? _ hdense ?_
  simp [Json5.value?, Json5.members?, Json5.memberName?, Json5.Rest.within]

theorem isResolved_single {name : String} {value : Json} (hname : name ≠ includeName)
    (hvalue : IsResolved value) : IsResolved (.object [(name, value)]) where
  ordered := .object (List.pairwise_singleton _ _) (List.forall_mem_singleton.2 hvalue.ordered)
  free := .object (List.forall_mem_singleton.2 hname) (List.forall_mem_singleton.2 hvalue.free)

theorem isResolved_port {port : Int} : IsResolved (.object [("port", .integer port)]) :=
  isResolved_single (by decide) ⟨.integer port, .integer port⟩

theorem isResolved_portValue {port : Int} : IsResolved (portValue port) :=
  isResolved_single (by decide) isResolved_port

theorem empty_merge_portValue {port : Int} :
    (Json.object []).merge (portValue port) = portValue port :=
  Json.merge_of_empty rfl rfl isResolved_portValue.ordered

theorem run_base : (includeFile nestedFiles (resolve nestedFiles maxIncludeDepth) "main.json5"
    "base.json5").run.run ["main.json5"] =
      (.ok (portValue 1111), ["base.json5", "main.json5"]) := by
  have hpath : includedPath "main.json5" "base.json5" = "base.json5" := by decide
  have hfile : nestedFiles (includedPath "main.json5" "base.json5") =
      some (textEntry "base.json5" baseText) := by
    rw [hpath]
    rfl
  rw [run_includeFile hfile (by decide) (readFile_textEntry ofJson5?_baseText), maxIncludeDepth,
    resolve, resolveOver_resolved (by simp) isResolved_portValue]
  rfl

theorem run_extra {names : List String} (hnew : "extra.json5" ∉ names) :
    (includeFile nestedFiles (resolve nestedFiles maxIncludeDepth) "main.json5"
      "extra.json5").run.run names =
        (.ok (.object [("port", .integer 2222)]), "extra.json5" :: names) := by
  have hpath : includedPath "main.json5" "extra.json5" = "extra.json5" := by decide
  have hfile : nestedFiles (includedPath "main.json5" "extra.json5") =
      some (textEntry "extra.json5" extraText) := by
    rw [hpath]
    rfl
  rw [run_includeFile hfile hnew (readFile_textEntry ofJson5?_extraText), maxIncludeDepth,
    resolve, resolveOver_resolved (by simp) isResolved_port]
  rfl

theorem siblings_nestedMembers : siblings nestedMembers =
    [("server", .object [(includeName, .string "extra.json5")])] := by
  simp [siblings, nestedMembers, includeName]

/-- A section that includes the third file is what this one holds. -/
theorem run_section {names : List String} (hnew : "extra.json5" ∉ names) :
    (resolveOver (includeFile nestedFiles (resolve nestedFiles maxIncludeDepth) "main.json5")
      "main.json5" [] (.object [(includeName, .string "extra.json5")])).run.run names =
        (.ok (.object [("port", .integer 2222)]), "extra.json5" :: names) := by
  have hdirective : [(includeName, Json.string "extra.json5")].lookup includeName =
      some (.string "extra.json5") := rfl
  rw [resolveOver_of_directive hdirective, run_bind, run_includeAll_string (run_extra hnew)]
  rfl

/-- What stands beside the directive gives the other port if it is resolved on its own. -/
theorem run_siblings : (resolveOver (includeFile nestedFiles (resolve nestedFiles maxIncludeDepth)
    "main.json5") "main.json5" [] (.object (siblings nestedMembers))).run.run
      ["base.json5", "main.json5"] =
        (.ok (portValue 2222), ["extra.json5", "base.json5", "main.json5"]) := by
  have hnone : [("server", Json.object [(includeName, .string "extra.json5")])].lookup
      includeName = none := rfl
  rw [siblings_nestedMembers, resolveOver, hnone]
  dsimp only
  rw [resolveMembers, if_neg (by decide), List.filter_nil, List.filterMap_nil, run_bind,
    run_section (by decide)]
  rfl

/-- The included file prevails over what stands beside the directive. -/
theorem run_nested :
    (resolveOver (includeFile nestedFiles (resolve nestedFiles maxIncludeDepth) "main.json5")
      "main.json5" [] (.object nestedMembers)).run.run ["main.json5"] =
        (.ok (portValue 1111), ["extra.json5", "base.json5", "main.json5"]) := by
  have hnone : [("server", Json.object [(includeName, .string "extra.json5")])].lookup
      includeName = none := rfl
  have hdirective : [(includeName, Json.string "extra.json5")].lookup includeName =
      some (.string "extra.json5") := rfl
  have hlayers : ([portValue 1111].filter Json.isObject).filterMap (Json.get? · "server") =
      [.object [("port", .integer 1111)]] := rfl
  rw [resolveOver_of_directive rfl, run_bind, run_includeAll_string run_base,
    empty_merge_portValue]
  dsimp only
  rw [siblings_nestedMembers, if_neg (by simp), if_neg (by decide), resolveOver, hnone]
  dsimp only
  rw [resolveMembers, if_neg (by decide), hlayers, resolveOver, hdirective]
  dsimp only
  rw [run_bind, run_bind, run_includeAll_string (run_extra (by decide))]
  rfl

/-- A nested directive beside an outer one does not give what lies over the included file. -/
theorem resolveRoot_prefers_included :
    nestedFiles "main.json5" = some (textEntry "main.json5" nestedText) ∧
      resolveRoot nestedFiles "main.json5" (textEntry "main.json5" nestedText) =
        .ok (portValue 1111) ∧
      (includeAll (includeFile nestedFiles (resolve nestedFiles maxIncludeDepth) "main.json5")
        "main.json5" (.string "base.json5")).run.run ["main.json5"] =
          (.ok (portValue 1111), ["base.json5", "main.json5"]) ∧
      (resolveOver (includeFile nestedFiles (resolve nestedFiles maxIncludeDepth) "main.json5")
        "main.json5" [] (.object (siblings nestedMembers))).run.run ["base.json5", "main.json5"] =
          (.ok (portValue 2222), ["extra.json5", "base.json5", "main.json5"]) ∧
      (portValue 1111).merge (portValue 2222) ≠ portValue 1111 := by
  refine ⟨rfl, ?_, ?_, run_siblings, by decide⟩
  · rw [resolveRoot, readFile_textEntry ofJson5?_nestedText]
    exact congrArg Prod.fst run_nested
  · rw [run_includeAll_string run_base,
    empty_merge_portValue]

/-- The third file is included in a section that the included file does not have. -/
def apartMembers : List Json.Member :=
  [(includeName, .string "base.json5"),
    ("logging", .object [(includeName, .string "extra.json5")])]

def apartValue : Json :=
  .object [("logging", .object [("port", .integer 2222)]),
    ("server", .object [("port", .integer 1111)])]

theorem siblings_apartMembers : siblings apartMembers =
    [("logging", .object [(includeName, .string "extra.json5")])] := by
  simp [siblings, apartMembers, includeName]

theorem isOrdered_apartMembers : (Json.object apartMembers).IsOrdered := by
  refine .object (by decide) (List.forall_mem_cons.2 ⟨.string _, ?_⟩)
  exact List.forall_mem_singleton.2
    (.object (List.pairwise_singleton _ _) (List.forall_mem_singleton.2 (.string _)))

theorem run_apart :
    (resolveOver (includeFile nestedFiles (resolve nestedFiles maxIncludeDepth) "main.json5")
      "main.json5" [] (.object apartMembers)).run.run ["main.json5"] =
        (.ok apartValue, ["extra.json5", "base.json5", "main.json5"]) := by
  have hnone : [("logging", Json.object [(includeName, .string "extra.json5")])].lookup
      includeName = none := rfl
  have hlayers : ([portValue 1111].filter Json.isObject).filterMap (Json.get? · "logging") =
      [] := rfl
  rw [resolveOver_of_directive rfl, run_bind, run_includeAll_string run_base,
    empty_merge_portValue]
  dsimp only
  rw [siblings_apartMembers, if_neg (by simp), if_neg (by decide), resolveOver, hnone]
  dsimp only
  rw [resolveMembers, if_neg (by decide), hlayers, run_bind, run_section (by decide)]
  rfl

/-- The section of the directive is not in the file that holds the port. -/
theorem liesApart_apartMembers : LiesApart (portValue 1111) (.object (siblings apartMembers)) := by
  rw [siblings_apartMembers]
  rintro (_ | ⟨name, names⟩) entries held hentries hdirective hheld
  · obtain rfl := Json.object.inj (Option.some.inj hentries)
    contradiction
  · rw [List.map_cons, Json.at?, List.foldlM_cons, Json.child?] at hentries hheld
    by_cases hname : name = "logging"
    · subst hname
      contradiction
    · have hmissing : (Json.object [("logging",
          .object [(includeName, .string "extra.json5")])]).get? name = none := by
        simp [Json.get?, Json.members, hname]
      rw [hmissing] at hentries
      contradiction

/-- What stands beside the directive is laid over the included file and then resolved.  Where it
lies apart, it may be resolved first. -/
theorem resolveOver_lays_siblings_over_nested :
    ((Json.object nestedMembers).IsOrdered ∧
      nestedMembers.lookup includeName = some (.string "base.json5") ∧
      ∃ (included : Json) (between : List String),
        (resolveOver (includeFile nestedFiles (resolve nestedFiles maxIncludeDepth) "main.json5")
          "main.json5" [] (included.merge (.object (siblings nestedMembers)))).run.run between =
            (.ok (portValue 1111), ["extra.json5", "base.json5", "main.json5"])) ∧
    ((Json.object apartMembers).IsOrdered ∧
      apartMembers.lookup includeName = some (.string "base.json5") ∧
      ∃ (included resolved : Json) (between : List String),
        LiesApart included (.object (siblings apartMembers)) ∧
        (resolveOver (includeFile nestedFiles (resolve nestedFiles maxIncludeDepth) "main.json5")
          "main.json5" [] (.object (siblings apartMembers))).run.run between =
            (.ok resolved, ["extra.json5", "base.json5", "main.json5"]) ∧
        apartValue = included.merge resolved) := by
  constructor
  · have hordered : (Json.object nestedMembers).IsOrdered := .of_ofJson5? ofJson5?_nestedText
    obtain ⟨-, -, included, between, -, -, -, -, hbeside⟩ :=
      resolveOver_lays_siblings_over nestedFiles maxIncludeDepth "main.json5" nestedMembers
        (.string "base.json5") (portValue 1111) ["main.json5"]
        ["extra.json5", "base.json5", "main.json5"] hordered rfl run_nested
    have hne : siblings nestedMembers ≠ [] := by
      rw [siblings_nestedMembers]
      exact List.cons_ne_nil _ _
    exact ⟨hordered, rfl, included, between, (hbeside hne).2.1⟩
  · obtain ⟨paths, values, included, between, hpaths, hgives, hincluded, -, hbeside⟩ :=
      resolveOver_lays_siblings_over nestedFiles maxIncludeDepth "main.json5" apartMembers
        (.string "base.json5") apartValue ["main.json5"]
        ["extra.json5", "base.json5", "main.json5"] isOrdered_apartMembers rfl run_apart
    have hne : siblings apartMembers ≠ [] := by
      rw [siblings_apartMembers]
      exact List.cons_ne_nil _ _
    obtain rfl : ["base.json5"] = paths := Except.ok.inj hpaths
    cases hgives with
    | cons hfirst hrest =>
      cases hrest with
      | nil =>
        cases hfirst.symm.trans run_base
        have hport : included = portValue 1111 := hincluded.trans empty_merge_portValue
        have hapart : LiesApart included (.object (siblings apartMembers)) :=
          hport ▸ liesApart_apartMembers
        obtain ⟨resolved, hrun, hmerged⟩ := (hbeside hne).2.2 hapart
        exact ⟨isOrdered_apartMembers, rfl, included, resolved, _, hapart, hrun, hmerged⟩

end GadgetGuard.Config
