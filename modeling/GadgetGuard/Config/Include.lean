import GadgetGuard.Config.Error
import GadgetGuard.Config.FileSystem
import GadgetGuard.Json5.Reader
/-!
# Includes of a configuration

An object with the member `$include` stands for the contents of other files, one laid over
the other, with its remaining members on top. What files bring in is resolved when it is
read, so a value is resolved over the layers that includes have already put below it. Every
file is included at most once.
-/

namespace GadgetGuard.Config

open GadgetGuard.Text

def includeName : String := "$include"

/-- A computation that knows the canonical names of the files read so far, the last one first.
It still knows them when it fails. -/
abbrev Resolving := ExceptT ConfigError (StateM (List String))

/-- The paths that a directive names. -/
def includePaths (file : String) (directive : Json) : Except ConfigError (List String) :=
  match directive with
  | .string path => .ok [path]
  | .array items => items.mapM fun
    | .string path => .ok path
    | _ => .error (.invalidDirective file)
  | _ => .error (.invalidDirective file)

def readFile (path : String) (entry : Entry) : Except ConfigError Json :=
  match entry.content.bind decodeUtf8? with
  | none => .error (.unreadable path)
  | some text =>
    match Json.ofJson5? text with
    | some value => .ok value
    | none => .error (.syntaxError path)

/-- Lays values over one another, the first at the bottom. -/
def overlaid (layers : List Json) (top : Json) : Json :=
  layers.foldr Json.merge top

/-- The contents of all files that a directive names, laid over one another. -/
def includeAll (include? : String → Resolving Json) (file : String) (directive : Json) :
    Resolving Json := do
  let paths ← (includePaths file directive : Except ConfigError (List String))
  paths.foldlM (fun below path => do return below.merge (← include? path)) (.object [])

mutual

/-- Resolves a value that is laid over resolved layers. `include?` reads what a path of a
directive leads to, and `file` is the file that the value stands in. -/
def resolveOver (include? : String → Resolving Json) (file : String) (layers : List Json) :
    Json → Resolving Json
  | .object members =>
    let layers := layers.filter Json.isObject
    match members.lookup includeName with
    | none => resolveMembers include? file layers members (overlaid layers (.object []))
    | some directive => do
      let included ← includeAll include? file directive
      let isAlone := members.all (·.1 == includeName) && layers.all (·.members.isEmpty)
      if isAlone then return included
      else if !included.isObject then throw (.includeNotObject file)
      else
        let layers := included :: layers
        resolveMembers include? file layers members (overlaid layers (.object []))
  | .array items => do
    let resolved ← resolveItems include? file items
    return overlaid layers (.array resolved)
  | scalar => return scalar

/-- Resolves the members of an object and sets them in a value. -/
def resolveMembers (include? : String → Resolving Json) (file : String) (layers : List Json) :
    List Json.Member → Json → Resolving Json
  | [], below => return below
  | (name, value) :: members, below => do
    if name = includeName then resolveMembers include? file layers members below
    else
      let resolved ← resolveOver include? file (layers.filterMap (·.get? name)) value
      resolveMembers include? file layers members
        (.object (Json.insertMember name resolved below.members))

def resolveItems (include? : String → Resolving Json) (file : String) :
    List Json → Resolving (List Json)
  | [] => return []
  | item :: items => do
    let resolved ← resolveOver include? file [] item
    return resolved :: (← resolveItems include? file items)

end

/-- Reads a file that another one includes. `resolve` resolves what the file holds. -/
def includeFile (files : FileSystem) (resolve : String → Json → Resolving Json)
    (including relative : String) : Resolving Json := do
  let path := Path.joined (Path.parent including) relative
  match files path with
  | none => throw (.includeNotFound path)
  | some entry =>
    if (← get).contains entry.canonicalName then throw (.circularInclude path)
    modify (entry.canonicalName :: ·)
    resolve path (← (readFile path entry : Except ConfigError Json))

/-- Resolves what a file holds, with so many levels of includes below it. -/
def resolve (files : FileSystem) : Nat → String → Json → Resolving Json
  | 0, file, _ => throw (.includeTooDeep file)
  | levels + 1, file, value =>
    resolveOver (includeFile files (resolve files levels) file) file [] value

/-- Resolves the file that is loaded. -/
def resolveRoot (files : FileSystem) (path : String) (entry : Entry) :
    Except ConfigError Json := do
  let value ← readFile path entry
  ((resolve files (maxIncludeDepth + 1) path value).run.run [entry.canonicalName]).1

end GadgetGuard.Config
