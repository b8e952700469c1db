import GadgetGuard.Version
/-!
# The command line

The arguments name a command, word by word. At every word help can be asked for instead.
-/

namespace GadgetGuard

inductive Command
  | start
  | showConfig
  | configPath
  | version
  deriving DecidableEq, Repr

namespace Command

/-- The words that name a command. -/
def words : Command → String
  | start => "start"
  | showConfig => "config show"
  | configPath => "config path"
  | version => "version"

end Command

/-- Why the arguments name no command. -/
inductive UsageError
  | helpAsked
  | versionAsked
  /-- A further word is needed, and help tells which ones there are. -/
  | wordMissing
  | unknownWord
  | unknownArgument
  /-- An option that takes no value was given one. -/
  | unexpectedValue
  deriving DecidableEq, Repr

namespace UsageError

/-- Whether the answer is what was asked for, and so no failure. -/
def isAnswer : UsageError → Bool
  | helpAsked | versionAsked => true
  | _ => false

/-- What the program ends with. -/
def exitCode (cause : UsageError) : UInt32 :=
  if cause.isAnswer then 0 else 2

def message : UsageError → String
  | helpAsked | wordMissing =>
    "usage: " ++ programName ++ " [start | config show | config path | version]"
  | versionAsked => versionText
  | unknownWord => "error: unrecognized subcommand"
  | unknownArgument => "error: unexpected argument"
  | unexpectedValue => "error: unexpected value for an option"

end UsageError

/-- What may be said at some place of the command line. -/
inductive Menu
  /-- The command is complete. -/
  | complete (command : Command)
  /-- A word follows, or may follow. -/
  | choice (needsWord hasVersion : Bool) (entries : List (String × Menu))

namespace Menu

def entries : Menu → List (String × Menu)
  | complete _ => []
  | choice _ _ entries => entries

def hasVersion : Menu → Bool
  | complete _ => false
  | choice _ hasVersion _ => hasVersion

def helpWord : String := "help"

/-- Whether a word stands on a menu. Where words can follow, one of them asks for help. -/
def isWord (menu : Menu) (word : String) : Bool :=
  (menu.entries.lookup word).isSome || (word == helpWord && !menu.entries.isEmpty)

/-- What asking for help about some words leads to. -/
def help : Menu → List String → UsageError
  | _, [] => .helpAsked
  | menu, word :: words =>
    match menu.entries.lookup word with
    | some next => help next words
    | none => if word == helpWord && menu.isWord word && words.isEmpty then .helpAsked
      else .unknownWord

/-- What a long option leads to. -/
def longOption (menu : Menu) (option : List Char) : UsageError :=
  let (name, value) := option.span (· != '=')
  if name == "help".toList || (menu.hasVersion && name == "version".toList) then
    if !value.isEmpty then .unexpectedValue
    else if name == "help".toList then .helpAsked
    else .versionAsked
  else .unknownArgument

/-- What a group of short options leads to; the first one decides. -/
def shortOption (menu : Menu) (option : Char) : UsageError :=
  if option = 'h' then .helpAsked
  else if option = 'V' && menu.hasVersion then .versionAsked
  else .unknownArgument

/-- What a word leads to that is not on the menu. -/
def unknown (menu : Menu) : UsageError :=
  if menu.entries.isEmpty then .unknownArgument else .unknownWord

/-- What an argument leads to that comes after the end of the options, where no word is read
as one of the menu. -/
def operand (menu : Menu) (word : String) : UsageError :=
  if menu.isWord word then .unknownArgument else menu.unknown

/-- Reads arguments. -/
def read : Menu → List String → Except UsageError (Option Command)
  | complete command, [] => .ok (some command)
  | choice needsWord _ _, [] => if needsWord then .error .wordMissing else .ok none
  | menu, argument :: rest =>
    match menu.entries.lookup argument with
    | some next => read next rest
    | none =>
      if argument == helpWord && menu.isWord argument then .error (menu.help rest)
      else
        match argument.toList with
        | ['-', '-'] =>
          match rest with
          | [] => read menu []
          | word :: _ => .error (menu.operand word)
        | '-' :: '-' :: option => .error (menu.longOption option)
        | '-' :: option :: _ => .error (menu.shortOption option)
        | _ => .error menu.unknown
termination_by _ arguments => arguments.length

end Menu

namespace Command

def menu : Menu :=
  .choice false true
    [("start", .complete start),
      ("config", .choice true false
        [("show", .complete showConfig), ("path", .complete configPath)]),
      ("version", .complete version)]

/-- Reads the arguments that follow the name of the program. -/
def ofArguments (arguments : List String) : Except UsageError (Option Command) :=
  menu.read arguments

end Command

end GadgetGuard
