/-
StaticSite.CommandLine.Options — what a command line asks for.

A command line names the command and then settings, each by an option or
else by a variable of the environment. An option is written with its value
after an equals sign or as the next argument, and stands at most once.
-/
import StaticSite.Generate.Run
import StaticSite.Number.Numeral

namespace StaticSite.CommandLine

open StaticSite.Text

/-! ## 1. Settings -/

/-- What can be set for a run. -/
inductive Setting where
  | page
  | config
  | outputDir
  deriving DecidableEq, Repr

/-- The option of a setting. -/
def Setting.option : Setting → String
  | .page => "--page"
  | .config => "--config"
  | .outputDir => "--output-dir"

/-- The variable of a setting. -/
def Setting.variable : Setting → String
  | .page => "INPUT_PAGE"
  | .config => "INPUT_CONFIG"
  | .outputDir => "INPUT_OUTPUT_DIR"

/-- The setting with an option. Underscores are as good as dashes. -/
def settingOf? (name : String) : Option Setting :=
  let name := String.ofList (name.toList.map fun c => if c == '_' then '-' else c)
  [Setting.page, .config, .outputDir].find? fun setting => setting.option == name

/-- Why a command line asks for nothing that can be done. -/
inductive UsageError where
  | unknownCommand (token : String)
  | unknownOption (token : String)
  | unexpected (token : String)
  | missingValue (setting : Setting)
  | repeated (setting : Setting)
  deriving DecidableEq, Repr

/-- The wording of the error. -/
def UsageError.message : UsageError → String
  | .unknownCommand token => "Unknown command \"" ++ token ++ "\"."
  | .unknownOption token => "Unknown option: \"" ++ token ++ "\"."
  | .unexpected token => "Unused argument: \"" ++ token ++ "\"."
  | .missingValue setting => "Parameter \"" ++ setting.option ++ "\" requires an argument."
  | .repeated setting => "Parameter \"" ++ setting.option ++ "\" specified multiple times."

/-! ## 2. Tokens -/

/-- Does an argument start like an option? -/
def startsWithDash (token : String) : Bool :=
  match token.toList with
  | '-' :: _ => true
  | _ => false

/-- Is an argument a number? The imaginary unit with a minus sign is taken for an option. -/
def isNumber (token : String) : Bool :=
  let s := token.toList
  (Number.isComplex s || Number.isBased s) && s.map Char.toLower != ['-', 'j']

/-- Can an argument be the value of the option before it? -/
def canBeValue (token : String) : Bool :=
  !startsWithDash token || isNumber token

/-- An argument before and after its first equals sign. -/
def splitAtEquals : List Char → List Char × Option (List Char)
  | [] => ([], none)
  | '=' :: rest => ([], some rest)
  | c :: rest =>
    let (name, value) := splitAtEquals rest
    (c :: name, value)

/-! ## 3. Options -/

/-- The settings that options give. -/
abbrev Given := List (Setting × String)

/-- The value of a setting, if it was given. -/
def given? (setting : Setting) : Given → Option String
  | [] => none
  | (s, value) :: rest => if s = setting then some value else given? setting rest

/-- The settings with one more, unless it was there before. -/
def addGiven (setting : Setting) (value : String) (given : Given) : Except UsageError Given :=
  match given? setting given with
  | some _ => .error (.repeated setting)
  | none => .ok (given ++ [(setting, value)])

/-- What an argument that stands where an option can stand is. -/
inductive OptionToken where
  /-- Two dashes, after which nothing is left to be read. -/
  | stop
  /-- An option, with its value if that is in the same argument. -/
  | option (setting : Setting) (value : Option String)
  deriving DecidableEq, Repr

/-- Reads an argument where an option can stand. -/
def readToken (token : String) : Except UsageError OptionToken :=
  if token == "--" then .ok .stop
  else if !startsWithDash token then .error (.unexpected token)
  else
    let (name, value) := splitAtEquals token.toList
    match settingOf? (String.ofList name) with
    | none => .error (.unknownOption token)
    | some setting => .ok (.option setting (value.map String.ofList))

/-- Adds the settings of the arguments. Two dashes may stand at the end. -/
def readOptions (given : Given) : List String → Except UsageError Given
  | [] => .ok given
  | token :: rest =>
    match readToken token, rest with
    | .error e, _ => .error e
    | .ok .stop, [] => .ok given
    | .ok .stop, next :: _ => .error (.unexpected next)
    | .ok (.option setting (some value)), rest =>
      match addGiven setting value given with
      | .error e => .error e
      | .ok given => readOptions given rest
    | .ok (.option setting none), [] => .error (.missingValue setting)
    | .ok (.option setting none), value :: rest =>
      if !canBeValue value then .error (.missingValue setting)
      else
        match addGiven setting value given with
        | .error e => .error e
        | .ok given => readOptions given rest

/-! ## 4. Requests -/

/-- The variables of the environment. -/
abbrev Environment := String → Option String

/-- The text of a setting: its option counts before its variable. -/
def settingText? (given : Given) (env : Environment) (setting : Setting) : Option String :=
  match given? setting given with
  | some value => some value
  | none => env setting.variable

/-- The request that options and variables make. -/
def requestOf (given : Given) (env : Environment) : RunRequest :=
  let usual : RunRequest := {}
  { page := settingText? given env .page
    config := ((settingText? given env .config).map Path.ofText).getD usual.config
    outputDir := (settingText? given env .outputDir).map Path.ofText }

/-! ## 5. Commands -/

/-- What a command line asks for. -/
inductive Command where
  | help
  | generate (request : RunRequest)
  deriving DecidableEq, Repr

/-- The name of the command. -/
def commandName : String := "generate"

/-- The arguments that ask for help; where both stand, the first one here counts. -/
def helpTokens : List String :=
  ["--help", "-h"]

/-- The argument that asks for the version. -/
def versionToken : String := "--version"

/-- The arguments before two dashes, where they can mean something to the program itself. -/
def beforeDashes (args : List String) : List String :=
  args.takeWhile (· != "--")

/-- The argument by which help is asked for. -/
def helpToken? (args : List String) : Option String :=
  helpTokens.find? (beforeDashes args).contains

/-- What arguments that do not start with the command ask for: help or the version. Where help
is asked for, the first other argument is the command or looks like an option, if there is one. -/
def readNoCommand (args : List String) : Except UsageError Command :=
  match helpToken? args with
  | some token =>
    match args.erase token with
    | [] => .ok .help
    | other :: _ =>
      if other == commandName || !canBeValue other then .ok .help
      else .error (.unknownCommand other)
  | none =>
    match args with
    | [] => .ok .help
    | name :: _ =>
      if (beforeDashes args).contains versionToken then .ok .help
      else .error (.unknownCommand name)

/-- The command that the arguments spell. Without arguments it is the help. The command itself
tells about itself if it is asked to, whatever else it is given. -/
def readCommand (args : List String) (env : Environment) : Except UsageError Command :=
  match args with
  | name :: rest =>
    if name == commandName then
      if (helpToken? rest).isSome || (beforeDashes rest).contains versionToken then .ok .help
      else
        match readOptions [] rest with
        | .error e => .error e
        | .ok given => .ok (.generate (requestOf given env))
    else readNoCommand args
  | [] => readNoCommand []

/-- What comes of a command over the files: a run, unless it asks for help only. -/
def Command.perform (fs : FileSystem) : Command → Option RunResult
  | .help => none
  | .generate request => some (generateSite fs request)

end StaticSite.CommandLine
