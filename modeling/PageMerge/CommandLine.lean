import PageMerge.Config.Settings

/-!
# The command line

The words of a call of the program: options that every command has, a command, and options of that
command. The options that every command has may stand before the command or after it; those after it
count. User name and token can come from the environment instead.

An option is written `--name value` or `--name=value` and is given at most once before and once
after the command. The first fault from left to right is reported, except that a value is judged
only when the next option or the end of the command comes.

## Main definitions

* `Command`, `Invocation`: what the program is to do
* `UsageError`: why it is told nothing
* `Invocation.parse`: the invocation of a list of words
-/

namespace PageMerge.CommandLine

open PageMerge.Files (Path)

/-- What the program is to do. -/
inductive Command where
  | run (data : Option Path)
  | validate (data : Option Path)
  | serve (host : String) (port : Nat) (artifacts : Path)
  deriving DecidableEq, Repr

/-- The article data that a command names. -/
def Command.data? : Command → Option Path
  | .run data => data
  | .validate data => data
  | .serve .. => none

/-- A command with the options that every command has. -/
structure Invocation where
  config : Path
  username : String
  token : String
  logFile : Path
  command : Command
  deriving DecidableEq, Repr

/-- Why words are no invocation. -/
inductive UsageError where
  /-- They ask for help. -/
  | help
  /-- They ask for the version. -/
  | version
  /-- They are none. -/
  | nothing
  | missingCommand
  | unknownCommand
  | unknownArgument
  /-- An option is given twice. -/
  | repeated
  /-- An option has no value, or an empty one that is no path. -/
  | missingValue
  /-- A value is not of the right form. -/
  | malformedValue
  /-- Something that takes no value has one. -/
  | superfluousValue
  deriving DecidableEq, Repr

/-- The exit code of the program: asking for help or for the version is no error. -/
def UsageError.exitCode : UsageError → Nat
  | .help => 0
  | .version => 0
  | _ => 2

/-- What is said about words that are no invocation. -/
def UsageError.message : UsageError → String
  | .help => "Usage: uploader [OPTIONS] <run|validate|serve>"
  | .version => "uploader 0.1.0"
  | .nothing => "a command is needed: run, validate or serve"
  | .missingCommand => "a command is needed: run, validate or serve"
  | .unknownCommand => "there is no such command"
  | .unknownArgument => "an argument is not known"
  | .repeated => "an option is given twice"
  | .missingValue => "a value is missing"
  | .malformedValue => "a value is not of the right form"
  | .superfluousValue => "something that takes no value has one"

/-- What the environment says about the account. -/
structure Environment where
  username : Option String
  token : Option String
  deriving DecidableEq, Repr

/-! ### Options -/

/-- An option that has a value. -/
inductive Key where
  | config
  | username
  | token
  | logFile
  | data
  | host
  | port
  | artifacts
  deriving DecidableEq, Repr

/-- The name of an option. -/
def Key.name : Key → String
  | .config => "config"
  | .username => "username"
  | .token => "token"
  | .logFile => "log-file"
  | .data => "data"
  | .host => "host"
  | .port => "port"
  | .artifacts => "artifacts-dir"

/-- A place in the command line: before the command, or after a command. -/
inductive Level where
  | top
  | run
  | validate
  | serve
  deriving DecidableEq, Repr

/-- The options that every command has. -/
def sharedKeys : List Key := [.config, .username, .token, .logFile]

/-- The options at a level. -/
def Level.keys : Level → List Key
  | .top => sharedKeys
  | .run => .data :: sharedKeys
  | .validate => .data :: sharedKeys
  | .serve => .host :: .port :: .artifacts :: sharedKeys

/-- The command of a name. -/
def Level.ofName? (name : String) : Option Level :=
  if name = "run" then some .run
  else if name = "validate" then some .validate
  else if name = "serve" then some .serve
  else none

/-- The word that asks for help on a command. -/
def helpCommand : String := "help"

/-- The number of a port: decimal digits, perhaps after a sign, for a number of 16 bits. -/
def portOf? (text : String) : Option Nat :=
  let number := fun (digits : List Char) =>
    if digits ≠ [] ∧ digits.all Char.isDigit then
      let n := digits.foldl (fun n c => n * 10 + (c.toNat - 48)) 0
      if n < UInt16.size then some n else none
    else none
  match text.toList with
  | '-' :: digits => (number digits).filter (· == 0)
  | '+' :: digits => number digits
  | digits => number digits

/-- Checks the value of an option. A path must not be empty. -/
def Key.check (key : Key) (value : String) : Except UsageError Unit :=
  match key with
  | .config => if value.isEmpty then .error .missingValue else .ok ()
  | .logFile => if value.isEmpty then .error .missingValue else .ok ()
  | .data => if value.isEmpty then .error .missingValue else .ok ()
  | .artifacts => if value.isEmpty then .error .missingValue else .ok ()
  | .port => if (portOf? value).isSome then .ok () else .error .malformedValue
  | .username => .ok ()
  | .token => .ok ()
  | .host => .ok ()

/-! ### Words -/

/-- Options with their values. -/
abbrev Given := List (Key × String)

/-- What is known in the middle of a level. -/
structure Progress where
  given : Given
  /-- The last option, and its value once it has one. It is judged later. -/
  pending : Option (Key × Option String)
  /-- After a lone `--` no word is an option. -/
  onlyWords : Bool

/-- Nothing is known at the start of a level. -/
def Progress.start : Progress := ⟨[], none, false⟩

/-- The last option has no value yet. -/
def Progress.waiting (progress : Progress) : Bool :=
  match progress.pending with
  | some (_, none) => true
  | _ => false

/-- Accepts an option with a value. -/
def accept (given : Given) (key : Key) (value : String) : Except UsageError Given := do
  if (given.lookup key).isSome then .error .repeated
  key.check value
  .ok ((key, value) :: given)

/-- Judges the last option. -/
def Progress.settle (progress : Progress) : Except UsageError Given :=
  match progress.pending with
  | none => .ok progress.given
  | some (_, none) => .error .missingValue
  | some (key, some value) => accept progress.given key value

/-- What a word means. -/
inductive Word where
  /-- It belongs to an option. -/
  | taken (progress : Progress)
  /-- It stands for itself. -/
  | plain

/-- A word that starts with two hyphens: a name, and a value after an equals sign. -/
def readLong (level : Level) (progress : Progress) (name : String) (value : Option String) :
    Except UsageError Progress :=
  match level.keys.find? (·.name == name), value with
  | some key, some value => do
    .ok ⟨← accept (← progress.settle) key value, none, false⟩
  | some key, none => do
    .ok ⟨← progress.settle, some (key, none), false⟩
  | none, value =>
    if name = "help" ∨ (name = "version" ∧ level = .top) then
      if value.isSome then .error .superfluousValue
      else do
        discard progress.settle
        .error (if name = "help" then .help else .version)
    else .error .unknownArgument

/-- A word that starts with one hyphen, given without it. -/
def readShort (level : Level) (progress : Progress) (letters : List Char) :
    Except UsageError Progress :=
  match letters with
  | 'h' :: _ => do
    discard progress.settle
    .error .help
  | 'V' :: _ =>
    if level = .top then do
      discard progress.settle
      .error .version
    else .error .unknownArgument
  | _ => .error .unknownArgument

/-- The meaning of a word. -/
def readWord (level : Level) (progress : Progress) (word : String) : Except UsageError Word :=
  if progress.onlyWords then .ok .plain
  else match word.toList with
    | ['-', '-'] => .ok (.taken { progress with onlyWords := true })
    | '-' :: '-' :: long =>
      let name := String.ofList (long.takeWhile (· != '='))
      let value := match long.dropWhile (· != '=') with
        | [] => none
        | _ :: value => some (String.ofList value)
      (readLong level progress name value).map .taken
    | '-' :: c :: letters => (readShort level progress (c :: letters)).map .taken
    | _ =>
      match progress.pending with
      | some (key, none) => .ok (.taken { progress with pending := some (key, some word) })
      | _ => .ok .plain

/-- The options after a command. -/
def readCommand (level : Level) (progress : Progress) : List String → Except UsageError Given
  | [] => progress.settle
  | word :: words => do
    match ← readWord level progress word with
    | .taken progress => readCommand level progress words
    | .plain => .error .unknownArgument

/-- What the words after the word for help ask for. -/
def readHelp : List String → UsageError
  | [] => .help
  | [name] =>
    if name = helpCommand ∨ (Level.ofName? name).isSome then .help else .unknownCommand
  | _ => .unknownCommand

/-- The options before a command, the command and the options after it. -/
def readTop (progress : Progress) :
    List String → Except UsageError (Given × Option (Level × Given))
  | [] => do .ok (← progress.settle, none)
  | word :: words =>
    let isCommand := word = helpCommand ∨ (Level.ofName? word).isSome
    if progress.onlyWords then
      .error (if isCommand then .unknownArgument else .unknownCommand)
    else if !progress.waiting ∧ word = helpCommand then .error (readHelp words)
    else match progress.waiting, Level.ofName? word with
      | false, some level => do
        let inner ← readCommand level .start words
        .ok (← progress.settle, some (level, inner))
      | _, _ => do
        match ← readWord .top progress word with
        | .taken progress => readTop progress words
        | .plain => .error .unknownCommand

/-! ### Invocations -/

/-- The options that were given, those of the command first, and the environment. -/
structure Source where
  command : Given
  top : Given
  environment : Environment

namespace Source

/-- The value of an option, if it was given. -/
def given? (source : Source) (key : Key) : Option String :=
  (source.command.lookup key).or (source.top.lookup key)

/-- The value of an option, or its default. -/
def valueOf (source : Source) (key : Key) (fallback : String) : String :=
  (source.given? key).getD fallback

/-- The account data of an option, from the environment if the option was not given. -/
def account (source : Source) (key : Key) (environment : Option String) : String :=
  ((source.given? key).or environment).getD ""

/-- The article data of the command line. -/
def data? (source : Source) : Option Path := (source.given? .data).map fun text => ⟨text⟩

/-- The command at a level. -/
def commandAt? (source : Source) : Level → Option Command
  | .top => none
  | .run => some (.run source.data?)
  | .validate => some (.validate source.data?)
  | .serve =>
    some (.serve (source.valueOf .host "127.0.0.1")
      ((portOf? (source.valueOf .port "8080")).getD 0) ⟨source.valueOf .artifacts "runs"⟩)

/-- The invocation of a command. -/
def invocation (source : Source) (command : Command) : Invocation where
  config := ⟨source.valueOf .config "config/uploader.toml"⟩
  username := source.account .username source.environment.username
  token := source.account .token source.environment.token
  logFile := ⟨source.valueOf .logFile "logs.log"⟩
  command := command

end Source

/-- The error of words without a command. -/
def withoutCommand (given : Given) (environment : Environment) : UsageError :=
  if given.isEmpty ∧ environment.username.isNone ∧ environment.token.isNone then .nothing
  else .missingCommand

/-- The invocation of a list of words. -/
def Invocation.parse (words : List String) (environment : Environment) :
    Except UsageError Invocation := do
  let (top, command) ← readTop .start words
  match command with
  | none => .error (withoutCommand top environment)
  | some (level, inner) =>
    let source : Source := ⟨inner, top, environment⟩
    match source.commandAt? level with
    | some command => .ok (source.invocation command)
    | none => .error .missingCommand

end PageMerge.CommandLine
