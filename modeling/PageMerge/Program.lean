import PageMerge.CommandLine
import PageMerge.Log.Filter
import PageMerge.Run.Command
import PageMerge.Wiki.Confluence

/-!
# The program

A call of the program: its words are read, a log file is opened, and the command is performed on the
files and the network that are there.

## Main definitions

* `Network`: the servers that can be reached and the addresses that can be listened at
* `Ending`: how the program ends
* `Program.run`, `Program.validate`, `Program.serve`: the commands
* `Program.call`: a whole call of the program
* `Program.namedPaths`: the files that a call works with
-/

namespace PageMerge

open PageMerge.CommandLine (Command Environment Invocation)
open PageMerge.Config (Account Settings)
open PageMerge.Files (FileTree IoError Path)
open PageMerge.Http (Transport)
open PageMerge.Wiki (ConfluenceApi WikiAccess)
open Workspace

/-- The network around the program. -/
structure Network (σ : Type) where
  /-- The way to the server of the wiki. -/
  transport : Transport σ
  /-- Listening at a host and a port, until the server stops or fails. -/
  listen (host : String) (port : Nat) : Except IoError Unit

/-- A network without servers and without addresses. -/
def Network.empty {σ : Type} : Network σ where
  transport := Http.unreachable
  listen _ _ := .error .addressNotAvailable

/-- How the program ends. -/
inductive Ending where
  | finished (status : ExitStatus)
  /-- The program stops in the middle of its work, with a message. -/
  | aborted (message : String)
  deriving DecidableEq, Repr

/-- The exit code of the program. -/
def Ending.exitCode : Ending → Nat
  | .finished status => status.exitCode
  | .aborted _ => 101

namespace Program

variable {σ : Type}

/-- Goes on with the settings of a configuration file, if they can be used. -/
def withSettings (config : Path) (account : Account) (data : Option Path)
    (go : Settings → Activity (Workspace σ) ExitStatus) : Activity (Workspace σ) Ending := do
  let space ← Activity.state
  match Config.load space.files config account data with
  | .ok settings => do
    match ← (go settings).caught with
    | .ok status => pure (.finished status)
    | .error message => pure (.aborted message)
  | .error .aborted => pure (.aborted Config.Failure.abortMessage)
  | .error (.refused error) => do
    Activity.logAll (RunFault.config error).entries
    pure (.finished .fatalErrors)

/-- The wiki of the settings. -/
def clientOf (transport : Transport σ) (settings : Settings) : WikiAccess σ :=
  (ConfluenceApi.ofSettings settings).client transport

/-- A run from a configuration file. -/
def run (transport : Transport σ) (config : Path) (account : Account)
    (data : Option Path) : Activity (Workspace σ) Ending :=
  withSettings config account data fun settings =>
    runCommand settings (clientOf transport settings) (.ofSettings settings)

/-- The preparation of a run from a configuration file. -/
def validate (transport : Transport σ) (config : Path) (account : Account)
    (data : Option Path) : Activity (Workspace σ) Ending :=
  withSettings config account data fun settings =>
    checkCommand settings (clientOf transport settings) (.ofSettings settings)

/-- A server at an address. -/
def serve (network : Network σ) (host : String) (port : Nat) : Activity (Workspace σ) Ending := do
  Activity.log (Log.info s!"Server running at http://{host}:{port}")
  match network.listen host port with
  | .ok () => pure (.finished .noErrors)
  | .error error => do
    Activity.log (Log.error s!"[E0] The server stopped: {error.message}")
    pure (.finished .fatalErrors)

/-- Performs a command. -/
def perform (network : Network σ) (invocation : Invocation) : Activity (Workspace σ) Ending :=
  let account : Account := ⟨invocation.username, invocation.token⟩
  match invocation.command with
  | .run data => run network.transport invocation.config account data
  | .validate data => validate network.transport invocation.config account data
  | .serve host port _ => serve network host port

/-- Adds text at the end of a file, if there is any. -/
def appendText (files : FileTree) (path : Path) (text : String) : FileTree :=
  if text.isEmpty then files
  else
    let before := (files.read path).toOption.getD []
    match files.writeFile path (before ++ Text.Utf8.encode text) with
    | .ok written => written
    | .error _ => files

/-- What a call of the program leaves behind. -/
structure Outcome (σ : Type) where
  exitCode : Nat
  files : FileTree
  network : σ
  /-- What is shown on the console. -/
  console : String

/-- Performs a command and writes the kept entries to the log file, which must have been opened. -/
def performLogged (network : Network σ) (invocation : Invocation) (filter : Log.Filter)
    (time : String) (files : FileTree) (state : σ) : Outcome σ :=
  let result := (perform network invocation).run ⟨state, files, .empty⟩
  let kept := result.log.filter filter.keeps
  let text := String.join (kept.map (Log.Entry.stamped time))
  let last := match result.value with
    | .finished _ => ""
    | .aborted message => message ++ "\n"
  ⟨result.value.exitCode, appendText result.state.files invocation.logFile text,
    result.state.wiki, text ++ last⟩

/-- A whole call of the program. Words that are no invocation change nothing, and neither does an
invocation whose log file cannot be opened. -/
def call (network : Network σ) (words : List String) (environment : Environment)
    (filter : Log.Filter) (time : String) (files : FileTree) (state : σ) : Outcome σ :=
  match Invocation.parse words environment with
  | .error error => ⟨error.exitCode, files, state, error.message ++ "\n"⟩
  | .ok invocation =>
    match files.writeFile invocation.logFile [] with
    | .error error =>
      ⟨ExitStatus.fatalErrors.exitCode, files, state,
        s!"Could not set up logging to '{invocation.logFile.text}': {error.message}\n"⟩
    | .ok files => performLogged network invocation filter time files state

/-- The paths that words name, and those that the configuration file among them names. -/
def namedPaths (words : List String) (environment : Environment) (files : FileTree) : List Path :=
  match Invocation.parse words environment with
  | .error _ => []
  | .ok invocation =>
    let own := [invocation.config, invocation.logFile] ++ invocation.command.data?.toList
    match Config.loadFile files invocation.config with
    | .error _ => own
    | .ok file =>
      let paths := RunFiles.ofLedger ⟨Text.trim file.data.erroredArticlesCsv⟩
      own ++ [⟨Text.trim file.data.dataCsv⟩, paths.ledger, paths.report, paths.dumpDirectory]

end Program

end PageMerge
