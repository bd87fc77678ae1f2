import PageMerge.Config.File
import PageMerge.Template.Marks

/-!
# Settings

The values of a configuration file, judged and in the form in which a run uses them. Blanks around a
text have no meaning. The first value that cannot be used is reported, in a fixed order: base URL,
template, marks, space, parent page, delimiter, article data, identifier column, user name, token,
number of workers.

## Main definitions

* `Account`, `Settings`: what a run needs to know
* `Delay.ofSeconds?`: a delay given in seconds
* `ConfigFile.validate`: the settings of a file
* `load`: the settings of the file at a path
-/

namespace PageMerge.Config

open PageMerge.Files (FileTree Path)
open PageMerge.Template (Marks)

/-- The account that a run uses. -/
structure Account where
  username : String
  token : String
  deriving DecidableEq, Repr

/-- The nanoseconds in a second. -/
def nanosPerSecond : Nat := 1000000000

/-- A length of time in nanoseconds. -/
structure Delay where
  nanoseconds : Nat
  deriving DecidableEq, Repr

/-- What a run needs to know. -/
structure Settings where
  baseUrl : String
  templateId : String
  marks : Marks
  uploadSpace : String
  uploadParentPageId : Option String
  delay : Delay
  timeoutSeconds : Nat
  overwriteExistingArticles : Bool
  dumpTemplate : Bool
  dumpGeneratedArticles : Bool
  uploadWorkers : Nat
  dataCsv : Path
  delimiter : UInt8
  idColumnHeader : String
  erroredArticlesCsv : Path
  account : Account
  deriving DecidableEq

/-- Why there are no settings. -/
inductive Failure where
  /-- The configuration cannot be used. -/
  | refused (error : ConfigProblem)
  /-- The delay has more seconds than a length of time can have, and the program stops at once. -/
  | aborted
  deriving DecidableEq, Repr

/-- What is reported when the program stops because of the delay. -/
def Failure.abortMessage : String :=
  "cannot convert float seconds to Duration: value is either too big or NaN"

/-! ### Delays -/

/-- The quotient rounded to the nearest number, and to the even one if two are equally near. -/
def roundedDiv (num den : Nat) : Nat :=
  let below := num / den
  let rest := 2 * (num % den)
  if rest < den then below
  else if den < rest then below + 1
  else if below % 2 = 0 then below
  else below + 1

/-- The number of seconds that no length of time reaches. -/
def secondsLimit : Nat := UInt64.size

/-- The delay of a number of seconds, rounded to nanoseconds; a number that is not positive or not
finite means no delay. There is none for too many seconds. -/
def Delay.ofSeconds? : Decimal.Number → Option Delay
  | .finite false x =>
    let (num, den) := x.ratio 0
    if secondsLimit * den ≤ num then none else some ⟨roundedDiv (num * nanosPerSecond) den⟩
  | _ => some ⟨0⟩

/-! ### Validation -/

/-- Fails with an error of the configuration. -/
def refuse (error : ConfigProblem) : Except Failure α := .error (.refused error)

/-- The text without the blanks around it, if anything is left. -/
def requireText (text : String) (error : ConfigProblem) : Except Failure String :=
  let trimmed := Text.trim text
  if trimmed.isEmpty then refuse error else .ok trimmed

/-- A text of one or more decimal digits. -/
def isNumeric (text : String) : Bool := !text.isEmpty && text.toList.all Char.isDigit

/-- The base URL, which must end with a slash. -/
def checkBaseUrl (text : String) : Except Failure String := do
  let url ← requireText text .baseUrlEmpty
  if url.endsWith "/" then .ok url else refuse (.baseUrlNoTrailingSlash url)

/-- The identifier of the template. -/
def checkTemplateId (text : String) : Except Failure String := do
  let id ← requireText text .templateIdEmpty
  if isNumeric id then .ok id else refuse (.templateIdNotNumeric id)

/-- The marks. -/
def checkMarks (placeholder escape : String) : Except Failure Marks :=
  (Marks.ofTexts placeholder escape).mapError fun cause => .refused (.marks cause)

/-- The identifier of the parent page, if one is given. -/
def checkParent (text : String) : Except Failure (Option String) :=
  let id := Text.trim text
  if id.isEmpty then .ok none
  else if isNumeric id then .ok (some id)
  else refuse (.parentPageIdNotNumeric id)

/-- The delimiter, a single byte. -/
def checkDelimiter (text : String) : Except Failure UInt8 := do
  let delimiter ← requireText text .delimiterEmpty
  match Text.Utf8.encode delimiter with
  | [byte] => .ok byte
  | _ => refuse (.delimiterNotSingleChar delimiter)

/-- The path of the article data, where a file must be. -/
def checkDataCsv (tree : FileTree) (text : String) : Except Failure Path := do
  let path ← requireText text .dataCsvPathEmpty
  if tree.isFile ⟨path⟩ then .ok ⟨path⟩ else refuse (.dataCsvMissing path)

/-- The number of workers, at least one. -/
def checkWorkers (count : Nat) : Except Failure Nat :=
  if count = 0 then refuse .uploadWorkersZero else .ok count

/-- The delay. -/
def checkDelay (seconds : Decimal.Number) : Except Failure Delay :=
  match Delay.ofSeconds? seconds with
  | some delay => .ok delay
  | none => .error .aborted

namespace ConfigFile

/-- The settings of a file. -/
def validate (file : ConfigFile) (tree : FileTree) (account : Account) :
    Except Failure Settings := do
  let baseUrl ← checkBaseUrl file.confluence.baseUrl
  let templateId ← checkTemplateId file.confluence.templateId
  let marks ← checkMarks file.confluence.placeholderCharacter file.confluence.escapeCharacter
  let uploadSpace ← requireText file.confluence.uploadSpace .uploadSpaceEmpty
  let uploadParentPageId ← checkParent file.confluence.uploadParentPageId
  let delimiter ← checkDelimiter file.data.delimiter
  let dataCsv ← checkDataCsv tree file.data.dataCsv
  let idColumnHeader ← requireText file.data.idColumnHeader .idColumnHeaderEmpty
  let username ← requireText account.username .usernameEmpty
  let token ← requireText account.token .tokenEmpty
  let uploadWorkers ← checkWorkers file.behavior.uploadWorkers
  let delay ← checkDelay file.confluence.delaySeconds
  .ok {
    baseUrl, templateId, marks, uploadSpace, uploadParentPageId, delay
    timeoutSeconds := max file.confluence.timeoutSeconds 1
    overwriteExistingArticles := file.behavior.overwriteExistingArticles
    dumpTemplate := file.behavior.dumpTemplate
    dumpGeneratedArticles := file.behavior.dumpGeneratedArticles
    uploadWorkers, dataCsv, delimiter, idColumnHeader
    erroredArticlesCsv := ⟨Text.trim file.data.erroredArticlesCsv⟩
    account := ⟨username, token⟩ }

/-- The same file with other article data. -/
def withData (file : ConfigFile) : Option Path → ConfigFile
  | none => file
  | some path => { file with data := { file.data with dataCsv := path.text } }

end ConfigFile

/-- The sections of the file at a path. -/
def loadFile (tree : FileTree) (path : Path) : Except StructureProblem ConfigFile :=
  match tree.readText path with
  | .error cause => .error (.unreadable path cause)
  | .ok text => ConfigFile.parse text

/-- The settings of the file at a path. A path of article data that is given takes the place of the
one in the file. -/
def load (tree : FileTree) (path : Path) (account : Account) (data : Option Path) :
    Except Failure Settings :=
  match loadFile tree path with
  | .error problem => refuse (.invalidStructure problem)
  | .ok file => (file.withData data).validate tree account

end PageMerge.Config
