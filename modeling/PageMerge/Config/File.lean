import PageMerge.Config.Problem
import PageMerge.Text.Quoted
import PageMerge.Toml.Document

/-!
# The configuration file

The sections of the file as they are written, before any value is judged. A section is a table, or a
list of the values of its fields in the order of their declaration. Fields that no section has are
left out of account. The values are checked in the order of the document, and then missing fields
are reported in the order of their declaration.

## Main definitions

* `Field`, `Shape`: what a section looks like
* `ConfigFile`: the sections of a file
* `ConfigFile.parse`: the sections of a text
-/

namespace PageMerge.Config

/-! ### Shapes -/

/-- The kind of value that a field has. -/
inductive Kind where
  | text
  | boolean
  | real
  /-- A natural number, with the name that messages have for its type. -/
  | natural (name : String)
  deriving DecidableEq, Repr

/-- What messages say about the kind of value that is needed. -/
def Kind.expected : Kind → String
  | .text => "a string"
  | .boolean => "a boolean"
  | .real => "f64"
  | .natural name => name

/-- A field of a section. -/
structure Field where
  name : String
  kind : Kind
  required : Bool

/-- The fields of a section in the order of their declaration. -/
structure Shape where
  /-- The name that messages have for the section. -/
  name : String
  fields : List Field

/-- Real numbers in messages are written without an exponent. -/
def messageLayout : Decimal.Layout := ⟨.up, -400, 400⟩

/-- What messages say about a value that was found. -/
def describe : Toml.Value → String
  | .text s => s!"string {Text.quoted s}"
  | .integer n => s!"integer `{n}`"
  | .real x => s!"floating point `{messageLayout.render x}`"
  | .boolean b => s!"boolean `{b}`"
  | .moment => "map"
  | .array _ => "sequence"
  | .table _ => "map"

/-- Checks that a value is of a kind. An integer can stand for a real number. -/
def Kind.check (kind : Kind) (value : Toml.Value) : Except StructureProblem Unit :=
  match kind, value with
  | .text, .text _ => .ok ()
  | .boolean, .boolean _ => .ok ()
  | .real, .real _ => .ok ()
  | .real, .integer _ => .ok ()
  | .natural _, .integer n =>
    if 0 ≤ n then .ok () else .error (.invalidValue (describe value) kind.expected)
  | kind, value => .error (.invalidType (describe value) kind.expected)

namespace Shape

/-- The field of a name. -/
def field? (shape : Shape) (name : String) : Option Field :=
  shape.fields.find? (·.name == name)

/-- Checks the members of a table in their order, and then that no required field is missing. -/
def checkMembers (shape : Shape) (members : List (String × Toml.Value)) :
    Except StructureProblem Unit := do
  members.forM fun (name, value) =>
    match shape.field? name with
    | some field => field.kind.check value
    | none => .ok ()
  match shape.fields.find? fun field => field.required && (members.lookup field.name).isNone with
  | some field => .error (.missingField field.name)
  | none => .ok ()

/-- The members that the items of a list stand for; the first field is at position `index`. -/
def membersOf (shape : Shape) : (index : Nat) → List Field → List Toml.Value →
    Except StructureProblem (List (String × Toml.Value))
  | _, [], _ => .ok []
  | index, field :: fields, [] =>
    if field.required then
      .error (.invalidLength index
        s!"struct {shape.name} with {shape.fields.length} elements")
    else membersOf shape (index + 1) fields []
  | index, field :: fields, value :: values => do
    field.kind.check value
    .ok ((field.name, value) :: (← membersOf shape (index + 1) fields values))

/-- The members of a section. -/
def members (shape : Shape) (value : Toml.Value) :
    Except StructureProblem (List (String × Toml.Value)) :=
  match value with
  | .table members => do
    shape.checkMembers members
    .ok members
  | .moment => do
    shape.checkMembers []
    .ok []
  | .array values => shape.membersOf 0 shape.fields values
  | value => .error (.invalidType (describe value) s!"struct {shape.name}")

end Shape

/-! ### Sections -/

/-- Where the wiki is and what is uploaded there. -/
structure WikiPart where
  baseUrl : String
  templateId : String
  placeholderCharacter : String
  escapeCharacter : String
  uploadSpace : String
  uploadParentPageId : String
  delaySeconds : Decimal.Number
  timeoutSeconds : Nat

/-- How a run behaves. -/
structure BehaviorPart where
  overwriteExistingArticles : Bool
  dumpTemplate : Bool
  dumpGeneratedArticles : Bool
  uploadWorkers : Nat

/-- Where the article data are and how they are written. -/
structure DataPart where
  dataCsv : String
  delimiter : String
  idColumnHeader : String
  erroredArticlesCsv : String

/-- The sections of a configuration file. -/
structure ConfigFile where
  confluence : WikiPart
  behavior : BehaviorPart
  data : DataPart

/-- The text of a member, or its default. -/
def textAt (members : List (String × Toml.Value)) (name fallback : String) : String :=
  match members.lookup name with
  | some (.text s) => s
  | _ => fallback

/-- The truth value of a member; a missing one is false. -/
def booleanAt (members : List (String × Toml.Value)) (name : String) : Bool :=
  match members.lookup name with
  | some (.boolean b) => b
  | _ => false

/-- The natural number of a member, or its default. -/
def naturalAt (members : List (String × Toml.Value)) (name : String) (fallback : Nat) : Nat :=
  match members.lookup name with
  | some (.integer n) => n.toNat
  | _ => fallback

/-- The real number of a member; a missing one is zero. -/
def realAt (members : List (String × Toml.Value)) (name : String) : Decimal.Number :=
  match members.lookup name with
  | some (.real x) => x
  | some (.integer n) => .ofFloat (Float.ofInt n)
  | _ => .zero false

/-- The fields of the section about the wiki. -/
def WikiPart.shape : Shape :=
  ⟨"ConfluenceSection",
    [⟨"base_url", .text, true⟩,
      ⟨"template_id", .text, true⟩,
      ⟨"placeholder_character", .text, true⟩,
      ⟨"escape_character", .text, true⟩,
      ⟨"upload_space", .text, true⟩,
      ⟨"upload_parent_page_id", .text, false⟩,
      ⟨"api_interaction_delay_seconds", .real, false⟩,
      ⟨"request_timeout_seconds", .natural "u64", false⟩]⟩

/-- The section about the wiki with the given members. -/
def WikiPart.ofMembers (members : List (String × Toml.Value)) : WikiPart where
  baseUrl := textAt members "base_url" ""
  templateId := textAt members "template_id" ""
  placeholderCharacter := textAt members "placeholder_character" ""
  escapeCharacter := textAt members "escape_character" ""
  uploadSpace := textAt members "upload_space" ""
  uploadParentPageId := textAt members "upload_parent_page_id" ""
  delaySeconds := realAt members "api_interaction_delay_seconds"
  timeoutSeconds := naturalAt members "request_timeout_seconds" 30

/-- The fields of the section about behavior. -/
def BehaviorPart.shape : Shape :=
  ⟨"BehaviorSection",
    [⟨"overwrite_existing_articles", .boolean, true⟩,
      ⟨"dump_template", .boolean, false⟩,
      ⟨"dump_generated_articles", .boolean, false⟩,
      ⟨"upload_workers", .natural "usize", false⟩]⟩

/-- The section about behavior with the given members. -/
def BehaviorPart.ofMembers (members : List (String × Toml.Value)) : BehaviorPart where
  overwriteExistingArticles := booleanAt members "overwrite_existing_articles"
  dumpTemplate := booleanAt members "dump_template"
  dumpGeneratedArticles := booleanAt members "dump_generated_articles"
  uploadWorkers := naturalAt members "upload_workers" 1

/-- The fields of the section about the article data. -/
def DataPart.shape : Shape :=
  ⟨"DataSection",
    [⟨"data_csv", .text, true⟩,
      ⟨"csv_delimiter", .text, true⟩,
      ⟨"id_column_header", .text, true⟩,
      ⟨"errored_articles_csv", .text, false⟩]⟩

/-- The section about the article data with the given members. -/
def DataPart.ofMembers (members : List (String × Toml.Value)) : DataPart where
  dataCsv := textAt members "data_csv" ""
  delimiter := textAt members "csv_delimiter" ""
  idColumnHeader := textAt members "id_column_header" ""
  erroredArticlesCsv := textAt members "errored_articles_csv" "errored_articles.csv"

namespace ConfigFile

/-- The sections by their names, in the order of their declaration. -/
def shapes : List (String × Shape) :=
  [("confluence", WikiPart.shape), ("behavior", BehaviorPart.shape),
    ("data", DataPart.shape)]

/-- The members of a section of a document whose values were checked. -/
def sectionOf (document : List (String × Toml.Value)) (name : String) (shape : Shape) :
    Except StructureProblem (List (String × Toml.Value)) :=
  match document.lookup name with
  | some value => shape.members value
  | none => .error (.missingField name)

/-- The sections of a document. -/
def ofDocument (document : List (String × Toml.Value)) : Except StructureProblem ConfigFile := do
  document.forM fun (name, value) =>
    match shapes.lookup name with
    | some shape => discard (shape.members value)
    | none => .ok ()
  let confluence ← sectionOf document "confluence" WikiPart.shape
  let behavior ← sectionOf document "behavior" BehaviorPart.shape
  let data ← sectionOf document "data" DataPart.shape
  .ok ⟨.ofMembers confluence, .ofMembers behavior, .ofMembers data⟩

/-- The sections of a text. -/
def parse (text : String) : Except StructureProblem ConfigFile :=
  match Toml.read text with
  | none => .error .notToml
  | some document => ofDocument document

end ConfigFile

end PageMerge.Config
