import PageMerge.Config.File
import PageMerge.Json.Printer

/-!
# Listing a configuration

The values of a configuration file as JSON, section by section, under the names that the fields have
in the file.

## Main definitions

* `ConfigFile.toJson`: the listing of a file
-/

namespace PageMerge.Config

open PageMerge.Json (Value)

/-- A number of seconds; one that is not finite is a text. -/
def secondsJson : Decimal.Number → Value
  | .nan => .text (messageLayout.render .nan)
  | .infinite negative => .text (messageLayout.render (.infinite negative))
  | x => .number (.real x)

/-- The section about the wiki as JSON. -/
def WikiPart.toJson (part : WikiPart) : Value :=
  .object [("base_url", .text part.baseUrl), ("template_id", .text part.templateId),
    ("placeholder_character", .text part.placeholderCharacter),
    ("escape_character", .text part.escapeCharacter), ("upload_space", .text part.uploadSpace),
    ("upload_parent_page_id", .text part.uploadParentPageId),
    ("api_interaction_delay_seconds", secondsJson part.delaySeconds),
    ("request_timeout_seconds", .nat part.timeoutSeconds)]

/-- The section about the behaviour as JSON. -/
def BehaviorPart.toJson (part : BehaviorPart) : Value :=
  .object [("overwrite_existing_articles", .bool part.overwriteExistingArticles),
    ("dump_template", .bool part.dumpTemplate),
    ("dump_generated_articles", .bool part.dumpGeneratedArticles),
    ("upload_workers", .nat part.uploadWorkers)]

/-- The section about the article data as JSON. -/
def DataPart.toJson (part : DataPart) : Value :=
  .object [("data_csv", .text part.dataCsv), ("csv_delimiter", .text part.delimiter),
    ("id_column_header", .text part.idColumnHeader),
    ("errored_articles_csv", .text part.erroredArticlesCsv)]

/-- The listing of a file. -/
def ConfigFile.toJson (file : ConfigFile) : Value :=
  .object [("confluence", file.confluence.toJson), ("behavior", file.behavior.toJson),
    ("data", file.data.toJson)]

end PageMerge.Config
