/-!
# The log

What a run reports while it goes on. An entry has a level and a text; a text with line breaks takes
several lines of the log.

## Main definitions

* `Log.Entry`: one entry
* `Log.lines`: the lines that entries take
* `Log.Entry.stamped`, `Log.unstamped`: an entry as it stands in a log file, and a line of it
  without its time
-/

namespace PageMerge.Log

/-- How serious an entry is. -/
inductive Level where
  | debug
  | info
  | warning
  | error
  deriving DecidableEq, Repr

/-- The name of a level in the log. -/
def Level.name : Level → String
  | .debug => "DEBUG"
  | .info => "INFO"
  | .warning => "WARN"
  | .error => "ERROR"

/-- One entry of the log. -/
structure Entry where
  level : Level
  text : String
  deriving DecidableEq, Repr

/-- An entry about a detail of the work. -/
def debug (text : String) : Entry := ⟨.debug, text⟩

/-- An entry about the usual course of things. -/
def info (text : String) : Entry := ⟨.info, text⟩

/-- An entry about something that the reader should look at. -/
def warning (text : String) : Entry := ⟨.warning, text⟩

/-- An entry about something that went wrong. -/
def error (text : String) : Entry := ⟨.error, text⟩

/-- The lines of a text: a line ends with a line feed, a carriage return before it is not part of
the line, and there is no line after the last line feed. -/
def splitLines (text : String) : List String :=
  let pieces := text.toList.splitOn '\n'
  let pieces := if pieces.getLast? = some [] then pieces.dropLast else pieces
  let last := pieces.length - 1
  pieces.mapIdx fun i piece =>
    String.ofList <|
      if piece.getLast? = some '\r' ∧ (i < last ∨ text.toList.getLast? = some '\n') then
        piece.dropLast
      else piece

/-- The lines that an entry takes: the level stands before its first line. -/
def Entry.lines (entry : Entry) : List String :=
  splitLines s!"[{entry.level.name}]: {entry.text}"

/-- An entry as it stands in a log file, after the time at which it was written. -/
def Entry.stamped (time : String) (entry : Entry) : String :=
  s!"[{time}] [{entry.level.name}]: {entry.text}\n"

/-- A line of a log file without the time of its entry. Lines after the first one of an entry have
none. -/
def unstamped (line : String) : String :=
  let cs := line.toList
  if cs.head? = some '[' ∧ (cs.drop 21).take 2 = [']', ' '] then String.ofList (cs.drop 23)
  else line

/-- The lines that entries take, one after the other. -/
def lines (entries : List Entry) : List String := entries.flatMap Entry.lines

end PageMerge.Log
