import StorageInventory.CommandLine.Run
import StorageInventory.Json.Printer

/-!
# Messages

What a run of the program says beside its report: the notes that are shown, and why there is no
report.
-/

namespace StorageInventory.CommandLine

/-- A note as one line of JSON, or as text with the component in italics behind it. -/
def noteText (json : Bool) (level : Level) (component text : String) : String :=
  if json then
    (Json.obj [("level", .str level.name), ("component", .str component),
      ("message", .str text)]).compact
  else
    level.name ++ " " ++ text ++ " \x1b[3mcomponent\x1b[0m\x1b[2m=\x1b[0m" ++ Text.quoted component

/-- The notes of a run that are shown. -/
def notes (choices : Choices) (trace : List Step) : List String :=
  trace.filterMap fun
    | .note level component text =>
      if choices.verbosity.shows level then some (noteText choices.logJson level component text)
      else none
    | .command _ _ => none

/-- What tells of a stop. -/
def Stop.report (stop : Stop) : String :=
  s!"Error: {stop.message}\n\nCaused by:\n    {stop.cause.message}"

/-- The messages of a run, in order. -/
def messages (choices : Choices) (x : Traced Outcome) : List String :=
  notes choices x.trace ++ (x.value.stop.map Stop.report).toList

end StorageInventory.CommandLine
