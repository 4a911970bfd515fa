import StorageInventory.Failure
import StorageInventory.Json.Printer
import StorageInventory.Json.Reader
import StorageInventory.Json.Record

/-!
# JSON document

A report as a JSON text over several lines, and the reader of such a text.
-/

namespace StorageInventory.Report

/-- The report as a JSON text. -/
def document (r : Report) : String := r.toJson.pretty

/-- Reads a report from a JSON text. -/
def ofDocument (s : String) : Except Failure Report :=
  match (Json.parse? s).bind ofJson? with
  | some r => .ok r
  | none => .error .json

end StorageInventory.Report
