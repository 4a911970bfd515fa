import StorageInventory.Text.Quoted
import StorageInventory.Trace

/-!
# Loggers

A logger tags the notes of one component. A silent logger makes no notes.
-/

namespace StorageInventory

/-- Who makes a note, and whether it is made at all. -/
structure Logger where
  component : String
  enabled : Bool := true
  deriving DecidableEq, Repr

namespace Logger

/-- A logger that makes no notes. -/
def silent (component : String) : Logger := { component, enabled := false }

/-- The logger where none is given. -/
def fallback : Logger := silent "hwinv"

/-- The logger of a part, silent when this one is. -/
def child (log : Logger) (component : String) : Logger := { log with component }

/-- Makes a note. -/
def note (log : Logger) (level : Level) (text : String) : Traced Unit :=
  ⟨(), if log.enabled then [.note level log.component text] else []⟩

/-- Makes a note for those who look for errors. -/
def debug (log : Logger) (text : String) : Traced Unit := log.note .debug text

/-- Makes a note of what goes on. -/
def info (log : Logger) (text : String) : Traced Unit := log.note .info text

/-- Makes a note of what went wrong. -/
def warn (log : Logger) (text : String) : Traced Unit := log.note .warn text

/-- The logger in one line. -/
def text (log : Logger) : String :=
  "Logger \x7b component: " ++ Text.quoted log.component ++
    s!", enabled: {log.enabled}" ++ " \x7d"

end Logger

end StorageInventory
