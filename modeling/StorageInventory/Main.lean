import StorageInventory.CommandLine.Messages
import StorageInventory.Snapshot

/-!
# The program

The outer layer of the program. The machine is a snapshot in the file that the environment variable
`HWINV_SNAPSHOT` names; what is printed and how the program ends is decided by the request.
-/

namespace StorageInventory.CommandLine

/-- The environment variable that names the file with the snapshot. -/
def snapshotVariable : String := "HWINV_SNAPSHOT"

/-- The variables of the environment that the program reads, with their values. -/
def environment : IO (List (String × String)) :=
  (Opt.common.filterMap Opt.envName?).filterMapM fun name => do
    return (← IO.getEnv name).map (name, ·)

/-- The snapshot of the machine. -/
def loadSnapshot : IO Snapshot := do
  let some path ← IO.getEnv snapshotVariable
    | throw (.userError (snapshotVariable ++ " is not set"))
  let some snapshot := Snapshot.ofText? (← IO.FS.readFile path)
    | throw (.userError (path ++ " is no snapshot"))
  return snapshot

end StorageInventory.CommandLine

open StorageInventory CommandLine in
/-- Does what the arguments ask for. -/
def main (arguments : List String) : IO UInt32 := do
  let fromEnvironment ← environment
  let request := Request.ofArguments arguments fromEnvironment
  let machine ← if request.needsMachine then loadSnapshot else pure .empty
  let x := request.perform fromEnvironment machine
  IO.print x.value.stdout
  (messages request.choices x).forM fun message => IO.eprintln message
  if request = .misuse then IO.eprintln s!"Usage: {programName} [OPTIONS] <COMMAND>"
  return x.value.exit.toUInt32
