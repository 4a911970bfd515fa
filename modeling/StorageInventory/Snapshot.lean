import StorageInventory.FileTree.Build
import StorageInventory.Json.Reader
import StorageInventory.Timestamp

/-!
# Snapshots

A machine at a moment: its name, the time, and its file tree, in which the vendor tools are programs
with recorded replies. A snapshot is read from a JSON object.
-/

namespace StorageInventory

/-- A machine at a moment. -/
structure Snapshot where
  hostname : String
  takenAt : Timestamp
  tree : FileTree

namespace Snapshot

/-- A machine on which nothing is. -/
def empty : Snapshot where
  hostname := ""
  takenAt := { date := { year := 1970, month := 1, day := 1 }, hour := 0, minute := 0, second := 0 }
  tree := .ofEntries []

/-- Reads the members of an object, each with the same reader; a missing object has none. -/
def members? (fields : List (String × Json)) (name : String) (read : Json → Option α) :
    Option (List (String × α)) :=
  match fields.lookup name with
  | none => some []
  | some (.obj members) => members.mapM fun (key, value) => do return (key, ← read value)
  | some _ => none

/-- Reads the reply of a program: its output, or an object with both outputs and an exit code. -/
def reply? : Json → Option Reply
  | .str output => some { stdout := output.toUTF8.toList }
  | .obj fields => do
    let bytes (name : String) : Option (List UInt8) := do
      return (((← Json.optional fields name Json.str?).getD "").toUTF8).toList
    return {
      stdout := ← bytes "stdout"
      stderr := ← bytes "stderr"
      ending := .code ((← Json.optional fields "exit" Json.word8?).getD 0).toNat }
  | _ => none

/-- The reply to arguments for which none is recorded. -/
def unrecorded : Reply := { stderr := "unknown command\n".toUTF8.toList, ending := .code 1 }

/-- Reads a program: its replies by its arguments, which are joined by spaces. -/
def program? (j : Json) : Option Entry := do
  let replies ← members? [("replies", j)] "replies" reply?
  return .program fun args => (replies.lookup (" ".intercalate args)).getD unrecorded

/-- Reads a file tree: directories, then files, then programs, then links. -/
def tree? (fields : List (String × Json)) : Option FileTree := do
  let directories ← Json.orEmpty fields "directories" (Json.list? Json.str?)
  let files ← members? fields "files" fun j => j.str?.map fun s => Entry.file (some s)
  let programs ← members? fields "programs" program?
  let links ← members? fields "links" fun j => j.str?.map Entry.link
  let start := directories.foldl FileTree.putDirectory []
  return .ofEntries ((files ++ programs ++ links).foldl (fun es (path, e) => FileTree.put es path e)
    start)

/-- Reads a snapshot. -/
def ofText? (text : String) : Option Snapshot := do
  match ← Json.parse? text with
  | .obj fields => return {
      hostname := ← Json.need fields "hostname" Json.str?
      takenAt := ← Json.need fields "taken_at" fun j => j.str?.bind Timestamp.ofText?
      tree := ← tree? fields }
  | _ => none

end Snapshot

end StorageInventory
