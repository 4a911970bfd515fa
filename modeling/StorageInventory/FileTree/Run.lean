import StorageInventory.FileTree.Basic
import StorageInventory.Text.Utf8
import StorageInventory.Tool

/-!
# Running programs

What a command answers when it runs a program of a file tree within a time limit.
-/

namespace StorageInventory.FileTree

/-- The text of bytes that need not be UTF-8. -/
def outputText (bytes : List UInt8) : String := String.ofList (Text.Utf8.decodeLossy bytes)

/-- What a reply amounts to for the command that got it. No program ends within no time. -/
def outcome (command : String) (limit : Duration) (reply : Reply) : Except Failure String :=
  let failed (status : ExitStatus) : Except Failure String :=
    .error (.commandFailed command status (Text.trim (outputText reply.stderr)))
  match if limit.millis = 0 then .never else reply.ending with
  | .never => .error (.commandTimeout command limit)
  | .signal n => failed (.signal n)
  | .code n => if n = 0 then .ok (outputText reply.stdout) else failed (.code n)

/-- Runs a program within a time limit. -/
def run (t : FileTree) (limit : Duration) (program : String) (args : List String) :
    Except Failure String :=
  if (program :: args).any (·.toList.contains '\x00') then .error (.file .nulInCommand)
  else match t.place program with
  | .error e => .error (.file e)
  | .ok place =>
    match t.node? place with
    | some (.program reply) => outcome (commandText program args) limit (reply args)
    | some _ => .error (.file .denied)
    | none => .error (.file .notFound)

/-- The first of some paths that leads to a file. -/
def locate? (t : FileTree) (candidates : List String) : Option String :=
  candidates.find? t.isFile

end StorageInventory.FileTree
