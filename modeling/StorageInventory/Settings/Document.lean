import StorageInventory.FileTree.Basic
import StorageInventory.Settings
import StorageInventory.Text.Blank
import StorageInventory.Yaml.Document

/-!
# Settings from a document

Reading settings from a YAML document. A setting that the document leaves out keeps its default, and
keys that name no setting count for nothing. A value must have the form of its setting; whether the
settings make sense together is decided afterwards.
-/

namespace StorageInventory

namespace Yaml.Document

/-- Whether nothing stands where a collection is expected. -/
def isLeftOut : Node → Bool
  | .scalar text .plain _ => text.isEmpty
  | _ => false

/-- The text of a scalar of any form. -/
def text? (d : Document) (n : Node) : Option String :=
  match d.resolve n with
  | some (.scalar text _ _) => some text
  | _ => none

/-- The text of a scalar that may stand for a value of the kind that `tag` names: a plain one, or a
literal block with that tag. -/
def kindText? (d : Document) (tag : String) (n : Node) : Option String :=
  match d.resolve n with
  | some (.scalar text .plain _) => some text
  | some (.scalar text .literal t) => if t = some tag then some text else none
  | _ => none

/-- The truth value that a scalar stands for. -/
def bool? (d : Document) (n : Node) : Option Bool := do
  let text ← d.kindText? "tag:yaml.org,2002:bool" n
  if ["true", "True", "TRUE"].contains text then some true
  else if ["false", "False", "FALSE"].contains text then some false
  else none

/-- Reads a natural number: in hexadecimal, octal or binary behind its mark, and else in decimal
without zeros in front. A plus sign may stand before all of it. -/
def natural? (text : String) : Option Nat :=
  let unsigned := match text.toList with
    | '+' :: cs => cs
    | cs => cs
  match unsigned with
  | '0' :: 'x' :: cs => Numeral.digits? 16 cs
  | '0' :: 'o' :: cs => Numeral.digits? 8 cs
  | '0' :: 'b' :: cs => Numeral.digits? 2 cs
  | '0' :: _ :: _ => none
  | cs => Numeral.digits? 10 cs

/-- The 64-bit word that a scalar stands for. -/
def word64? (d : Document) (n : Node) : Option UInt64 := do
  let value ← natural? (← d.kindText? "tag:yaml.org,2002:int" n)
  if value < UInt64.size then some (UInt64.ofNat value) else none

/-- The texts of a sequence of scalars. -/
def texts? (d : Document) (n : Node) : Option (List String) := do
  match ← d.resolve n with
  | .seq items => items.mapM d.text?
  | n => if isLeftOut n then some [] else none

/-- The entries of a mapping by the text of their keys. -/
def entries? (d : Document) (n : Node) : Option (List (String × Node)) := do
  match ← d.resolve n with
  | .map entries => entries.mapM fun (key, value) => do return (← d.text? key, value)
  | n => if isLeftOut n then some [] else none

end Yaml.Document

open Yaml (Document Node)

/-- Reads the entry with a name; none when the name comes twice. -/
def readEntry (entries : List (String × Node)) (name : String) (default : α)
    (read : Node → Option α) : Option α :=
  match entries.filter (·.1 = name) with
  | [] => some default
  | [(_, value)] => read value
  | _ => none

namespace ToolPaths

/-- The paths that a node holds. -/
def ofNode? (d : Document) (n : Node) : Option ToolPaths := do
  let entries ← d.entries? n
  let default : ToolPaths := {}
  return {
    megacli := ← readEntry entries "megacli" default.megacli d.texts?
    sas3ircu := ← readEntry entries "sas3ircu" default.sas3ircu d.texts?
    hpacucli := ← readEntry entries "hpacucli" default.hpacucli d.texts? }

end ToolPaths

namespace Settings

/-- The settings that a node holds. -/
def ofNode? (d : Document) (n : Node) : Option Settings := do
  let entries ← d.entries? n
  let default : Settings := {}
  return {
    sysfsRoot := ← readEntry entries "sysfs_root" default.sysfsRoot d.text?
    toolTimeoutSecs := ← readEntry entries "tool_timeout_secs" default.toolTimeoutSecs d.word64?
    raidcliEnabled := ← readEntry entries "raidcli_enabled" default.raidcliEnabled d.bool?
    parallel := ← readEntry entries "parallel" default.parallel d.bool?
    toolPaths := ← readEntry entries "tool_paths" default.toolPaths (ToolPaths.ofNode? d) }

/-- The settings that a document holds; one without a node holds the defaults. -/
def ofDocument? (d : Document) : Option Settings :=
  match d.root with
  | none => some {}
  | some n => ofNode? d n

/-- The settings that a text holds; an empty text holds the defaults. -/
def ofText (text : String) : Except Failure Settings :=
  if Text.isBlank text then .ok {}
  else match Document.ofText? text >>= ofDocument? with
    | none => .error .yaml
    | some settings => settings.validate.mapError .setting

/-- The settings that a file holds. -/
def load (t : FileTree) (path : String) : Except Failure Settings := do
  ofText (← (t.read path).mapError .file)

end Settings

end StorageInventory
