import StorageInventory.FileTree.Basic

/-!
# Device attributes

Attributes of a device are small files in its directory. A blank attribute counts as none.
-/

namespace StorageInventory.Kernel

/-- The text of an attribute, without blanks around it. -/
def attribute? (t : FileTree) (base name : String) : Option String :=
  match t.read (Path.join base name) with
  | .ok text => if Text.isBlank text then none else some (Text.trim text)
  | .error _ => none

/-- The text of an attribute, empty when there is none. -/
def attributeText (t : FileTree) (base name : String) : String :=
  (attribute? t base name).getD ""

/-- The number in an attribute, in decimal or in hexadecimal behind `0x`. -/
def number? (t : FileTree) (base name : String) : Option UInt64 := do
  let text ← attribute? t base name
  match Text.after? text "0x" with
  | some digits => Numeral.hex64? digits
  | none => Numeral.word64? text

/-- The number in an attribute, zero when there is none. -/
def number (t : FileTree) (base name : String) : UInt64 := (number? t base name).getD 0

/-- The last name in the target of a link, such as the link to a device's driver. -/
def linkedName (t : FileTree) (base name : String) : String :=
  ((t.linkTarget? (Path.join base name)).bind Path.lastName?).getD ""

end StorageInventory.Kernel
