import StorageInventory.MegaRaid
import StorageInventory.SasIr
import StorageInventory.SmartArray

/-!
# Vendor tools

The three vendor tools behind one interface: listing controllers, reading one, and reading the one
at an address of the PCI bus.
-/

namespace StorageInventory

/-- The tool of a family and the logger of its notes. -/
structure Vendor where
  tool : Tool
  log : Logger

namespace Vendor

/-- The family that the tool is for. -/
def family (v : Vendor) : RaidFamily := v.tool.family

/-- Asks the tool for its controllers. -/
def list (v : Vendor) : Attempt (List ListedController) :=
  match v.family with
  | .megaRaid => MegaRaid.list v.tool v.log
  | .sasIr => SasIr.list v.tool
  | .smartArray => SmartArray.list v.tool

/-- Asks the tool for everything it knows of a controller. -/
def decode (v : Vendor) : ListedController → Attempt Inventory :=
  match v.family with
  | .megaRaid => MegaRaid.decode v.tool v.log
  | .sasIr => SasIr.decode v.tool v.log
  | .smartArray => SmartArray.decode v.tool v.log

/-- The inventory with what the listing knows of its controller put in where it says nothing. -/
def completed (inventory : Inventory) (c : ListedController) (address : PciAddress) : Inventory :=
  let record := inventory.controller
  { inventory with
    controller := { record with
      pci := record.pci <|> some address
      productName := if record.productName.isEmpty then c.productName else record.productName } }

/-- Reads the first listed controller that has the address. -/
def bindListed (family : RaidFamily) (list : Attempt (List ListedController))
    (decode : ListedController → Attempt Inventory) (address : PciAddress) :
    Attempt Inventory := do
  match (← list).find? (·.isAt address) with
  | none => throw (.controllerNotFound family address)
  | some c => return completed (← decode c) c address

/-- Asks the tool for everything it knows of the controller at an address. -/
def bind (v : Vendor) (address : PciAddress) : Attempt Inventory :=
  match v.family with
  | .smartArray => SmartArray.bind v.tool v.log address
  | family => bindListed family v.list v.decode address

end Vendor

end StorageInventory
