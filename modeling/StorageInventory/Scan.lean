import StorageInventory.FileTree.Run
import StorageInventory.Kernel.DirectAttributes
import StorageInventory.Kernel.PciBus
import StorageInventory.Kernel.Topology
import StorageInventory.Matching
import StorageInventory.Settings
import StorageInventory.Vendor

/-!
# Inventory runs

One run over all storage controllers of a machine. The driver of a controller tells how it is read:
a RAID controller by its vendor tool and by matching, a direct controller by its block devices
alone. What fails for one controller stays with it: without its tool a RAID controller is shown as
the kernel knows it, and one with a malformed device tree is left out.
-/

namespace StorageInventory

/-- How a storage controller is read. -/
inductive ControllerKind
  | raid (family : RaidFamily)
  | direct (kind : DirectKind)
  | unsupported
  deriving DecidableEq, Repr

namespace ControllerKind

/-- The families that drivers belong to, by how the driver's name begins. -/
def raidDrivers : List (String × RaidFamily) :=
  [("megaraid", .megaRaid), ("mpt", .sasIr), ("hpvsa", .smartArray), ("hpsa", .smartArray)]

/-- The drivers of direct controllers. -/
def directDrivers : List (String × DirectKind) :=
  [("ahci", .ahci), ("ata_piix", .ahci), ("isci", .ahci), ("virtio-pci", .virtio)]

/-- The kind of the controllers of a driver. -/
def ofDriver (driver : String) : ControllerKind :=
  match raidDrivers.find? (Text.beginsWith driver ·.1), directDrivers.lookup driver with
  | some (_, family), _ => raid family
  | none, some kind => direct kind
  | none, none => unsupported

end ControllerKind

/-- What a run needs beside the file tree. -/
structure Scanner where
  /-- The root of the kernel's device tree. -/
  root : String
  /-- Whether vendor tools are run at all. -/
  raidcliEnabled : Bool := true
  vendors : List Vendor := []
  /-- What is known of a direct drive. -/
  attributes : BlockDevice → Except Failure DriveAttributes
  log : Logger

/-- A controller that was read. -/
inductive Scanned
  | raid (controller : RaidController)
  | direct (controller : DirectController)
  deriving DecidableEq, Repr

namespace Scanner

/-- The vendor tools that a runner can run, each where the file tree has it. -/
def vendorsOf (t : FileTree) (paths : ToolPaths) (runner : Runner) (log : Logger) :
    List Vendor :=
  [RaidFamily.megaRaid, .sasIr, .smartArray].map fun family =>
    { tool := { family, program := t.locate? (paths.of family), runner }
      log := log.child family.toolName }

/-- The scanner of a machine, which is its file tree. -/
def ofSettings (t : FileTree) (s : Settings) (log : Logger) : Scanner :=
  let runner : Runner := { run := t.run s.toolTimeout, log := log.child "runner" }
  { root := s.sysfsRoot
    raidcliEnabled := s.raidcliEnabled
    vendors := if s.raidcliEnabled then vendorsOf t s.toolPaths runner log else []
    attributes := fun device => .ok (Kernel.driveAttributes t device)
    log }

/-- Asks the vendor tool about a controller; none when there is no tool or it fails. -/
def vendorInventory (s : Scanner) (pci : PciDevice) (family : RaidFamily) :
    Traced (Option Inventory) := do
  match s.raidcliEnabled, s.vendors.find? (·.family == family) with
  | true, some vendor =>
    if vendor.tool.isAvailable then
      match ← (vendor.bind pci.address).run with
      | .ok inventory => return some inventory
      | .error failure =>
        s.log.warn (pci.address.text ++ ": " ++ family.toolName ++ " enrichment skipped: " ++
          failure.message)
        return none
    else
      s.log.info (pci.address.text ++ ": " ++ family.toolName ++
        " is not installed, kernel-only data")
      return none
  | _, _ => return none

/-- The record of a controller and its drives, matched with the tool's inventory. -/
def enriched (pci : PciDevice) (family : RaidFamily) (vendor : Inventory) (r : Resolution) :
    RaidController :=
  let record := vendor.controller
  { pci
    family
    productName := record.productName
    firmware := record.firmware
    bios := record.bios
    serial := record.serial
    adapterId := record.adapterId
    battery := .ofReported record.battery
    vendorEnriched := true
    volumes := r.volumes
    exposedDrives := r.exposedDrives
    unconfiguredDrives := r.unconfiguredDrives }

/-- Reads a RAID controller. -/
def scanRaid (s : Scanner) (t : FileTree) (pci : PciDevice) (family : RaidFamily) :
    Attempt RaidController := do
  let devices ← Kernel.blockDevices (s.log.child "topology") t s.root pci.path true
  match ← liftM (s.vendorInventory pci family) with
  | none => return .kernelOnly pci family devices
  | some vendor =>
    let r ← liftM (Resolution.noted (s.log.child "resolver") family devices vendor)
    return enriched pci family vendor r

/-- The drive of a block device; without attributes it is shown as the kernel knows it. -/
def directDrive (s : Scanner) (device : BlockDevice) : Traced DirectDrive := do
  match s.attributes device with
  | .ok a =>
    return {
      kernel := device
      vendor := a.vendor
      model := a.model
      serial := a.serial
      firmware := a.firmware
      transport := a.transport
      rotation := a.rotation
      temperature := a.temperature
      errorRecords := a.errorRecords }
  | .error failure =>
    s.log.warn (device.name ++ ": attributes unavailable: " ++ failure.message)
    return { kernel := device, model := device.model }

/-- Reads a direct controller. -/
def scanDirect (s : Scanner) (t : FileTree) (pci : PciDevice) (kind : DirectKind) :
    Attempt DirectController := do
  let devices ← Kernel.blockDevices (s.log.child "topology") t s.root pci.path false
  return { pci, kind, drives := ← liftM (devices.mapM s.directDrive) }

/-- Reads a controller in the way of its kind; none when it cannot be read. -/
def scanController (s : Scanner) (t : FileTree) (pci : PciDevice) : Traced (Option Scanned) := do
  let skipped (failure : Failure) : Traced (Option Scanned) := do
    s.log.warn (pci.address.text ++ ": controller skipped: " ++ failure.message)
    return none
  match ControllerKind.ofDriver pci.driver with
  | .raid family =>
    match ← (s.scanRaid t pci family).run with
    | .ok controller => return some (.raid controller)
    | .error failure => skipped failure
  | .direct kind =>
    match ← (s.scanDirect t pci kind).run with
    | .ok controller => return some (.direct controller)
    | .error failure => skipped failure
  | .unsupported =>
    s.log.warn (pci.address.text ++ ": unsupported storage driver '" ++ pci.driver ++ "'")
    return none

/-- The RAID controllers among those that were read. -/
def raidControllers (found : List Scanned) : List RaidController :=
  found.filterMap fun
    | .raid controller => some controller
    | .direct _ => none

/-- The direct controllers among those that were read. -/
def directControllers (found : List Scanned) : List DirectController :=
  found.filterMap fun
    | .raid _ => none
    | .direct controller => some controller

/-- Reads all storage controllers of a machine. -/
def scan (s : Scanner) (t : FileTree) (hostname : String) (generatedAt : Timestamp) :
    Attempt Report := do
  let devices ← Kernel.pciDevices (s.log.child "pci") t s.root
  s.log.info s!"found {devices.length} storage controllers"
  let found := (← liftM (devices.mapM (s.scanController t))).filterMap id
  return {
    hostname
    generatedAt
    raidControllers := raidControllers found
    directControllers := directControllers found }

end Scanner

end StorageInventory
