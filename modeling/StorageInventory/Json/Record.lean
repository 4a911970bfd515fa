import StorageInventory.Controller
import StorageInventory.Json.Basic

/-!
# Records in JSON

The JSON form of every record of a report, its fields in a fixed order, and the reader of the same
form. Each record has `toJson` and `ofJson?`; a reader takes fields in any order and passes over
those that it does not know.
-/

namespace StorageInventory

open Json (need optional orEmpty record?)

namespace PciAddress

def toJson (a : PciAddress) : Json :=
  .obj [("domain", .nat a.domain.toNat), ("bus", .nat a.bus.toNat),
    ("device", .nat a.device.toNat), ("function", .nat a.function.toNat)]

def ofJson? (j : Json) : Option PciAddress := do
  let m ← j.record? ["domain", "bus", "device", "function"] 4
  return {
    domain := ← need m "domain" Json.word32?
    bus := ← need m "bus" Json.word32?
    device := ← need m "device" Json.word32?
    function := ← need m "function" Json.word32? }

end PciAddress

namespace ScsiAddress

def toJson (a : ScsiAddress) : Json :=
  .obj [("host", .nat a.host.toNat), ("channel", .nat a.channel.toNat),
    ("target", .nat a.target.toNat), ("lun", .nat a.lun.toNat)]

def ofJson? (j : Json) : Option ScsiAddress := do
  let m ← j.record? ["host", "channel", "target", "lun"] 4
  return {
    host := ← need m "host" Json.word16?
    channel := ← need m "channel" Json.word16?
    target := ← need m "target" Json.word16?
    lun := ← need m "lun" Json.word16? }

end ScsiAddress

namespace RaidFamily

/-- The name of a family in JSON. -/
def key : RaidFamily → String
  | megaRaid => "mega-raid"
  | sasIr => "sas-ir"
  | smartArray => "smart-array"

def toJson (f : RaidFamily) : Json := .str f.key

def ofJson? (j : Json) : Option RaidFamily := do
  let name ← j.name?
  [megaRaid, sasIr, smartArray].find? (·.key == name)

end RaidFamily

namespace RaidLevel

def toJson (level : RaidLevel) : Json := .str level.name

def ofJson? (j : Json) : Option RaidLevel := do
  let name ← j.name?
  [raid0, raid1, raid5, raid6, raid01, raid10, unknown].find? (·.name == name)

end RaidLevel

namespace Battery

def toJson (b : Battery) : Json := .str b.name

def ofJson? (j : Json) : Option Battery := do
  let name ← j.name?
  [present, absent, unknown].find? (·.name == name)

end Battery

namespace SmartRecord

def toJson (r : SmartRecord) : Json :=
  .obj [("id", .nat r.id.toNat), ("name", .str r.name), ("current", .nat r.current.toNat),
    ("worst", .nat r.worst.toNat), ("threshold", .nat r.threshold.toNat),
    ("raw", .int r.raw.toInt)]

def ofJson? (j : Json) : Option SmartRecord := do
  let m ← j.record? ["id", "name", "current", "worst", "threshold", "raw"] 6
  return {
    id := ← need m "id" Json.word8?
    name := ← need m "name" Json.str?
    current := ← need m "current" Json.word8?
    worst := ← need m "worst" Json.word8?
    threshold := ← need m "threshold" Json.word8?
    raw := ← need m "raw" Json.int64? }

end SmartRecord

namespace BlockDevice

def toJson (d : BlockDevice) : Json :=
  .obj [("name", .str d.name), ("path", .str d.path), ("driver", .str d.driver),
    ("model", .str d.model), ("blocks", .nat d.sectors.toNat),
    ("logical_block_size", .nat d.logicalBlockSize.toNat),
    ("physical_block_size", .nat d.physicalBlockSize.toNat), ("scheduler", .str d.scheduler),
    ("scsi", d.scsi.toJson), ("sas_address", .ofOption .str d.sasAddress),
    ("wwn", .ofOption .str d.wwn)]

def ofJson? (j : Json) : Option BlockDevice := do
  let m ← j.record? ["name", "path", "driver", "model", "blocks", "logical_block_size",
    "physical_block_size", "scheduler", "scsi", "sas_address", "wwn"] 11
  return {
    name := ← need m "name" Json.str?
    path := ← need m "path" Json.str?
    driver := ← need m "driver" Json.str?
    model := ← need m "model" Json.str?
    sectors := ← need m "blocks" Json.word64?
    logicalBlockSize := ← need m "logical_block_size" Json.word32?
    physicalBlockSize := ← need m "physical_block_size" Json.word32?
    scheduler := ← need m "scheduler" Json.str?
    scsi := ← need m "scsi" ScsiAddress.ofJson?
    sasAddress := ← optional m "sas_address" Json.str?
    wwn := ← optional m "wwn" Json.str? }

end BlockDevice

namespace ArrayPosition

def toJson (p : ArrayPosition) : Json :=
  .obj [("group", .nat p.group.toNat), ("span", .nat p.span.toNat), ("arm", .nat p.arm.toNat)]

def ofJson? (j : Json) : Option ArrayPosition := do
  let m ← j.record? ["group", "span", "arm"] 3
  return {
    group := ← need m "group" Json.word16?
    span := ← need m "span" Json.word16?
    arm := ← need m "arm" Json.word16? }

end ArrayPosition

namespace DriveIdentity

def toJson (ids : DriveIdentity) : Json :=
  .obj (Json.present "wwn" .str ids.wwn ++ Json.present "sas_address" .str ids.sasAddress ++
    Json.present "position" ArrayPosition.toJson ids.position ++
    Json.present "inquiry" .str ids.inquiry ++
    Json.present "device_id" (fun n => .nat n.toNat) ids.deviceId)

def ofJson? (j : Json) : Option DriveIdentity := do
  let m ← j.record? ["wwn", "sas_address", "position", "inquiry", "device_id"] 5
  return {
    wwn := ← optional m "wwn" Json.str?
    sasAddress := ← optional m "sas_address" Json.str?
    position := ← optional m "position" ArrayPosition.ofJson?
    inquiry := ← optional m "inquiry" Json.str?
    deviceId := ← optional m "device_id" Json.word16? }

end DriveIdentity

namespace PhysicalDrive

def toJson (d : PhysicalDrive) : Json :=
  .obj [("family", d.family.toJson), ("enclosure", .str d.enclosure), ("slot", .str d.slot),
    ("protocol", .str d.protocol), ("model", .str d.model), ("serial", .str d.serial),
    ("firmware", .str d.firmware), ("size", .nat d.size.toNat),
    ("rotation", .nat d.rotation.toNat), ("link_speed", .str d.linkSpeed),
    ("status", .str d.status), ("temperature", .ofOption (fun t => .int t.toInt) d.temperature),
    ("smart_alert", .bool d.smartAlert), ("media_errors", .nat d.mediaErrors.toNat),
    ("error_records", .arr (d.errorRecords.map SmartRecord.toJson)), ("ids", d.ids.toJson)]

def ofJson? (j : Json) : Option PhysicalDrive := do
  let m ← j.record? ["family", "enclosure", "slot", "protocol", "model", "serial", "firmware",
    "size", "rotation", "link_speed", "status", "temperature", "smart_alert", "media_errors",
    "error_records", "ids"] 16
  return {
    family := ← need m "family" RaidFamily.ofJson?
    enclosure := ← need m "enclosure" Json.str?
    slot := ← need m "slot" Json.str?
    protocol := ← need m "protocol" Json.str?
    model := ← need m "model" Json.str?
    serial := ← need m "serial" Json.str?
    firmware := ← need m "firmware" Json.str?
    size := ← need m "size" Json.word64?
    rotation := ← need m "rotation" Json.word32?
    linkSpeed := ← need m "link_speed" Json.str?
    status := ← need m "status" Json.str?
    temperature := ← optional m "temperature" Json.int16?
    smartAlert := ← need m "smart_alert" Json.bool?
    mediaErrors := ← need m "media_errors" Json.word32?
    errorRecords := ← need m "error_records" (Json.list? SmartRecord.ofJson?)
    ids := ← need m "ids" DriveIdentity.ofJson? }

end PhysicalDrive

namespace VolumeData

def toJson (v : VolumeData) : Json :=
  .obj [("level", v.level.toJson), ("status", .str v.status),
    ("cache_policy", .str v.cachePolicy), ("stripe_size", .nat v.stripeSize.toNat),
    ("group_label", .str v.label), ("degraded", .bool v.degraded)]

def ofJson? (j : Json) : Option VolumeData := do
  let m ← j.record? ["level", "status", "cache_policy", "stripe_size", "group_label",
    "degraded"] 6
  return {
    level := ← need m "level" RaidLevel.ofJson?
    status := ← need m "status" Json.str?
    cachePolicy := ← need m "cache_policy" Json.str?
    stripeSize := ← need m "stripe_size" Json.word64?
    label := ← need m "group_label" Json.str?
    degraded := ← need m "degraded" Json.bool? }

end VolumeData

namespace Volume

def toJson (v : Volume) : Json :=
  .obj [("kernel", v.kernel.toJson), ("raid", .ofOption VolumeData.toJson v.data),
    ("members", .arr (v.members.map PhysicalDrive.toJson))]

def ofJson? (j : Json) : Option Volume := do
  let m ← j.record? ["kernel", "raid", "members"] 3
  return {
    kernel := ← need m "kernel" BlockDevice.ofJson?
    data := ← optional m "raid" VolumeData.ofJson?
    members := ← need m "members" (Json.list? PhysicalDrive.ofJson?) }

end Volume

namespace ExposedDrive

def toJson (d : ExposedDrive) : Json :=
  .obj [("kernel", d.kernel.toJson), ("drive", d.drive.toJson)]

def ofJson? (j : Json) : Option ExposedDrive := do
  let m ← j.record? ["kernel", "drive"] 2
  return {
    kernel := ← need m "kernel" BlockDevice.ofJson?
    drive := ← need m "drive" PhysicalDrive.ofJson? }

end ExposedDrive

namespace DirectDrive

def toJson (d : DirectDrive) : Json :=
  .obj [("kernel", d.kernel.toJson), ("vendor", .str d.vendor), ("model", .str d.model),
    ("serial", .str d.serial), ("firmware", .str d.firmware), ("transport", .str d.transport),
    ("rotation", .nat d.rotation.toNat),
    ("temperature", .ofOption (fun t => .int t.toInt) d.temperature),
    ("error_records", .arr (d.errorRecords.map SmartRecord.toJson))]

def ofJson? (j : Json) : Option DirectDrive := do
  let m ← j.record? ["kernel", "vendor", "model", "serial", "firmware", "transport", "rotation",
    "temperature", "error_records"] 9
  return {
    kernel := ← need m "kernel" BlockDevice.ofJson?
    vendor := ← need m "vendor" Json.str?
    model := ← need m "model" Json.str?
    serial := ← need m "serial" Json.str?
    firmware := ← need m "firmware" Json.str?
    transport := ← need m "transport" Json.str?
    rotation := ← need m "rotation" Json.word32?
    temperature := ← optional m "temperature" Json.int16?
    errorRecords := ← need m "error_records" (Json.list? SmartRecord.ofJson?) }

end DirectDrive

namespace PciDevice

def toJson (d : PciDevice) : Json :=
  .obj [("address", d.address.toJson), ("path", .str d.path),
    ("vendor_id", .nat d.vendorId.toNat), ("device_id", .nat d.deviceId.toNat),
    ("class", .nat d.classCode.toNat), ("driver", .str d.driver),
    ("numa_node", .ofOption (fun n => .nat n.toNat) d.numaNode),
    ("uncorrectable_errors", .strings d.uncorrectableErrors),
    ("correctable_errors", .strings d.correctableErrors)]

def ofJson? (j : Json) : Option PciDevice := do
  let m ← j.record? ["address", "path", "vendor_id", "device_id", "class", "driver", "numa_node",
    "uncorrectable_errors", "correctable_errors"] 9
  return {
    address := ← need m "address" PciAddress.ofJson?
    path := ← need m "path" Json.str?
    vendorId := ← need m "vendor_id" Json.word16?
    deviceId := ← need m "device_id" Json.word16?
    classCode := ← need m "class" Json.word32?
    driver := ← need m "driver" Json.str?
    numaNode := ← optional m "numa_node" Json.word32?
    uncorrectableErrors := ← need m "uncorrectable_errors" (Json.list? Json.str?)
    correctableErrors := ← need m "correctable_errors" (Json.list? Json.str?) }

end PciDevice

namespace RaidController

def toJson (c : RaidController) : Json :=
  .obj [("pci", c.pci.toJson), ("family", c.family.toJson), ("product_name", .str c.productName),
    ("firmware", .str c.firmware), ("bios", .str c.bios), ("serial", .str c.serial),
    ("adapter_id", .str c.adapterId), ("battery", c.battery.toJson),
    ("vendor_enriched", .bool c.vendorEnriched),
    ("log_drives", .arr (c.volumes.map Volume.toJson)),
    ("passthrough_drives", .arr (c.exposedDrives.map ExposedDrive.toJson)),
    ("unconfigured_drives", .arr (c.unconfiguredDrives.map PhysicalDrive.toJson))]

def ofJson? (j : Json) : Option RaidController := do
  let m ← j.record? ["pci", "family", "product_name", "firmware", "bios", "serial", "adapter_id",
    "battery", "vendor_enriched", "log_drives", "passthrough_drives", "unconfigured_drives"] 12
  return {
    pci := ← need m "pci" PciDevice.ofJson?
    family := ← need m "family" RaidFamily.ofJson?
    productName := ← need m "product_name" Json.str?
    firmware := ← need m "firmware" Json.str?
    bios := ← need m "bios" Json.str?
    serial := ← need m "serial" Json.str?
    adapterId := ← need m "adapter_id" Json.str?
    battery := ← need m "battery" Battery.ofJson?
    vendorEnriched := ← need m "vendor_enriched" Json.bool?
    volumes := ← need m "log_drives" (Json.list? Volume.ofJson?)
    exposedDrives := ← need m "passthrough_drives" (Json.list? ExposedDrive.ofJson?)
    unconfiguredDrives := ← need m "unconfigured_drives" (Json.list? PhysicalDrive.ofJson?) }

end RaidController

namespace DirectKind

/-- The name of a kind in JSON. -/
def key : DirectKind → String
  | ahci => "ahci"
  | virtio => "virtio"

def toJson (k : DirectKind) : Json := .str k.key

def ofJson? (j : Json) : Option DirectKind := do
  let name ← j.name?
  [ahci, virtio].find? (·.key == name)

end DirectKind

namespace DirectController

def toJson (c : DirectController) : Json :=
  .obj [("pci", c.pci.toJson), ("kind", c.kind.toJson),
    ("drives", .arr (c.drives.map DirectDrive.toJson))]

def ofJson? (j : Json) : Option DirectController := do
  let m ← j.record? ["pci", "kind", "drives"] 3
  return {
    pci := ← need m "pci" PciDevice.ofJson?
    kind := ← need m "kind" DirectKind.ofJson?
    drives := ← need m "drives" (Json.list? DirectDrive.ofJson?) }

end DirectController

namespace Report

/-- The JSON form of a report; a list of controllers is left out when it is empty. -/
def toJson (r : Report) : Json :=
  .obj ([("hostname", .str r.hostname), ("generated_at", .str r.generatedAt.zuluText)] ++
    Json.nonempty "raid_controllers" RaidController.toJson r.raidControllers ++
    Json.nonempty "direct_controllers" DirectController.toJson r.directControllers)

def ofJson? (j : Json) : Option Report := do
  let m ← j.record? ["hostname", "generated_at", "raid_controllers", "direct_controllers"] 2
  return {
    hostname := ← need m "hostname" Json.str?
    generatedAt := ← need m "generated_at" (fun t => t.str?.bind Timestamp.ofText?)
    raidControllers := ← orEmpty m "raid_controllers" (Json.list? RaidController.ofJson?)
    directControllers := ← orEmpty m "direct_controllers" (Json.list? DirectController.ofJson?) }

end Report

end StorageInventory
