import StorageInventory.Proofs.Listing.Blocks
import StorageInventory.Proofs.SasIr.Places

/-!
# SAS-IR listings block by block

A volume and a disk are what the lines of their own block say (`blockVolume?`, `blockDisk?`). Main
statements: a listing that is cut in front of a header is read as its two parts are
(`volumes_append`, `disks_append`), and a block gives its own volume or disk, or none, and has no
effect on what stands around it (`sections_by_block`).
-/

namespace StorageInventory.SasIr
variable {log : Logger} {header : String} {A B body : List String}

/-- The volume that a block gives, if its identifier can be read. -/
def blockVolume? (block : String × List String) : Option NamedVolume :=
  (wwid? block).map fun address => { unkeyed block with record.key := .sasAddress address }

/-- The disk that a block gives, if its device is one. -/
def blockDisk? (block : String × List String) : Option PhysicalDrive :=
  if (device block).isDisk then some (device block).drive else none

theorem volumes_blocks (log : Logger) (lines : List String) :
    (volumes log lines).value = (Listing.blocks isVolumeHeader lines).filterMap blockVolume? :=
  volumes_value log lines

theorem disks_blocks (lines : List String) :
    disks lines = (Listing.blocks isDeviceHeader lines).filterMap blockDisk? := by
  rw [disks]
  induction Listing.blocks isDeviceHeader lines with
  | nil => rfl
  | cons block blocks ih =>
    cases h : (device block).isDisk with
    | true => simpa [blockDisk?, h] using ih
    | false => simpa [blockDisk?, h] using ih

/-! ## Two parts of a listing -/

theorem volumes_append (log : Logger) (A : List String) (h : ∀ b ∈ B.head?, isVolumeHeader b) :
    (volumes log (A ++ B)).value = (volumes log A).value ++ (volumes log B).value := by
  simp only [volumes_blocks, Listing.blocks_append _ A h, List.filterMap_append]

/-- The notes of two parts that are not empty are those of their listing, too. -/
theorem volumes_append_traced (log : Logger) (hA : A ≠ []) (hB : B ≠ [])
    (h : ∀ b ∈ B.head?, isVolumeHeader b) :
    volumes log (A ++ B) = do return (← volumes log A) ++ (← volumes log B) := by
  have hfound : ∀ lines, lines ≠ [] → volumes log lines =
      (List.filterMap id <$> (Listing.blocks isVolumeHeader lines).mapM (volume? log)) := by
    intro lines hlines
    rw [volumes, if_neg (by simpa using hlines)]
    rfl
  rw [hfound _ (List.append_ne_nil_of_left_ne_nil hA B), hfound A hA, hfound B hB,
    Listing.blocks_append _ A h, List.mapM_append]
  simp

theorem disks_append (A : List String) (h : ∀ b ∈ B.head?, isDeviceHeader b) :
    disks (A ++ B) = disks A ++ disks B := by
  simp only [disks_blocks, Listing.blocks_append _ A h, List.filterMap_append]

/-! ## A block among others -/

theorem volumes_append_block (log : Logger) (A : List String) (hheader : isVolumeHeader header)
    (hbody : ∀ line ∈ body, isVolumeHeader line = false)
    (h : ∀ b ∈ B.head?, isVolumeHeader b) :
    (volumes log (A ++ header :: body ++ B)).value =
      (volumes log A).value ++ (blockVolume? (header, body)).toList ++ (volumes log B).value := by
  simp only [volumes_blocks, Listing.blocks_append_block _ A hheader hbody h,
    List.filterMap_append, List.filterMap_cons]
  cases blockVolume? (header, body) <;> simp

theorem disks_append_block (A : List String) (hheader : isDeviceHeader header)
    (hbody : ∀ line ∈ body, isDeviceHeader line = false)
    (h : ∀ b ∈ B.head?, isDeviceHeader b) :
    disks (A ++ header :: body ++ B) =
      disks A ++ (blockDisk? (header, body)).toList ++ disks B := by
  simp only [disks_blocks, Listing.blocks_append_block _ A hheader hbody h,
    List.filterMap_append, List.filterMap_cons]
  cases blockDisk? (header, body) <;> simp

/-- A listing that is cut in front of a header is read as its two parts are, notes included. A block
of a volume gives one volume, with its own identifier and what its own lines say, or none when that
identifier cannot be read; a block of a device gives one disk or none. What stands in front of a
block and behind it is read as if the block was not there. -/
theorem sections_by_block (log : Logger) :
    (∀ A B : List String, (∀ b ∈ B.head?, isVolumeHeader b) →
      (volumes log (A ++ B)).value = (volumes log A).value ++ (volumes log B).value ∧
        (A ≠ [] → B ≠ [] →
          volumes log (A ++ B) = do return (← volumes log A) ++ (← volumes log B))) ∧
    (∀ A B : List String, (∀ b ∈ B.head?, isDeviceHeader b) →
      disks (A ++ B) = disks A ++ disks B) ∧
    (∀ (A : List String) header body B, isVolumeHeader header →
      (∀ line ∈ body, isVolumeHeader line = false) → (∀ b ∈ B.head?, isVolumeHeader b) →
      (wwid? (header, body) = none →
        (volumes log (A ++ header :: body ++ B)).value =
          (volumes log A).value ++ (volumes log B).value) ∧
      ∀ address, wwid? (header, body) = some address →
        (volumes log (A ++ header :: body ++ B)).value =
          (volumes log A).value ++
            { unkeyed (header, body) with record.key := .sasAddress address } ::
              (volumes log B).value) ∧
    (∀ (A : List String) header body B, isDeviceHeader header →
      (∀ line ∈ body, isDeviceHeader line = false) → (∀ b ∈ B.head?, isDeviceHeader b) →
      ((device (header, body)).isDisk = false →
        disks (A ++ header :: body ++ B) = disks A ++ disks B) ∧
      ((device (header, body)).isDisk = true →
        disks (A ++ header :: body ++ B) =
          disks A ++ (device (header, body)).drive :: disks B)) := by
  refine ⟨fun A B h => ⟨volumes_append log A h, fun hA hB => volumes_append_traced log hA hB h⟩,
    fun A B h => disks_append A h, fun A header body B hheader hbody h => ?_,
    fun A header body B hheader hbody h => ?_⟩
  · rw [volumes_append_block log A hheader hbody h, blockVolume?]
    exact ⟨fun hnone => by simp [hnone], fun address hsome => by simp [hsome]⟩
  · rw [disks_append_block A hheader hbody h, blockDisk?]
    exact ⟨fun hother => by simp [hother], fun hdisk => by simp [hdisk]⟩

/-- The identifier of the second of three volumes has a letter that is no digit, and the second of
three devices is an enclosure. Neither has an effect on the third, though that says less. -/
theorem sections_by_block_skipped :
    (volumes .fallback (["IR volume 1", "Volume wwid : a"] ++
        "IR volume 2" :: ["Volume wwid : 0g", "PHY[0] Enclosure#/Slot# : 1:1"] ++
        ["IR volume 3", "Status of volume : Okay (OKY)"])).value.map (·.record) =
      [{ key := .sasAddress "0xa" }] ∧
    disks (["Device is a Hard disk", "Size (in MB)/(in sectors) : 1/2048"] ++
        "Device is a Enclosure services device" ::
          ["Enclosure # : 2", "Size (in MB)/(in sectors) : 1/2048", "Device Type : Enclosure"] ++
        ["Device is a Hard disk", "Slot # : 3", "Size (in MB)/(in sectors) : 1/2048"]) =
      [{ family := .sasIr, size := 1048576 },
        { family := .sasIr, slot := "3", size := 1048576 }] := by
  obtain ⟨-, -, hvolume, hdevice⟩ := sections_by_block .fallback
  obtain ⟨hskipped, -⟩ := hvolume ["IR volume 1", "Volume wwid : a"] "IR volume 2"
    ["Volume wwid : 0g", "PHY[0] Enclosure#/Slot# : 1:1"]
    ["IR volume 3", "Status of volume : Okay (OKY)"] (by decide) (by decide) (by decide)
  obtain ⟨hother, -⟩ := hdevice ["Device is a Hard disk", "Size (in MB)/(in sectors) : 1/2048"]
    "Device is a Enclosure services device"
    ["Enclosure # : 2", "Size (in MB)/(in sectors) : 1/2048", "Device Type : Enclosure"]
    ["Device is a Hard disk", "Slot # : 3", "Size (in MB)/(in sectors) : 1/2048"]
    (by decide) (by decide) (by decide)
  refine ⟨?_, (hother (by decide +kernel)).trans (by decide +kernel)⟩
  rw [hskipped (by decide +kernel)]
  decide +kernel

end StorageInventory.SasIr
