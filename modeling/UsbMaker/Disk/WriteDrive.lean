import UsbMaker.Disk.Handles
import UsbMaker.Wizard.Pages

/-!
# Writing an image to a drive

`DiskWriteThread::writeImage`, `Install` and `WriteDrive`. The copy loop of `WriteDrive` ends at
the end of the image, at the end of the drive, or with an error, and `ret` is true in both of the
first two cases. A `DWORD` is reduced modulo `2 ^ 32` where a larger number is stored in it, and a
`uint64_t` modulo `2 ^ 64`.

## Main definitions

* `Disk.writeTries`, `Disk.copyStep`: the loops of `WriteDrive`.
* `Disk.writeDrive`, `Disk.install`, `Disk.writeImage`.

## Main results

* `Disk.writeDrive_eq`, `Disk.writeDrive_fails`: `WriteDrive` with and without a buffer.
-/

namespace UsbMaker.Disk

open Program

/-- `DD_BUFFER_SIZE`. -/
def ddBufferSize : Nat := 65536

/-- `WRITE_RETRIES`. -/
def writeRetries : Nat := 3

/-- `ERROR_SEVERITY_ERROR | FAC(FACILITY_STORAGE) | code`. -/
def storageError (code : Nat) : Nat := 0xC0000000 ||| 3 <<< 16 ||| code

/-- `ERROR_NOT_ENOUGH_MEMORY`. -/
def notEnoughMemory : Nat := 8

/-- `ERROR_WRITE_FAULT`. -/
def writeFault : Nat := 29

/-- `ERROR_READ_FAULT`. -/
def readFault : Nat := 30

/-- The sector size that `WriteDrive` works with. -/
def effectiveSectorSize (sectorSize : Nat) : Nat := if sectorSize < 512 then 512 else sectorSize

/-- `BufSize`. -/
def bufSize (sectorSize : Nat) : Nat :=
  (ddBufferSize + sectorSize - 1) / sectorSize * sectorSize % 2 ^ 32

/-- `rSize` cut to the projected size. -/
def clipSize (targetSize wb rSize : Nat) : Nat :=
  if targetSize < (wb + rSize) % 2 ^ 64 then (targetSize + 2 ^ 64 - wb) % 2 ^ 64 % 2 ^ 32 else rSize

/-- `rSize` rounded up to a multiple of the sector size. -/
def padSize (sectorSize rSize : Nat) : Nat :=
  if rSize % sectorSize ≠ 0 then (rSize + sectorSize - 1) / sectorSize * sectorSize % 2 ^ 32
  else rSize

/-- The variables of the copy loop. -/
structure Copy where
  wb : Nat
  rSize : Nat
  buffer : Nat → UInt8

/-- The first bytes of a buffer. -/
def bytes (buffer : Nat → UInt8) (size : Nat) : List UInt8 := (List.range size).map buffer

/-- The buffer after data has been read into it. -/
def fill (buffer : Nat → UInt8) (data : List UInt8) (i : Nat) : UInt8 := data[i]?.getD (buffer i)

section WriteDrive

variable (os : Os) (image : List UInt8) (hPhysicalDrive hSourceImage : Handle)

/-- The loop that writes a buffer, with the tries that are left: `wSize`, or `none` for
`goto out`. -/
def writeTries (wb : Nat) (data : List UInt8) : Nat → StateM System (Option Nat)
  | 0 => return none
  | n + 1 => do
    let written ← writeFile os hPhysicalDrive data
    if written = some data.length then return some data.length
    else if n = 0 then
      setFormatStatus (storageError writeFault)
      return none
    else if ← setFilePointerEx os hPhysicalDrive wb then
      sleep 200
      writeTries wb data n
    else return none

/-- The first half of a turn of the copy loop. It ends the loop with true at the end of the image
and with false for `goto out`. -/
def readNext (size : Nat) (c : Copy) : StateM System (Copy ⊕ Bool) := do
  if hSourceImage = .null then return .inl c
  else
    match ← readFile os image hSourceImage size with
    | none =>
      setFormatStatus (storageError readFault)
      return .inr false
    | some data =>
      if data.length = 0 then return .inr true
      else return .inl { c with rSize := data.length, buffer := fill c.buffer data }

/-- A turn of the copy loop. -/
def copyStep (sectorSize driveSize targetSize : Nat) (c : Copy) : StateM System (Copy ⊕ Bool) := do
  if c.wb < driveSize then
    match ← readNext os image hSourceImage (bufSize sectorSize) c with
    | .inr ret => return .inr ret
    | .inl c =>
      let rSize := padSize sectorSize (clipSize targetSize c.wb c.rSize)
      match ← writeTries os hPhysicalDrive c.wb (bytes c.buffer rSize) writeRetries with
      | none => return .inr false
      | some wSize => return .inl { c with wb := (c.wb + wSize) % 2 ^ 64, rSize := rSize }
  else return .inr true

/-- `WriteDrive`, for an image of the given bytes. `none` means that the copy loop takes more than
`turns` turns. -/
def writeDrive (sectorSize driveSize : Nat) (imageSize : Int) (turns : Nat) :
    StateM System (Option Bool) := do
  let targetSize := (imageSize % 2 ^ 64).toNat
  let _ ← setFilePointerEx os hPhysicalDrive 0
  let sectorSize := effectiveSectorSize sectorSize
  match ← mmMalloc os (bufSize sectorSize) sectorSize with
  | none =>
    setFormatStatus (storageError notEnoughMemory)
    return some false
  | some buffer =>
    if buffer.address % sectorSize ≠ 0 then
      setFormatStatus (storageError readFault)
      return some false
    else
      match ← loop (copyStep os image hPhysicalDrive hSourceImage sectorSize driveSize targetSize)
          turns { wb := 0, rSize := bufSize sectorSize, buffer := buffer.contents } with
      | none => return none
      | some false => return some false
      | some true =>
        let _ ← refreshDriveLayout os hPhysicalDrive
        return some true

/-! ### The parts of `WriteDrive` -/

variable {os image hPhysicalDrive hSourceImage} {sectorSize driveSize : Nat} {s : System}

/-- The buffer of `WriteDrive`, and the state after it has been asked for. -/
def allocated (os : Os) (hPhysicalDrive : Handle) (sectorSize : Nat) (s : System) :
    Option Block × System :=
  mmMalloc os (bufSize (effectiveSectorSize sectorSize)) (effectiveSectorSize sectorSize)
    (setFilePointerEx os hPhysicalDrive 0 s).2

/-- The variables with which the copy loop begins. -/
def startCopy (sectorSize : Nat) (block : Block) : Copy :=
  ⟨0, bufSize (effectiveSectorSize sectorSize), block.contents⟩

/-- What is left of `WriteDrive` after its copy loop. -/
def afterLoop (os : Os) (hPhysicalDrive : Handle) : Option Bool × System → Option Bool × System
  | (some true, s) => (some true, (refreshDriveLayout os hPhysicalDrive s).2)
  | (r, s) => (r, s)

theorem afterLoop_fst (r : Option Bool × System) :
    (afterLoop os hPhysicalDrive r).1 = r.1 := by
  obtain ⟨_ | _ | _, s⟩ := r <;> rfl

theorem isPowerOfTwo_of_allocated {block : Block}
    (h : (allocated os hPhysicalDrive sectorSize s).1 = some block) :
    (effectiveSectorSize sectorSize).isPowerOfTwo := by
  unfold allocated mmMalloc at h
  dsimp only at h
  split_ifs at h with hpow
  exact hpow

/-- `WriteDrive`, when it has a buffer. -/
theorem writeDrive_eq {block : Block} (imageSize : Int) (turns : Nat)
    (hblock : (allocated os hPhysicalDrive sectorSize s).1 = some block)
    (haligned : block.address % effectiveSectorSize sectorSize = 0) :
    writeDrive os image hPhysicalDrive hSourceImage sectorSize driveSize imageSize turns s =
      afterLoop os hPhysicalDrive (loop (copyStep os image hPhysicalDrive hSourceImage
        (effectiveSectorSize sectorSize) driveSize (imageSize % 2 ^ 64).toNat) turns
        (startCopy sectorSize block) (allocated os hPhysicalDrive sectorSize s).2) := by
  rw [allocated] at hblock
  simp only [writeDrive, bind_apply, hblock, haligned, ne_eq, not_true_eq_false, ↓reduceIte]
  rw [startCopy, allocated]
  generalize loop (copyStep os image hPhysicalDrive hSourceImage (effectiveSectorSize sectorSize)
    driveSize (imageSize % 2 ^ 64).toNat) turns _ _ = r
  obtain ⟨_ | _ | _, t⟩ := r <;> rfl

/-- Without a buffer `WriteDrive` fails, and makes no more calls. -/
theorem writeDrive_fails (imageSize : Int) (turns : Nat)
    (h : ¬ ∃ block, (allocated os hPhysicalDrive sectorSize s).1 = some block ∧
      block.address % effectiveSectorSize sectorSize = 0) :
    (writeDrive os image hPhysicalDrive hSourceImage sectorSize driveSize imageSize turns s).1 =
        some false ∧
      (writeDrive os image hPhysicalDrive hSourceImage sectorSize driveSize imageSize turns
        s).2.calls = (allocated os hPhysicalDrive sectorSize s).2.calls := by
  rw [allocated] at h ⊢
  simp only [writeDrive, bind_apply]
  cases hblock : (mmMalloc os (bufSize (effectiveSectorSize sectorSize))
    (effectiveSectorSize sectorSize) (setFilePointerEx os hPhysicalDrive 0 s).2).1 with
  | none => exact ⟨rfl, rfl⟩
  | some block =>
    have haligned : block.address % effectiveSectorSize sectorSize ≠ 0 := fun haligned =>
      h ⟨block, hblock, haligned⟩
    simp only [haligned, ne_eq, not_false_eq_true, ↓reduceIte, bind_apply]
    exact ⟨rfl, rfl⟩

end WriteDrive

/-- `CreateFileU` for the image. -/
def openImage (os : Os) (path : String) : StateM System Handle := do
  match ← createFile os path false false with
  | .ok handle => return handle
  | .error _ => return .invalid

/-- `Install` after `formatShared`. Each turn of the copy loop reads from the image, so that it
takes at most one turn more than the image has bytes. -/
def installImage (os : Os) (deviceNum : Nat) (imagePath : String) (image : List UInt8)
    (imageSize : Int) (sectorSize driveSize : Nat) : StateM System (Option Bool) := do
  let physHandle ← getHandle os (getPhysicalName deviceNum) true true false
  let sourceImg ← openImage os imagePath
  let hLogicalVolume ← getLogicalHandle os deviceNum true false false
  let _ ← unmountVolume os hLogicalVolume
  match ← writeDrive os image physHandle sourceImg sectorSize driveSize imageSize
      (image.length + 1) with
  | none => return none
  | some ret =>
    let _ ← safeClosehandle physHandle
    let _ ← safeClosehandle hLogicalVolume
    let _ ← safeClosehandle sourceImg
    return some ret

/-- `Install`. `none` means that the call does not return. -/
def install (os : Os) (targetDevice : DeviceGuy) (imagePath : String) (image : List UInt8)
    (imageSize : Int) : StateM System (Option Bool) := do
  let deviceNum := targetDevice.deviceNum
  let sectorSize ← getSectorSize os deviceNum
  let driveSize ← getDriveSize os deviceNum
  match ← formatShared os (getPhysicalName deviceNum) with
  | none => return none
  | some false => return some false
  | some true => installImage os deviceNum imagePath image imageSize sectorSize driveSize

/-- A file on the host, whose size is an `int64_t`. -/
structure ImageFile where
  bytes : List UInt8
  length_lt : bytes.length < 2 ^ 63

/-- `getFileSize`; `none` stands for a file that does not exist. -/
def getFileSize : Option ImageFile → Int
  | none => -1
  | some file => file.bytes.length

/-- `DiskWriteThread::writeImage`, for the file at the path: the state of the thread after it. -/
def writeImage (os : Os) (selectedDrive : DeviceGuy) (imagePath : String)
    (file : Option ImageFile) : StateM System DiskState := do
  let imageSize := getFileSize file
  if imageSize = -1 then return .getFileSizeFailed
  else
    match ← install os selectedDrive imagePath ((file.map ImageFile.bytes).getD []) imageSize with
    | none => return .running
    | some false => return .installFailed
    | some true => return .success

end UsbMaker.Disk
