import UsbMaker.Data
import Mathlib.Data.List.Infix

/-!
# The pages of the wizard

`GondarWizard` (`gondarwizard.cc`) is a `QWizard` with nine pages. The pages share state through
the wizard, and two of them start threads: the download page an `UnzipThread`, the write page a
`DiskWriteThread`. This file has the members of the wizard and of its pages as one record
`Wizard`, and the members of the pages that `QWizard` calls: `isComplete`, `validatePage`,
`nextId`, `initializePage`.

What lies outside the program is an `Environment`: the build, the rights of the process, the
answer of each call of `GetDeviceList`. What `Meepo`, the download manager and the two threads
report back arrives as events, in `UsbMaker.Wizard.Navigation`.

Two members are read before they are set. `DownloadProgressPage::unzipThread` is an uninitialised
pointer until the first extraction, and `ImageSelectPage::getUrl` dereferences the checked button.
Both are modelled: the wizard is then `halted` with `.undefined`.

`Wizard.log` has no counterpart in the source. It is the history of the run, newest first.

## Main definitions

* `PageId`, `Environment`, `DevicePicker`, `UnzipThread`, `DiskWriteThread`, `Wizard`.
* `Wizard.isComplete`, `Wizard.validatePage`, `Wizard.nextId`, `Wizard.initializePage`.
-/

namespace UsbMaker

/-- The pages, in the order of their ids. -/
inductive PageId
  | adminCheck
  | chromeoverLogin
  | siteSelect
  | imageSelect
  | usbInsert
  | deviceSelect
  | downloadProgress
  | writeOperation
  | error
  deriving DecidableEq, Repr

/-- What the program finds around it. -/
structure Environment where
  /-- `gondar::isChromeover`, fixed at build time. -/
  isChromeover : Bool
  /-- `IsCurrentProcessElevated`. -/
  isElevated : Bool
  /-- The answers of `GetDeviceList`, call by call. -/
  getDeviceList : Nat → List DeviceGuy
  /-- `QString::toLower`. -/
  toLower : String → String

/-- `GondarImage::isDeployable`. -/
def GondarImage.isDeployable (image : GondarImage) : Bool :=
  "deployable".toList <:+: image.imageName.toLower.toList

/-! ### The device picker -/

/-- `DevicePicker`: the buttons of its group, by their devices, and the button checked. A refresh
takes the old buttons out of the group and the layout without destroying them; they stay children
of the picker, visible and enabled. -/
structure DevicePicker where
  buttons : List DeviceGuy := []
  checked : Option Nat := none
  leftover : List DeviceGuy := []
  deriving DecidableEq, Repr

namespace DevicePicker

/-- `DevicePicker::Button::Button`: whether the button of a device is enabled. -/
def isEnabled (device : DeviceGuy) : Bool := 6 * getGigabyte ≤ device.numBytes

/-- `DevicePicker::selectedDevice`. -/
def selectedDevice (picker : DevicePicker) : Option DeviceGuy :=
  picker.checked.bind fun i => picker.buttons[i]?

/-- `DevicePicker::refresh`. The group forgets its checked button with the buttons removed. -/
def refresh (picker : DevicePicker) (devices : List DeviceGuy) : DevicePicker :=
  { buttons := devices, checked := none, leftover := picker.leftover ++ picker.buttons }

/-- Button `i` of the group is clicked, which a disabled button cannot be. -/
def click (picker : DevicePicker) (i : Nat) : Option (DevicePicker × DeviceGuy) :=
  (picker.buttons[i]?).bind fun device =>
    if isEnabled device then some ({ picker with checked := some i }, device) else none

/-- Button `i` of those left over is clicked. It is in no group, and the selection stays. -/
def clickLeftover (picker : DevicePicker) (i : Nat) : Option DeviceGuy :=
  (picker.leftover[i]?).filter isEnabled

end DevicePicker

/-! ### The threads -/

/-- The path of an extracted image: `absoluteFilePath`, which is never empty. -/
abbrev ImagePath := { path : String // path ≠ "" }

/-- How `neverware_unzip` ends. -/
inductive Extraction
  | file (path : ImagePath)
  /-- A `ZipError`. It derives privately from `std::runtime_error`. -/
  | zipError
  /-- Any other exception derived from `std::exception`. -/
  | exception
  deriving DecidableEq, Repr

/-- An `UnzipThread`. -/
structure UnzipThread where
  /-- How `run` has ended; `none` while it runs. -/
  result : Option Extraction := none
  /-- Whether the slot of its `finished()` has run. -/
  notified : Bool := false
  deriving DecidableEq, Repr

/-- `UnzipThread::getFileName`. -/
def UnzipThread.getFileName (thread : UnzipThread) : String :=
  match thread.result with
  | some (.file path) => path.1
  | _ => ""

/-- What `DiskWriteThread::run` calls, with its result. -/
inductive DiskCall
  | format (ok : Bool)
  /-- `getFileSize` fails, and nothing is called. -/
  | noFile (path : String)
  | install (path : String) (ok : Bool)
  deriving DecidableEq, Repr

/-- `DiskWriteThread::State`; no slot tells `Initial` from `Running`. -/
inductive DiskState
  | running
  | getFileSizeFailed
  | installFailed
  | success
  deriving DecidableEq, Repr

/-- A `DiskWriteThread`. -/
structure DiskWriteThread where
  selectedDrive : DeviceGuy
  imagePath : String
  /-- Whether it was made by the constructor for format mode. -/
  formatMode : Bool
  /-- What `run` has done; `none` while it runs. -/
  call : Option DiskCall := none
  notified : Bool := false
  deriving DecidableEq, Repr

namespace DiskWriteThread

/-- `DiskWriteThread::run`, for the results of `getFileSize` and of `Format` or `Install`. -/
def run (thread : DiskWriteThread) (hasFile ok : Bool) : DiskCall :=
  if thread.imagePath = "" then .format ok
  else if hasFile then .install thread.imagePath ok
  else .noFile thread.imagePath

/-- `DiskWriteThread::state`. -/
def state (thread : DiskWriteThread) : DiskState :=
  match thread.call with
  | none => .running
  | some (.noFile _) => .getFileSizeFailed
  | some (.format ok) => if ok then .success else .installFailed
  | some (.install _ ok) => if ok then .success else .installFailed

end DiskWriteThread

/-! ### The wizard -/

/-- Why the program no longer runs. -/
inductive Halt
  /-- `std::terminate`. -/
  | terminated
  /-- A read through an uninitialised or null pointer. -/
  | undefined
  deriving DecidableEq, Repr

/-- What calls `QWizard::next`. -/
inductive Trigger
  | nextButton
  | formatLink
  | meepoFinished
  | unzipFinished
  | catchError
  deriving DecidableEq, Repr

/-- The entries of the history of a run. -/
inductive Note
  /-- `GetDeviceList` has set `drivelist`. -/
  | listed (devices : List DeviceGuy)
  /-- `DevicePicker::refresh`. -/
  | refreshed (devices : List DeviceGuy)
  /-- A button of the picker's group has been clicked. -/
  | clicked (device : DeviceGuy)
  /-- A button of an earlier refresh has been clicked. -/
  | clickedLeftover (device : DeviceGuy)
  /-- The admin page has been left. -/
  | leftAdmin (trigger : Trigger)
  /-- A `DiskWriteThread` has been started. -/
  | started (thread : DiskWriteThread)
  /-- `showWhatsNext` and `UsbSuccess`, with what the thread had called. -/
  | usbCreated (call : Option DiskCall)
  /-- The same in format mode. -/
  | formatted
  | postError (error : String)
  /-- `catchError` has returned, on this page. -/
  | caught (page : PageId)
  deriving DecidableEq, Repr

/-- The members of `GondarWizard` and of its pages. -/
structure Wizard where
  currentId : PageId := .adminCheck
  formatOnly : Bool := false
  sessionError : Bool := false
  /-- The text of the label of the error page. -/
  errorString : String := ""
  /-- The calls of `catchError` that `postError` has deferred, oldest first. -/
  posted : List String := []
  makeAnotherLayout : Bool := false
  /-- `AdminCheckPage::is_admin`. -/
  isAdmin : Bool := false
  /-- Whether the reply to `NewestImageUrl::fetch` is outstanding. -/
  fetching : Bool := false
  /-- `NewestImageUrl::sixtyFourUrl`, `none` when it is empty. -/
  sixtyFourUrl : Option Url := none
  /-- `ChromeoverLoginPage::started`. -/
  loginStarted : Bool := false
  /-- `ChromeoverLoginPage::finished`. -/
  loginFinished : Bool := false
  /-- Whether `Meepo` has ever been started. -/
  meepoStarted : Bool := false
  sites : List GondarSite := []
  /-- The entries of the site page, and whether each is hidden. -/
  sitesEntries : List (GondarSite × Bool) := []
  currentItem : Option Nat := none
  /-- The download buttons of the image page, by their URLs. -/
  bitnessButtons : List Url := []
  checkedButton : Option Nat := none
  drivelist : List DeviceGuy := []
  /-- How many timers for `getDriveList` are running. -/
  driveTimers : Nat := 0
  /-- How often `GetDeviceList` has been called. -/
  scans : Nat := 0
  picker : DevicePicker := {}
  /-- How often `markComplete` is connected to the download manager. -/
  connections : Nat := 0
  /-- Whether the download manager has work. -/
  downloading : Bool := false
  /-- `DownloadProgressPage::download_finished`. -/
  downloadFinished : Bool := false
  /-- The extraction threads; the member `unzipThread` points to the last one. -/
  unzipThreads : List UnzipThread := []
  /-- `WriteOperationPage::device`. -/
  device : DeviceGuy := ⟨0, "", 0⟩
  writeFinished : Bool := false
  /-- The write threads; the member `diskWriteThread` points to the last one. -/
  diskWriteThreads : List DiskWriteThread := []
  halted : Option Halt := none
  log : List Note := []
  deriving DecidableEq, Repr

namespace Wizard

/-- The wizard with an entry added to its history. -/
def note (w : Wizard) (entry : Note) : Wizard := { w with log := entry :: w.log }

/-- `GondarWizard::postError`. -/
def postError (w : Wizard) (error : String) : Wizard :=
  { w with
    sessionError := true
    posted := w.posted ++ [error]
    log := .postError error :: w.log }

/-- `GondarWizard::newestIsReady`. -/
def newestIsReady (w : Wizard) : Bool := w.sixtyFourUrl.isSome

/-- `ImageSelectPage::addImages`. -/
def addImages (w : Wizard) (images : List GondarImage) : Wizard :=
  { w with bitnessButtons := w.bitnessButtons ++
      (images.filter fun image => !image.isDeployable).map GondarImage.url }

/-- `ImageSelectPage::getUrl`; `none` stands for a null pointer. -/
def getUrl (env : Environment) (w : Wizard) : Option (Option Url) :=
  if env.isChromeover then (w.checkedButton.bind fun i => w.bitnessButtons[i]?).map some
  else some w.sixtyFourUrl

/-- `DownloadProgressPage::getImageFileName`; `none` stands for an uninitialised pointer. -/
def getImageFileName (w : Wizard) : Option String :=
  w.unzipThreads.getLast?.map UnzipThread.getFileName

/-! ### Whether a page lets the user on -/

/-- `isComplete` of the current page, which enables the Next button. -/
def isComplete (w : Wizard) : Bool :=
  match w.currentId with
  | .adminCheck => w.isAdmin
  | .usbInsert => w.drivelist ≠ []
  | .deviceSelect => w.picker.selectedDevice.isSome
  | .downloadProgress => w.downloadFinished
  | .writeOperation => w.writeFinished
  | .chromeoverLogin | .siteSelect | .imageSelect | .error => true

/-- `SiteSelectPage::validatePage`: the entry that is selected and not hidden. -/
def selectedSite (w : Wizard) : Option GondarSite :=
  ((w.currentItem.bind fun i => w.sitesEntries[i]?).filter fun entry => !entry.2).map Prod.fst

/-- `validatePage` of the current page: whether it accepts, and what it changes. -/
def validatePage (env : Environment) (w : Wizard) : Bool × Wizard :=
  match w.currentId with
  | .adminCheck => (w.sessionError || env.isChromeover || w.newestIsReady, w)
  | .chromeoverLogin =>
    if w.loginFinished then (true, w)
    else (false, { w with loginStarted := true, meepoStarted := true })
  | .siteSelect =>
    match w.selectedSite with
    | none => (false, w)
    | some site => (true, w.addImages site.imageList)
  | .imageSelect => (w.checkedButton.isSome, w)
  | .deviceSelect =>
    match w.picker.selectedDevice with
    | none => (false, w)
    | some device => (true, { w with device := device })
  | .writeOperation => (w.writeFinished, w)
  | .usbInsert | .downloadProgress | .error => (true, w)

/-- `nextId` of the current page: the page that follows, and what the call changes. Pages without
a `nextId` of their own are followed by the page with the next id. -/
def pageNextId (env : Environment) (w : Wizard) : Option PageId × Wizard :=
  match w.currentId with
  | .adminCheck =>
    if w.formatOnly then (some .usbInsert, w)
    else if env.isChromeover then (some .chromeoverLogin, w)
    else (some .usbInsert, w)
  | .chromeoverLogin =>
    match w.sites with
    | [] => (some .error, w)
    | [site] => (some .imageSelect, w.addImages site.imageList)
    | _ => (some .siteSelect, w)
  | .siteSelect => (some .imageSelect, w)
  | .imageSelect => (some .usbInsert, w)
  | .usbInsert => (some .deviceSelect, w)
  | .deviceSelect =>
    if w.formatOnly then (some .writeOperation, w)
    else if w.downloadFinished then (some .writeOperation, w)
    else (some .downloadProgress, w)
  | .downloadProgress => (some .writeOperation, w)
  | .writeOperation | .error => (none, w)

/-- `GondarWizard::nextId`. -/
def nextId (env : Environment) (w : Wizard) : Option PageId × Wizard :=
  if w.errorString = "" then w.pageNextId env
  else if w.currentId = .error then (none, w)
  else (some .error, w)

/-! ### Entering a page -/

/-- `UsbInsertPage::getDriveList`. -/
def getDriveList (env : Environment) (w : Wizard) : Wizard :=
  let drivelist := env.getDeviceList w.scans
  { w with
    drivelist := drivelist
    scans := w.scans + 1
    driveTimers := if drivelist = [] then w.driveTimers + 1 else w.driveTimers
    log := .listed drivelist :: w.log }

/-- `diskWriteThread = new DiskWriteThread(..)` and `diskWriteThread->start()`. -/
def startThread (w : Wizard) (thread : DiskWriteThread) : Wizard :=
  { w with
    diskWriteThreads := w.diskWriteThreads ++ [thread]
    log := .started thread :: w.log }

/-- `WriteOperationPage::writeToDrive`. -/
def writeToDrive (w : Wizard) : Wizard :=
  if w.formatOnly then
    w.startThread { selectedDrive := w.device, imagePath := "", formatMode := true }
  else
    match w.getImageFileName with
    | none => { w with halted := some .undefined }
    | some path =>
      w.startThread { selectedDrive := w.device, imagePath := path, formatMode := false }

/-- `initializePage` of the current page. -/
def initializePage (env : Environment) (w : Wizard) : Wizard :=
  match w.currentId with
  | .adminCheck => { w with fetching := !env.isChromeover, isAdmin := env.isElevated }
  | .siteSelect =>
    { w with sitesEntries := w.sitesEntries ++ w.sites.map fun site => (site, false) }
  | .usbInsert => getDriveList env { w with drivelist := [] }
  | .deviceSelect =>
    { w with picker := w.picker.refresh w.drivelist, log := .refreshed w.drivelist :: w.log }
  | .downloadProgress =>
    match w.getUrl env with
    | none => { w with halted := some .undefined }
    | some _ => { w with connections := w.connections + 1, downloading := true }
  | .writeOperation => writeToDrive { w with writeFinished := false }
  | .chromeoverLogin | .imageSelect | .error => w

end Wizard

end UsbMaker
