import UsbMaker.Run.History
import UsbMaker.Wizard.Navigation

/-!
# The device that is erased

The device chosen on the device page is copied to the write page and from there into the thread
that erases it, while the wizard may be restarted, the devices enumerated again and the picker
refreshed any number of times. This file proves that every `DiskWriteThread` that is started has
the device of the button selected last after the latest refresh, that this device is one of the
devices given to that refresh, that these are the latest `drivelist` of the USB page, and that the
device has at least six gigabytes.

It need not be the device of the button that was clicked last. `DevicePicker::refresh` takes the
old buttons out of the layout and of the group, but they stay on the page, and a click on one of
them is shown as a choice and selects nothing. The thread has the device clicked last exactly when
no such click, on a button of another device, has come after the selection.

All of this is read off the history of the run: `lastDrivelist`, `lastRefresh`, `lastSelected`,
`lastIgnored` and `lastClick` are functions of the events up to a point.

## Main definitions

* `Wizard.lastDrivelist`, `Wizard.lastRefresh`, `Wizard.lastSelected`, `Wizard.lastIgnored`,
  `Wizard.lastClick`.
* `Wizard.OnTarget`, `Wizard.TargetsClicked`.

## Main results

* `Wizard.started_selected`: the device of a thread is the one selected last.
* `Wizard.targetsClicked_iff`: when it is the one clicked last.
-/

namespace UsbMaker.Wizard

/-- The latest list of devices of the USB page; it is empty at first. -/
def lastDrivelist : List Note → List DeviceGuy
  | [] => []
  | .listed devices :: _ => devices
  | _ :: log => lastDrivelist log

/-- The list given to the latest refresh of the picker. -/
def lastRefresh : List Note → Option (List DeviceGuy)
  | [] => none
  | .refreshed devices :: _ => some devices
  | _ :: log => lastRefresh log

/-- The device of the button of the group clicked last since the latest refresh. -/
def lastSelected : List Note → Option DeviceGuy
  | [] => none
  | .refreshed _ :: _ => none
  | .clicked device :: _ => some device
  | _ :: log => lastSelected log

/-- The device of the leftover button clicked last, if no button of the group has been clicked
after it, and the picker not refreshed. -/
def lastIgnored : List Note → Option DeviceGuy
  | [] => none
  | .refreshed _ :: _ => none
  | .clicked _ :: _ => none
  | .clickedLeftover device :: _ => some device
  | _ :: log => lastIgnored log

/-- The device of the button clicked last since the latest refresh, in the group or left over. -/
def lastClick : List Note → Option DeviceGuy
  | [] => none
  | .refreshed _ :: _ => none
  | .clicked device :: _ => some device
  | .clickedLeftover device :: _ => some device
  | _ :: log => lastClick log

/-- A thread is started for the device selected last since the latest refresh, which is one of the
refresh and large enough; a refresh is given the latest list of devices. -/
def OnTarget : Note → List Note → Prop
  | .started thread, before => ∃ devices, lastRefresh before = some devices ∧
      lastSelected before = some thread.selectedDrive ∧ thread.selectedDrive ∈ devices ∧
      6 * getGigabyte ≤ thread.selectedDrive.numBytes
  | .refreshed devices, before => devices = lastDrivelist before
  | _, _ => True

/-- Whenever a thread is started, the picker has been refreshed with the latest list of devices,
and the thread has the device of the button clicked last since the latest refresh, which is in that
list and large enough. -/
def TargetsClicked (log : List Note) : Prop :=
  ∀ after before thread, log = after ++ .started thread :: before →
    ∃ devices between earlier, before = between ++ .refreshed devices :: earlier ∧
      (∀ devices', .refreshed devices' ∉ between) ∧ devices = lastDrivelist earlier ∧
      lastClick before = some thread.selectedDrive ∧ thread.selectedDrive ∈ devices ∧
      6 * getGigabyte ≤ thread.selectedDrive.numBytes

/-- When a thread is started, no leftover button has been clicked after the selection, or the last
one of those has the device that is selected. -/
def NoneIgnored : Note → List Note → Prop
  | .started _, before => lastIgnored before = none ∨ lastIgnored before = lastSelected before
  | _, _ => True

variable {env : Environment} {w w' : Wizard}

/-- The invariant of the selection. -/
structure Selection (w : Wizard) : Prop where
  history : Recorded OnTarget w.log
  drivelist : w.drivelist = lastDrivelist w.log
  refreshed : w.currentId = .deviceSelect → lastRefresh w.log = some w.picker.buttons
  selected : ∀ device, w.picker.selectedDevice = some device →
    lastRefresh w.log = some w.picker.buttons ∧ lastSelected w.log = some device ∧
      device ∈ w.picker.buttons ∧ 6 * getGigabyte ≤ device.numBytes
  chosen : w.currentId = .downloadProgress → w.picker.selectedDevice = some w.device

/-- The entries that are about other things than devices. -/
def IsOther : Note → Prop
  | .listed _ | .refreshed _ | .clicked _ | .started _ => False
  | _ => True

/-- An entry about something else does not matter. -/
theorem Selection.note (h : Selection w) (entry : Note) (he : IsOther entry) :
    Selection (w.note entry) := by
  cases entry with
  | listed | refreshed | clicked | started => exact absurd he id
  | _ => exact ⟨⟨trivial, h.history⟩, h.drivelist, h.refreshed, h.selected, h.chosen⟩

theorem Selection.postError (h : Selection w) (error : String) : Selection (w.postError error) :=
  { h.note (.postError error) trivial with }

theorem Selection.getDriveList (h : Selection w) (env : Environment) :
    Selection (w.getDriveList env) :=
  ⟨⟨trivial, h.history⟩, rfl, h.refreshed, h.selected, h.chosen⟩

/-- The device page refreshes the picker with the latest list, and nothing is selected. -/
theorem Selection.refresh (h : Selection w) :
    Selection { w with
      currentId := .deviceSelect
      picker := w.picker.refresh w.drivelist
      log := .refreshed w.drivelist :: w.log } :=
  ⟨⟨h.drivelist, h.history⟩, h.drivelist, fun _ => rfl, by
    simp [DevicePicker.refresh, DevicePicker.selectedDevice], by simp⟩

theorem Selection.click (h : Selection w) (hpage : w.currentId = .deviceSelect) {i : Nat}
    {picker : DevicePicker} {device : DeviceGuy} (hc : w.picker.click i = some (picker, device)) :
    Selection { w with picker := picker, log := .clicked device :: w.log } := by
  obtain ⟨button, hbutton, hite⟩ := Option.bind_eq_some_iff.mp hc
  split_ifs at hite with henabled
  obtain ⟨rfl, rfl⟩ := Prod.mk.inj (Option.some.inj hite)
  refine ⟨⟨trivial, h.history⟩, h.drivelist, h.refreshed, ?_, by simp [hpage]⟩
  intro device hdevice
  obtain rfl : button = device := by
    simpa [DevicePicker.selectedDevice, hbutton] using hdevice
  exact ⟨h.refreshed hpage, rfl, List.mem_of_getElem? hbutton, by
    simpa [DevicePicker.isEnabled] using henabled⟩

/-- A thread is started for the selected device. -/
theorem Selection.startThread (h : Selection w) {thread : DiskWriteThread}
    (hdevice : w.picker.selectedDevice = some thread.selectedDrive) :
    Selection (w.startThread thread) := by
  obtain ⟨hrefresh, hclick, hmem, hsize⟩ := h.selected _ hdevice
  exact ⟨⟨⟨_, hrefresh, hclick, hmem, hsize⟩, h.history⟩, h.drivelist, h.refreshed, h.selected,
    h.chosen⟩

theorem Selection.writeToDrive (h : Selection w)
    (hdevice : w.picker.selectedDevice = some w.device) : Selection w.writeToDrive := by
  rcases w.writeToDrive_cases with ⟨-, hw⟩ | ⟨path, -, hw⟩
  · rw [hw]
    exact { h with }
  · rw [hw]
    exact h.startThread hdevice

/-- A move to a page other than the device page and the download page. -/
theorem Selection.moveTo (h : Selection w) (page : PageId) (hd : page ≠ .deviceSelect)
    (hp : page ≠ .downloadProgress) : Selection { w with currentId := page } :=
  { h with
    refreshed := fun hpage => absurd hpage hd
    chosen := fun hpage => absurd hpage hp }

/-- Leaving a page changes neither the picker nor the device. -/
theorem Selection.noteExit (h : Selection w) (trigger : Trigger) :
    Selection (w.noteExit trigger) ∧ (w.noteExit trigger).picker = w.picker ∧
      (w.noteExit trigger).device = w.device := by
  rcases w.noteExit_cases trigger with ⟨-, hw⟩ | ⟨-, hw⟩
  · rw [hw]
    exact ⟨h, rfl, rfl⟩
  · rw [hw]
    exact ⟨h.note _ trivial, rfl, rfl⟩

/-- Whatever page `next` moves to, the device of the write page is the selected one whenever a
thread may be started for it. -/
theorem Selection.switchToPage (h : Selection w) {page : PageId} {trigger : Trigger}
    (hdevice : page = .downloadProgress ∨ page = .writeOperation →
      w.picker.selectedDevice = some w.device) :
    Selection (Wizard.switchToPage env page (w.noteExit trigger)) := by
  obtain ⟨h, hpicker, hdev⟩ := h.noteExit trigger
  rw [← hpicker, ← hdev] at hdevice
  generalize w.noteExit trigger = w at h hdevice
  cases page with
  | usbInsert =>
    have hmove := h.moveTo .usbInsert (by simp) (by simp)
    exact ⟨⟨trivial, h.history⟩, rfl, hmove.refreshed, hmove.selected, hmove.chosen⟩
  | deviceSelect => exact h.refresh
  | downloadProgress =>
    have hmove : Selection { w with currentId := .downloadProgress } :=
      { h with
        refreshed := fun hpage => absurd hpage (by simp)
        chosen := fun _ => hdevice (Or.inl rfl) }
    rcases w.switchToPage_downloadProgress env with hw | hw
    · rw [hw]
      exact { hmove with }
    · rw [hw]
      exact { hmove with }
  | writeOperation =>
    have hmove : Selection { w with currentId := .writeOperation, writeFinished := false } :=
      { h.moveTo .writeOperation (by simp) (by simp) with }
    exact hmove.writeToDrive (hdevice (Or.inr rfl))
  | adminCheck => exact { h.moveTo .adminCheck (by simp) (by simp) with }
  | chromeoverLogin => exact h.moveTo .chromeoverLogin (by simp) (by simp)
  | siteSelect => exact { h.moveTo .siteSelect (by simp) (by simp) with }
  | imageSelect => exact h.moveTo .imageSelect (by simp) (by simp)
  | error => exact h.moveTo .error (by simp) (by simp)

theorem Selection.next (h : Selection w) (trigger : Trigger) :
    Selection (Wizard.next env trigger w) := by
  obtain ⟨w₁, ⟨loginStarted, meepoStarted, buttons, device, rfl, -, hdev, hsel⟩, hcases⟩ :=
    next_cases env trigger w
  have hprep : Selection { w with
      loginStarted := loginStarted
      meepoStarted := meepoStarted
      bitnessButtons := buttons
      device := device } :=
    { h with
      chosen := fun hpage => by
        have hsame : device = w.device := hdev fun hdevice => by
          rw [show w.currentId = .downloadProgress from hpage] at hdevice
          cases hdevice
        exact hsame ▸ h.chosen hpage }
  rcases hcases with ⟨-, hstay⟩ | ⟨page, hacc, hfollow, hmove⟩
  · rw [hstay]
    exact hprep
  · rw [hmove]
    refine hprep.switchToPage fun hpage => ?_
    -- the download and write pages follow the device page, whose selection has just been copied,
    -- and the write page follows the download page, which keeps it
    rcases following_spec hfollow with ⟨-, hfrom⟩ | ⟨-, -, rfl⟩
    · rcases hpage with rfl | rfl
      · exact hsel hfrom.1 hacc
      · rcases hfrom with ⟨hpage, -⟩ | hpage
        · exact hsel hpage hacc
        · exact hprep.chosen hpage
    · simp at hpage

/-! ### Runs -/

theorem Selection.markComplete (h : Selection w) (hasError : Bool) :
    Selection (w.markComplete hasError) := by
  have hfinished : Selection { w with downloadFinished := true } := { h with }
  rcases w.markComplete_cases hasError with ⟨error, -, hw⟩ | hw
  · rw [hw]
    exact hfinished.postError error
  · rw [hw]
    exact { hfinished with }

theorem Selection.iterate_markComplete (h : Selection w) (hasError : Bool) (n : Nat) :
    Selection ((Wizard.markComplete hasError)^[n] w) := by
  induction n generalizing w with
  | zero => exact h
  | succ n ih => exact ih (h.markComplete hasError)

theorem Selection.writeFailed (h : Selection w) (error : String) :
    Selection (w.writeFailed error) :=
  { h.postError error with }

theorem Selection.onDoneWriting (h : Selection w) : Selection w.onDoneWriting := by
  rcases w.onDoneWriting_cases with ⟨-, hw⟩ | ⟨error, -, hw⟩ | ⟨-, hw⟩ | ⟨thread, -, -, hw⟩
  · rw [hw]
    exact { h with }
  · rw [hw]
    exact h.writeFailed error
  · rw [hw]
    exact { h.note .formatted trivial with }
  · rw [hw]
    exact { h.note (.usbCreated thread.call) trivial with }

theorem Selection.minor (h : Selection w) (hw : Minor w w') : Selection w' := by
  obtain ⟨_, _, _, _, _, _, _, _, _, rfl, -, -, -⟩ := hw
  exact { h with }

theorem Selection.step (h : Selection w) {e : Event} (hs : Wizard.step env w e = some w') :
    Selection w' := by
  obtain ⟨-, heffect⟩ := effect_of_step hs
  cases heffect with
  | minor hw => exact h.minor hw
  | newestImageError =>
    have hreply : Selection { w with fetching := false } := { h with }
    exact hreply.postError _
  | noSites =>
    have hlogin : Selection { w with loginFinished := true } := { h with }
    exact hlogin.postError _
  | clickNext => exact h.next _
  | @meepoFinished sites =>
    have hlogin : Selection { w with sites := sites, loginFinished := true } := { h with }
    exact hlogin.next _
  | formatLink =>
    have hformat : Selection { w with formatOnly := true } := { h with }
    exact hformat.next _
  | driveTimer =>
    have htimer : Selection { w with driveTimers := w.driveTimers - 1 } := { h with }
    exact htimer.getDriveList env
  | clickDevice hpage hclick => exact h.click hpage hclick
  | clickLeftover => exact h.note _ trivial
  | downloadFinished =>
    have hdone : Selection { w with downloading := false } := { h with }
    exact hdone.iterate_markComplete _ _
  | unzipReturns => exact { h with }
  | @unzipFinished i =>
    have hnotified : Selection { w with
        unzipThreads := w.unzipThreads.modify i fun thread => { thread with notified := true } } :=
      { h with }
    exact hnotified.next _
  | diskWriteReturns => exact { h with }
  | @doneWriting i =>
    have hnotified : Selection { w with
        diskWriteThreads := w.diskWriteThreads.modify i fun thread =>
          { thread with notified := true } } :=
      { h with }
    exact hnotified.onDoneWriting
  | @catchError error rest =>
    have hcaught : Selection { w with posted := rest, errorString := error } := { h with }
    exact (hcaught.next .catchError).note _ trivial
  | makeAnother =>
    have hmove := h.moveTo .usbInsert (by simp) (by simp)
    exact ⟨⟨trivial, h.history⟩, rfl, hmove.refreshed, hmove.selected, hmove.chosen⟩

theorem selection_of_run {es : List Event} (h : (machine env).Run es w) : Selection w := by
  refine h.invariant ?_ fun _ _ _ hI _ hs => hI.step hs
  rintro w rfl
  exact ⟨trivial, rfl, by simp [initializePage], by
    simp [initializePage, DevicePicker.selectedDevice], by simp [initializePage]⟩

/-- The latest refresh, as an entry of the history. -/
theorem exists_refresh {log : List Note} {devices : List DeviceGuy}
    (h : lastRefresh log = some devices) :
    ∃ between earlier, log = between ++ .refreshed devices :: earlier ∧
      ∀ devices', .refreshed devices' ∉ between := by
  induction log with
  | nil => cases h
  | cons entry log ih =>
    by_cases hentry : ∃ devices', entry = .refreshed devices'
    · obtain ⟨devices', rfl⟩ := hentry
      obtain rfl : devices' = devices := Option.some.inj h
      exact ⟨[], log, rfl, by simp⟩
    · have hrest : lastRefresh log = some devices := by
        cases entry with
        | refreshed devices' => exact absurd ⟨devices', rfl⟩ hentry
        | _ => exact h
      obtain ⟨between, earlier, rfl, hbetween⟩ := ih hrest
      refine ⟨entry :: between, earlier, rfl, fun devices' hmem => ?_⟩
      rcases List.mem_cons.mp hmem with heq | hmem
      · exact hentry ⟨devices', heq.symm⟩
      · exact hbetween devices' hmem

/-- **The device that is erased is the one selected.** In every run, whenever a `DiskWriteThread`
is started, the picker has been refreshed before; the thread has the device of the button of the
group clicked last since the latest refresh; that device is one of those given to the refresh, which
were the latest `drivelist` of the USB page at that time, and it has at least six gigabytes. -/
theorem started_selected {es : List Event} (h : (machine env).Run es w) {after before : List Note}
    {thread : DiskWriteThread} (hlog : w.log = after ++ .started thread :: before) :
    lastSelected before = some thread.selectedDrive ∧
      ∃ devices between earlier, before = between ++ .refreshed devices :: earlier ∧
        (∀ devices', .refreshed devices' ∉ between) ∧ devices = lastDrivelist earlier ∧
        thread.selectedDrive ∈ devices ∧ 6 * getGigabyte ≤ thread.selectedDrive.numBytes := by
  have hrecorded := recorded_iff.mp (selection_of_run h).history
  obtain ⟨devices, hrefresh, hclick, hmem, hsize⟩ := hrecorded after (.started thread) before hlog
  obtain ⟨between, earlier, hbefore, hbetween⟩ := exists_refresh hrefresh
  refine ⟨hclick, devices, between, earlier, hbefore, hbetween, ?_, hmem, hsize⟩
  refine hrecorded (after ++ .started thread :: between) (.refreshed devices) earlier ?_
  rw [hlog, hbefore, List.append_assoc, List.cons_append]

/-- The button clicked last is a leftover one, or else the one that is selected. -/
theorem lastClick_eq (log : List Note) :
    lastClick log = (lastIgnored log).or (lastSelected log) := by
  induction log with
  | nil => rfl
  | cons entry log ih =>
    cases entry with
    | refreshed | clicked | clickedLeftover => rfl
    | _ => exact ih

/-- **When the device that is erased is the one clicked.** In every run, every `DiskWriteThread`
that is started has the device of the button clicked last since the latest refresh, exactly when no
leftover button of another device has been clicked between the selection and a start. -/
theorem targetsClicked_iff (env : Environment) (es : List Event) (w : Wizard)
    (h : (machine env).Run es w) : TargetsClicked w.log ↔ Recorded NoneIgnored w.log := by
  constructor
  · intro htarget
    refine recorded_iff.mpr fun after entry before hlog => ?_
    cases entry with
    | started thread =>
      obtain ⟨_, _, _, -, -, -, hclick, -, -⟩ := htarget after before thread hlog
      obtain ⟨hselected, -⟩ := started_selected h hlog
      rw [lastClick_eq] at hclick
      cases hignored : lastIgnored before with
      | none => exact Or.inl hignored
      | some device =>
        rw [hignored, Option.some_or] at hclick
        exact Or.inr (hignored.trans (hclick.trans hselected.symm))
    | _ => trivial
  · intro hnone after before thread hlog
    obtain ⟨hselected, devices, between, earlier, hbefore, hbetween, hlist, hmem, hsize⟩ :=
      started_selected h hlog
    refine ⟨devices, between, earlier, hbefore, hbetween, hlist, ?_, hmem, hsize⟩
    rw [lastClick_eq, hselected]
    rcases recorded_iff.mp hnone after (.started thread) before hlog with hignored | hignored
    · rw [hignored, Option.none_or]
    · rw [hignored, hselected, Option.some_or]

/-- The stick is formatted. -/
def formatStick : List Event := [.clickFormatLink, .clickNext, .clickDevice 0, .clickNext]

theorem targetsClicked_format :
    ∃ w thread before, (machine (withStick true)).Run formatStick w ∧
      w.log = [] ++ .started thread :: before ∧ thread.selectedDrive = stick ∧
      TargetsClicked w.log := by
  have hlog : ((machine (withStick true)).exec (initializePage (withStick true) {})
      formatStick).map log = some
      [.started ⟨stick, "", true, none, false⟩, .clicked stick, .refreshed [stick], .listed [stick],
        .leftAdmin .formatLink] := by
    decide
  obtain ⟨w, hexec, hlog⟩ := Option.map_eq_some_iff.mp hlog
  have hrun : (machine (withStick true)).Run formatStick w := .of_exec rfl hexec
  refine ⟨w, _, _, hrun, hlog, rfl, (targetsClicked_iff (withStick true) formatStick w hrun).mpr ?_⟩
  rw [hlog]
  exact ⟨Or.inl rfl, trivial, trivial, trivial, trivial, trivial⟩

/-- A second stick, of sixteen gigabytes. -/
def otherStick : DeviceGuy := ⟨2, "other stick", 17179869184⟩

/-- A machine with both sticks. -/
def withSticks : Environment := { withStick false with getDeviceList _ := [stick, otherStick] }

theorem imageBin_ne_empty : "/image.bin" ≠ "" := by decide

/-- An installer is made on the first stick, and then another one. The user clicks the button of the
other stick, and after it the button of the first stick that has been left on the page. -/
def makeTwo : List Event :=
  [urlArrives, .clickNext, .clickNext, .clickDevice 0, .clickNext, .downloadFinished false,
    .unzipReturns 0 (.file ⟨"/image.bin", imageBin_ne_empty⟩), .unzipFinished 0,
    .diskWriteReturns 0 true true, .doneWriting 0, .makeAnother, .clickNext, .clickDevice 1,
    .clickLeftover 0, .clickNext]

/-- The click on the leftover button is ignored, and the other stick is written. -/
theorem not_targetsClicked_leftover :
    ∃ w thread before, (machine withSticks).Run makeTwo w ∧
      w.log = [] ++ .started thread :: before ∧ lastClick before = some stick ∧
      thread.selectedDrive = otherStick ∧ ¬ TargetsClicked w.log := by
  have hlog : ((machine withSticks).exec (initializePage withSticks {}) makeTwo).map
      (fun w => w.log.take 5) = some
      [.started ⟨otherStick, "/image.bin", false, none, false⟩, .clickedLeftover stick,
        .clicked otherStick, .refreshed [stick, otherStick], .listed [stick, otherStick]] := by
    decide
  obtain ⟨w, hexec, hlog⟩ := Option.map_eq_some_iff.mp hlog
  have hsplit := (List.take_append_drop 5 w.log).symm
  rw [hlog] at hsplit
  refine ⟨w, _, _, .of_exec rfl hexec, hsplit, rfl, rfl, fun htarget => ?_⟩
  obtain ⟨_, _, _, -, -, -, hclick, -, -⟩ := htarget [] _ _ hsplit
  exact absurd (Option.some.inj hclick) (by decide)

end UsbMaker.Wizard
