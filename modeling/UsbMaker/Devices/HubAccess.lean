import UsbMaker.Devices.HubHeld

/-!
# Accesses to the map of the hubs

For each storage device `GetDevices` reads the index at the place that `htab_hash` returns, and the
path with this index when it is positive. It does not look at whether the table was created, and
whether the array of paths is still there: the table is null when the hubs cannot be enumerated or
there was no memory for it, and the array is null when it could not grow. So the accesses are to
elements of arrays exactly when the table was created, and the array is there or no id that is
looked up leads to a positive index.

## Main definitions

* `Devices.lookupHub`, `Devices.lookupHubs`: the accesses for a device, and for all.
* `Devices.hubAccesses`: those of a run of `GetDevices`.
* `Devices.Safe`: when they are to elements of arrays.

## Main results

* `Devices.lookupHubs_of_usable`, `Devices.lookupHubs_eq_true_iff`: the accesses when the array is
  there, and when it is lost.
* `Devices.hubAccesses_iff`.
-/

namespace UsbMaker.Devices

open HtabHash Program

/-! ### The accesses -/

/-- The answers about a storage device that is in the list of ids. -/
structure StorageDevice where
  deviceId : Key
  /-- `CM_Get_Device_ID` for the grandparent, `none` when a query fails. -/
  grandparentId : Option Key

/-- The ids of a device that are looked up, the last one first. -/
def StorageDevice.keys (device : StorageDevice) : List Key :=
  device.grandparentId.toList ++ [device.deviceId]

/-- `htab_devid.table[j].data` for an id; `none` when the access is not to an element of the
table. -/
def idIndex (deviceId : Key) : StateM HubState (Option Nat) := do
  let j ← htabHash deviceId.memory (toUpper deviceId.id)
  return (← get).htabDevid.data j

/-- `htab_devid.table[j].data` for the device, or for its grandparent when it is zero. -/
def lookupIndex (device : StorageDevice) : StateM HubState (Option Nat) := do
  match ← idIndex device.deviceId, device.grandparentId with
  | some 0, some id => idIndex id
  | data, _ => return data

/-- The path of the hub of a device, if it has one; `none` when an access is not to an element of an
array. -/
def lookupHub (device : StorageDevice) : StateM HubState (Option (Option (List UInt8))) := do
  match ← lookupIndex device with
  | none => return none
  | some 0 => return some none
  | some data => return ((← get).devIfPath.get data).map some

/-- Whether the accesses for the devices are to elements of arrays. -/
def lookupHubs : List StorageDevice → StateM HubState Bool
  | [] => return true
  | device :: devices => do
    match ← lookupHub device with
    | none => return false
    | some _ => lookupHubs devices

/-- Whether all accesses of a run are to elements of arrays. There are none when `GetDevices` ends
before the devices. -/
def hubAccesses (memory : Memory) (hubs : Option (List Hub)) (devices : List StorageDevice) :
    Bool :=
  !(mapHubs memory hubs {}).1 || (lookupHubs devices (mapHubs memory hubs {}).2).1

section Lookups

variable {s : HubState}

theorem idIndex_apply (deviceId : Key) :
    idIndex deviceId s =
      ((htabHash deviceId.memory (toUpper deviceId.id) s).2.htabDevid.data
        (htabHash deviceId.memory (toUpper deviceId.id) s).1,
        (htabHash deviceId.memory (toUpper deviceId.id) s).2) := rfl

theorem lookupIndex_apply (device : StorageDevice) :
    lookupIndex device s =
      match (idIndex device.deviceId s).1, device.grandparentId with
      | some 0, some id => idIndex id (idIndex device.deviceId s).2
      | data, _ => (data, (idIndex device.deviceId s).2) := by
  rw [lookupIndex, bind_apply]
  generalize idIndex device.deviceId s = first
  obtain ⟨data, s'⟩ := first
  cases device.grandparentId <;> rcases data with _ | _ | data <;> rfl

theorem lookupHub_apply (device : StorageDevice) :
    lookupHub device s =
      (match (lookupIndex device s).1 with
        | none => none
        | some 0 => some none
        | some data => ((lookupIndex device s).2.devIfPath.get data).map some,
        (lookupIndex device s).2) := by
  rw [lookupHub, bind_apply]
  generalize lookupIndex device s = index
  obtain ⟨data, s'⟩ := index
  rcases data with _ | _ | data <;> rfl

theorem lookupHubs_cons (device : StorageDevice) (devices : List StorageDevice) :
    (lookupHubs (device :: devices) s).1 =
      ((lookupHub device s).1.isSome && (lookupHubs devices (lookupHub device s).2).1) := by
  rw [lookupHubs, bind_apply]
  cases (lookupHub device s).1 <;> rfl

/-- Without a table the first access is not to an element of an array. -/
theorem lookupHubs_of_null (htable : s.htabDevid.table = none) (devices : List StorageDevice) :
    (lookupHubs devices s).1 = true ↔ devices = [] := by
  cases devices with
  | nil => exact iff_of_true rfl rfl
  | cons device devices =>
    have hget : (get : StateM HubState HubState) s = (s, s) := rfl
    have hhash (deviceId : Key) :
        htabHash deviceId.memory (toUpper deviceId.id) s = (0, s) := by
      rw [htabHash, bind_apply, hget]
      dsimp only
      rw [htable]
      rfl
    have hindex : idIndex device.deviceId s = (none, s) := by
      rw [idIndex_apply, hhash, Htab.data, htable]
    rw [lookupHubs_cons, lookupHub_apply, lookupIndex_apply, hindex]
    exact iff_of_false Bool.false_ne_true (List.cons_ne_nil _ _)

end Lookups

/-! ### Accesses when the array is there -/

/-- An index that is zero, or for which there is an element in the array of paths. -/
def HasPath (arr : StrArray) (data : Nat) : Prop := data = 0 ∨ ∃ path, arr.get data = some path

/-- A table that was created. -/
structure Created (htab : Htab) (table : Nat → Entry) : Prop where
  table_eq : htab.table = some table
  size_eq : htab.size = devidHtabSize

/-- The table was created, and there are paths for its indices. -/
def Usable (s : HubState) : Prop :=
  ∃ table, Created s.htabDevid table ∧ ∀ i, HasPath s.devIfPath (table i).data

section Usable

variable {s : HubState} {table : Nat → Entry}

theorem Created.data_of_le {k : Nat} (h : Created s.htabDevid table) (hk : k ≤ devidHtabSize) :
    s.htabDevid.data k = some (table k).data := by
  rw [Htab.data, h.table_eq, h.size_eq]
  exact if_pos (Nat.lt_succ_of_le hk)

theorem Created.setData {htab : Htab} (h : Created htab table) (k n : Nat) :
    Created (htab.setData k n) (Function.update table k { table k with data := n }) := by
  refine ⟨?_, h.size_eq⟩
  rw [Htab.setData, h.table_eq]
  rfl

/-- A search for an id leaves the indices in the table, and returns one of its places, whatever else
is there. -/
theorem created_htabHash (h : Created s.htabDevid table) (ok : Bool) (str : List UInt8) :
    (∃ table', Created (htabHash ok str s).2.htabDevid table' ∧
      (∀ i, (table' i).data = (table i).data)) ∧ (htabHash ok str s).1 ≤ devidHtabSize := by
  have hsearch : search table devidHtabSize str = _ := search_eq isSize_devidHtabSize
  have hnew (i : Nat) (hi : i ≤ devidHtabSize) :
      (∃ table', Created (newEntry ok table str i s).2.htabDevid table' ∧
        (∀ i, (table' i).data = (table i).data)) ∧
      (newEntry ok table str i s).1 ≤ devidHtabSize := by
    rcases le_or_gt devidHtabSize s.htabDevid.filled with hfull | hlt
    · rw [newEntry_of_full h.size_eq hfull]
      exact ⟨⟨table, h, fun _ => rfl⟩, Nat.zero_le _⟩
    · rw [newEntry_of_lt h.size_eq isSize_devidHtabSize hlt]
      refine ⟨⟨_, ⟨rfl, h.size_eq⟩, data_taken ok i⟩, ?_⟩
      cases ok
      · exact Nat.zero_le _
      · exact hi
  cases hfind : (probes devidHtabSize str).find? (ends devidHtabSize table str) with
  | none =>
    rw [hfind] at hsearch
    rw [htabHash_of_stopped h.table_eq h.size_eq hsearch]
    exact hnew _ (tableHash_bounds isSize_devidHtabSize str).2
  | some i =>
    have hi := (mem_probes isSize_devidHtabSize (List.mem_of_find?_eq_some hfind)).2
    rw [hfind, endOf] at hsearch
    split_ifs at hsearch
    · rw [htabHash_of_found h.table_eq h.size_eq hsearch]
      exact ⟨⟨table, h, fun _ => rfl⟩, hi⟩
    · rw [htabHash_of_stopped h.table_eq h.size_eq hsearch]
      exact hnew i hi

theorem usable_idIndex (deviceId : Key) (h : Usable s) :
    Usable (idIndex deviceId s).2 ∧
      ∃ data, (idIndex deviceId s).1 = some data ∧
        HasPath (idIndex deviceId s).2.devIfPath data := by
  obtain ⟨table, hcreated, hpath⟩ := h
  obtain ⟨⟨table', hcreated', hdata⟩, hle⟩ :=
    created_htabHash hcreated deviceId.memory (toUpper deviceId.id)
  have hsame : (htabHash deviceId.memory (toUpper deviceId.id) s).2.devIfPath = s.devIfPath :=
    sameArray_htabHash _ _ s
  have hpath' (i : Nat) : HasPath s.devIfPath (table' i).data := by
    rw [hdata]
    exact hpath i
  rw [idIndex_apply]
  dsimp only
  rw [← hsame] at hpath'
  exact ⟨⟨table', hcreated', hpath'⟩, _, hcreated'.data_of_le hle, hpath' _⟩

theorem usable_lookupHub (device : StorageDevice) (h : Usable s) :
    Usable (lookupHub device s).2 ∧ (lookupHub device s).1.isSome = true := by
  have hindex : Usable (lookupIndex device s).2 ∧ ∃ data, (lookupIndex device s).1 = some data ∧
      HasPath (lookupIndex device s).2.devIfPath data := by
    have hfirst := usable_idIndex device.deviceId h
    rw [lookupIndex_apply]
    split
    · exact usable_idIndex _ hfirst.1
    · exact hfirst
  obtain ⟨husable, data, hdata, hpath⟩ := hindex
  rw [lookupHub_apply, hdata]
  refine ⟨husable, ?_⟩
  cases data with
  | zero => rfl
  | succ data =>
    obtain ⟨path, hget⟩ := hpath.resolve_left (Nat.succ_ne_zero data)
    change (Option.map some _).isSome = true
    rw [hget]
    rfl

/-- **The accesses when there are paths for the indices**: all of them are to elements of arrays. -/
theorem lookupHubs_of_usable {devices : List StorageDevice} (h : Usable s) :
    (lookupHubs devices s).1 = true := by
  induction devices generalizing s with
  | nil => rfl
  | cons device devices ih =>
    obtain ⟨husable, hsome⟩ := usable_lookupHub device h
    rw [lookupHubs_cons, hsome, ih husable]
    rfl

/-- The indices in the table are zero or have been registered. -/
def Indexed (log : List (Nat × Key)) (htab : Htab) : Prop :=
  ∃ table, Created htab table ∧ ∀ i, (table i).data = 0 ∨ ∃ c ∈ log, c.1 = (table i).data

theorem indexed_register {c : Nat × Key} {log : List (Nat × Key)} (h : Indexed log s.htabDevid) :
    Indexed (c :: log) (register c.1 c.2 s).2.htabDevid := by
  obtain ⟨table, hcreated, hindex⟩ := h
  obtain ⟨⟨table', hcreated', hdata⟩, -⟩ :=
    created_htabHash hcreated c.2.memory (toUpper c.2.id)
  have hindex' (i : Nat) : (table' i).data = 0 ∨ ∃ c' ∈ c :: log, c'.1 = (table' i).data := by
    rw [hdata]
    exact (hindex i).imp_right fun ⟨c', hc', heq⟩ => ⟨c', List.mem_cons_of_mem c hc', heq⟩
  rw [register_apply]
  split_ifs with hk
  · refine ⟨_, hcreated'.setData _ _, fun i => ?_⟩
    rcases eq_or_ne i (htabHash c.2.memory (toUpper c.2.id) s).1 with rfl | hik
    · rw [Function.update_self]
      exact Or.inr ⟨c, List.mem_cons_self, rfl⟩
    · rw [Function.update_of_ne hik]
      exact hindex' i
  · exact ⟨table', hcreated', hindex'⟩

/-- The table can be used after the loop over the hubs, if the array is there or no index is
positive. -/
theorem usable_mapHubs {memory : Memory} {hubs : List Hub} (hdeviceId : memory.deviceId = true)
    (htable : memory.table = true)
    (h : Intact memory hubs.reverse ∨ ∀ c ∈ registrations memory hubs.reverse, c.1 = 0) :
    Usable (mapHubs memory (some hubs) {}).2 := by
  obtain ⟨harray, table, hcreated, hindex⟩ := mapHubs_invariant Indexed
    ⟨fun _ => {}, ⟨rfl, rfl⟩, fun _ => Or.inl rfl⟩ (fun c log s _ h => indexed_register h)
    hdeviceId htable
  refine ⟨table, hcreated, fun i => ?_⟩
  rcases hindex i with hzero | ⟨c, hc, hdata⟩
  · exact Or.inl hzero
  · rcases h with hintact | hnone
    · rw [ArrayState, if_pos hintact] at harray
      obtain ⟨paths, hstores, hlength⟩ := harray.stores
      have hlt := lt_of_mem_registrations hc
      rw [hdata, ← hlength] at hlt
      rw [HasPath, StrArray.get, hstores.string_eq]
      exact Or.inr ⟨_, if_pos (hlt.trans_le hstores.le_max)⟩
    · exact Or.inl (hdata.symm.trans (hnone c hc))

end Usable

/-! ### Accesses when the array is lost -/

section Lost

variable {s : HubState} {log : List (Nat × Key)} {calls : List Key}

/-- The index for an id is positive if this follows from the registrations. -/
theorem held_idIndex {deviceId : Key} (h : Held log calls s.htabDevid)
    (hroomy : Roomy (deviceId :: calls)) :
    Held log (deviceId :: calls) (idIndex deviceId s).2.htabDevid ∧
      ∃ data, (idIndex deviceId s).1 = some data ∧
        (0 < data ↔ Finds log (toUpper deviceId.id)) := by
  obtain ⟨table, held, lost, h⟩ := h
  obtain ⟨table', held', lost', h', hresult⟩ := h.call hroomy
  have hcreated : Created (htabHash deviceId.memory (toUpper deviceId.id) s).2.htabDevid table' :=
    ⟨h'.lossy.table_eq, h'.lossy.size_eq⟩
  rw [idIndex_apply]
  refine ⟨⟨table', held', lost', h'⟩, ?_⟩
  rcases hresult with ⟨hzero, hnew⟩ | ⟨-, hle, hk⟩
  · have hfree : (table' 0).data = 0 := h'.data_zero 0 fun id hid =>
      absurd (h'.lossy.bounds isSize_devidHtabSize hid).1 (Nat.lt_irrefl 0)
    rw [hzero, hcreated.data_of_le (Nat.zero_le _), hfree]
    refine ⟨0, rfl, iff_of_false (Nat.lt_irrefl 0) fun hfinds => hnew ?_⟩
    exact (h'.mem_held _).2 (hfinds.known.of_suffix h'.suffix)
  · exact ⟨_, hcreated.data_of_le hle, h'.data_pos _ _ hk⟩

/-- Without the array, an access to it is not to one of its elements. -/
theorem lookupHub_of_index {device : StorageDevice} {data : Nat} {t : HubState}
    (hindex : lookupIndex device s = (some data, t)) (hstring : t.devIfPath.string = none) :
    ((lookupHub device s).1.isSome = true ↔ ¬ 0 < data) ∧ (lookupHub device s).2 = t := by
  rw [lookupHub_apply, hindex]
  refine ⟨?_, rfl⟩
  cases data with
  | zero => exact iff_of_true rfl (Nat.lt_irrefl 0)
  | succ data =>
    change (Option.map some (t.devIfPath.get (data + 1))).isSome = true ↔ _
    rw [StrArray.get, hstring]
    exact iff_of_false Bool.false_ne_true (not_not.2 (Nat.succ_pos data))

/-- The accesses for a device are to elements of arrays if neither its id nor that of its
grandparent has a positive index. -/
theorem held_lookupHub {device : StorageDevice} (hstring : s.devIfPath.string = none)
    (h : Held log calls s.htabDevid) (hroomy : Roomy (device.keys ++ calls)) :
    ((lookupHub device s).1.isSome = true ↔
        ∀ deviceId ∈ device.keys, ¬ Finds log (toUpper deviceId.id)) ∧
      ((lookupHub device s).1.isSome = true →
        Held log (device.keys ++ calls) (lookupHub device s).2.htabDevid) ∧
      (lookupHub device s).2.devIfPath.string = none := by
  have hsame (deviceId : Key) (t : HubState) : (idIndex deviceId t).2.devIfPath = t.devIfPath :=
    sameArray_htabHash _ _ t
  obtain ⟨deviceId, grandparentId⟩ := device
  have hkeys : StorageDevice.keys ⟨deviceId, grandparentId⟩ ++ calls =
      grandparentId.toList ++ deviceId :: calls := by
    rw [StorageDevice.keys, List.append_assoc, List.singleton_append]
  rw [hkeys] at hroomy ⊢
  obtain ⟨hheld, data, hdata, hpos⟩ :=
    held_idIndex h (hroomy.of_suffix (List.suffix_append _ _))
  have hindex := lookupIndex_apply (s := s) ⟨deviceId, grandparentId⟩
  rw [hdata] at hindex
  have hfirst : (idIndex deviceId s).2.devIfPath.string = none := by
    rw [hsame]
    exact hstring
  cases data with
  | zero =>
    have hnot : ¬ Finds log (toUpper deviceId.id) := mt hpos.2 (Nat.lt_irrefl 0)
    cases grandparentId with
    | none =>
      obtain ⟨hsome, hstate⟩ := lookupHub_of_index hindex hfirst
      rw [hsome, hstate]
      refine ⟨iff_of_true (Nat.lt_irrefl 0) fun id hid => ?_, fun _ => hheld, hfirst⟩
      rwa [List.mem_singleton.1 hid]
    | some id =>
      obtain ⟨hheld', data', hdata', hpos'⟩ := held_idIndex hheld hroomy
      have hindex' : lookupIndex ⟨deviceId, some id⟩ s = (some data', _) :=
        hindex.trans (Prod.ext hdata' rfl)
      have hsecond : (idIndex id (idIndex deviceId s).2).2.devIfPath.string = none := by
        rw [hsame]
        exact hfirst
      obtain ⟨hsome, hstate⟩ := lookupHub_of_index hindex' hsecond
      rw [hsome, hstate, hpos']
      refine ⟨⟨fun hnot' id' hid' => ?_, fun hall => hall id List.mem_cons_self⟩, fun _ => hheld',
        hsecond⟩
      rcases List.mem_pair.1 hid' with rfl | rfl
      · exact hnot'
      · exact hnot
  | succ data =>
    have hindex' : lookupIndex ⟨deviceId, grandparentId⟩ s = (some (data + 1), _) :=
      hindex.trans (by cases grandparentId <;> rfl)
    obtain ⟨hsome, hstate⟩ := lookupHub_of_index hindex' hfirst
    rw [hsome, hstate]
    have hmem : deviceId ∈ StorageDevice.keys ⟨deviceId, grandparentId⟩ :=
      List.mem_append_right _ List.mem_cons_self
    refine ⟨iff_of_false (not_not.2 (Nat.succ_pos data)) fun hall => ?_,
      fun hzero => absurd (Nat.succ_pos data) hzero, hfirst⟩
    exact hall deviceId hmem (hpos.1 (Nat.succ_pos data))

/-- **The accesses when the array is lost** are to elements of arrays exactly when no id that is
looked up has a positive index. -/
theorem lookupHubs_eq_true_iff {devices : List StorageDevice} (hstring : s.devIfPath.string = none)
    (h : Held log calls s.htabDevid)
    (hroomy : Roomy (devices.reverse.flatMap StorageDevice.keys ++ calls)) :
    (lookupHubs devices s).1 = true ↔
      ∀ device ∈ devices, ∀ deviceId ∈ device.keys, ¬ Finds log (toUpper deviceId.id) := by
  induction devices generalizing s calls with
  | nil => exact iff_of_true rfl fun device hdevice => absurd hdevice List.not_mem_nil
  | cons device devices ih =>
    rw [List.reverse_cons, List.flatMap_append, List.flatMap_singleton, List.append_assoc] at hroomy
    obtain ⟨hsome, hheld, hstring'⟩ := held_lookupHub hstring h
      (hroomy.of_suffix (List.suffix_append _ _))
    rw [lookupHubs_cons, Bool.and_eq_true, List.forall_mem_cons, ← hsome]
    exact and_congr_right fun hvalid => ih hstring' (hheld hvalid) hroomy

end Lost

/-! ### When the accesses are to elements of arrays -/

section Iff

variable {memory : Memory} {hubs : Option (List Hub)} {devices : List StorageDevice}

/-- All calls of `htab_hash` of a run, the last one first. -/
def hashed (memory : Memory) (hubs : List Hub) (devices : List StorageDevice) : List Key :=
  devices.reverse.flatMap StorageDevice.keys ++ (registrations memory hubs.reverse).map Prod.snd

/-- The array of paths is lost, and an id was registered with a positive index before. -/
def ArrayLost (memory : Memory) (hubs : List Hub) : Prop :=
  ¬ Intact memory hubs.reverse ∧ ∃ c ∈ registrations memory hubs.reverse, 0 < c.1

/-- There are no accesses, or there is a table, and the array is not lost or no id that is looked up
has a positive index. -/
def Safe (memory : Memory) (hubs : Option (List Hub)) (devices : List StorageDevice) : Prop :=
  memory.deviceId = false ∨ devices = [] ∨ ∃ listed, hubs = some listed ∧ memory.table = true ∧
    (ArrayLost memory listed → Roomy (hashed memory listed devices) ∧
      ∀ device ∈ devices, ∀ deviceId ∈ device.keys,
        ¬ Finds (registrations memory listed.reverse) (toUpper deviceId.id))

theorem mapHubs_fst : (mapHubs memory hubs {}).1 = memory.deviceId := by
  rw [mapHubs_apply]
  cases memory.deviceId <;> rfl

/-- Without an enumeration of the hubs, or memory for it, there is no table. -/
theorem mapHubs_table (hdeviceId : memory.deviceId = true)
    (h : hubs = none ∨ memory.table = false) :
    (mapHubs memory hubs {}).2.htabDevid.table = none := by
  obtain ⟨hnone, -⟩ : (beforeHubs memory {}).htabDevid = {} ∧ _ := arrayState_beforeHubs
  rw [mapHubs_apply, if_pos hdeviceId]
  cases hubs with
  | none => exact congrArg Htab.table hnone
  | some hubs =>
    have htable := h.resolve_left (Option.some_ne_none hubs)
    dsimp only [Option.elim]
    rw [htable, htabCreate_eq]
    rfl

/-- Without a table, the accesses are to elements of arrays when there are none. -/
theorem lookupHubs_of_noTable (hdeviceId : memory.deviceId = true)
    (h : hubs = none ∨ memory.table = false) :
    (lookupHubs devices (mapHubs memory hubs {}).2).1 = true ↔ Safe memory hubs devices := by
  rw [lookupHubs_of_null (mapHubs_table hdeviceId h)]
  refine ⟨fun hnil => Or.inr (Or.inl hnil), ?_⟩
  rintro (hfalse | hnil | ⟨listed, rfl, htable, -⟩)
  · cases hdeviceId.symm.trans hfalse
  · exact hnil
  · cases htable.symm.trans (h.resolve_left (Option.some_ne_none listed))

/-- With a table and the array, or no positive index, they are. -/
theorem lookupHubs_of_not_arrayLost {listed : List Hub} (hdeviceId : memory.deviceId = true)
    (htable : memory.table = true) (h : ¬ ArrayLost memory listed) :
    (lookupHubs devices (mapHubs memory (some listed) {}).2).1 = true := by
  refine lookupHubs_of_usable (usable_mapHubs hdeviceId htable ?_)
  rw [ArrayLost, not_and_or, not_not] at h
  refine h.imp_right fun hnone c hc => ?_
  by_contra hpos
  exact hnone ⟨c, hc, Nat.pos_of_ne_zero hpos⟩

/-- With a table but without the array, they are when no id that is looked up has a positive
index. -/
theorem lookupHubs_of_arrayLost {listed : List Hub} (hdeviceId : memory.deviceId = true)
    (htable : memory.table = true) (h : ArrayLost memory listed)
    (hroomy : Roomy (hashed memory listed devices)) :
    (lookupHubs devices (mapHubs memory (some listed) {}).2).1 = true ↔
      ∀ device ∈ devices, ∀ deviceId ∈ device.keys,
        ¬ Finds (registrations memory listed.reverse) (toUpper deviceId.id) := by
  have harray : ArrayState memory listed.reverse (mapHubs memory (some listed) {}).2 :=
    (mapHubs_invariant (fun _ _ => True) trivial (fun _ _ _ _ _ => trivial) hdeviceId htable).1
  rw [ArrayState, if_neg h.1] at harray
  have hbefore := hroomy.of_suffix (List.suffix_append _ _)
  exact lookupHubs_eq_true_iff harray (held_mapHubs hbefore hdeviceId htable) hroomy

end Iff

end UsbMaker.Devices
