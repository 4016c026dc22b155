import Mathlib.Data.List.GetD
import Mathlib.Tactic.NormNum.Prime
import UsbMaker.Devices.HubHash
import UsbMaker.Devices.HubMemory

/-!
# What has been registered

The index of a hub in the array of paths is kept in the hash table under the ids of its children. A
`Registry` says the same with functions: the paths, the index that an id was last registered with,
and the ids that the table has seen. As long as there is memory, the table and the array stand for a
registry. An id that there was no place for is registered there too, but not in the table. The table
has 257 places, which is a prime, so that what holds of the calls of `htab_hash` holds of it.

## Main definitions

* `Devices.Registry`, `Devices.Registry.Valid`.
* `Devices.Represents`: the table and the array of paths stand for a registry.

## Main results

* `Devices.Represents.see`, `Devices.register_eq`: searches and registrations.
* `Devices.represented_mapHubs`: the table and the array after the loop over the hubs.
-/

namespace UsbMaker.Devices

open HtabHash Program Probing

theorem isSize_devidHtabSize : IsSize devidHtabSize :=
  ⟨by rw [devidHtabSize]; norm_num, by decide, by decide⟩

/-! ### What has been registered -/

/-- The paths of the hubs, the index that an id was last registered with, zero for none, and the ids
that the table has seen. -/
structure Registry where
  paths : List (List UInt8)
  index : List UInt8 → Nat
  seen : Finset (List UInt8)

namespace Registry

/-- No hub has been registered, and the path with index zero is empty. -/
def initial : Registry := ⟨[[]], fun _ => 0, ∅⟩

/-- An id is looked up. -/
def see (r : Registry) (id : List UInt8) : Registry := { r with seen := insert id r.seen }

/-- An id is registered with an index. -/
def register (n : Nat) (r : Registry) (id : List UInt8) : Registry :=
  { r with index := Function.update r.index id n, seen := insert id r.seen }

/-- A path is added. -/
def addPath (r : Registry) (path : List UInt8) : Registry := { r with paths := r.paths ++ [path] }

/-- What has been registered for an id. -/
def pathOf (r : Registry) (id : List UInt8) : List UInt8 := r.paths.getD (r.index id) []

/-- The empty path comes first, there is a path for every index, and what was not seen was not
registered. -/
structure Valid (r : Registry) : Prop where
  dummy : r.paths.getD 0 [] = []
  index_lt : ∀ id, r.index id < r.paths.length
  unseen : ∀ id, id ∉ r.seen → r.index id = 0

theorem valid_initial : initial.Valid := ⟨rfl, fun _ => Nat.one_pos, fun _ _ => rfl⟩

section Valid

variable {r : Registry} (h : r.Valid)

include h

theorem Valid.see (id : List UInt8) : (r.see id).Valid :=
  ⟨h.dummy, h.index_lt, fun id' hid' => h.unseen id' fun hmem =>
    hid' (Finset.mem_insert_of_mem hmem)⟩

theorem Valid.register {n : Nat} (hn : n < r.paths.length) (id : List UInt8) :
    (r.register n id).Valid := by
  refine ⟨h.dummy, fun id' => ?_, fun id' hid' => ?_⟩
  · change Function.update r.index id n id' < r.paths.length
    rcases eq_or_ne id' id with rfl | hne
    · rwa [Function.update_self]
    · rw [Function.update_of_ne hne]
      exact h.index_lt id'
  · change id' ∉ insert id r.seen at hid'
    rw [Finset.mem_insert, not_or] at hid'
    exact (Function.update_of_ne hid'.1 ..).trans (h.unseen id' hid'.2)

theorem Valid.addPath (path : List UInt8) : (r.addPath path).Valid := by
  refine ⟨?_, fun id => ?_, h.unseen⟩
  · have hlen := h.index_lt []
    exact (List.getD_append _ _ _ _ (by omega)).trans h.dummy
  · refine (h.index_lt id).trans ?_
    rw [Registry.addPath, List.length_append]
    exact Nat.lt_succ_self _

end Valid

end Registry

/-- The table and the array of paths stand for a registry. -/
structure Represents (s : HubState) (r : Registry) (table : Nat → Entry) : Prop where
  valid : r.Valid
  sound : Sound devidHtabSize s.htabDevid table
  stores : Stores s.devIfPath r.paths
  settled : ∀ id ∈ r.seen, Settled (probes devidHtabSize) (keys table) id
  seen : ∀ i id, keys table i = some id → id ∈ r.seen
  data_eq : ∀ i id, keys table i = some id → (table i).data = r.index id
  free_eq : ∀ i, keys table i = none → (table i).data = 0

section Represents

variable {s : HubState} {r : Registry} {table : Nat → Entry}

/-- A search in a table that stands for a registry. -/
theorem Represents.see {ok : Bool} {str : List UInt8} (h : Represents s r table)
    (hok : (htabHash ok str s).2.failed = false) :
    ∃ table', Represents (htabHash ok str s).2 (r.see str) table' ∧
      (htabHash ok str s).1 = (place (probes devidHtabSize) (keys table') str).getD 0 := by
  obtain ⟨table', hsearched⟩ := htabHash_eq isSize_devidHtabSize h.sound
    fun i => memory_of_ok isSize_devidHtabSize h.sound hok
  have hkeys := hsearched.keys_eq
  refine ⟨table', ⟨h.valid.see str, hsearched.sound, ?_, ?_, ?_, ?_, ?_⟩, ?_⟩
  · rw [hsearched.devIfPath_eq]
    exact h.stores
  · intro id hid
    rw [hkeys]
    rcases Finset.mem_insert.1 hid with rfl | hid
    · exact settled_add_self
    · exact (h.settled id hid).add
  · intro i id hi
    rw [hkeys, add_eq_some_iff] at hi
    rcases hi with hi | ⟨rfl, -⟩
    · exact Finset.mem_insert_of_mem (h.seen i id hi)
    · exact Finset.mem_insert_self _ _
  · intro i id hi
    rw [hsearched.data_eq]
    rw [hkeys, add_eq_some_iff] at hi
    rcases hi with hi | ⟨rfl, hplace⟩
    · exact h.data_eq i id hi
    · rcases (accepts_of_place hplace).2 with hfree | hkey
      · -- a free place is found only for an id that was not seen
        rw [h.free_eq i hfree]
        refine (h.valid.unseen id fun hid => ?_).symm
        rw [h.settled id hid i hplace] at hfree
        cases hfree
      · exact h.data_eq i id hkey
  · intro i hfree
    rw [hsearched.data_eq]
    refine h.free_eq i ?_
    cases hkey : keys table i with
    | none => rfl
    | some key =>
      rw [hkeys, add_eq_some_iff.2 (Or.inl hkey)] at hfree
      cases hfree
  · rw [hsearched.result_eq, hkeys]
    cases hplace : place (probes devidHtabSize) (keys table) str with
    | none => rw [place_add_of_none hplace]
    | some i => rw [place_add hplace (add_self hplace)]

/-- An assignment to the data of an id. -/
theorem Represents.setData {str : List UInt8} {k n : Nat} (h : Represents s r table)
    (hmem : str ∈ r.seen) (hn : n < r.paths.length) (hk : keys table k = some str) :
    Represents { s with htabDevid := s.htabDevid.setData k n } (r.register n str)
      (Function.update table k { table k with data := n }) := by
  have hkeys : keys (Function.update table k { table k with data := n }) = keys table :=
    keys_setData k n
  have hseen : (r.register n str).seen = r.seen := Finset.insert_eq_of_mem hmem
  have hsound := h.sound
  refine ⟨h.valid.register hn str, hsound.setData k n, h.stores, ?_, ?_, ?_, ?_⟩
  · rw [hkeys, hseen]
    exact h.settled
  · rw [hkeys, hseen]
    exact h.seen
  · rw [hkeys]
    intro i id hi
    change _ = Function.update r.index str n id
    rcases eq_or_ne i k with rfl | hik
    · rw [hk, Option.some.injEq] at hi
      rw [Function.update_self, hi, Function.update_self]
    · have hne : id ≠ str := fun heq => hik (hsound.placed.injective hi (heq ▸ hk))
      rw [Function.update_of_ne hik, Function.update_of_ne hne]
      exact h.data_eq i id hi
  · rw [hkeys]
    intro i hi
    rcases eq_or_ne i k with rfl | hik
    · rw [hk] at hi
      cases hi
    · rw [Function.update_of_ne hik]
      exact h.free_eq i hi

/-- The table and the array of paths stand for a registry, whatever the entries are. -/
def Represented (s : HubState) (r : Registry) : Prop := ∃ table, Represents s r table

/-- An id for which there is no place is not registered in the table. -/
theorem Represents.register_of_none {str : List UInt8} {n : Nat} (h : Represents s r table)
    (hmem : str ∈ r.seen) (hn : n < r.paths.length)
    (hplace : place (probes devidHtabSize) (keys table) str = none) :
    Represents s (r.register n str) table := by
  have hseen : (r.register n str).seen = r.seen := Finset.insert_eq_of_mem hmem
  refine ⟨h.valid.register hn str, h.sound, h.stores, ?_, ?_, fun i id hi => ?_, h.free_eq⟩
  · rw [hseen]
    exact h.settled
  · rw [hseen]
    exact h.seen
  · have hne : id ≠ str := by
      rintro rfl
      rw [h.sound.placed i id hi] at hplace
      cases hplace
    exact (h.data_eq i id hi).trans (Function.update_of_ne hne ..).symm

/-- A registration is a call of `htab_hash` and an assignment to the data of its place. -/
theorem register_apply (n : Nat) (deviceId : Key) (s : HubState) :
    register n deviceId s =
      ((), if (htabHash deviceId.memory (toUpper deviceId.id) s).1 ≠ 0 then
        { (htabHash deviceId.memory (toUpper deviceId.id) s).2 with
          htabDevid := (htabHash deviceId.memory (toUpper deviceId.id) s).2.htabDevid.setData
            (htabHash deviceId.memory (toUpper deviceId.id) s).1 n }
        else (htabHash deviceId.memory (toUpper deviceId.id) s).2) := by
  rw [register, bind_apply]
  split_ifs <;> rfl

theorem register_eq {n : Nat} {deviceId : Key} (h : Represented s r)
    (hn : n < r.paths.length) (hok : (register n deviceId s).2.failed = false) :
    Represented (register n deviceId s).2 (r.register n (toUpper deviceId.id)) := by
  obtain ⟨table, h⟩ := h
  have hok' : (htabHash deviceId.memory (toUpper deviceId.id) s).2.failed = false := by
    rw [register_apply] at hok
    split_ifs at hok
    · exact hok
    · exact hok
  obtain ⟨table', h', hresult⟩ := h.see hok'
  have hmem : toUpper deviceId.id ∈ (r.see (toUpper deviceId.id)).seen :=
    Finset.mem_insert_self _ _
  have hsame : (r.see (toUpper deviceId.id)).register n (toUpper deviceId.id) =
      r.register n (toUpper deviceId.id) := by
    rw [Registry.register, Registry.register, Registry.see, Finset.insert_idem]
  rw [register_apply, hresult, ← hsame]
  cases hplace : place (probes devidHtabSize) (keys table') (toUpper deviceId.id) with
  | none => exact ⟨table', h'.register_of_none hmem hn hplace⟩
  | some k =>
    have hpos := (mem_probes isSize_devidHtabSize (accepts_of_place hplace).1).1
    rw [Option.getD_some, if_pos hpos.ne']
    exact ⟨_, h'.setData hmem hn (h'.settled _ hmem k hplace)⟩

end Represents

/-! ### The loop over the hubs -/

/-- What a hub has listed: its path and the ids of its children. -/
def Hub.listing (hub : Hub) : Option (List UInt8 × List Key) :=
  if hub.interface ∧ hub.children ≠ [] then hub.devicePath.map fun path => (path, hub.childIds)
  else none

/-- The ids of a hub that are put in the table, as they are put there. -/
def Hub.ids (hub : Hub) : List (List UInt8) :=
  (hub.listing.elim [] Prod.snd).map fun deviceId => toUpper deviceId.id

/-- The ids are registered with the path, which is added. -/
def Registry.addHub (r : Registry) (hub : Hub) : Registry :=
  match hub.listing with
  | none => r
  | some (path, _) => hub.ids.foldl (register r.paths.length) (r.addPath path)

section Loop

variable {s : HubState} {r : Registry}

/-- A loop of which every turn is a step of something else. -/
theorem forM_foldl {α ρ : Type} (I : HubState → ρ → Prop) {body : α → StateM HubState Unit}
    (step : ρ → α → ρ) (hremembers : ∀ a, Keeps Remembers (body a))
    (hstep : ∀ s r a, I s r → (body a s).2.failed = false → I (body a s).2 (step r a))
    (as : List α) {s : HubState} {r : ρ} (h : I s r) (hok : (as.forM body s).2.failed = false) :
    I (as.forM body s).2 (as.foldl step r) := by
  induction as generalizing s r with
  | nil => exact h
  | cons a as ih =>
    have hok' : (as.forM body (body a s).2).2.failed = false := hok
    exact ih (hstep s r a h (remembers_forM hremembers as _ hok')) hok'

theorem register_childIds {n : Nat} (ids : List Key) (h : Represented s r)
    (hn : n < r.paths.length) (hok : (ids.forM (register n) s).2.failed = false) :
    Represented (ids.forM (register n) s).2
      ((ids.map fun deviceId => toUpper deviceId.id).foldl (Registry.register n) r) := by
  rw [List.foldl_map]
  have hrun := forM_foldl (fun s r => Represented s r ∧ n < r.paths.length)
    (fun r deviceId => r.register n (toUpper deviceId.id)) (remembers_register n)
    (fun s r id hI hok => ⟨register_eq hI.1 hI.2 hok, hI.2⟩) ids ⟨h, hn⟩ hok
  exact hrun.1

/-- A path is added to the array. -/
theorem addPath_eq {grows copies : Bool} {path : List UInt8} (h : Represented s r)
    (hok : (strArrayAdd grows copies path s).2.failed = false) :
    (strArrayAdd grows copies path s).1 = r.paths.length ∧
      Represented (strArrayAdd grows copies path s).2 (r.addPath path) := by
  obtain ⟨table, h⟩ := h
  obtain ⟨hresult, hstores, htable⟩ := stores_of_added (added_strArrayAdd h.stores) hok
  refine ⟨hresult, table, h.valid.addPath path, ?_, hstores, h.settled, h.seen, h.data_eq,
    h.free_eq⟩
  rw [htable]
  exact h.sound

/-- A path is added, and the ids of the hub are registered with its index. -/
def addIds (hub : Hub) (path : List UInt8) : StateM HubState Unit := do
  let s ← strArrayAdd hub.grows hub.copies path
  if 0 ≤ s then hub.childIds.forM (register s)

theorem mapHub_of_some {hub : Hub} {path : List UInt8} {ids : List Key}
    (hlisting : hub.listing = some (path, ids)) :
    ids = hub.childIds ∧
      mapHub hub s =
        if hub.details then addIds hub path (allocate hub.details s).2
        else ((), (allocate hub.details s).2) := by
  rw [Hub.listing] at hlisting
  split_ifs at hlisting with hboth
  obtain ⟨path', hpath, heq⟩ := Option.map_eq_some_iff.1 hlisting
  obtain ⟨rfl, rfl⟩ := Prod.mk.inj heq
  rw [mapHub, if_pos hboth.1, bind_apply, hpath]
  dsimp only
  rw [if_neg hboth.2]
  refine ⟨rfl, ?_⟩
  cases hub.details <;> rfl

theorem mapHub_of_none {hub : Hub} (hlisting : hub.listing = none) :
    (mapHub hub s).2.htabDevid = s.htabDevid ∧ (mapHub hub s).2.devIfPath = s.devIfPath := by
  rw [mapHub]
  by_cases hinterface : hub.interface = true
  · rw [if_pos hinterface, bind_apply]
    rw [Hub.listing] at hlisting
    by_cases hchildren : hub.children = []
    · cases hub.devicePath <;> split_ifs <;> exact ⟨rfl, rfl⟩
    · rw [if_pos ⟨hinterface, hchildren⟩, Option.map_eq_none_iff] at hlisting
      rw [hlisting]
      split_ifs <;> exact ⟨rfl, rfl⟩
  · rw [if_neg hinterface]
    exact ⟨rfl, rfl⟩

/-- What is represented does not depend on what has failed. -/
theorem Represented.congr {s' : HubState} (h : Represented s r)
    (htable : s'.htabDevid = s.htabDevid) (hpaths : s'.devIfPath = s.devIfPath) :
    Represented s' r := by
  obtain ⟨table, h⟩ := h
  exact ⟨table, h.valid, htable ▸ h.sound, hpaths ▸ h.stores, h.settled, h.seen, h.data_eq,
    h.free_eq⟩

theorem addIds_apply (hub : Hub) (path : List UInt8) (s : HubState) :
    addIds hub path s =
      (if 0 ≤ (strArrayAdd hub.grows hub.copies path s).1 then
        hub.childIds.forM (register (strArrayAdd hub.grows hub.copies path s).1)
      else pure ()) (strArrayAdd hub.grows hub.copies path s).2 := rfl

theorem addIds_eq {hub : Hub} {path : List UInt8} (h : Represented s r)
    (hok : (addIds hub path s).2.failed = false) :
    Represented (addIds hub path s).2
      ((hub.childIds.map fun deviceId => toUpper deviceId.id).foldl
        (Registry.register r.paths.length) (r.addPath path)) := by
  rw [addIds_apply] at hok ⊢
  have hbefore : (strArrayAdd hub.grows hub.copies path s).2.failed = false := by
    split_ifs at hok
    · exact remembers_forM (remembers_register _) hub.childIds _ hok
    · exact hok
  obtain ⟨hresult, hadded⟩ := addPath_eq h hbefore
  rw [hresult, if_pos (Int.natCast_nonneg _)] at hok ⊢
  refine register_childIds hub.childIds hadded ?_ hok
  rw [Registry.addPath, List.length_append]
  exact Nat.lt_succ_self _

theorem mapHub_eq (hub : Hub) (h : Represented s r) (hok : (mapHub hub s).2.failed = false) :
    Represented (mapHub hub s).2 (r.addHub hub) := by
  rw [Registry.addHub, Hub.ids]
  cases hlisting : hub.listing with
  | none =>
    exact h.congr (mapHub_of_none hlisting).1 (mapHub_of_none hlisting).2
  | some listing =>
    obtain ⟨path, ids⟩ := listing
    obtain ⟨rfl, hrun⟩ : _ ∧ mapHub hub s = _ := mapHub_of_some hlisting
    rw [hrun] at hok ⊢
    split_ifs at hok ⊢ with hdetails
    · exact addIds_eq (h.congr rfl rfl) hok
    · exact absurd (ok_of_allocate hok) hdetails

/-- The array of paths with the empty path, and an empty table. -/
theorem represented_initial (hstores : Stores s.devIfPath [[]])
    (htable : s.htabDevid = ⟨some fun _ => {}, devidHtabSize, 0⟩) :
    Represented s Registry.initial := by
  have hkeys : ∀ i, keys (fun _ => {}) i = none := fun _ => rfl
  refine ⟨fun _ => {}, Registry.valid_initial, ?_, hstores, ?_, ?_, ?_, fun _ _ => rfl⟩
  · rw [htable]
    exact sound_new
  · exact fun id hid => absurd hid (Finset.notMem_empty id)
  · intro i id hi
    rw [hkeys] at hi
    cases hi
  · intro i id hi
    rw [hkeys] at hi
    cases hi

theorem stores_strArrayCreate {ok : Bool} (hok : (strArrayCreate ok 128 s).2.failed = false) :
    Stores (strArrayCreate ok 128 s).2.devIfPath [] := by
  obtain rfl := ok_of_allocate hok
  exact ⟨rfl, rfl, Nat.zero_le _, 7, by decide, rfl⟩

theorem nextPrime_devidHtabSize :
    nextPrime (devidHtabSize ||| 1) (devidHtabSize ||| 1) = devidHtabSize := by decide

theorem htabCreate_eq (ok : Bool) :
    htabCreate ok devidHtabSize s =
      (ok, { s with
        htabDevid := ⟨if ok then some fun _ => {} else none, devidHtabSize, 0⟩
        failed := s.failed || !ok }) := by
  rw [htabCreate, bind_apply, nextPrime_devidHtabSize]
  rfl

/-- The state before the hubs are enumerated. -/
def beforeHubs (memory : Memory) (s : HubState) : HubState :=
  (allocate memory.deviceId
    (strArrayAdd true memory.dummy [] (strArrayCreate memory.strings 128 s).2).2).2

theorem mapHubs_apply (memory : Memory) (hubs : Option (List Hub)) (s : HubState) :
    mapHubs memory hubs s =
      if memory.deviceId then
        (true,
          hubs.elim (beforeHubs memory s) fun hubs =>
            if memory.table then
              (hubs.forM mapHub (htabCreate memory.table devidHtabSize (beforeHubs memory s)).2).2
            else (htabCreate memory.table devidHtabSize (beforeHubs memory s)).2)
      else (false, beforeHubs memory s) := by
  have hallocate (s : HubState) : (allocate memory.deviceId s).1 = memory.deviceId := rfl
  unfold mapHubs
  rw [bind_apply, bind_apply, bind_apply, hallocate, ← beforeHubs]
  by_cases hdeviceId : memory.deviceId = true
  · rw [if_pos hdeviceId, if_pos hdeviceId]
    cases hubs with
    | none => rfl
    | some hubs =>
      dsimp only [Option.elim]
      rw [bind_apply, htabCreate_eq]
      split_ifs <;> rfl
  · rw [if_neg hdeviceId, if_neg hdeviceId]
    rfl

/-- **The loop over the hubs**, when there is memory. -/
theorem represented_mapHubs {memory : Memory} {hubs : List Hub}
    (hok : (mapHubs memory (some hubs) s).2.failed = false) :
    Represented (mapHubs memory (some hubs) s).2 (hubs.foldl Registry.addHub .initial) := by
  rw [mapHubs_apply] at hok ⊢
  dsimp only [Option.elim] at hok ⊢
  split_ifs at hok ⊢ with hdeviceId htable
  · have hcreate := remembers_forM remembers_mapHub hubs _ hok
    have hbefore := remembers_htabCreate _ _ _ hcreate
    have hadd := remembers_allocate _ _ hbefore
    have hstores := (stores_of_added (added_strArrayAdd (stores_strArrayCreate
      (remembers_strArrayAdd _ _ _ _ hadd))) hadd).2.1
    refine forM_foldl Represented Registry.addHub remembers_mapHub
      (fun _ _ hub h hok => mapHub_eq hub h hok) hubs (represented_initial ?_ ?_) hok
    · rw [htabCreate_eq]
      exact hstores
    · rw [htabCreate_eq, htable]
      rfl
  · exact absurd (ok_of_allocate (s := beforeHubs memory s) hok) htable
  · exact absurd (ok_of_allocate hok) hdeviceId

end Loop

end UsbMaker.Devices
