import UsbMaker.Devices.HubRegistry

/-!
# The hub of a device

As long as there is memory, what `GetDevices` finds for an id is the path of the last hub that
listed it, or the empty path. The empty path is found for an id that no hub listed, and for one that
there was no place for. There is a place for every id if the table has seen at most 257 of them,
those that were only looked up among them.

## Main definitions

* `Devices.hubPath`: the path of the last hub that listed an id.
* `Devices.lookups`: lookups after the loop over the hubs.

## Main results

* `Devices.lookup_eq`: what is found for an id.
* `Devices.lookups_hubPath`: what is found after any lookups.
-/

namespace UsbMaker.Devices

open HtabHash Program Probing

/-! ### Looking up an id -/

section Lookup

variable {s : HubState} {r : Registry}

theorem Represents.data_of_le {table : Nat → Entry} {k : Nat} (h : Represents s r table)
    (hk : k ≤ devidHtabSize) : s.htabDevid.data k = some (table k).data := by
  rw [Htab.data, h.sound.table_eq, h.sound.size_eq]
  exact if_pos (Nat.lt_succ_of_le hk)

theorem Represents.get_of_lt {table : Nat → Entry} {k : Nat} (h : Represents s r table)
    (hk : k < r.paths.length) : s.devIfPath.get k = some (r.paths.getD k []) := by
  rw [StrArray.get, h.stores.string_eq]
  exact if_pos (hk.trans_le h.stores.le_max)

/-- **What is found for an id.** -/
theorem lookup_eq {deviceId : Key} (h : Represented s r)
    (hok : (lookup deviceId s).2.failed = false) :
    ∃ path, (lookup deviceId s).1 = some path ∧
      (path = [] ∨ path = r.pathOf (toUpper deviceId.id)) ∧
      ((r.see (toUpper deviceId.id)).seen.card ≤ devidHtabSize →
        path = r.pathOf (toUpper deviceId.id)) ∧
      Represented (lookup deviceId s).2 (r.see (toUpper deviceId.id)) := by
  obtain ⟨table, h⟩ := h
  obtain ⟨table', h', hresult⟩ : ∃ table', Represents
    (htabHash deviceId.memory (toUpper deviceId.id) s).2 (r.see (toUpper deviceId.id)) table' ∧ _ :=
      h.see hok
  have hrun : lookup deviceId s =
      (((htabHash deviceId.memory (toUpper deviceId.id) s).2.htabDevid.data
          (htabHash deviceId.memory (toUpper deviceId.id) s).1).bind
        (htabHash deviceId.memory (toUpper deviceId.id) s).2.devIfPath.get,
        (htabHash deviceId.memory (toUpper deviceId.id) s).2) := rfl
  have hmem : toUpper deviceId.id ∈ (r.see (toUpper deviceId.id)).seen :=
    Finset.mem_insert_self _ _
  rw [hrun, hresult]
  cases hplace : place (probes devidHtabSize) (keys table') (toUpper deviceId.id) with
  | none =>
    have hfree : keys table' 0 = none := by
      cases hkey : keys table' 0 with
      | none => rfl
      | some str =>
        exact absurd (h'.sound.bounds isSize_devidHtabSize hkey).1 (Nat.lt_irrefl 0)
    refine ⟨[], ?_, Or.inl rfl, fun hcard => ?_, table', h'⟩
    · rw [Option.getD_none, h'.data_of_le (Nat.zero_le _), Option.bind_some, h'.free_eq 0 hfree,
        h'.get_of_lt (h'.valid.index_lt [] |>.pos), h'.valid.dummy]
    · have hlt := h'.sound.placed.length_lt (nodup_probes isSize_devidHtabSize _) hplace hmem
        h'.seen
      rw [length_probes] at hlt
      omega
  | some k =>
    have hle := (mem_probes isSize_devidHtabSize (accepts_of_place hplace).1).2
    have hdata := h'.data_eq k _ (h'.settled _ hmem k hplace)
    refine ⟨r.pathOf (toUpper deviceId.id), ?_, Or.inr rfl, fun _ => rfl, table', h'⟩
    rw [Option.getD_some, h'.data_of_le hle, Option.bind_some, hdata,
      h'.get_of_lt (h'.valid.index_lt _)]
    rfl

end Lookup

/-! ### The last hub that listed an id -/

/-- The path of the last hub that listed an id, empty when there is none. -/
def hubPath (hubs : List Hub) (id : List UInt8) : List UInt8 :=
  ((hubs.reverse.find? fun hub => decide (id ∈ hub.ids)).bind Hub.devicePath).getD []

/-- An id that no hub listed. -/
theorem hubPath_of_notMem {hubs : List Hub} {id : List UInt8} (h : ∀ hub ∈ hubs, id ∉ hub.ids) :
    hubPath hubs id = [] := by
  have hnone : (hubs.reverse.find? fun hub => decide (id ∈ hub.ids)) = none := by
    rw [List.find?_eq_none]
    intro hub hhub
    rw [decide_eq_true_iff]
    exact h hub (List.mem_reverse.1 hhub)
  rw [hubPath, hnone]
  rfl

theorem hubPath_concat (hubs : List Hub) (hub : Hub) (id : List UInt8) :
    hubPath (hubs ++ [hub]) id =
      if id ∈ hub.ids then hub.devicePath.getD [] else hubPath hubs id := by
  rw [hubPath, hubPath, List.reverse_append, List.reverse_singleton, List.singleton_append,
    List.find?_cons]
  split_ifs with h
  · rw [decide_eq_true h]
    rfl
  · rw [decide_eq_false h]

namespace Registry

variable {r : Registry}

theorem foldl_register (n : Nat) (ids : List (List UInt8)) (r : Registry) :
    (ids.foldl (register n) r).paths = r.paths ∧
      (∀ id, (ids.foldl (register n) r).index id = if id ∈ ids then n else r.index id) ∧
      (ids.foldl (register n) r).seen = r.seen ∪ ids.toFinset := by
  induction ids generalizing r with
  | nil => exact ⟨rfl, fun _ => rfl, (Finset.union_empty _).symm⟩
  | cons id ids ih =>
    obtain ⟨hpaths, hindex, hseen⟩ := ih (r.register n id)
    refine ⟨hpaths, fun id' => (hindex id').trans ?_, hseen.trans ?_⟩
    · change (if id' ∈ ids then n else Function.update r.index id n id') = _
      simp only [List.mem_cons, Function.update_apply]
      split_ifs <;> tauto
    · change insert id r.seen ∪ ids.toFinset = _
      rw [List.toFinset_cons, Finset.insert_union, Finset.union_insert]

theorem valid_foldl_register {n : Nat} (h : r.Valid) (hn : n < r.paths.length)
    (ids : List (List UInt8)) : (ids.foldl (register n) r).Valid := by
  induction ids generalizing r with
  | nil => exact h
  | cons id ids ih => exact ih (h.register hn id) hn

theorem Valid.addHub (h : r.Valid) (hub : Hub) : (r.addHub hub).Valid := by
  rw [Registry.addHub]
  cases hub.listing with
  | none => exact h
  | some listing =>
    refine valid_foldl_register (h.addPath listing.1) ?_ _
    rw [Registry.addPath, List.length_append]
    exact Nat.lt_succ_self _

theorem ids_of_none {hub : Hub} (hlisting : hub.listing = none) : hub.ids = [] := by
  rw [Hub.ids, hlisting]
  rfl

theorem pathOf_addHub (h : r.Valid) (hub : Hub) (id : List UInt8) :
    (r.addHub hub).pathOf id = if id ∈ hub.ids then hub.devicePath.getD [] else r.pathOf id := by
  rw [Registry.addHub]
  cases hlisting : hub.listing with
  | none =>
    rw [ids_of_none hlisting, if_neg List.not_mem_nil]
  | some listing =>
    have hpath : hub.devicePath = some listing.1 := by
      rw [Hub.listing] at hlisting
      split_ifs at hlisting
      obtain ⟨path, hpath, rfl⟩ := Option.map_eq_some_iff.1 hlisting
      exact hpath
    obtain ⟨hpaths, hindex, -⟩ :=
      foldl_register r.paths.length hub.ids (r.addPath listing.1)
    change List.getD _ _ _ = _
    dsimp only
    rw [hpaths, hindex, hpath]
    split_ifs
    · rw [Registry.addPath, List.getD_append_right _ _ _ _ le_rfl, Nat.sub_self]
      rfl
    · exact List.getD_append _ _ _ _ (h.index_lt id)

theorem seen_addHub (hub : Hub) : (r.addHub hub).seen = r.seen ∪ hub.ids.toFinset := by
  rw [Registry.addHub]
  cases hlisting : hub.listing with
  | none =>
    rw [ids_of_none hlisting]
    exact (Finset.union_empty _).symm
  | some listing => exact (foldl_register _ _ _).2.2

/-- **What has been registered after the loop over the hubs.** -/
theorem foldl_addHub (hubs : List Hub) :
    (hubs.foldl addHub initial).Valid ∧
      (∀ id, (hubs.foldl addHub initial).pathOf id = hubPath hubs id) ∧
      (hubs.foldl addHub initial).seen = (hubs.flatMap Hub.ids).toFinset := by
  induction hubs using List.reverseRecOn with
  | nil => exact ⟨valid_initial, fun _ => rfl, rfl⟩
  | append_singleton hubs hub ih =>
    obtain ⟨hvalid, hpath, hseen⟩ := ih
    rw [List.foldl_append, List.foldl_cons, List.foldl_nil]
    refine ⟨hvalid.addHub hub, fun id => ?_, ?_⟩
    · rw [pathOf_addHub hvalid, hpath, hubPath_concat]
    · rw [seen_addHub, hseen, List.flatMap_append, List.flatMap_singleton, List.toFinset_append]

theorem foldl_see (ids : List (List UInt8)) (r : Registry) :
    (∀ id, (ids.foldl see r).pathOf id = r.pathOf id) ∧
      (ids.foldl see r).seen = r.seen ∪ ids.toFinset := by
  induction ids generalizing r with
  | nil => exact ⟨fun _ => rfl, (Finset.union_empty _).symm⟩
  | cons id ids ih =>
    obtain ⟨hpath, hseen⟩ := ih (r.see id)
    refine ⟨hpath, hseen.trans ?_⟩
    change insert id r.seen ∪ ids.toFinset = _
    rw [List.toFinset_cons, Finset.insert_union, Finset.union_insert]

end Registry

/-! ### The whole run -/

/-- Lookups of ids after the loop over the hubs, and then that of a last id. -/
def lookups (memory : Memory) (hubs : List Hub) (before : List Key) (deviceId : Key) :
    StateM HubState (Option (List UInt8)) := do
  let _ ← mapHubs memory (some hubs)
  before.forM fun id => discard (lookup id)
  lookup deviceId

/-- The ids that were put into the table or looked up. -/
def hashedIds (hubs : List Hub) (before : List Key) (deviceId : Key) : List (List UInt8) :=
  hubs.flatMap Hub.ids ++ (before ++ [deviceId]).map fun deviceId => toUpper deviceId.id

/-- **The hub of a device.** When there is memory, the path that is found for an id is empty or that
of the last hub that listed the id. It is the latter if at most 257 ids have been hashed, and empty
if no hub listed the id. -/
theorem lookups_hubPath {memory : Memory} {hubs : List Hub} {before : List Key} {deviceId : Key}
    (hok : (lookups memory hubs before deviceId {}).2.failed = false) :
    ∃ path, (lookups memory hubs before deviceId {}).1 = some path ∧
      (path = [] ∨ path = hubPath hubs (toUpper deviceId.id)) ∧
      ((hashedIds hubs before deviceId).toFinset.card ≤ 257 →
        path = hubPath hubs (toUpper deviceId.id)) ∧
      ((∀ hub ∈ hubs, toUpper deviceId.id ∉ hub.ids) → path = []) := by
  obtain ⟨-, hhubs, hseen⟩ := Registry.foldl_addHub hubs
  obtain ⟨hbefore, hseen'⟩ := Registry.foldl_see (before.map fun id => toUpper id.id)
    (hubs.foldl Registry.addHub .initial)
  have hremembers (id : Key) : Keeps Remembers (discard (lookup id) : StateM HubState Unit) :=
    fun s hok => remembers_lookup id s hok
  have hloop := remembers_lookup deviceId _ hok
  have hrepresented := represented_mapHubs (remembers_forM hremembers before _ hloop)
  have hrun := forM_foldl Represented (fun r (id : Key) => r.see (toUpper id.id)) hremembers
    (fun s r id h hok => (lookup_eq h hok).choose_spec.2.2.2) before hrepresented hloop
  rw [← List.foldl_map (f := fun id : Key => toUpper id.id)] at hrun
  obtain ⟨path, hpath, hlast, hcard, -⟩ := lookup_eq hrun hok
  have hpathOf := (hbefore (toUpper deviceId.id)).trans (hhubs (toUpper deviceId.id))
  rw [hpathOf] at hlast hcard
  have hsame : (((before.map fun id => toUpper id.id).foldl Registry.see
      (hubs.foldl Registry.addHub .initial)).see (toUpper deviceId.id)).seen =
      (hashedIds hubs before deviceId).toFinset := by
    change insert (toUpper deviceId.id) _ = _
    rw [hseen', hseen, hashedIds, List.map_append, List.toFinset_append, List.toFinset_append,
      ← Finset.union_assoc, Finset.insert_eq, Finset.union_comm]
    rfl
  refine ⟨path, hpath, hlast, fun hle => hcard ?_, fun hnone => ?_⟩
  · rw [hsame]
    exact hle
  · rw [hubPath_of_notMem hnone, or_self] at hlast
    exact hlast

/-- Two hubs, of which both list the id that is `a` or `A`. -/
def twoHubs : List Hub :=
  [⟨true, true, some [104, 49], true, true, [some ⟨[97], true⟩]⟩,
    ⟨true, true, some [104, 50], true, true, [some ⟨[98], true⟩, none, some ⟨[65], true⟩]⟩]

/-- The second hub is found for the id, although another id has been looked up before. -/
theorem lookups_twoHubs :
    (lookups ⟨true, true, true, true⟩ twoHubs [⟨[99], true⟩] ⟨[97], true⟩ {}).1 =
      some [104, 50] := by
  have hok : (lookups ⟨true, true, true, true⟩ twoHubs [⟨[99], true⟩] ⟨[97], true⟩ {}).2.failed =
      false := by
    decide +kernel
  obtain ⟨path, hpath, -, hcard, -⟩ := lookups_hubPath hok
  have hlast := hcard (by decide)
  rw [hpath, hlast]
  decide

end UsbMaker.Devices
