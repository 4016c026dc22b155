import UsbMaker.Devices.Hubs

/-!
# Memory for the map of the hubs

A request for memory that has failed is not forgotten. `StrArrayAdd` puts its string at the end of
the array, which grows when it is full, and returns the index of the string. When there is no memory
for the string the array is as before, but it may have grown; when it cannot grow it is null from
then on.

## Main definitions

* `Devices.Remembers`: a failure stays.
* `Devices.Stores`: the array has given strings; `Devices.Added`: what `StrArrayAdd` leaves.

## Main results

* `Devices.remembers_mapHub`, `Devices.remembers_lookup`.
* `Devices.added_strArrayAdd`.
-/

namespace UsbMaker.Devices

open Program

/-! ### Failures -/

/-- A request for memory that has failed is not forgotten. -/
def Remembers (s s' : HubState) : Prop := s'.failed = false → s.failed = false

instance : Std.Refl Remembers := ⟨fun _ h => h⟩

instance : IsTrans HubState Remembers := ⟨fun _ _ _ h h' hok => h (h' hok)⟩

section Remembers

theorem remembers_allocate (ok : Bool) : Keeps Remembers (allocate ok) := fun _ hok =>
  (Bool.or_eq_false_iff.1 hok).1

theorem remembers_strArrayStore (copies : Bool) (strings : List (List UInt8)) (str : List UInt8) :
    Keeps Remembers (strArrayStore copies strings str) := by
  refine .bind (remembers_allocate copies) fun ok => ?_
  cases ok
  · exact .pure _
  · exact fun _ hok => hok

theorem remembers_strArrayAdd (grows copies : Bool) (str : List UInt8) :
    Keeps Remembers (strArrayAdd grows copies str) := by
  refine .bind (x := get) (fun _ hok => hok) fun s => ?_
  dsimp only
  generalize s.devIfPath.string = string
  cases string with
  | none => exact .pure _
  | some strings =>
    dsimp only
    split_ifs
    · refine .bind (remembers_allocate _) fun ok => ?_
      refine .bind (x := modify _) (fun _ hok => hok) fun _ => ?_
      cases ok
      · exact .pure _
      · exact remembers_strArrayStore copies strings str
    · exact remembers_strArrayStore copies strings str

theorem remembers_newEntry (ok : Bool) (table : Nat → Entry) (str : List UInt8) (idx : Nat) :
    Keeps Remembers (newEntry ok table str idx) := by
  refine .bind (x := get) (fun _ hok => hok) fun s => ?_
  dsimp only
  split_ifs
  · exact .pure _
  · refine .bind (remembers_allocate ok) fun ok => ?_
    exact .bind (x := modify _) (fun _ hok => hok) fun _ => .pure _

theorem remembers_htabHash (ok : Bool) (str : List UInt8) : Keeps Remembers (htabHash ok str) := by
  refine .bind (x := get) (fun _ hok => hok) fun s => ?_
  dsimp only
  generalize s.htabDevid.table = table
  cases table with
  | none => exact .pure _
  | some table =>
    dsimp only
    generalize search table s.htabDevid.size str = found
    cases found with
    | found idx => exact .pure _
    | stopped idx => exact remembers_newEntry ok table str idx

theorem remembers_htabCreate (ok : Bool) (nel : Nat) : Keeps Remembers (htabCreate ok nel) := by
  refine .bind (remembers_allocate ok) fun ok => ?_
  exact .bind (x := modify _) (fun _ hok => hok) fun _ => .pure _

theorem remembers_register (s : Int) (deviceId : Key) :
    Keeps Remembers (register s deviceId) := by
  refine .bind (remembers_htabHash _ _) fun k => ?_
  split_ifs
  · exact fun _ hok => hok
  · exact .pure _

theorem remembers_forM {α : Type} {body : α → StateM HubState Unit}
    (hbody : ∀ a, Keeps Remembers (body a)) (as : List α) : Keeps Remembers (as.forM body) := by
  induction as with
  | nil => exact .pure _
  | cons a as ih => exact .bind (hbody a) fun _ => ih

theorem remembers_mapHub (hub : Hub) : Keeps Remembers (mapHub hub) := by
  rw [mapHub]
  by_cases hinterface : hub.interface = true
  · rw [if_pos hinterface]
    refine .bind (remembers_allocate hub.details) fun ok => ?_
    cases ok
    · exact .pure _
    · generalize hub.devicePath = path
      cases path with
      | none => exact .pure _
      | some path =>
        by_cases hchildren : hub.children = []
        · dsimp only
          rw [if_pos rfl, if_pos hchildren]
          exact .pure _
        · dsimp only
          rw [if_pos rfl, if_neg hchildren]
          refine .bind (remembers_strArrayAdd hub.grows hub.copies path) fun s => ?_
          split_ifs
          · exact remembers_forM (remembers_register s) _
          · exact .pure _
  · rw [if_neg hinterface]
    exact .pure _

theorem remembers_lookup (deviceId : Key) : Keeps Remembers (lookup deviceId) := by
  refine .bind (remembers_htabHash _ _) fun j => ?_
  exact .bind (x := get) (fun _ hok => hok) fun _ => .pure _

end Remembers

/-! ### The array of paths -/

/-- The array has the paths, and a size that doubles when it is full. -/
structure Stores (arr : StrArray) (paths : List (List UInt8)) : Prop where
  string_eq : arr.string = some paths
  index_eq : arr.index = paths.length
  le_max : paths.length ≤ arr.max
  max_eq : ∃ n, n ≤ 31 ∧ arr.max = 2 ^ n

section Stores

variable {grows copies : Bool} {s : HubState} {paths : List (List UInt8)} {str : List UInt8}

theorem ok_of_allocate {ok : Bool} (hok : (allocate ok s).2.failed = false) : ok = true := by
  rw [← Bool.not_eq_false']
  exact (Bool.or_eq_false_iff.1 hok).2

/-- There is room for a string in an array: it was not full, or it has grown. -/
structure Room (arr arr' : StrArray) (grows : Bool) : Prop where
  grows : arr.index = arr.max → grows = true ∧ arr.max < 2 ^ 31
  max_eq : arr'.max = if arr.index = arr.max then arr.max * 2 else arr.max

/-- What `StrArrayAdd` leaves: the string is at the end, or there was no memory for it, or the array
could not grow and is null. -/
inductive Added (arr : StrArray) (paths : List (List UInt8)) (grows copies : Bool)
    (str : List UInt8) (htab : Htab) : Int × HubState → Prop
  | stored {s : HubState} (hroom : Room arr s.devIfPath grows) (hcopies : copies = true)
      (hpaths : Stores s.devIfPath (paths ++ [str])) (htable : s.htabDevid = htab) :
      Added arr paths grows copies str htab (paths.length, s)
  | unstored {s : HubState} (hroom : Room arr s.devIfPath grows) (hcopies : copies = false)
      (hfailed : s.failed = true) (hpaths : Stores s.devIfPath paths)
      (htable : s.htabDevid = htab) : Added arr paths grows copies str htab (-1, s)
  | lost {s : HubState} (hroom : ¬ (arr.index = arr.max → grows = true ∧ arr.max < 2 ^ 31))
      (hfailed : s.failed = true) (hnull : s.devIfPath.string = none)
      (htable : s.htabDevid = htab) : Added arr paths grows copies str htab (-1, s)

theorem stores_of_added {arr : StrArray} {htab : Htab} {run : Int × HubState}
    (h : Added arr paths grows copies str htab run) (hok : run.2.failed = false) :
    run.1 = paths.length ∧ Stores run.2.devIfPath (paths ++ [str]) ∧ run.2.htabDevid = htab := by
  cases h with
  | stored _ _ hpaths htable => exact ⟨rfl, hpaths, htable⟩
  | unstored _ _ hfailed | lost _ hfailed =>
    rw [hfailed] at hok
    cases hok

/-- A string for which there is room. -/
theorem added_strArrayStore {arr : StrArray} (h : Stores s.devIfPath paths)
    (hroom : Room arr s.devIfPath grows) (hlt : paths.length < s.devIfPath.max) :
    Added arr paths grows copies str s.htabDevid (strArrayStore copies paths str s) := by
  obtain ⟨n, hn, hmax⟩ := h.max_eq
  have hle : s.devIfPath.max ≤ 2 ^ 31 := hmax ▸ Nat.pow_le_pow_right (by decide) hn
  have hindex := h.index_eq
  cases copies
  · refine .unstored hroom rfl ?_ h rfl
    change (s.failed || !false) = true
    rw [Bool.not_false, Bool.or_true]
  · have hresult : (s.devIfPath.index : Int).bmod (2 ^ 32) = paths.length := by
      rw [hindex]
      refine Int.bmod_eq_of_le ?_ ?_
      · omega
      · omega
    change Added _ _ _ _ _ s.htabDevid ((s.devIfPath.index : Int).bmod (2 ^ 32), _)
    rw [hresult]
    refine .stored ⟨hroom.grows, hroom.max_eq⟩ rfl ⟨rfl, ?_, ?_, n, hn, hmax⟩ rfl
    · change (s.devIfPath.index + 1) % 2 ^ 32 = _
      rw [List.length_append, List.length_singleton]
      omega
    · rw [List.length_append, List.length_singleton]
      exact hlt

/-- An array that can grow has room. -/
theorem stores_grown (h : Stores s.devIfPath paths) (hfull : s.devIfPath.index = s.devIfPath.max)
    (hsize : s.devIfPath.max < 2 ^ 31) :
    s.devIfPath.max * 2 % 2 ^ 32 = s.devIfPath.max * 2 ∧
      Stores { s.devIfPath with string := some paths, max := s.devIfPath.max * 2 } paths ∧
      paths.length < s.devIfPath.max * 2 := by
  obtain ⟨n, -, hmax⟩ := h.max_eq
  have hpos : 0 < s.devIfPath.max := hmax ▸ Nat.two_pow_pos n
  have hn : n < 31 := by
    rw [hmax] at hsize
    exact (Nat.pow_lt_pow_iff_right (by decide)).1 hsize
  have hindex := h.index_eq
  refine ⟨by omega, ⟨rfl, hindex, ?_, n + 1, hn, ?_⟩, by omega⟩
  · dsimp only
    omega
  · dsimp only
    rw [hmax, Nat.pow_succ]

/-- **`StrArrayAdd`**, in an array that is there. -/
theorem added_strArrayAdd (h : Stores s.devIfPath paths) :
    Added s.devIfPath paths grows copies str s.htabDevid (strArrayAdd grows copies str s) := by
  have hget : (get : StateM HubState HubState) s = (s, s) := rfl
  have hindex := h.index_eq
  rw [strArrayAdd, bind_apply, hget]
  dsimp only
  rw [h.string_eq]
  dsimp only
  by_cases hfull : s.devIfPath.index = s.devIfPath.max
  · obtain ⟨n, hn, hmax⟩ := h.max_eq
    have hle : s.devIfPath.max ≤ 2 ^ 31 := hmax ▸ Nat.pow_le_pow_right (by decide) hn
    have hsize : s.devIfPath.max * 2 % 2 ^ 32 ≠ 0 ↔ s.devIfPath.max < 2 ^ 31 := by
      have hpos : 0 < s.devIfPath.max := hmax ▸ Nat.two_pow_pos n
      omega
    rw [if_pos hfull, bind_apply, bind_apply, reallocate]
    cases hok : grows && decide (s.devIfPath.max * 2 % 2 ^ 32 ≠ 0) with
    | false =>
      rw [Bool.and_eq_false_iff, decide_eq_false_iff_not, hsize] at hok
      have hroom : ¬ (s.devIfPath.index = s.devIfPath.max →
          grows = true ∧ s.devIfPath.max < 2 ^ 31) := by
        intro hgrows
        obtain ⟨hgrows, hlt⟩ := hgrows hfull
        rcases hok with hok | hok
        · rw [hgrows] at hok
          cases hok
        · exact hok hlt
      refine .lost hroom ?_ rfl rfl
      change (s.failed || !false) = true
      rw [Bool.not_false, Bool.or_true]
    | true =>
      rw [Bool.and_eq_true, decide_eq_true_iff, hsize] at hok
      obtain ⟨hdouble, hstores, hlt⟩ := stores_grown h hfull hok.2
      rw [hdouble]
      exact added_strArrayStore (s := { s with
        devIfPath := { s.devIfPath with string := some paths, max := s.devIfPath.max * 2 }
        failed := s.failed || !true }) hstores ⟨fun _ => hok, (if_pos hfull).symm⟩ hlt
  · rw [if_neg hfull]
    have hle := h.le_max
    exact added_strArrayStore h ⟨fun heq => absurd heq hfull, (if_neg hfull).symm⟩ (by omega)

end Stores

end UsbMaker.Devices
