import UsbMaker.Devices.HubSearch
import UsbMaker.Run.Program

/-!
# A call of the hash function

When there is memory, `htab_hash` returns the place of the string, which it puts in the table if it
is new, and zero if there is no place left. The entries are counted in `filled`.

## Main definitions

* `HtabHash.Sound`: the invariant of the hash table.
* `HtabHash.Searched`: what a call leaves.

## Main results

* `HtabHash.htabHash_eq`: what `htab_hash` does when there is memory.
-/

namespace UsbMaker.HtabHash

open Devices Probing Program

variable {size : Nat}

/-! ### The invariant -/

/-- The number of entries that are used. -/
def usedCount (size : Nat) (table : Nat → Entry) : Nat :=
  ((Finset.Icc 1 size).filter fun i => (table i).used ≠ 0).card

/-- A table in which every search has ended well, and its entries. -/
structure Sound (size : Nat) (htab : Htab) (table : Nat → Entry) : Prop where
  table_eq : htab.table = some table
  size_eq : htab.size = size
  hashed : Hashed size table
  placed : Placed (probes size) (keys table)
  filled_eq : htab.filled = usedCount size table

section Sound

variable {htab : Htab} {table : Nat → Entry} {str : List UInt8} (h : IsSize size)
  (hsound : Sound size htab table)

include h hsound

/-- The places of the strings. -/
theorem Sound.bounds {i : Nat} (hkey : keys table i = some str) : 0 < i ∧ i ≤ size :=
  mem_probes h (accepts_of_place (hsound.placed i str hkey)).1

theorem Sound.filled_eq_of_none (hplace : place (probes size) (keys table) str = none) :
    htab.filled = size := by
  rw [hsound.filled_eq, usedCount, Finset.filter_true_of_mem, Nat.card_Icc, Nat.add_sub_cancel]
  intro i hi hzero
  rw [Finset.mem_Icc] at hi
  obtain ⟨key, -, hkey⟩ := place_eq_none_iff.1 hplace i ((mem_probes_iff h).2 hi)
  rw [(keys_eq_none_iff hsound.hashed i).2 hzero] at hkey
  cases hkey

omit h in
theorem Sound.filled_lt {i : Nat} (hi : 0 < i) (hle : i ≤ size) (hfree : keys table i = none) :
    htab.filled < size := by
  rw [hsound.filled_eq, usedCount]
  refine (Finset.card_lt_card (Finset.filter_ssubset.2 ⟨i, ?_, ?_⟩)).trans_eq ?_
  · exact Finset.mem_Icc.2 ⟨hi, hle⟩
  · rw [not_not]
    exact (keys_eq_none_iff hsound.hashed i).1 hfree
  · rw [Nat.card_Icc, Nat.add_sub_cancel]

end Sound

/-- A table with no entries. -/
theorem sound_new {size : Nat} : Sound size ⟨some fun _ => {}, size, 0⟩ fun _ => {} := by
  refine ⟨rfl, rfl, fun i hi => absurd rfl hi, fun i str hkey => ?_, ?_⟩
  · have hfree : keys (fun _ => {}) i = none := rfl
    rw [hfree] at hkey
    cases hkey
  · rw [usedCount, Finset.filter_false_of_mem fun _ _ hused => hused rfl]
    rfl

/-! ### Data of an entry -/

section SetData

variable {table : Nat → Entry} (k data : Nat)

theorem keys_setData :
    keys (Function.update table k { table k with data := data }) = keys table := by
  funext i
  rcases eq_or_ne i k with rfl | hik
  · rw [keys, Function.update_self]
    rfl
  · rw [keys, Function.update_of_ne hik]
    rfl

theorem Sound.setData {htab : Htab} (hsound : Sound size htab table) :
    Sound size (htab.setData k data) (Function.update table k { table k with data := data }) := by
  refine ⟨?_, hsound.size_eq, fun i hi => ?_, ?_, ?_⟩
  · rw [Htab.setData, hsound.table_eq]
    rfl
  · rcases eq_or_ne i k with rfl | hik
    · rw [Function.update_self] at hi ⊢
      exact hsound.hashed i hi
    · rw [Function.update_of_ne hik] at hi ⊢
      exact hsound.hashed i hi
  · rw [keys_setData]
    exact hsound.placed
  · refine hsound.filled_eq.trans (congrArg Finset.card (Finset.filter_congr fun i _ => ?_))
    rcases eq_or_ne i k with rfl | hik
    · rw [Function.update_self]
    · rw [Function.update_of_ne hik]

end SetData

/-! ### A new entry -/

section Insert

variable {table : Nat → Entry} {str : List UInt8}

/-- The entries with a new one, for whose string there is memory or not. -/
def taken (size : Nat) (table : Nat → Entry) (str : List UInt8) (ok : Bool) (i : Nat) :
    Nat → Entry :=
  Function.update table i
    { table i with used := tableHash size str, str := if ok then some str else none }

theorem taken_self (ok : Bool) (i : Nat) :
    taken size table str ok i i = { table i with
      used := tableHash size str, str := if ok then some str else none } :=
  Function.update_self _ _ _

theorem taken_of_ne {i j : Nat} (hji : j ≠ i) (ok : Bool) :
    taken size table str ok i j = table j :=
  Function.update_of_ne hji _ _

theorem data_taken (ok : Bool) (i j : Nat) :
    (taken size table str ok i j).data = (table j).data := by
  rcases eq_or_ne j i with rfl | hji
  · rw [taken_self]
  · rw [taken_of_ne hji]

variable (h : IsSize size)

include h

theorem keys_taken (i : Nat) :
    keys (taken size table str true i) = Function.update (keys table) i (some str) := by
  funext j
  have hpos := (tableHash_bounds h str).1
  rcases eq_or_ne j i with rfl | hji
  · rw [keys, taken_self, Function.update_self]
    exact if_neg hpos.ne'
  · rw [keys, taken_of_ne hji, Function.update_of_ne hji]
    rfl

omit h in
theorem hashed_taken (hhashed : Hashed size table) (i : Nat) :
    Hashed size (taken size table str true i) := by
  intro j hj
  rcases eq_or_ne j i with rfl | hji
  · rw [taken_self]
    exact ⟨str, rfl, rfl⟩
  · rw [taken_of_ne hji] at hj ⊢
    exact hhashed j hj

theorem usedCount_taken {i : Nat} (hi : 0 < i) (hle : i ≤ size) (hfree : (table i).used = 0) :
    usedCount size (taken size table str true i) = usedCount size table + 1 := by
  have hpos := (tableHash_bounds h str).1
  rw [usedCount, usedCount, ← Finset.card_insert_of_notMem]
  · congr 1
    ext j
    rw [Finset.mem_insert, Finset.mem_filter, Finset.mem_filter]
    rcases eq_or_ne j i with rfl | hji
    · rw [taken_self]
      exact ⟨fun _ => Or.inl rfl, fun _ => ⟨Finset.mem_Icc.2 ⟨hi, hle⟩, hpos.ne'⟩⟩
    · rw [taken_of_ne hji]
      exact ⟨Or.inr, fun hj => hj.resolve_left hji⟩
  · rw [Finset.mem_filter, not_and, not_not]
    exact fun _ => hfree

/-- A new entry at the place where the search ends. -/
theorem Sound.taken {htab : Htab} {i : Nat} (hsound : Sound size htab table)
    (hplace : place (probes size) (keys table) str = some i) (hfree : keys table i = none) :
    Sound size
      { htab with table := some (taken size table str true i), filled := htab.filled + 1 }
      (taken size table str true i) := by
  obtain ⟨hi, hle⟩ := mem_probes h (accepts_of_place hplace).1
  have hkeys : keys (HtabHash.taken size table str true i) =
      add (probes size) (keys table) str := by
    rw [keys_taken h, add, hplace]
  refine ⟨rfl, hsound.size_eq, hashed_taken hsound.hashed i, ?_, ?_⟩
  · rw [hkeys]
    exact hsound.placed.add
  · rw [usedCount_taken h hi hle ((keys_eq_none_iff hsound.hashed i).1 hfree)]
    exact congrArg (· + 1) hsound.filled_eq

end Insert

/-! ### Searches -/

/-- What a search leaves: the key has been added, and the data are as before. -/
structure Searched (size : Nat) (table : Nat → Entry) (str : List UInt8) (s s' : HubState)
    (k : Nat) (table' : Nat → Entry) : Prop where
  sound : Sound size s'.htabDevid table'
  keys_eq : keys table' = add (probes size) (keys table) str
  data_eq : ∀ i, (table' i).data = (table i).data
  result_eq : k = (place (probes size) (keys table) str).getD 0
  devIfPath_eq : s'.devIfPath = s.devIfPath

section HtabHash

variable {ok : Bool} {s : HubState} {table : Nat → Entry} {str : List UInt8}

/-- The state with a new entry, for whose string there is memory or not. -/
def taking (size : Nat) (s : HubState) (table : Nat → Entry) (str : List UInt8) (ok : Bool)
    (i : Nat) : HubState :=
  { s with
    htabDevid := { s.htabDevid with
      table := some (taken size table str ok i)
      filled := if ok then s.htabDevid.filled + 1 else s.htabDevid.filled }
    failed := s.failed || !ok }

section Sized

variable (htable : s.htabDevid.table = some table) (hsize : s.htabDevid.size = size)

include htable hsize in
theorem htabHash_of_found {i : Nat} (hsearch : search table size str = .found i) :
    htabHash ok str s = (i, s) := by
  have hget : (get : StateM HubState HubState) s = (s, s) := rfl
  rw [htabHash, bind_apply, hget]
  dsimp only
  rw [htable]
  dsimp only
  rw [hsize, hsearch]
  rfl

include htable hsize in
theorem htabHash_of_stopped {i : Nat} (hsearch : search table size str = .stopped i) :
    htabHash ok str s = newEntry ok table str i s := by
  have hget : (get : StateM HubState HubState) s = (s, s) := rfl
  rw [htabHash, bind_apply, hget]
  dsimp only
  rw [htable]
  dsimp only
  rw [hsize, hsearch]

include hsize

theorem newEntry_of_full {i : Nat} (hfilled : size ≤ s.htabDevid.filled) :
    newEntry ok table str i s = (0, s) := by
  rw [newEntry, bind_apply]
  change (if s.htabDevid.size ≤ s.htabDevid.filled then _ else _ : StateM _ _) s = _
  rw [hsize, if_pos hfilled]
  rfl

/-- A new entry, whose string is null when there is no memory. -/
theorem newEntry_of_lt (h : IsSize size) {i : Nat} (hfilled : s.htabDevid.filled < size) :
    newEntry ok table str i s =
      (if ok then i else 0, taking size s table str ok i) := by
  have hmod : (s.htabDevid.filled + 1) % 2 ^ 32 = s.htabDevid.filled + 1 :=
    Nat.mod_eq_of_lt ((Nat.succ_le_of_lt hfilled).trans_lt h.lt)
  rw [newEntry, bind_apply]
  change (if s.htabDevid.size ≤ s.htabDevid.filled then _ else _ : StateM _ _) s = _
  rw [if_neg (by omega), taking, ← hmod, taken, ← hsize]
  rfl

end Sized

variable (h : IsSize size) (hsound : Sound size s.htabDevid table)

include h hsound

/-- A string that is not in the table gets a new entry, if there is a place for it. -/
theorem htabHash_of_new {i : Nat} (hplace : place (probes size) (keys table) str = some i)
    (hfree : keys table i = none) :
    htabHash ok str s =
      (if ok then i else 0, taking size s table str ok i) := by
  have hsearch : search table size str = _ := search_eq_place hsound.hashed h
  obtain ⟨hi, hle⟩ := mem_probes h (accepts_of_place hplace).1
  have hother : keys table i ≠ some str := by
    rw [hfree]
    exact Option.some_ne_none str |>.symm
  rw [hplace, endOf, if_neg (mt (holds_iff hsound.hashed h i).1 hother)] at hsearch
  rw [htabHash_of_stopped hsound.table_eq hsound.size_eq hsearch,
    newEntry_of_lt hsound.size_eq h (hsound.filled_lt hi hle hfree)]

/-- If no request has failed there was memory for a new entry. -/
theorem memory_of_ok (hok : (htabHash ok str s).2.failed = false) {i : Nat}
    (hplace : place (probes size) (keys table) str = some i) (hfree : keys table i = none) :
    ok = true := by
  rw [htabHash_of_new h hsound hplace hfree, taking] at hok
  dsimp only at hok
  rw [Bool.or_eq_false_iff, Bool.not_eq_false'] at hok
  exact hok.2

/-- **`htab_hash` when there is memory** for a new entry. -/
theorem htabHash_eq (hmem : ∀ i, place (probes size) (keys table) str = some i →
      keys table i = none → ok = true) :
    ∃ table', Searched size table str s (htabHash ok str s).2
      (htabHash ok str s).1 table' := by
  have hsearch : search table size str = _ := search_eq_place hsound.hashed h
  cases hplace : place (probes size) (keys table) str with
  | none =>
    rw [hplace] at hsearch
    have hrun : htabHash ok str s = (0, s) := by
      rw [htabHash_of_stopped hsound.table_eq hsound.size_eq hsearch]
      exact newEntry_of_full hsound.size_eq (hsound.filled_eq_of_none h hplace).ge
    rw [hrun]
    exact ⟨table, hsound, (add_of_none hplace).symm, fun _ => rfl, by rw [hplace]; rfl, rfl⟩
  | some i =>
    rcases (accepts_of_place hplace).2 with hfree | hkey
    · rw [htabHash_of_new h hsound hplace hfree, hmem i hplace hfree]
      refine ⟨taken size table str true i, hsound.taken h hplace hfree, ?_, data_taken true i, ?_,
        rfl⟩
      · rw [keys_taken h, add, hplace]
      · rw [hplace]
        rfl
    · rw [hplace, endOf, if_pos ((holds_iff hsound.hashed h i).2 hkey)] at hsearch
      rw [htabHash_of_found hsound.table_eq hsound.size_eq hsearch]
      exact ⟨table, hsound, (add_of_some hplace hkey).symm, fun _ => rfl, by rw [hplace]; rfl, rfl⟩

end HtabHash

end UsbMaker.HtabHash
