import UsbMaker.Devices.HubHash

/-!
# Calls of the hash function

`htab_hash` is called many times on a table, with strings in any order, and between the calls the
data of the entries are written. When the number of places is a prime and there is memory, every
call ends. It returns the place of its string, the same one for the same string and others for
others, or zero for a new string when the table is full. A place that is used keeps its entry.

## Main definitions

* `HtabHash.Calls`: the calls on a new table, and the state after them.
* `HtabHash.Correct`: what holds then, of the calls and of the next one.

## Main results

* `HtabHash.calls_correct`: it holds after all calls, in a table of prime size.
-/

namespace UsbMaker.HtabHash

open Devices Probing

/-- A call of `htab_hash` for which there is memory. -/
def call (str : List UInt8) : StateM HubState Nat := htabHash true str

/-- The calls on a new table with what they return, the last one first, and the state after them.
Between the calls data are written, and the state changes but for the table. -/
inductive Calls (size : Nat) : List (List UInt8 × Nat) → HubState → Prop
  | new {s : HubState} : s.htabDevid = ⟨some fun _ => {}, size, 0⟩ → Calls size [] s
  | call {log : List (List UInt8 × Nat)} {s : HubState} (str : List UInt8) :
      Calls size log s → Calls size ((str, (call str s).1) :: log) (call str s).2
  | setData {log : List (List UInt8 × Nat)} {s : HubState} (k data : Nat) :
      Calls size log s → Calls size log { s with htabDevid := s.htabDevid.setData k data }
  | other {log : List (List UInt8 × Nat)} {s s' : HubState} :
      Calls size log s → s'.htabDevid = s.htabDevid → Calls size log s'

/-- The strings for which a place was returned. -/
def stored (log : List (List UInt8 × Nat)) : Finset (List UInt8) :=
  ((log.filter fun c => c.2 ≠ 0).map Prod.fst).toFinset

/-- An entry of the table. -/
def entry (s : HubState) (k : Nat) : Entry := s.htabDevid.table.elim {} fun table => table k

/-- What holds after calls, of what they have returned, of the table, and of the next call. -/
structure Correct (size : UInt32) (log : List (List UInt8 × Nat)) (s : HubState) : Prop where
  /-- The search of a call ends. -/
  ends : ∀ str, ∃ turns, searchIn turns (entry s) size str =
    some (search (entry s) s.htabDevid.size str)
  /-- A call returns a place or zero. -/
  result_le : ∀ str, (call str s).1 ≤ size.toNat
  /-- It returns zero exactly when the string is new and the table is full. -/
  result_eq_zero_iff : ∀ str, (call str s).1 = 0 ↔
    str ∉ stored log ∧ s.htabDevid.filled = size.toNat
  /-- Calls with the same string have returned the same. -/
  same : ∀ c ∈ log, ∀ c' ∈ log, c.1 = c'.1 → c.2 = c'.2
  /-- Calls with other strings have returned other places. -/
  distinct : ∀ c ∈ log, ∀ c' ∈ log, c.1 ≠ c'.1 → c.2 ≠ 0 → c.2 ≠ c'.2
  /-- The strings that are stored are counted. -/
  filled_eq : s.htabDevid.filled = (stored log).card
  /-- The places that were returned have their strings. -/
  str_eq : ∀ c ∈ log, c.2 ≠ 0 → (entry s c.2).used ≠ 0 ∧ (entry s c.2).str = some c.1
  /-- A call leaves the entries that are used. -/
  entry_eq : ∀ str k, (entry s k).used ≠ 0 → entry (call str s).2 k = entry s k

theorem mem_stored {log : List (List UInt8 × Nat)} {str : List UInt8} :
    str ∈ stored log ↔ ∃ k, (str, k) ∈ log ∧ k ≠ 0 := by
  rw [stored, List.mem_toFinset, List.mem_map]
  constructor
  · rintro ⟨⟨str, k⟩, hmem, rfl⟩
    obtain ⟨hlog, hk⟩ := List.mem_filter.1 hmem
    exact ⟨k, hlog, of_decide_eq_true hk⟩
  · rintro ⟨k, hlog, hk⟩
    exact ⟨(str, k), List.mem_filter.2 ⟨hlog, decide_eq_true hk⟩, rfl⟩

theorem entry_eq_table {s : HubState} {table : Nat → Entry}
    (htable : s.htabDevid.table = some table) : entry s = table := by
  funext k
  rw [entry, htable]
  rfl

/-! ### The invariant -/

/-- The strings for which a place was returned are there, there is no place for the others, and
all that is in the table was put there by a call. -/
structure Logged (size : Nat) (log : List (List UInt8 × Nat)) (s : HubState)
    (table : Nat → Entry) : Prop where
  sound : Sound size s.htabDevid table
  keys_eq : ∀ c ∈ log, c.2 ≠ 0 → keys table c.2 = some c.1
  place_eq : ∀ c ∈ log, c.2 = 0 → place (probes size) (keys table) c.1 = none
  mem_log : ∀ k str, keys table k = some str → (str, k) ∈ log

section Logged

variable {size : Nat} {log : List (List UInt8 × Nat)} {s : HubState} {table : Nat → Entry}

theorem call_eq (h : IsSize size) (hsound : Sound size s.htabDevid table) (str : List UInt8) :
    ∃ table', Searched size table str s (call str s).2 (call str s).1 table' :=
  htabHash_eq h hsound fun _ _ _ => rfl

theorem logged_new (htable : s.htabDevid = ⟨some fun _ => {}, size, 0⟩) :
    Logged size [] s fun _ => {} := by
  have hsound : Sound size s.htabDevid fun _ => {} := by
    rw [htable]
    exact sound_new
  refine ⟨hsound, fun c hc => absurd hc List.not_mem_nil, fun c hc => absurd hc List.not_mem_nil,
    fun k str hkey => ?_⟩
  have hfree : keys (fun _ => {}) k = none := rfl
  rw [hfree] at hkey
  cases hkey

/-- A call returns a place exactly when the search for its string ends at one. -/
theorem Searched.place_eq {s' : HubState} {str : List UInt8} {k : Nat} {table' : Nat → Entry}
    (hsearched : Searched size table str s s' k table') (hk : k ≠ 0) :
    place (probes size) (keys table) str = some k := by
  have hresult := hsearched.result_eq
  cases hplace : place (probes size) (keys table) str with
  | none =>
    rw [hplace] at hresult
    exact absurd hresult hk
  | some i =>
    rw [hplace] at hresult
    rw [hresult]
    rfl

theorem Searched.place_eq_none_iff {s' : HubState} {str : List UInt8} {k : Nat}
    {table' : Nat → Entry} (h : IsSize size) (hsearched : Searched size table str s s' k table') :
    place (probes size) (keys table) str = none ↔ k = 0 := by
  rw [hsearched.result_eq]
  cases hplace : place (probes size) (keys table) str with
  | none => exact ⟨fun _ => rfl, fun _ => rfl⟩
  | some i =>
    have hi := (mem_probes h (accepts_of_place hplace).1).1
    exact ⟨fun hnone => (by cases hnone), fun hzero => absurd hzero hi.ne'⟩

theorem Logged.call (h : IsSize size) (hlogged : Logged size log s table) (str : List UInt8) :
    ∃ table', Logged size ((str, (call str s).1) :: log) (call str s).2 table' := by
  obtain ⟨table', hsearched⟩ := call_eq h hlogged.sound str
  refine ⟨table', hsearched.sound, fun c hc hne => ?_, fun c hc hzero => ?_, fun k key hkey => ?_⟩
  · rw [hsearched.keys_eq]
    refine add_eq_some_iff.2 ?_
    rcases List.mem_cons.1 hc with rfl | hc
    · exact Or.inr ⟨rfl, hsearched.place_eq hne⟩
    · exact Or.inl (hlogged.keys_eq c hc hne)
  · rw [hsearched.keys_eq]
    refine place_add_of_none ?_
    rcases List.mem_cons.1 hc with rfl | hc
    · exact (hsearched.place_eq_none_iff h).2 hzero
    · exact hlogged.place_eq c hc hzero
  · rw [hsearched.keys_eq] at hkey
    rcases add_eq_some_iff.1 hkey with hkey | ⟨rfl, hplace⟩
    · exact List.mem_cons_of_mem _ (hlogged.mem_log k key hkey)
    · have hresult : (HtabHash.call key s).1 = k := by
        rw [hsearched.result_eq, hplace]
        rfl
      rw [hresult]
      exact List.mem_cons_self

theorem Logged.setData (hlogged : Logged size log s table) (k data : Nat) :
    Logged size log { s with htabDevid := s.htabDevid.setData k data }
      (Function.update table k { table k with data := data }) := by
  refine ⟨hlogged.sound.setData k data, ?_, ?_, ?_⟩ <;> rw [keys_setData]
  · exact hlogged.keys_eq
  · exact hlogged.place_eq
  · exact hlogged.mem_log

/-- The invariant holds after all calls. -/
theorem Calls.logged (h : IsSize size) (hcalls : Calls size log s) :
    ∃ table, Logged size log s table := by
  induction hcalls with
  | new htable => exact ⟨_, logged_new htable⟩
  | call str _ ih =>
    obtain ⟨table, hlogged⟩ := ih
    exact hlogged.call h str
  | setData k data _ ih =>
    obtain ⟨table, hlogged⟩ := ih
    exact ⟨_, hlogged.setData k data⟩
  | other _ heq ih =>
    obtain ⟨table, hlogged⟩ := ih
    refine ⟨table, ?_, hlogged.keys_eq, hlogged.place_eq, hlogged.mem_log⟩
    rw [heq]
    exact hlogged.sound

end Logged

/-! ### What holds after the calls -/

section Correct

variable {size : Nat} {log : List (List UInt8 × Nat)} {s : HubState} {table : Nat → Entry}

theorem used_of_keys {str : List UInt8} {k : Nat} (hkey : keys table k = some str) :
    (table k).used ≠ 0 ∧ (table k).str = some str := by
  rw [keys] at hkey
  split_ifs at hkey with hused
  exact ⟨hused, hkey⟩

theorem exists_keys (hhashed : Hashed size table) {k : Nat} (hused : (table k).used ≠ 0) :
    ∃ str, keys table k = some str := by
  obtain ⟨str, hstr, -⟩ := hhashed k hused
  exact ⟨str, (if_neg hused).trans hstr⟩

theorem used_eq (hhashed : Hashed size table) {str : List UInt8} {k : Nat}
    (hkey : keys table k = some str) : (table k).used = tableHash size str := by
  obtain ⟨hused, hstr⟩ := used_of_keys hkey
  obtain ⟨str', hstr', hhash⟩ := hhashed k hused
  rw [hstr', Option.some.injEq] at hstr
  rw [hhash, hstr]

/-- A call leaves the entries that are used. -/
theorem Searched.entry_eq {s' : HubState} {str : List UInt8} {n : Nat} {table' : Nat → Entry}
    (hsearched : Searched size table str s s' n table') (hhashed : Hashed size table) {k : Nat}
    (hused : (table k).used ≠ 0) : table' k = table k := by
  obtain ⟨key, hkey⟩ := exists_keys hhashed hused
  have hkey' : keys table' k = some key := by
    rw [hsearched.keys_eq]
    exact add_eq_some_iff.2 (Or.inl hkey)
  have husedEq : (table' k).used = (table k).used :=
    (used_eq hsearched.sound.hashed hkey').trans (used_eq hhashed hkey).symm
  have hstrEq : (table' k).str = (table k).str :=
    (used_of_keys hkey').2.trans (used_of_keys hkey).2.symm
  have hdataEq := hsearched.data_eq k
  cases htable : table k
  cases htable' : table' k
  rw [htable, htable'] at husedEq hstrEq hdataEq
  exact Entry.mk.injEq .. |>.mpr ⟨husedEq, hstrEq, hdataEq⟩

variable (h : IsSize size) (hlogged : Logged size log s table)

include hlogged

/-- What was returned for a string is where the search for it ends. -/
theorem Logged.result_eq {c : List UInt8 × Nat} (hc : c ∈ log) :
    c.2 = (place (probes size) (keys table) c.1).getD 0 := by
  by_cases hzero : c.2 = 0
  · rw [hlogged.place_eq c hc hzero, hzero]
    rfl
  · rw [hlogged.sound.placed _ _ (hlogged.keys_eq c hc hzero)]
    rfl

include h

theorem Logged.mem_stored_iff {str : List UInt8} :
    str ∈ stored log ↔ ∃ k, keys table k = some str := by
  rw [mem_stored]
  constructor
  · rintro ⟨k, hlog, hk⟩
    exact ⟨k, hlogged.keys_eq (str, k) hlog hk⟩
  · rintro ⟨k, hkey⟩
    exact ⟨k, hlogged.mem_log k str hkey, (hlogged.sound.bounds h hkey).1.ne'⟩

/-- Every string that is stored has an entry of its own. -/
theorem Logged.card_stored : (stored log).card = usedCount size table := by
  have himage : stored log =
      ((Finset.Icc 1 size).filter fun k => (table k).used ≠ 0).image
        fun k => (keys table k).getD [] := by
    ext str
    rw [hlogged.mem_stored_iff h, Finset.mem_image]
    constructor
    · rintro ⟨k, hkey⟩
      refine ⟨k, Finset.mem_filter.2 ⟨?_, (used_of_keys hkey).1⟩, ?_⟩
      · exact Finset.mem_Icc.2 (hlogged.sound.bounds h hkey)
      · rw [hkey, Option.getD_some]
    · rintro ⟨k, hk, rfl⟩
      obtain ⟨str, hkey⟩ := exists_keys hlogged.sound.hashed (Finset.mem_filter.1 hk).2
      exact ⟨k, by rw [hkey, Option.getD_some]⟩
  rw [himage, usedCount]
  refine Finset.card_image_of_injOn fun k hk k' hk' heq => ?_
  obtain ⟨str, hkey⟩ := exists_keys hlogged.sound.hashed (Finset.mem_filter.1 hk).2
  obtain ⟨str', hkey'⟩ := exists_keys hlogged.sound.hashed (Finset.mem_filter.1 hk').2
  rw [hkey, hkey', Option.getD_some, Option.getD_some] at heq
  exact hlogged.sound.placed.injective hkey (heq ▸ hkey')

/-- There is no place exactly for a new string when the table is full. -/
theorem Logged.place_eq_none_iff {str : List UInt8} :
    place (probes size) (keys table) str = none ↔
      str ∉ stored log ∧ s.htabDevid.filled = size := by
  rw [hlogged.mem_stored_iff h]
  constructor
  · intro hplace
    refine ⟨?_, hlogged.sound.filled_eq_of_none h hplace⟩
    rintro ⟨k, hkey⟩
    rw [hlogged.sound.placed k str hkey] at hplace
    cases hplace
  · rintro ⟨hnew, hfull⟩
    by_contra hplace
    obtain ⟨k, hplace⟩ := Option.ne_none_iff_exists'.1 hplace
    obtain ⟨hmem, hfree | hkey⟩ := accepts_of_place hplace
    · obtain ⟨hk, hle⟩ := mem_probes h hmem
      exact (hlogged.sound.filled_lt hk hle hfree).ne hfull
    · exact hnew ⟨k, hkey⟩

end Correct

/-- **All calls on a table of prime size.** -/
theorem calls_correct (size : UInt32) (hprime : size.toNat.Prime) (hfive : 5 ≤ size.toNat)
    (log : List (List UInt8 × Nat)) (s : HubState) (hcalls : Calls size.toNat log s) :
    Correct size log s := by
  have h : IsSize size.toNat := ⟨hprime, by omega, size.toNat_lt⟩
  obtain ⟨table, hlogged⟩ := hcalls.logged h
  have hsound := hlogged.sound
  have hentry := entry_eq_table hsound.table_eq
  refine ⟨fun str => ?_, fun str => ?_, fun str => ?_, fun c hc c' hc' heq => ?_,
    fun c hc c' hc' hne hplace heq => ?_, ?_, fun c hc hplace => ?_, fun str k hused => ?_⟩
  · rw [hsound.size_eq]
    exact ⟨_, searchIn_eq h⟩
  · obtain ⟨table', hsearched⟩ := call_eq h hsound str
    rw [hsearched.result_eq]
    cases hplace : place (probes size.toNat) (keys table) str with
    | none => exact Nat.zero_le _
    | some k => exact (mem_probes h (accepts_of_place hplace).1).2
  · obtain ⟨table', hsearched⟩ := call_eq h hsound str
    rw [← hsearched.place_eq_none_iff h, hlogged.place_eq_none_iff h]
  · rw [hlogged.result_eq hc, hlogged.result_eq hc', heq]
  · have hkey := hlogged.keys_eq c hc hplace
    have hkey' := hlogged.keys_eq c' hc' (heq ▸ hplace)
    rw [heq, hkey', Option.some.injEq] at hkey
    exact hne hkey.symm
  · rw [hsound.filled_eq, hlogged.card_stored h]
  · rw [hentry]
    exact used_of_keys (hlogged.keys_eq c hc hplace)
  · obtain ⟨table', hsearched⟩ := call_eq h hsound str
    rw [hentry] at hused
    rw [hentry, entry_eq_table hsearched.sound.table_eq]
    exact hsearched.entry_eq hsound.hashed hused

/-- Two strings with one hash. -/
theorem calls_correct_collision :
    Correct 5 [([97], 2), ([102], 4), ([97], 2)]
      (call [97] (call [102] (call [97] { htabDevid := ⟨some fun _ => {}, 5, 0⟩ }).2).2).2 := by
  have hnew : Calls 5 [] { htabDevid := ⟨some fun _ => {}, 5, 0⟩ } := .new rfl
  exact calls_correct 5 (by decide) (by decide) _ _ (((hnew.call [97]).call [102]).call [97])

end UsbMaker.HtabHash
