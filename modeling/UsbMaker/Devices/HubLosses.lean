import UsbMaker.Devices.HubHash

/-!
# A hash table that loses places

When there is no memory for a copy of a new string `htab_hash` has already taken the place for it.
The entry is used from then on, but has no string, and it is not counted in `filled`. No search ends
there, but for the text that `safe_strcmp` takes for a null pointer, so that the place is lost.

A lost place counts here as one that holds a key of its own. Then the table is again one with
probing, as long as no new string comes to a table in which all places are taken and some of them
are lost: it would be put where its search began, over what is there.

## Main definitions

* `HtabHash.slots`: what is at a place.
* `HtabHash.Lossy`: the invariant, with the strings that are held and the places that are lost.
* `HtabHash.Called`: how a call ends.

## Main results

* `HtabHash.called_htabHash`.
-/

namespace UsbMaker.HtabHash

open Devices Probing Program

variable {size : Nat}

/-- What is at a place: a string, or a key that stands for the place when it is lost. -/
def slots (table : Nat → Entry) (i : Nat) : Option (List UInt8 ⊕ Nat) :=
  if (table i).used = 0 then none else some ((table i).str.elim (.inr i) .inl)

/-- The places that a search comes to; that for a lost place comes to it at once. -/
def places (size : Nat) : List UInt8 ⊕ Nat → List Nat
  | .inl str => probes size str
  | .inr i => [i]

/-- A table that holds strings, and has lost places. -/
structure Lossy (size : Nat) (htab : Htab) (table : Nat → Entry) (held : Finset (List UInt8))
    (lost : Finset Nat) : Prop where
  table_eq : htab.table = some table
  size_eq : htab.size = size
  hashed : ∀ i str, slots table i = some (.inl str) → (table i).used = tableHash size str
  placed : Placed (places size) (slots table)
  mem_held : ∀ str, str ∈ held ↔ ∃ i, slots table i = some (.inl str)
  mem_lost : ∀ i, i ∈ lost ↔ slots table i = some (.inr i)
  filled_eq : htab.filled = held.card

section Slots

variable {table : Nat → Entry} {str : List UInt8} {i : Nat}

theorem slots_eq_none_iff : slots table i = none ↔ (table i).used = 0 := by
  rw [slots]
  split_ifs with hused
  · exact ⟨fun _ => hused, fun _ => rfl⟩
  · exact ⟨fun h => (by cases h), fun h => absurd h hused⟩

theorem slots_eq_inl_iff :
    slots table i = some (.inl str) ↔ (table i).used ≠ 0 ∧ (table i).str = some str := by
  rw [slots]
  split_ifs with hused
  · exact ⟨fun h => (by cases h), fun h => absurd hused h.1⟩
  · cases (table i).str with
    | none => simp
    | some str' => simp [hused]

theorem eq_of_slots_inr {j : Nat} (h : slots table i = some (.inr j)) : j = i := by
  rw [slots] at h
  split_ifs at h with hused
  cases hstr : (table i).str with
  | none =>
    rw [hstr] at h
    exact (Sum.inr.inj (Option.some.inj h)).symm
  | some str =>
    rw [hstr] at h
    cases h

theorem slots_setData (k data : Nat) :
    slots (Function.update table k { table k with data := data }) = slots table := by
  funext j
  rcases eq_or_ne j k with rfl | hjk
  · rw [slots, Function.update_self]
    rfl
  · rw [slots, Function.update_of_ne hjk]
    rfl

theorem slots_taken (h : IsSize size) (ok : Bool) :
    slots (taken size table str ok i) =
      Function.update (slots table) i (some (if ok then .inl str else .inr i)) := by
  funext j
  rcases eq_or_ne j i with rfl | hji
  · rw [slots, taken_self, Function.update_self]
    rw [if_neg (tableHash_bounds h str).1.ne']
    cases ok <;> rfl
  · rw [slots, taken_of_ne hji, Function.update_of_ne hji]
    rfl

end Slots

section Lossy

variable {htab : Htab} {table : Nat → Entry} {held : Finset (List UInt8)} {lost : Finset Nat}
  {str : List UInt8} {i : Nat}

/-- A table with no entries. -/
theorem lossy_new {size : Nat} : Lossy size ⟨some fun _ => {}, size, 0⟩ (fun _ => {}) ∅ ∅ := by
  have hfree (i : Nat) : slots (fun _ => {}) i = none := rfl
  refine ⟨rfl, rfl, fun i str hi => ?_, fun i key hi => ?_, fun str => ?_, fun i => ?_, rfl⟩
  · rw [hfree] at hi
    cases hi
  · rw [hfree] at hi
    cases hi
  · simp [hfree]
  · simp [hfree]

theorem Lossy.setData (hlossy : Lossy size htab table held lost) (k data : Nat) :
    Lossy size (htab.setData k data) (Function.update table k { table k with data := data }) held
      lost := by
  refine ⟨?_, hlossy.size_eq, fun i str hi => ?_, ?_, ?_, ?_, hlossy.filled_eq⟩
  · rw [Htab.setData, hlossy.table_eq]
    rfl
  · rw [slots_setData] at hi
    rw [← hlossy.hashed i str hi]
    rcases eq_or_ne i k with rfl | hik
    · rw [Function.update_self]
    · rw [Function.update_of_ne hik]
  · rw [slots_setData]
    exact hlossy.placed
  · rw [slots_setData]
    exact hlossy.mem_held
  · rw [slots_setData]
    exact hlossy.mem_lost

variable (h : IsSize size)

include h

/-- At an entry without a string no search ends, but for the text of a null pointer. -/
theorem Lossy.holds_iff (hlossy : Lossy size htab table held lost)
    (hne : lost = ∅ ∨ str ≠ nullText) :
    (table i).holds (tableHash size str) str = true ↔ slots table i = some (.inl str) := by
  rw [Entry.holds, Bool.and_eq_true, beq_iff_eq, beq_iff_eq]
  constructor
  · rintro ⟨hhash, hstr⟩
    have hused : (table i).used ≠ 0 := by
      rw [hhash]
      exact (tableHash_bounds h str).1.ne'
    refine slots_eq_inl_iff.2 ⟨hused, ?_⟩
    cases hentry : (table i).str with
    | none =>
      have hlost : i ∈ lost := by
        rw [hlossy.mem_lost, slots, if_neg hused, hentry]
        rfl
      rw [hentry] at hstr
      exact absurd hstr (hne.resolve_left (Finset.ne_empty_of_mem hlost))
    | some str' =>
      rw [hentry] at hstr
      exact congrArg some hstr.symm
  · intro hi
    refine ⟨hlossy.hashed i str hi, ?_⟩
    rw [(slots_eq_inl_iff.1 hi).2]
    rfl

/-- The search of `htab_hash` is that of a table with probing. -/
theorem Lossy.search_eq (hlossy : Lossy size htab table held lost)
    (hne : lost = ∅ ∨ str ≠ nullText) :
    search table size str =
      endOf size table str (place (places size) (slots table) (.inl str)) := by
  have hends : ends size table str = accepts (slots table) (.inl str) := by
    funext i
    rw [Bool.eq_iff_iff, ends_iff, accepts_iff, hlossy.holds_iff h hne, slots_eq_none_iff]
  rw [HtabHash.search_eq h, hends]
  rfl

theorem Lossy.bounds (hlossy : Lossy size htab table held lost)
    (hi : slots table i = some (.inl str)) : 0 < i ∧ i ≤ size :=
  mem_probes h (accepts_of_place (hlossy.placed i _ hi)).1

/-- When there is no place for a new string, all places are taken. -/
theorem Lossy.size_le_of_none (hlossy : Lossy size htab table held lost)
    (hplace : place (places size) (slots table) (.inl str) = none) :
    size ≤ held.card + lost.card := by
  have hnodup : (places size (.inl str)).Nodup := nodup_probes h str
  have hkeys (i : Nat) (key : List UInt8 ⊕ Nat) (hi : slots table i = some key) :
      key ∈ insert (Sum.inl str) (held.disjSum lost) := by
    refine Finset.mem_insert_of_mem ?_
    cases key with
    | inl str => exact Finset.inl_mem_disjSum.2 ((hlossy.mem_held str).2 ⟨i, hi⟩)
    | inr j =>
      obtain rfl := eq_of_slots_inr hi
      exact Finset.inr_mem_disjSum.2 ((hlossy.mem_lost j).2 hi)
  have hlt := hlossy.placed.length_lt hnodup hplace (Finset.mem_insert_self _ _) hkeys
  have hlength : (places size (.inl str)).length = size := length_probes str
  have hinsert := Finset.card_insert_le (Sum.inl str) (held.disjSum lost)
  rw [Finset.card_disjSum] at hinsert
  omega

/-- When a place is free, there are fewer strings than places. -/
theorem Lossy.card_lt_of_free (hlossy : Lossy size htab table held lost) (hi : 0 < i)
    (hle : i ≤ size) (hfree : slots table i = none) : held.card < size := by
  classical
  -- every string has a place of its own
  choose! spot hspot using fun str => (hlossy.mem_held str).1
  have hcard : held.card ≤ ((Finset.Icc 1 size).erase i).card := by
    refine Finset.card_le_card_of_injOn spot (fun str hstr => ?_) fun str hstr str' hstr' heq => ?_
    · have hbounds := hlossy.bounds h (hspot str hstr)
      refine Finset.mem_erase.2 ⟨?_, Finset.mem_Icc.2 hbounds⟩
      intro heq
      have hslot := hspot str hstr
      rw [heq, hfree] at hslot
      cases hslot
    · have hslot := hspot str hstr
      rw [heq, hspot str' hstr'] at hslot
      exact (Sum.inl.inj (Option.some.inj hslot)).symm
  rw [Finset.card_erase_of_mem (Finset.mem_Icc.2 ⟨hi, hle⟩), Nat.card_Icc] at hcard
  omega

/-- A new entry, for whose string there is memory or not. -/
theorem Lossy.taking {s : HubState} {ok : Bool}
    (hlossy : Lossy size s.htabDevid table held lost) (hnew : str ∉ held)
    (hplace : place (places size) (slots table) (.inl str) = some i)
    (hfree : slots table i = none) :
    Lossy size (taking size s table str ok i).htabDevid (taken size table str ok i)
      (if ok then insert str held else held) (if ok then lost else insert i lost) := by
  have hslots : slots (taken size table str ok i) = _ := slots_taken h ok
  have hadd : slots (taken size table str ok i) =
      add (places size) (slots table) (if ok then .inl str else .inr i) := by
    have hself : place (places size) (slots table) (if ok then .inl str else .inr i) = some i := by
      cases ok
      · exact List.find?_cons_of_pos (accepts_iff.2 (Or.inl hfree))
      · exact hplace
    rw [hslots, add, hself]
  have hslot (j : Nat) (key : List UInt8 ⊕ Nat) :
      slots (taken size table str ok i) j = some key ↔
        slots table j = some key ∨ j = i ∧ key = if ok then .inl str else .inr i := by
    rw [hslots]
    rcases eq_or_ne j i with rfl | hji
    · rw [Function.update_self, hfree]
      simp [eq_comm]
    · rw [Function.update_of_ne hji]
      simp [hji]
  refine ⟨rfl, hlossy.size_eq, fun j key hj => ?_, ?_, fun key => ?_, fun j => ?_, ?_⟩
  · rcases eq_or_ne j i with rfl | hji
    · rcases (hslot j _).1 hj with hj | ⟨-, hkey⟩
      · rw [hfree] at hj
        cases hj
      · cases ok
        · cases hkey
        · rw [taken_self, Sum.inl.inj hkey]
    · rw [taken_of_ne hji]
      rw [hslots, Function.update_of_ne hji] at hj
      exact hlossy.hashed j key hj
  · rw [hadd]
    exact hlossy.placed.add
  · simp only [hslot]
    cases ok
    · simp [hlossy.mem_held key]
    · rw [if_pos rfl, if_pos rfl, Finset.mem_insert, hlossy.mem_held key]
      constructor
      · rintro (rfl | ⟨j, hj⟩)
        · exact ⟨i, Or.inr ⟨rfl, rfl⟩⟩
        · exact ⟨j, Or.inl hj⟩
      · rintro ⟨j, hj | ⟨-, hkey⟩⟩
        · exact Or.inr ⟨j, hj⟩
        · exact Or.inl (Sum.inl.inj hkey)
  · rw [hslot]
    cases ok
    · rw [if_neg Bool.false_ne_true, if_neg Bool.false_ne_true, Finset.mem_insert,
        hlossy.mem_lost j, or_comm]
      exact or_congr_right ⟨fun hj => ⟨hj, congrArg _ hj⟩, fun hj => hj.1⟩
    · simp [hlossy.mem_lost j]
  · cases ok
    · exact hlossy.filled_eq
    · rw [if_pos rfl, Finset.card_insert_of_notMem hnew]
      exact congrArg (· + 1) hlossy.filled_eq

/-- How a call of `htab_hash` ends. -/
inductive Called (size : Nat) (table : Nat → Entry) (held : Finset (List UInt8))
    (lost : Finset Nat) (s : HubState) (ok : Bool) (str : List UInt8) : Nat × HubState → Prop
  | found {i : Nat} (hheld : str ∈ held) (hi : slots table i = some (.inl str)) (hpos : 0 < i)
      (hle : i ≤ size) : Called size table held lost s ok str (i, s)
  | new {i : Nat} (hnew : str ∉ held) (hlt : held.card < size) (hfree : slots table i = none)
      (hpos : 0 < i) (hle : i ≤ size)
      (hlossy : Lossy size (HtabHash.taking size s table str ok i).htabDevid
        (taken size table str ok i) (if ok then insert str held else held)
        (if ok then lost else insert i lost)) :
      Called size table held lost s ok str
        (if ok then i else 0, HtabHash.taking size s table str ok i)
  | full (hnew : str ∉ held) (hcard : size ≤ held.card) :
      Called size table held lost s ok str (0, s)

/-- **A call of `htab_hash`**, when no place is lost, or the string is not the text of a null
pointer, and not a new one for a table in which all places are taken. -/
theorem called_htabHash {s : HubState} {ok : Bool}
    (hlossy : Lossy size s.htabDevid table held lost) (hne : lost = ∅ ∨ str ≠ nullText)
    (hroom : str ∉ held → lost.Nonempty → held.card + lost.card < size) :
    Called size table held lost s ok str (htabHash ok str s) := by
  have hsearch := hlossy.search_eq h hne
  have hheld (hnone : ∀ i, slots table i ≠ some (.inl str)) : str ∉ held := fun hmem => by
    obtain ⟨i, hi⟩ := (hlossy.mem_held str).1 hmem
    exact hnone i hi
  cases hplace : place (places size) (slots table) (.inl str) with
  | none =>
    have hnew : str ∉ held := hheld fun i hi => by
      rw [hlossy.placed i _ hi] at hplace
      cases hplace
    have hle := hlossy.size_le_of_none h hplace
    have hlost : lost = ∅ := by
      by_contra hne
      have hlt := hroom hnew (Finset.nonempty_iff_ne_empty.2 hne)
      omega
    rw [hlost, Finset.card_empty, Nat.add_zero] at hle
    rw [hplace] at hsearch
    rw [htabHash_of_stopped hlossy.table_eq hlossy.size_eq hsearch,
      newEntry_of_full hlossy.size_eq (hlossy.filled_eq ▸ hle)]
    exact .full hnew hle
  | some i =>
    obtain ⟨hmem, hslot⟩ := accepts_of_place hplace
    obtain ⟨hpos, hle⟩ := mem_probes h hmem
    rw [hplace, endOf] at hsearch
    rcases hslot with hfree | hkey
    · have hlt := hlossy.card_lt_of_free h hpos hle hfree
      have hnew : str ∉ held := hheld fun j hj => by
        have hsame := (hlossy.placed j _ hj).symm.trans hplace
        rw [Option.some.inj hsame, hfree] at hj
        cases hj
      have hother : (table i).holds (tableHash size str) str ≠ true := by
        rw [ne_eq, hlossy.holds_iff h hne, hfree]
        exact fun heq => (by cases heq)
      rw [if_neg hother] at hsearch
      rw [htabHash_of_stopped hlossy.table_eq hlossy.size_eq hsearch,
        newEntry_of_lt hlossy.size_eq h (hlossy.filled_eq ▸ hlt)]
      exact .new hnew hlt hfree hpos hle (hlossy.taking h hnew hplace hfree)
    · rw [if_pos ((hlossy.holds_iff h hne).2 hkey)] at hsearch
      rw [htabHash_of_found hlossy.table_eq hlossy.size_eq hsearch]
      exact .found ((hlossy.mem_held str).2 ⟨i, hkey⟩) hkey hpos hle

end Lossy

end UsbMaker.HtabHash
