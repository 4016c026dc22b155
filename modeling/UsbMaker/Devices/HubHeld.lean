import UsbMaker.Devices.HubArray
import UsbMaker.Devices.HubLosses

/-!
# What the table holds when memory runs out

An id is in the table from the first call of `htab_hash` with it for which there was memory, if
fewer than 257 ids had been hashed by then. Its index is positive once it has been registered with a
positive index while it was in the table. This holds as long as the table does not run full with
some of its places lost, that is, if there was memory for all ids or the ids and the failed requests
are at most 257.

Calls and registrations are listed with the newest first.

## Main definitions

* `Devices.Known`: an id has been put in the table; `Devices.Finds`: with a positive index.
* `Devices.Roomy`: the calls for which this holds.
* `Devices.Holds`: the table after calls.

## Main results

* `Devices.Holds.call`, `Devices.held_register`: calls and registrations.
-/

namespace UsbMaker.Devices

open HtabHash Program

/-- The ids of calls of `htab_hash`. -/
def idsOf (calls : List Key) : Finset (List UInt8) :=
  (calls.map fun deviceId => toUpper deviceId.id).toFinset

/-- The number of calls for whose id there was no memory. -/
def losses (calls : List Key) : Nat := calls.countP fun deviceId => !deviceId.memory

/-- There was memory for all ids, or the calls do not fill the table, and no id is the text of a
null pointer. -/
def Roomy (calls : List Key) : Prop :=
  losses calls = 0 ∨
    nullText ∉ idsOf calls ∧ (idsOf calls).card + losses calls ≤ devidHtabSize

/-- There was memory for the id in one of the calls, and room in the table. -/
def Known (calls : List Key) (id : List UInt8) : Prop :=
  Occurred (fun deviceId before => toUpper deviceId.id = id ∧ deviceId.memory = true ∧
    (idsOf before).card < devidHtabSize) calls

/-- An id that was known has been registered with a positive index. -/
def Finds (log : List (Nat × Key)) (id : List UInt8) : Prop :=
  Occurred (fun c before => toUpper c.2.id = id ∧ 0 < c.1 ∧ Known ((c :: before).map Prod.snd) id)
    log

section Calls

variable {calls calls' : List Key} {deviceId : Key} {log : List (Nat × Key)} {id : List UInt8}

theorem idsOf_cons : idsOf (deviceId :: calls) = insert (toUpper deviceId.id) (idsOf calls) := by
  rw [idsOf, List.map_cons, List.toFinset_cons, idsOf]

theorem losses_cons :
    losses (deviceId :: calls) = losses calls + if deviceId.memory then 0 else 1 := by
  rw [losses, losses, List.countP_cons]
  cases deviceId.memory <;> rfl

theorem Roomy.of_suffix (h : Roomy calls') (hcalls : calls <:+ calls') : Roomy calls := by
  have hlosses : losses calls ≤ losses calls' := hcalls.sublist.countP_le
  have hids : idsOf calls ⊆ idsOf calls' := by
    intro id hid
    rw [idsOf, List.mem_toFinset, List.mem_map] at hid ⊢
    obtain ⟨deviceId, hmem, rfl⟩ := hid
    exact ⟨deviceId, hcalls.mem hmem, rfl⟩
  have hcard := Finset.card_le_card hids
  rcases h with hnone | ⟨hnull, hroom⟩
  · exact Or.inl (by omega)
  · exact Or.inr ⟨fun hmem => hnull (hids hmem), by omega⟩

theorem Known.mem_idsOf (h : Known calls id) : id ∈ idsOf calls := by
  induction calls with
  | nil => exact absurd h occurred_nil
  | cons deviceId calls ih =>
    rw [idsOf_cons, Finset.mem_insert]
    rcases h with ⟨rfl, -⟩ | h
    · exact Or.inl rfl
    · exact Or.inr (ih h)

theorem Finds.known (h : Finds log id) : Known (log.map Prod.snd) id := by
  induction log with
  | nil => exact absurd h occurred_nil
  | cons c log ih =>
    rcases h with ⟨-, -, h⟩ | h
    · exact h
    · exact (ih h).of_suffix (List.suffix_cons _ _)

theorem Finds.exists_pos (h : Finds log id) : ∃ c ∈ log, 0 < c.1 := by
  induction log with
  | nil => exact absurd h occurred_nil
  | cons c log ih =>
    rcases h with ⟨-, hpos, -⟩ | h
    · exact ⟨c, List.mem_cons_self, hpos⟩
    · obtain ⟨c', hc', hpos⟩ := ih h
      exact ⟨c', List.mem_cons_of_mem c hc', hpos⟩

end Calls

/-! ### The table -/

/-- The table after calls, of which some were registrations. -/
structure Holds (log : List (Nat × Key)) (calls : List Key) (htab : Htab) (table : Nat → Entry)
    (held : Finset (List UInt8)) (lost : Finset Nat) : Prop where
  lossy : Lossy devidHtabSize htab table held lost
  mem_held : ∀ id, id ∈ held ↔ Known calls id
  lost_le : lost.card ≤ losses calls
  tried : losses calls = 0 → held.card < devidHtabSize → idsOf calls ⊆ held
  data_pos : ∀ i id, slots table i = some (.inl id) → (0 < (table i).data ↔ Finds log id)
  data_zero : ∀ i, (∀ id, slots table i ≠ some (.inl id)) → (table i).data = 0
  suffix : log.map Prod.snd <:+ calls

section Holds

variable {log : List (Nat × Key)} {calls : List Key} {htab : Htab} {table : Nat → Entry}
  {held : Finset (List UInt8)} {lost : Finset Nat} {deviceId : Key} {s : HubState}

theorem holds_new : Holds [] [] ⟨some fun _ => {}, devidHtabSize, 0⟩ (fun _ => {}) ∅ ∅ := by
  refine ⟨lossy_new, fun id => ?_, le_rfl, fun _ _ => le_rfl, fun i id hi => ?_, fun _ _ => rfl,
    List.suffix_rfl⟩
  · exact iff_of_false (Finset.notMem_empty id) occurred_nil
  · cases hi

/-- The strings are ids of the calls. -/
theorem Holds.held_subset (h : Holds log calls htab table held lost) : held ⊆ idsOf calls :=
  fun id hid => ((h.mem_held id).1 hid).mem_idsOf

/-- A call that leaves the table as it is. -/
theorem Holds.same (h : Holds log calls htab table held lost)
    (hknown : (idsOf calls).card < devidHtabSize → toUpper deviceId.id ∈ held)
    (htried : held.card < devidHtabSize → toUpper deviceId.id ∈ held) :
    Holds log (deviceId :: calls) htab table held lost := by
  have hlosses : losses (deviceId :: calls) = _ := losses_cons
  refine ⟨h.lossy, fun id => ?_, ?_, fun hnone hcard => ?_, h.data_pos, h.data_zero,
    h.suffix.trans (List.suffix_cons _ _)⟩
  · rw [h.mem_held id]
    refine ⟨Or.inr, ?_⟩
    rintro (⟨rfl, -, hfew⟩ | hid)
    · exact (h.mem_held _).1 (hknown hfew)
    · exact hid
  · exact h.lost_le.trans (by omega)
  · rw [idsOf_cons]
    exact Finset.insert_subset (htried hcard) (h.tried (by omega) hcard)

/-- A call that puts its id in the table, or loses a place. -/
theorem Holds.taking {i : Nat} (h : Holds log calls s.htabDevid table held lost)
    (hroomy : Roomy (deviceId :: calls)) (hnew : toUpper deviceId.id ∉ held)
    (hlt : held.card < devidHtabSize) (hfree : slots table i = none)
    (hlossy : Lossy devidHtabSize
      (taking devidHtabSize s table (toUpper deviceId.id) deviceId.memory i).htabDevid
      (taken devidHtabSize table (toUpper deviceId.id) deviceId.memory i)
      (if deviceId.memory then insert (toUpper deviceId.id) held else held)
      (if deviceId.memory then lost else insert i lost)) :
    Holds log (deviceId :: calls)
      (HtabHash.taking devidHtabSize s table (toUpper deviceId.id) deviceId.memory i).htabDevid
      (taken devidHtabSize table (toUpper deviceId.id) deviceId.memory i)
      (if deviceId.memory then insert (toUpper deviceId.id) held else held)
      (if deviceId.memory then lost else insert i lost) := by
  have hlosses : losses (deviceId :: calls) = _ := losses_cons
  have hslots : slots (taken devidHtabSize table (toUpper deviceId.id) deviceId.memory i) = _ :=
    slots_taken isSize_devidHtabSize deviceId.memory
  have hzero : (table i).data = 0 := h.data_zero i fun id hi => by
    rw [hfree] at hi
    cases hi
  refine ⟨hlossy, fun id => ?_, ?_, fun hnone hcard => ?_, fun j id hj => ?_, fun j hj => ?_,
    h.suffix.trans (List.suffix_cons _ _)⟩
  · change _ ↔ _ ∨ Known calls id
    rw [← h.mem_held id]
    cases hmemory : deviceId.memory
    · simp [hmemory]
    · -- the other ids are in the table too, or there are fewer of them
      have hfew : (idsOf calls).card < devidHtabSize := by
        by_cases hnone : losses calls = 0
        · exact (Finset.card_le_card (h.tried hnone hlt)).trans_lt hlt
        · have hroom := ((hroomy.of_suffix (List.suffix_cons _ _)).resolve_left hnone).2
          omega
      rw [if_pos rfl, Finset.mem_insert]
      exact or_congr_left ⟨fun heq => ⟨heq.symm, hmemory, hfew⟩, fun hboth => hboth.1.symm⟩
  · cases hmemory : deviceId.memory
    · have hcard := Finset.card_insert_le i lost
      have hle := h.lost_le
      rw [hmemory] at hlosses
      simp only [Bool.false_eq_true, if_false] at hlosses ⊢
      omega
    · rw [hmemory] at hlosses
      exact h.lost_le.trans hlosses.ge
  · cases hmemory : deviceId.memory
    · rw [hmemory] at hlosses
      simp only [Bool.false_eq_true, if_false] at hlosses
      omega
    · rw [if_pos rfl, idsOf_cons]
      exact Finset.insert_subset_insert _ (h.tried (by omega) hlt)
  · rw [data_taken]
    rw [hslots] at hj
    rcases eq_or_ne j i with rfl | hji
    · rw [Function.update_self, Option.some.injEq] at hj
      rw [hzero]
      refine iff_of_false (Nat.lt_irrefl 0) fun hfinds => ?_
      split_ifs at hj
      · rw [← Sum.inl.inj hj] at hfinds
        exact hnew ((h.mem_held _).2 (hfinds.known.of_suffix h.suffix))
    · rw [Function.update_of_ne hji] at hj
      exact h.data_pos j id hj
  · rw [data_taken]
    rcases eq_or_ne j i with rfl | hji
    · exact hzero
    · refine h.data_zero j fun id => ?_
      have hother := hj id
      rwa [hslots, Function.update_of_ne hji] at hother

/-- **A call of `htab_hash`** returns the place of the id, or zero when the id is not in the
table. -/
theorem Holds.call (h : Holds log calls s.htabDevid table held lost)
    (hroomy : Roomy (deviceId :: calls)) :
    ∃ table' held' lost', Holds log (deviceId :: calls)
        (htabHash deviceId.memory (toUpper deviceId.id) s).2.htabDevid table' held' lost' ∧
      ((htabHash deviceId.memory (toUpper deviceId.id) s).1 = 0 ∧ toUpper deviceId.id ∉ held' ∨
        0 < (htabHash deviceId.memory (toUpper deviceId.id) s).1 ∧
          (htabHash deviceId.memory (toUpper deviceId.id) s).1 ≤ devidHtabSize ∧
          slots table' (htabHash deviceId.memory (toUpper deviceId.id) s).1 =
            some (.inl (toUpper deviceId.id))) := by
  have hsubset := h.held_subset
  have hne : lost = ∅ ∨ toUpper deviceId.id ≠ nullText := by
    rw [← Finset.card_eq_zero]
    rcases hroomy with hnone | ⟨hnull, -⟩
    · have hlosses : losses (deviceId :: calls) = _ := losses_cons
      have hle := h.lost_le
      exact Or.inl (by omega)
    · rw [idsOf_cons, Finset.mem_insert, not_or] at hnull
      exact Or.inr (Ne.symm hnull.1)
  have hroom (hnew : toUpper deviceId.id ∉ held) (hlost : lost.Nonempty) :
      held.card + lost.card < devidHtabSize := by
    have hlosses : losses (deviceId :: calls) = _ := losses_cons
    have hle := h.lost_le
    have hpos := hlost.card_pos
    have hinsert : (insert (toUpper deviceId.id) held).card ≤ (idsOf (deviceId :: calls)).card := by
      rw [idsOf_cons]
      exact Finset.card_le_card (Finset.insert_subset_insert _ hsubset)
    rw [Finset.card_insert_of_notMem hnew] at hinsert
    rcases hroomy with hnone | ⟨-, hroom⟩
    · omega
    · omega
  have hcalled : Called devidHtabSize table held lost s deviceId.memory _ _ :=
    called_htabHash isSize_devidHtabSize h.lossy hne hroom
  generalize htabHash deviceId.memory (toUpper deviceId.id) s = run at hcalled ⊢
  cases hcalled with
  | found hheld hi hpos hle =>
    exact ⟨table, held, lost, h.same (fun _ => hheld) fun _ => hheld, Or.inr ⟨hpos, hle, hi⟩⟩
  | @new i hnew hlt hfree hpos hle hlossy =>
    refine ⟨_, _, _, h.taking hroomy hnew hlt hfree hlossy, ?_⟩
    cases hmemory : deviceId.memory
    · exact Or.inl ⟨rfl, hnew⟩
    · refine Or.inr ⟨hpos, hle, ?_⟩
      change slots _ i = _
      rw [slots_taken isSize_devidHtabSize, Function.update_self]
      rfl
  | full hnew hcard =>
    refine ⟨table, held, lost, h.same (fun hfew => ?_) fun hlt => ?_, Or.inl ⟨rfl, hnew⟩⟩
    · have := Finset.card_le_card hsubset
      omega
    · omega

/-- A registration that has found its id. -/
theorem Holds.setData {n k : Nat}
    (h : Holds log (deviceId :: log.map Prod.snd) htab table held lost)
    (hle : ∀ c ∈ log, c.1 ≤ n) (hk : slots table k = some (.inl (toUpper deviceId.id))) :
    Holds ((n, deviceId) :: log) (deviceId :: log.map Prod.snd) (htab.setData k n)
      (Function.update table k { table k with data := n }) held lost := by
  refine ⟨h.lossy.setData k n, h.mem_held, h.lost_le, h.tried, ?_, ?_, List.suffix_rfl⟩
  · rw [slots_setData]
    intro i id hi
    change _ ↔ (_ ∧ _ ∧ _) ∨ Finds log id
    rcases eq_or_ne i k with rfl | hik
    · obtain rfl := Sum.inl.inj (Option.some.inj (hk.symm.trans hi))
      rw [Function.update_self]
      refine ⟨fun hpos => Or.inl ⟨rfl, hpos, ?_⟩, ?_⟩
      · exact (h.mem_held _).1 ((h.lossy.mem_held _).2 ⟨i, hk⟩)
      · rintro (⟨-, hpos, -⟩ | hfinds)
        · exact hpos
        · obtain ⟨c, hc, hpos⟩ := hfinds.exists_pos
          exact hpos.trans_le (hle c hc)
    · rw [Function.update_of_ne hik, h.data_pos i id hi]
      refine ⟨Or.inr, ?_⟩
      rintro (⟨rfl, -, -⟩ | hfinds)
      · exact absurd (h.lossy.placed.injective hi hk) hik
      · exact hfinds
  · rw [slots_setData]
    intro i hi
    have hik : i ≠ k := by
      rintro rfl
      exact hi _ hk
    rw [Function.update_of_ne hik]
    exact h.data_zero i hi

/-- A registration whose id is not in the table. -/
theorem Holds.skip {n : Nat} (h : Holds log (deviceId :: log.map Prod.snd) htab table held lost)
    (hnew : toUpper deviceId.id ∉ held) :
    Holds ((n, deviceId) :: log) (deviceId :: log.map Prod.snd) htab table held lost := by
  refine ⟨h.lossy, h.mem_held, h.lost_le, h.tried, fun i id hi => ?_, h.data_zero, List.suffix_rfl⟩
  rw [h.data_pos i id hi]
  refine ⟨Or.inr, ?_⟩
  rintro (⟨rfl, -, -⟩ | hfinds)
  · exact absurd ((h.lossy.mem_held _).2 ⟨i, hi⟩) hnew
  · exact hfinds

end Holds

/-- The table after calls, whatever its entries are. -/
def Held (log : List (Nat × Key)) (calls : List Key) (htab : Htab) : Prop :=
  ∃ table held lost, Holds log calls htab table held lost

/-- **A registration**: the id gets the index if it is in the table. -/
theorem held_register {c : Nat × Key} {log : List (Nat × Key)} {s : HubState}
    (h : Held log (log.map Prod.snd) s.htabDevid) (hroomy : Roomy ((c :: log).map Prod.snd))
    (hle : ∀ c' ∈ log, c'.1 ≤ c.1) :
    Held (c :: log) ((c :: log).map Prod.snd) (register c.1 c.2 s).2.htabDevid := by
  obtain ⟨table, held, lost, h⟩ := h
  obtain ⟨table', held', lost', h', hresult⟩ := h.call hroomy
  rw [register_apply]
  rcases hresult with ⟨hzero, hnew⟩ | ⟨hpos, -, hk⟩
  · rw [if_neg (not_not.2 hzero)]
    exact ⟨_, _, _, h'.skip hnew⟩
  · rw [if_pos hpos.ne']
    exact ⟨_, _, _, h'.setData hle hk⟩

/-- The table after the loop over the hubs. -/
theorem held_mapHubs {memory : Memory} {hubs : List Hub}
    (hroomy : Roomy ((registrations memory hubs.reverse).map Prod.snd))
    (hdeviceId : memory.deviceId = true) (htable : memory.table = true) :
    Held (registrations memory hubs.reverse) ((registrations memory hubs.reverse).map Prod.snd)
      (mapHubs memory (some hubs) {}).2.htabDevid := by
  refine (mapHubs_invariant (fun log htab => Held log (log.map Prod.snd) htab)
    ⟨_, _, _, holds_new⟩ (fun c log s hlog h => ?_) hdeviceId htable).2
  refine held_register h (hroomy.of_suffix (hlog.map Prod.snd)) ?_
  have hpairwise : (registrations memory hubs.reverse).Pairwise fun c c' => c'.1 ≤ c.1 :=
    pairwise_registrations hubs.reverse
  exact (List.pairwise_cons.1 (hpairwise.sublist hlog.sublist)).1

end UsbMaker.Devices
