import UsbMaker.Devices.HubRegistry
import UsbMaker.Run.History

/-!
# The array of paths when memory runs out

Whether `dev_if_path` is still there after the loop over the hubs follows from the answers alone.
The array is full when the number of its strings is one of its sizes and the last path that was
offered to it was stored: if there was no memory for that path, the array has grown before. It is
lost when it is full, another path is offered, and it cannot grow.

The ids that are put in the table with `htab_hash`, and the indices that go with them, follow from
the answers too. Hubs and ids are listed here with the newest first.

## Main definitions

* `Devices.Intact`: the array is there.
* `Devices.registrations`: the ids that are put in the table, with the indices.
* `Devices.ArrayAfter`: the array after some hubs.

## Main results

* `Devices.mapHubs_invariant`: the array and the table after the loop over the hubs.
-/

namespace UsbMaker.Devices

open HtabHash Program

/-! ### What follows from the answers -/

/-- The path of a hub is offered to the array. -/
def Hub.offers (hub : Hub) : Bool :=
  hub.interface && hub.details && hub.devicePath.isSome && !hub.children.isEmpty

section Answers

variable (memory : Memory)

/-- The number of the strings after some hubs. -/
def stringCount (hubs : List Hub) : Nat :=
  memory.dummy.toNat + hubs.countP fun hub => hub.offers && hub.copies

/-- The last path that was offered was stored. -/
def LastStored (hubs : List Hub) : Prop := ∀ hub ∈ (hubs.filter Hub.offers).head?, hub.copies = true

/-- The array is full after some hubs. -/
def ArrayFull (hubs : List Hub) : Prop :=
  (∃ n ≤ 24, stringCount memory hubs = 128 * 2 ^ n) ∧ LastStored hubs

/-- The array was there at first, and could grow whenever it was full and a path was offered. -/
def Intact (hubs : List Hub) : Prop :=
  memory.strings = true ∧ Recorded (fun hub before => hub.offers = true → ArrayFull memory before →
    hub.grows = true ∧ stringCount memory before < 2 ^ 31) hubs

/-- The path of a hub is stored. -/
def Stored (hub : Hub) (before : List Hub) : Prop :=
  hub.offers = true ∧ hub.copies = true ∧ Intact memory (hub :: before)

instance : DecidablePred LastStored := fun hubs =>
  inferInstanceAs (Decidable (∀ hub ∈ (hubs.filter Hub.offers).head?, hub.copies = true))

instance : DecidablePred (ArrayFull memory) := fun hubs =>
  inferInstanceAs (Decidable (_ ∧ LastStored hubs))

instance : DecidablePred (Intact memory) := fun _ => inferInstanceAs (Decidable (_ ∧ Recorded _ _))

instance (hub : Hub) : DecidablePred (Stored memory hub) := fun before =>
  inferInstanceAs (Decidable (_ ∧ _ ∧ Intact memory (hub :: before)))

/-- The ids that are put in the table for a hub, each with the index of the path. -/
def hubRegistrations (hub : Hub) (before : List Hub) : List (Nat × Key) :=
  if Stored memory hub before then hub.childIds.map fun id => (stringCount memory before, id)
  else []

/-- The ids that are put in the table, each with the index of its hub. -/
def registrations : List Hub → List (Nat × Key)
  | [] => []
  | hub :: before => (hubRegistrations memory hub before).reverse ++ registrations before

end Answers

section Registrations

variable {memory : Memory} {hub : Hub} {before hubs : List Hub} {c : Nat × Key}

theorem stringCount_cons :
    stringCount memory (hub :: hubs) =
      stringCount memory hubs + if hub.offers = true ∧ hub.copies = true then 1 else 0 := by
  rw [stringCount, stringCount, List.countP_cons, Nat.add_assoc]
  simp only [Bool.and_eq_true]

theorem intact_cons :
    Intact memory (hub :: hubs) ↔ Intact memory hubs ∧ (hub.offers = true →
      ArrayFull memory hubs → hub.grows = true ∧ stringCount memory hubs < 2 ^ 31) := by
  rw [Intact, Intact, recorded_cons, and_assoc]
  exact and_congr_right fun _ => and_comm

theorem lastStored_cons :
    LastStored (hub :: hubs) ↔ if hub.offers then hub.copies = true else LastStored hubs := by
  rw [LastStored, LastStored]
  by_cases hoffers : hub.offers = true
  · simp [hoffers]
  · simp [hoffers]

theorem hubRegistrations_of_not (hstored : ¬ Stored memory hub before) :
    hubRegistrations memory hub before = [] := if_neg hstored

/-- The index of a registration is below the number of the strings. -/
theorem lt_of_mem_registrations (hc : c ∈ registrations memory hubs) :
    c.1 < stringCount memory hubs := by
  induction hubs with
  | nil => exact absurd hc List.not_mem_nil
  | cons hub hubs ih =>
    rw [stringCount_cons]
    rcases List.mem_append.1 hc with hc | hc
    · rw [List.mem_reverse, hubRegistrations] at hc
      split_ifs at hc with hstored
      · obtain ⟨id, -, rfl⟩ := List.mem_map.1 hc
        rw [if_pos ⟨hstored.1, hstored.2.1⟩]
        exact Nat.lt_succ_self _
      · exact absurd hc List.not_mem_nil
    · exact Nat.lt_add_right _ (ih hc)

/-- The indices of later registrations are not smaller. -/
theorem pairwise_registrations (hubs : List Hub) :
    (registrations memory hubs).Pairwise fun c c' => c'.1 ≤ c.1 := by
  induction hubs with
  | nil => exact List.Pairwise.nil
  | cons hub hubs ih =>
    have hindex {c : Nat × Key} (hc : c ∈ (hubRegistrations memory hub hubs).reverse) :
        c.1 = stringCount memory hubs := by
      rw [List.mem_reverse, hubRegistrations] at hc
      split_ifs at hc
      · obtain ⟨id, -, rfl⟩ := List.mem_map.1 hc
        rfl
      · exact absurd hc List.not_mem_nil
    rw [registrations, List.pairwise_append]
    refine ⟨List.pairwise_of_forall_mem_list fun c hc c' hc' => ?_, ih, fun c hc c' hc' => ?_⟩
    · rw [hindex hc, hindex hc']
    · rw [hindex hc]
      exact (lt_of_mem_registrations hc').le

end Registrations

/-! ### The array -/

/-- The array of paths after some hubs, as long as it is there. -/
structure ArrayAfter (memory : Memory) (hubs : List Hub) (arr : StrArray) : Prop where
  stores : ∃ paths, Stores arr paths ∧ paths.length = stringCount memory hubs
  max_eq : ∃ n, arr.max = 128 * 2 ^ n
  /-- The array has not grown without need. -/
  needed : arr.max = 128 ∨ arr.max < 2 * arr.index ∨ arr.max = 2 * arr.index ∧ ¬ LastStored hubs
  last : arr.index = arr.max → LastStored hubs

section Array

variable {memory : Memory} {hub : Hub} {hubs : List Hub} {arr arr' : StrArray}

/-- The array is full exactly when this follows from the answers. -/
theorem ArrayAfter.full_iff (h : ArrayAfter memory hubs arr) :
    arr.index = arr.max ↔ ArrayFull memory hubs := by
  obtain ⟨paths, hstores, hlength⟩ := h.stores
  obtain ⟨n, hmax⟩ := h.max_eq
  obtain ⟨m, hm, hmax'⟩ := hstores.max_eq
  have hindex := hstores.index_eq
  have hle := hstores.le_max
  have hn : n ≤ 24 := by
    have hpow : 2 ^ (7 + n) ≤ 2 ^ 31 := by
      rw [Nat.pow_add]
      exact (hmax.symm.trans hmax').trans_le (Nat.pow_le_pow_right (by decide) hm)
    have := (Nat.pow_le_pow_iff_right (by decide)).1 hpow
    omega
  constructor
  · intro hfull
    exact ⟨⟨n, hn, by omega⟩, h.last hfull⟩
  · rintro ⟨⟨k, -, hcount⟩, hlast⟩
    rw [hcount] at hlength
    have hsmall : k ≤ n := by
      have hpow : 2 ^ k ≤ 2 ^ n := by omega
      exact (Nat.pow_le_pow_iff_right (by decide)).1 hpow
    rcases h.needed with hfirst | hlt | ⟨-, hnot⟩
    · have hone := Nat.one_le_two_pow (n := k)
      omega
    · have hlarge : n < k + 1 := by
        have hpow : 2 ^ n < 2 ^ (k + 1) := by
          rw [Nat.pow_succ]
          omega
        exact (Nat.pow_lt_pow_iff_right (by decide)).1 hpow
      obtain rfl : k = n := by omega
      omega
    · exact absurd hlast hnot

/-- A path that is offered, when there is room for it. -/
theorem ArrayAfter.offer {paths : List (List UInt8)} (h : ArrayAfter memory hubs arr)
    (hoffers : hub.offers = true) (hroom : Room arr arr' hub.grows) (hstores : Stores arr' paths)
    (hlength : paths.length = stringCount memory (hub :: hubs)) :
    ArrayAfter memory (hub :: hubs) arr' := by
  have hlast : LastStored (hub :: hubs) ↔ hub.copies = true := by
    rw [lastStored_cons, if_pos hoffers]
  obtain ⟨paths', hstores', hlength'⟩ := h.stores
  have hindex : arr.index = stringCount memory hubs := hstores'.index_eq.trans hlength'
  have hle : arr.index ≤ arr.max := hstores'.index_eq ▸ hstores'.le_max
  have hindex' : arr'.index = arr.index + if hub.copies = true then 1 else 0 := by
    rw [hstores.index_eq, hlength, stringCount_cons, hindex]
    simp only [hoffers, true_and]
  obtain ⟨n, hmax⟩ := h.max_eq
  have hpos := Nat.two_pow_pos n
  have hmax' := hroom.max_eq
  refine ⟨⟨paths, hstores, hlength⟩, ?_, ?_, fun hfull => ?_⟩
  · rw [hmax']
    split_ifs
    · exact ⟨n + 1, by rw [hmax, Nat.pow_succ, Nat.mul_assoc]⟩
    · exact ⟨n, hmax⟩
  · rw [hlast]
    have hneeded := h.needed
    by_cases hfull : arr.index = arr.max <;> by_cases hcopies : hub.copies = true <;>
      simp only [hfull, hcopies, if_true, if_false, not_true, not_false_iff, and_true,
        Bool.false_eq_true] at hindex' hmax' ⊢ <;> omega
  · rw [hlast]
    by_contra hcopies
    rw [if_neg hcopies] at hindex'
    split_ifs at hmax' <;> omega

end Array

/-! ### The loop over the hubs -/

/-- The array of paths is left as it is. -/
def SameArray (s s' : HubState) : Prop := s'.devIfPath = s.devIfPath

instance : Std.Refl SameArray := ⟨fun _ => rfl⟩

instance : IsTrans HubState SameArray := ⟨fun _ _ _ h h' => Eq.trans h' h⟩

/-- The array of paths in the loop. -/
def ArrayState (memory : Memory) (hubs : List Hub) (s : HubState) : Prop :=
  if Intact memory hubs then ArrayAfter memory hubs s.devIfPath else s.devIfPath.string = none

section Loop

variable {memory : Memory} {hub : Hub} {hubs : List Hub} {s : HubState}

theorem sameArray_htabHash (ok : Bool) (str : List UInt8) : Keeps SameArray (htabHash ok str) := by
  refine .bind (x := get) (fun _ => rfl) fun s => ?_
  dsimp only
  generalize s.htabDevid.table = table
  cases table with
  | none => exact .pure _
  | some table =>
    dsimp only
    generalize search table s.htabDevid.size str = found
    cases found with
    | found idx => exact .pure _
    | stopped idx =>
      refine .bind (x := get) (fun _ => rfl) fun s => ?_
      dsimp only
      split_ifs
      · exact .pure _
      · refine .bind (x := allocate ok) (fun _ => rfl) fun ok => ?_
        exact .bind (x := modify _) (fun _ => rfl) fun _ => .pure _

theorem sameArray_register (n : Int) (deviceId : Key) : Keeps SameArray (register n deviceId) := by
  refine .bind (sameArray_htabHash _ _) fun k => ?_
  split_ifs
  · exact fun _ => rfl
  · exact .pure _

/-- A loop of which every turn keeps an invariant of what has been done, the newest first. -/
theorem forM_history {α : Type} (I : List α → HubState → Prop) {body : α → StateM HubState Unit}
    {all : List α} (hstep : ∀ a log s, a :: log <:+ all → I log s → I (a :: log) (body a s).2)
    (as : List α) {log : List α} {s : HubState} (hall : as.reverse ++ log <:+ all) (h : I log s) :
    I (as.reverse ++ log) (as.forM body s).2 := by
  induction as generalizing log s with
  | nil => exact h
  | cons a as ih =>
    rw [List.reverse_cons, List.append_assoc, List.singleton_append] at hall ⊢
    exact ih hall (hstep a log s ((List.suffix_append _ _).trans hall) h)

theorem strArrayAdd_of_none {grows copies : Bool} {str : List UInt8}
    (hstring : s.devIfPath.string = none) : strArrayAdd grows copies str s = (-1, s) := by
  have hget : (get : StateM HubState HubState) s = (s, s) := rfl
  rw [strArrayAdd, bind_apply, hget]
  dsimp only
  rw [hstring]
  rfl

/-- A hub whose path is not offered. -/
theorem mapHub_of_not_offers (hoffers : hub.offers = false) :
    (mapHub hub s).2.htabDevid = s.htabDevid ∧ (mapHub hub s).2.devIfPath = s.devIfPath := by
  cases hlisting : hub.listing with
  | none => exact mapHub_of_none hlisting
  | some listing =>
    have hdetails : hub.details = false := by
      rw [Hub.listing] at hlisting
      split_ifs at hlisting with hboth
      obtain ⟨path, hpath, -⟩ := Option.map_eq_some_iff.1 hlisting
      rw [Hub.offers, hboth.1, hpath] at hoffers
      simpa [hboth.2] using hoffers
    rw [(mapHub_of_some hlisting).2, hdetails]
    exact ⟨rfl, rfl⟩

/-- A hub whose path is offered. -/
theorem mapHub_of_offers (hoffers : hub.offers = true) :
    ∃ path, mapHub hub s = addIds hub path (allocate true s).2 := by
  rw [Hub.offers] at hoffers
  simp only [Bool.and_eq_true, Option.isSome_iff_exists, Bool.not_eq_true',
    List.isEmpty_eq_false_iff] at hoffers
  obtain ⟨⟨⟨hinterface, hdetails⟩, path, hpath⟩, hchildren⟩ := hoffers
  have hlisting : hub.listing = some (path, hub.childIds) := by
    rw [Hub.listing, if_pos ⟨hinterface, hchildren⟩, hpath]
    rfl
  refine ⟨path, ?_⟩
  rw [(mapHub_of_some hlisting).2, hdetails]
  rfl

/-- The array after a hub whose path is not offered. -/
theorem arrayState_of_not_offers {s' : HubState} (hoffers : hub.offers = false)
    (h : ArrayState memory hubs s) (hpaths : s'.devIfPath = s.devIfPath) :
    ArrayState memory (hub :: hubs) s' := by
  have hintact : Intact memory (hub :: hubs) ↔ Intact memory hubs := by
    rw [intact_cons, hoffers]
    simp
  have hcount : stringCount memory (hub :: hubs) = stringCount memory hubs := by
    rw [stringCount_cons, hoffers]
    rfl
  have hlast : LastStored (hub :: hubs) ↔ LastStored hubs := by
    rw [lastStored_cons, hoffers]
    rfl
  rw [ArrayState] at h ⊢
  rw [hpaths]
  split_ifs at h ⊢ with hafter hbefore hbefore
  · refine ⟨hcount ▸ h.stores, h.max_eq, ?_, fun hfull => hlast.2 (h.last hfull)⟩
    rw [hlast]
    exact h.needed
  · exact absurd (hintact.1 hafter) hbefore
  · exact absurd (hintact.2 hbefore) hafter
  · exact h

/-- A path that is offered when the array is lost. -/
theorem addIds_of_not_intact (path : List UInt8) (hintact : ¬ Intact memory hubs)
    (hstring : s.devIfPath.string = none) :
    ArrayState memory (hub :: hubs) s ∧ (addIds hub path s).2 = s ∧
      hubRegistrations memory hub hubs = [] := by
  have hnot : ¬ Intact memory (hub :: hubs) := fun hcons => hintact (intact_cons.1 hcons).1
  have hnone : strArrayAdd hub.grows hub.copies path s = (-1, s) := strArrayAdd_of_none hstring
  refine ⟨?_, ?_, hubRegistrations_of_not fun hstored => hnot hstored.2.2⟩
  · rw [ArrayState, if_neg hnot]
    exact hstring
  · rw [addIds_apply, hnone]
    rfl

/-- A path that is offered when the array is there. -/
theorem addIds_of_intact {path : List UInt8} (hoffers : hub.offers = true)
    (hintact : Intact memory hubs) (h : ArrayAfter memory hubs s.devIfPath) :
    ∃ s', s'.htabDevid = s.htabDevid ∧ ArrayState memory (hub :: hubs) s' ∧
      (addIds hub path s).2 =
        ((hubRegistrations memory hub hubs).forM (fun c => register c.1 c.2) s').2 := by
  obtain ⟨paths, hstores, hlength⟩ := h.stores
  have hindex : s.devIfPath.index = stringCount memory hubs := hstores.index_eq.trans hlength
  have hadded : Added s.devIfPath paths hub.grows hub.copies path s.htabDevid
    (strArrayAdd hub.grows hub.copies path s) := added_strArrayAdd hstores
  -- the array is there afterwards if it was not full or has grown
  have hcons (hroom : s.devIfPath.index = s.devIfPath.max →
      hub.grows = true ∧ s.devIfPath.max < 2 ^ 31) : Intact memory (hub :: hubs) := by
    refine intact_cons.2 ⟨hintact, fun _ hfull => ?_⟩
    have hmax := h.full_iff.2 hfull
    rw [← hindex, hmax]
    exact hroom hmax
  rw [addIds_apply]
  generalize strArrayAdd hub.grows hub.copies path s = run at hadded
  cases hadded with
  | @stored s' hroom hcopies hpaths htable =>
    have hstored : Stored memory hub hubs := ⟨hoffers, hcopies, hcons hroom.grows⟩
    refine ⟨s', htable, ?_, ?_⟩
    · rw [ArrayState, if_pos (hcons hroom.grows)]
      refine h.offer hoffers hroom hpaths ?_
      rw [List.length_append, hlength, stringCount_cons, if_pos ⟨hoffers, hcopies⟩]
      rfl
    · dsimp only
      rw [if_pos (Int.natCast_nonneg _), hubRegistrations, if_pos hstored, hlength]
      simp only [List.forM_eq_forM, List.forM_map]
  | @unstored s' hroom hcopies _ hpaths htable =>
    refine ⟨s', htable, ?_, ?_⟩
    · rw [ArrayState, if_pos (hcons hroom.grows)]
      refine h.offer hoffers hroom hpaths ?_
      rw [hlength, stringCount_cons, if_neg fun hboth => by simp [hcopies] at hboth]
      rfl
    · rw [hubRegistrations_of_not fun hstored => Bool.eq_false_iff.1 hcopies hstored.2.1]
      rfl
  | @lost s' hroom _ hnull htable =>
    have hnot : ¬ Intact memory (hub :: hubs) := by
      intro hcons
      refine hroom fun hmax => ?_
      have hgrows := (intact_cons.1 hcons).2 hoffers (h.full_iff.1 hmax)
      rwa [← hindex, hmax] at hgrows
    refine ⟨s', htable, ?_, ?_⟩
    · rw [ArrayState, if_neg hnot]
      exact hnull
    · rw [hubRegistrations_of_not fun hstored => hnot hstored.2.2]
      rfl

/-- **The turn for a hub**: the array after it, and the ids that are put in the table. -/
theorem mapHub_apply (h : ArrayState memory hubs s) :
    ∃ s', s'.htabDevid = s.htabDevid ∧ ArrayState memory (hub :: hubs) s' ∧
      (mapHub hub s).2 =
        ((hubRegistrations memory hub hubs).forM (fun c => register c.1 c.2) s').2 := by
  by_cases hoffers : hub.offers = true
  · obtain ⟨path, hrun⟩ := mapHub_of_offers (s := s) hoffers
    rw [hrun]
    rw [ArrayState] at h
    by_cases hintact : Intact memory hubs
    · rw [if_pos hintact] at h
      exact addIds_of_intact (s := (allocate true s).2) hoffers hintact h
    · rw [if_neg hintact] at h
      obtain ⟨harray, hsame, hnil⟩ : ArrayState memory (hub :: hubs) (allocate true s).2 ∧ _ :=
        addIds_of_not_intact path hintact h
      rw [hsame, hnil]
      exact ⟨(allocate true s).2, rfl, harray, rfl⟩
  · rw [Bool.not_eq_true] at hoffers
    obtain ⟨htable, hpaths⟩ := mapHub_of_not_offers (s := s) hoffers
    refine ⟨(mapHub hub s).2, htable, arrayState_of_not_offers hoffers h hpaths, ?_⟩
    rw [hubRegistrations_of_not fun hstored => Bool.eq_false_iff.1 hoffers hstored.1]
    rfl

theorem suffix_registrations {before : List Hub} (h : before <:+ hubs) :
    registrations memory before <:+ registrations memory hubs := by
  induction hubs with
  | nil =>
    rw [List.suffix_nil.1 h]
  | cons hub hubs ih =>
    rcases List.suffix_cons_iff.1 h with rfl | h
    · exact List.suffix_rfl
    · exact (ih h).trans (List.suffix_append _ _)

/-- The table that is left by all hubs before, and what an invariant of registrations says of it. -/
theorem forM_mapHub (I : List (Nat × Key) → Htab → Prop) (all : List Hub)
    (hstep : ∀ c log s, c :: log <:+ registrations memory all → I log s.htabDevid →
      I (c :: log) (register c.1 c.2 s).2.htabDevid)
    (hubs : List Hub) {before : List Hub} {s : HubState} (hall : hubs.reverse ++ before <:+ all)
    (harray : ArrayState memory before s) (h : I (registrations memory before) s.htabDevid) :
    ArrayState memory (hubs.reverse ++ before) (hubs.forM mapHub s).2 ∧
      I (registrations memory (hubs.reverse ++ before)) (hubs.forM mapHub s).2.htabDevid := by
  refine forM_history (fun hubs s => ArrayState memory hubs s ∧
    I (registrations memory hubs) s.htabDevid) (fun hub before s hmem hI => ?_) hubs hall
    ⟨harray, h⟩
  obtain ⟨s', htable, harray', hrun⟩ : ∃ s', _ ∧ ArrayState memory (hub :: before) s' ∧ _ :=
    mapHub_apply hI.1
  have hsuffix : registrations memory (hub :: before) <:+ registrations memory all :=
    suffix_registrations hmem
  rw [hrun]
  refine forM_history (fun log t => ArrayState memory (hub :: before) t ∧ I log t.htabDevid)
    (fun c log t hc ht => ⟨?_, hstep c log t hc ht.2⟩) (hubRegistrations memory hub before) hsuffix
    ⟨harray', htable ▸ hI.2⟩
  have hsame : (register c.1 c.2 t).2.devIfPath = t.devIfPath := sameArray_register _ _ t
  rw [ArrayState, hsame]
  exact ht.1

/-- The array of paths with the empty path, if there was memory for it. -/
theorem arrayAfter_nil {paths : List (List UInt8)} {arr : StrArray} (hstores : Stores arr paths)
    (hlength : paths.length = memory.dummy.toNat) (hmax : arr.max = 128) :
    ArrayAfter memory [] arr := by
  have hlast : LastStored [] := fun hub hhub => by cases hhub
  exact ⟨⟨paths, hstores, hlength⟩, ⟨0, hmax⟩, Or.inl hmax, fun _ => hlast⟩

/-- The array of paths before the loop. -/
theorem arrayState_beforeHubs :
    (beforeHubs memory {}).htabDevid = {} ∧ ArrayState memory [] (beforeHubs memory {}) := by
  have hintact : Intact memory [] ↔ memory.strings = true := and_iff_left recorded_nil
  have hrun : (beforeHubs memory {}).htabDevid = (strArrayAdd true memory.dummy []
        (strArrayCreate memory.strings 128 {}).2).2.htabDevid ∧
      (beforeHubs memory {}).devIfPath = (strArrayAdd true memory.dummy []
        (strArrayCreate memory.strings 128 {}).2).2.devIfPath := ⟨rfl, rfl⟩
  rw [ArrayState, hrun.1, hrun.2]
  by_cases hstrings : memory.strings = true
  · rw [if_pos (hintact.2 hstrings), hstrings]
    have hcreate : Stores (strArrayCreate true 128 {}).2.devIfPath [] := stores_strArrayCreate rfl
    have hadded : Added ⟨some [], 0, 128⟩ [] true memory.dummy [] {}
      (strArrayAdd true memory.dummy [] (strArrayCreate true 128 {}).2) := added_strArrayAdd hcreate
    generalize strArrayAdd true memory.dummy [] (strArrayCreate true 128 {}).2 = run at hadded
    cases hadded with
    | stored hroom hcopies hpaths htable =>
      exact ⟨htable, arrayAfter_nil hpaths (by rw [hcopies]; rfl) hroom.max_eq⟩
    | unstored hroom hcopies _ hpaths htable =>
      exact ⟨htable, arrayAfter_nil hpaths (by rw [hcopies]; rfl) hroom.max_eq⟩
    | lost hroom => exact absurd (fun hfull => by cases hfull) hroom
  · rw [if_neg (mt hintact.1 hstrings)]
    rw [Bool.not_eq_true] at hstrings
    rw [hstrings]
    exact ⟨rfl, rfl⟩

/-- **The loop over the hubs**: the array of paths after it, and what an invariant of registrations
says of the table. -/
theorem mapHubs_invariant (I : List (Nat × Key) → Htab → Prop) {hubs : List Hub}
    (hnew : I [] ⟨some fun _ => {}, devidHtabSize, 0⟩)
    (hstep : ∀ c log s, c :: log <:+ registrations memory hubs.reverse → I log s.htabDevid →
      I (c :: log) (register c.1 c.2 s).2.htabDevid)
    (hdeviceId : memory.deviceId = true) (htable : memory.table = true) :
    ArrayState memory hubs.reverse (mapHubs memory (some hubs) {}).2 ∧
      I (registrations memory hubs.reverse) (mapHubs memory (some hubs) {}).2.htabDevid := by
  obtain ⟨-, harray⟩ : _ ∧ ArrayState memory [] (beforeHubs memory {}) := arrayState_beforeHubs
  have hall : hubs.reverse ++ [] <:+ hubs.reverse := by
    rw [List.append_nil]
  rw [mapHubs_apply, if_pos hdeviceId]
  dsimp only [Option.elim]
  rw [if_pos htable, htabCreate_eq, htable]
  have hloop := forM_mapHub I hubs.reverse hstep hubs (s := { beforeHubs memory {} with
    htabDevid := ⟨some fun _ => {}, devidHtabSize, 0⟩
    failed := (beforeHubs memory {}).failed || !true }) hall harray hnew
  rwa [List.append_nil] at hloop

end Loop

end UsbMaker.Devices
