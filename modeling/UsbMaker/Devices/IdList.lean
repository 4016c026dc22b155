import Mathlib.Algebra.GroupWithZero.Nat
import Mathlib.Data.List.Forall2
import UsbMaker.Devices.Enumerate
import UsbMaker.Run.Buffer

/-!
# The list of device ids

`GetDevices` asks for the device ids of eight storage drivers, first for the sizes of the lists and
then for the lists themselves, and merges them in one buffer: each list is put on the zero that ends
the list before. The buffer is as large as the sizes together, less one for each list, reduced to a
`ULONG`. Later it walks over the ids in the buffer, and takes those for UASP devices that do not lie
before the list of `UASPSTOR`.

A call for a list writes the ids, a zero behind them, and any number of further zeros within the
size that was reported. A call that fails leaves the buffer as it is.

## Main definitions

* `Devices.Service`: the answers about a driver.
* `Devices.mergeLists`, `Devices.walkIds`: the loops of `GetDevices`; `Devices.devidList`: the ids
  that they leave.
* `Devices.ListsFit`: the lists have room in a buffer of a size.
* `Devices.MergesAll`: the lists are merged as they should be.

## Main results

* `Devices.findEnd_eq`: the scan for the end of a list.
* `Devices.mergeLists_eq`, `Devices.touched_of_not_fit`: lists that fit are merged, and a list that
  does not is written beyond the buffer.
* `Devices.walkIds_eq`: the walk over the ids.
* `Devices.mergesAll_iff`.
-/

namespace UsbMaker.Devices

open Program Buffer

/-- A list of device ids as a call writes it: with a zero behind it, and maybe further zeros, within
a size. -/
structure IdList (size : Nat) where
  ids : List Text
  padding : Nat
  fits : (joined ids).length + padding < size

/-- The bytes that are written for a list. -/
def IdList.data {size : Nat} (list : IdList size) : List UInt8 :=
  joined list.ids ++ List.replicate (list.padding + 1) 0

/-- The answers about a storage driver. -/
structure Service where
  /-- `CM_Get_Device_ID_List_SizeA`, `none` when it fails. -/
  sizeAnswer : Option UInt32
  /-- `CM_Get_Device_ID_ListA` with this size, `none` when it fails. -/
  listAnswer : Option (IdList (sizeAnswer.getD 0).toNat)

/-- `list_size`. -/
@[reducible] def Service.listSize (service : Service) : Nat := (service.sizeAnswer.getD 0).toNat

/-- `full_list_size` after the loop over the drivers. -/
def fullListSize (services : List Service) : Nat :=
  services.foldl (fun full service =>
    if service.listSize ≠ 0 then (full + (service.listSize - 1)) % 2 ^ 32 else full) 0

/-- The size of `devid_list`, `none` when it is not allocated. -/
def allocatedSize (services : List Service) : Option Nat :=
  if fullListSize services ≠ 0 then some ((fullListSize services + 1) % 2 ^ 32) else none

/-- Whether a list ends before an index. The bytes are looked at as far as they decide. -/
def isRealEnd (i : Nat) : StateM Buffer Bool := do
  if (← read (i - 2)) ≠ 0 then
    if (← read (i - 1)) = 0 then
      return (← read i) == 0
    else return false
  else return false

/-- The loop that looks for the real end of a list. -/
def findEnd : Nat → StateM Buffer Nat
  | i + 3 => do
    if ← isRealEnd (i + 3) then return i + 3
    else findEnd (i + 2)
  | i => return i

/-- The turn of the loop for a driver, with the new value of `i`. -/
def mergeList (service : Service) (i : Nat) : StateM Buffer Nat := do
  if 1 < service.listSize then
    match service.listAnswer with
    | none => return i
    | some list =>
      store i list.data
      findEnd ((i + service.listSize) % 2 ^ 32)
  else return i

/-- The loop that merges the lists: `list_start`. -/
def mergeLists : List Service → Nat → StateM Buffer (List Nat)
  | [], _ => return []
  | service :: services, i => do
    let next ← mergeList service i
    return i :: (← mergeLists services next)

/-- An id that the walk comes to: its offset and its length. -/
structure Found where
  offset : Nat
  length : Nat
  deriving DecidableEq, Repr

/-- A turn of the walk, with the place of `device_id` and the ids before it. -/
def walkStep (turns : Nat) (walk : Nat × List Found) :
    StateM Buffer ((Nat × List Found) ⊕ Option (List Found)) := do
  if (← read walk.1) = 0 then return .inr (some walk.2)
  else
    match ← strlen turns walk.1 with
    | none => return .inr none
    | some length => return .inl (walk.1 + length + 1, walk.2 ++ [⟨walk.1, length⟩])

/-- The walk over `devid_list`. `none` means that it takes more than `turns` turns. -/
def walkIds (turns : Nat) : StateM Buffer (Option (List Found)) := do
  let found ← loop (walkStep turns) turns (0, [])
  return found.join

/-- The characters of an id in the buffer. -/
def Found.chars (found : Found) (b : Buffer) : List UInt8 :=
  (List.range found.length).map fun k => b.bytes (found.offset + k)

/-- `list_start`, and `devid_list` when the lists have been merged in memory that holds anything. -/
def merged (services : List Service) (garbage : Nat → UInt8) : List Nat × Buffer :=
  mergeLists services 0 (fresh garbage)

/-- The walk over the ids that were merged, with a buffer that shows what it reads. -/
def walked (services : List Service) (garbage : Nat → UInt8) (turns : Nat) :
    Option (List Found) × Buffer :=
  walkIds turns { (merged services garbage).2 with touched := fun _ => false }

/-- A text of `char`s. -/
def textOf (chars : List UInt8) : String := .ofList (chars.map fun c => .ofNat c.toNat)

/-- The device ids as the loop over the disk devices sees them: `some none` when `devid_list` is
null, and `none` when the walk takes more than `turns` turns. -/
def devidList (services : List Service) (garbage : Nat → UInt8) (turns : Nat) :
    Option (Option DeviceIds) :=
  match allocatedSize services with
  | none => some none
  | some _ => (walked services garbage turns).1.map fun found => some
    { ids := found.map fun found => ⟨found.offset, textOf (found.chars (merged services garbage).2)⟩
      uaspListStart := (merged services garbage).1.getD uaspStart 0 }

/-! ### The scan for the end of a list -/

section Scan

variable {b : Buffer} {size : Nat}

/-- A zero two places before an index decides at once. -/
theorem isRealEnd_of_zero {i : Nat} (hzero : b.bytes (i - 2) = 0) (hi : i - 2 < size) :
    (isRealEnd i b).1 = false ∧ Reads (· < size) b (isRealEnd i b).2 := by
  have hread : (read (i - 2) b).1 = 0 := hzero
  rw [isRealEnd, bind_apply, if_neg (not_not.2 hread)]
  exact ⟨rfl, reads_read (P := (· < size)) hi b⟩

theorem isRealEnd_of_end {i : Nat} (hlast : b.bytes (i - 2) ≠ 0) (hzero : b.bytes (i - 1) = 0)
    (hend : b.bytes i = 0) (hi : i < size) :
    (isRealEnd i b).1 = true ∧ Reads (· < size) b (isRealEnd i b).2 := by
  have hread : (read (i - 2) b).1 ≠ 0 := hlast
  have hread' : (read (i - 1) (read (i - 2) b).2).1 = 0 := hzero
  rw [isRealEnd, bind_apply, if_pos hread, bind_apply, if_pos hread']
  refine ⟨beq_iff_eq.2 hend, ?_⟩
  have hreads : Reads (· < size) b (read (i - 2) b).2 :=
    reads_read (P := (· < size)) (by omega) b
  have hreads' : Reads (· < size) b (read (i - 1) (read (i - 2) b).2).2 :=
    trans_of _ hreads (reads_read (P := (· < size)) (by omega) _)
  exact trans_of _ hreads' (reads_read (P := (· < size)) hi _)

/-- **The scan for the end.** Where only zeros lie behind an end, up to the place but one where the
scan begins, the scan finds it and stays below that place. -/
theorem findEnd_eq {e : Nat} (htwo : 2 ≤ e) (hend : e < size) (hlast : b.bytes (e - 2) ≠ 0)
    (hzero : ∀ k, e ≤ k + 1 → k < size → b.bytes k = 0) (i : Nat) (hle : e ≤ i)
    (hi : i ≤ size + 1) (c : Buffer) (hc : Reads (· < size) b c) :
    (findEnd i c).1 = e ∧ Reads (· < size) b (findEnd i c).2 := by
  induction i generalizing c with
  | zero => omega
  | succ i ih =>
    by_cases hsmall : i < 2
    · obtain rfl : e = i + 1 := by omega
      obtain rfl : i = 1 := by omega
      exact ⟨rfl, hc⟩
    obtain ⟨i, rfl⟩ : ∃ k, i = k + 2 := ⟨i - 2, by omega⟩
    rw [findEnd, bind_apply]
    by_cases heq : e = i + 3
    · subst heq
      obtain ⟨htrue, hreads⟩ : (isRealEnd (i + 3) c).1 = true ∧ Reads (· < size) c _ :=
        isRealEnd_of_end (hc.bytes ▸ hlast) (hc.bytes ▸ hzero _ (by omega) (by omega))
          (hc.bytes ▸ hzero _ (by omega) (by omega)) hend
      rw [if_pos htrue]
      exact ⟨rfl, trans_of _ hc hreads⟩
    · obtain ⟨hfalse, hreads⟩ : (isRealEnd (i + 3) c).1 = false ∧ Reads (· < size) c _ :=
        isRealEnd_of_zero (hc.bytes ▸ hzero _ (by omega) (by omega)) (by omega)
      rw [hfalse, if_neg (by simp)]
      exact ih (by omega) (by omega) _ (trans_of _ hc hreads)

end Scan

/-! ### Merging the lists -/

/-- The ids of a driver, `none` when its list is not asked for or the call fails. -/
def Service.retrieved (service : Service) : Option (List Text) :=
  if 1 < service.listSize then service.listAnswer.map IdList.ids else none

/-- The ids that are retrieved of a driver. -/
def Service.ids (service : Service) : List Text := service.retrieved.getD []

/-- `list_start`, when each list begins on the zero that ends the one before. -/
def starts : Nat → List Service → List Nat
  | _, [] => []
  | i, service :: services => i :: starts (i + (joined service.ids).length) services

/-- Every list that is retrieved fits into a buffer, behind the ids of the lists before. -/
def ListsFit (size : Nat) : Nat → List Service → Prop
  | _, [] => True
  | used, service :: services =>
    (service.retrieved.isSome → used + service.listSize ≤ size) ∧
      ListsFit size (used + (joined service.ids).length) services

/-- The buffer begins with some ids and has zeros behind them up to a size, and the next list is put
on the first of these. -/
structure Begins (ids : List Text) (i size : Nat) (b : Buffer) : Prop where
  length : i = (joined ids).length
  le : i ≤ size
  holds : Holds ids size b
  ended : ids ≠ [] → i < size

/-- Only places below a size have been touched. -/
def Within (size : Nat) (b : Buffer) : Prop := ∀ k, b.touched k = true → k < size

theorem Within.reads {size : Nat} {b b' : Buffer} (h : Within size b)
    (hb : Reads (· < size) b b') : Within size b' := fun k hk => (hb.touched k hk).elim (h k) id

theorem length_data {size : Nat} (list : IdList size) :
    list.data.length = (joined list.ids).length + (list.padding + 1) := by
  rw [IdList.data, List.length_append, List.length_replicate]

theorem length_data_le {size : Nat} (list : IdList size) : list.data.length ≤ size := by
  have hfits := list.fits
  rw [length_data]
  omega

theorem within_store {size start : Nat} {data : List UInt8} {b : Buffer} (h : Within size b)
    (hle : start + data.length ≤ size) : Within size (store start data b).2 := by
  intro k hk
  rcases Bool.or_eq_true _ _ ▸ hk with hk | hk
  · exact h k hk
  · have := of_decide_eq_true hk
    omega

/-- A driver whose list is not merged. -/
theorem mergeList_of_none {service : Service} {i : Nat} {b : Buffer}
    (h : service.retrieved = none) : mergeList service i b = (i, b) := by
  rw [Service.retrieved] at h
  rw [mergeList]
  split_ifs at h ⊢ with hsize
  · rw [Option.map_eq_none_iff.1 h]
    rfl
  · rfl

theorem Service.exists_of_retrieved {service : Service} {ids : List Text}
    (h : service.retrieved = some ids) :
    1 < service.listSize ∧
      ∃ list : IdList service.listSize, service.listAnswer = some list ∧ list.ids = ids := by
  rw [Service.retrieved] at h
  split_ifs at h with hsize
  exact ⟨hsize, Option.map_eq_some_iff.1 h⟩

theorem Service.ids_of_some {service : Service} {ids : List Text}
    (h : service.retrieved = some ids) : service.ids = ids := by
  rw [Service.ids, h, Option.getD_some]

theorem Service.ids_of_none {service : Service} (h : service.retrieved = none) :
    service.ids = [] := by
  rw [Service.ids, h, Option.getD_none]

/-- The ids of a driver have no more bytes than the size of its list, less one. -/
theorem Service.length_ids_le (service : Service) :
    (joined service.ids).length ≤ service.listSize - 1 := by
  cases hretrieved : service.retrieved with
  | none =>
    rw [Service.ids_of_none hretrieved, joined_nil, List.length_nil]
    exact Nat.zero_le _
  | some ids =>
    obtain ⟨-, list, -, rfl⟩ := Service.exists_of_retrieved hretrieved
    rw [Service.ids_of_some hretrieved]
    have hfits := list.fits
    omega

/-- There are ids after a list has been retrieved, if the first list has some. -/
theorem append_ne_nil_of_first {services : List Service} {service : Service} {ids new : List Text}
    (hretrieved : service.retrieved = some new)
    (hfirst : ids = [] →
      ∀ first ∈ ((service :: services).filterMap Service.retrieved).head?, first ≠ []) :
    ids ++ new ≠ [] := by
  intro hnil
  obtain ⟨hnil, hnil'⟩ := List.append_eq_nil_iff.1 hnil
  rw [List.filterMap_cons_some hretrieved] at hfirst
  exact hfirst hnil _ rfl hnil'

/-- **A list is merged.** When there are ids before the list or in it, and the scan begins at most
one place behind the zeros, it comes to the zero behind the last id. -/
theorem mergeList_eq {service : Service} {list : IdList service.listSize} {ids : List Text}
    {i written : Nat} {b : Buffer} (hsize : 1 < service.listSize)
    (hlist : service.listAnswer = some list) (hne : ids ++ list.ids ≠ [])
    (hlt : i + service.listSize < 2 ^ 32)
    (hscan : i + service.listSize ≤ max written (i + list.data.length) + 1)
    (h : Begins ids i written b) :
    (mergeList service i b).1 = i + (joined list.ids).length ∧
      Begins (ids ++ list.ids) (i + (joined list.ids).length)
        (max written (i + list.data.length)) (mergeList service i b).2 ∧
      ∀ size, Within size b → max written (i + list.data.length) ≤ size →
        Within size (mergeList service i b).2 := by
  have hdata := length_data list
  have hdata_le := length_data_le list
  obtain ⟨rfl, hle, hholds, -⟩ := h
  have hlength : (joined (ids ++ list.ids)).length =
      (joined ids).length + (joined list.ids).length := by
    rw [joined_append, List.length_append]
  have hstored : Holds (ids ++ list.ids) (max written ((joined ids).length + list.data.length))
      (store (joined ids).length list.data b).2 := by
    rw [hdata]
    exact hholds.store hle (list.padding + 1)
  have hend : (joined (ids ++ list.ids)).length <
      max written ((joined ids).length + list.data.length) := by
    omega
  obtain ⟨htwo, hlast, hzero, -⟩ := hstored.ended hend hne
  obtain ⟨hfound, hreads⟩ : (findEnd ((joined ids).length + service.listSize)
      (store (joined ids).length list.data b).2).1 = (joined (ids ++ list.ids)).length ∧ _ := by
    refine findEnd_eq htwo hend hlast (fun k hk hlt => ?_) _ (by omega) hscan _ (refl_of _ _)
    rcases Nat.lt_or_ge k (joined (ids ++ list.ids)).length with hbefore | hafter
    · rwa [show k = (joined (ids ++ list.ids)).length - 1 by omega]
    · exact hstored.zero hafter hlt
  rw [mergeList, if_pos hsize, hlist]
  dsimp only
  rw [bind_apply, Nat.mod_eq_of_lt hlt, ← hlength]
  refine ⟨hfound, ⟨rfl, hend.le, hstored.reads hreads, fun _ => hend⟩, fun size hwithin hle => ?_⟩
  exact Within.reads (within_store hwithin (by omega)) (hreads.mono fun k hk => hk.trans_le hle)

/-- Every list has the size that was reported for it. -/
def Filled (services : List Service) : Prop :=
  ∀ service ∈ services, ∀ list, service.listAnswer = some list →
    list.data.length = service.listSize

/-- **The lists are merged.** If the first list that is retrieved is not empty and every list has
its size and fits, the buffer begins with the ids of all of them, and nothing but the buffer is
touched. -/
theorem mergeLists_eq {size : Nat} (hsize : size < 2 ^ 32) (services : List Service)
    {ids : List Text} {i written : Nat} {b : Buffer} (h : Begins ids i written b)
    (hle : written ≤ size) (hwithin : Within size b)
    (hfirst : ids = [] →
      ∀ first ∈ (services.filterMap Service.retrieved).head?, first ≠ [])
    (hfilled : Filled services) (hfit : ListsFit size i services) :
    (mergeLists services i b).1 = starts i services ∧
      (∃ written', Begins (ids ++ services.flatMap Service.ids)
        (i + (joined (services.flatMap Service.ids)).length) written' (mergeLists services i b).2) ∧
      Within size (mergeLists services i b).2 := by
  induction services generalizing ids i written b with
  | nil =>
    rw [List.flatMap_nil, List.append_nil]
    exact ⟨rfl, ⟨written, h⟩, hwithin⟩
  | cons service services ih =>
    obtain ⟨hfits, hrest⟩ := hfit
    obtain ⟨hfull, hfilled⟩ := List.forall_mem_cons.1 hfilled
    rw [mergeLists, bind_apply, bind_apply, starts, List.flatMap_cons]
    cases hretrieved : service.retrieved with
    | none =>
      have hids : service.ids = [] := Service.ids_of_none hretrieved
      rw [hids] at hrest ⊢
      rw [List.filterMap_cons_none hretrieved] at hfirst
      rw [mergeList_of_none hretrieved]
      obtain ⟨hstarts, hbegins, htouched⟩ := ih h hle hwithin hfirst hfilled hrest
      exact ⟨congrArg (i :: ·) hstarts, hbegins, htouched⟩
    | some new =>
      have hids : service.ids = new := Service.ids_of_some hretrieved
      obtain ⟨hone, list, hlist, rfl⟩ := Service.exists_of_retrieved hretrieved
      have hne : ids ++ list.ids ≠ [] := append_ne_nil_of_first hretrieved hfirst
      have hdata := hfull list hlist
      replace hfits := hfits (by rw [hretrieved]; rfl)
      rw [hids] at hrest ⊢
      obtain ⟨hnext, hbegins, htouched⟩ :=
        mergeList_eq hone hlist hne (by omega) (by omega) h
      rw [hnext]
      obtain ⟨hstarts, hbegins', htouched'⟩ := ih hbegins (by omega)
        (htouched size hwithin (by omega)) (fun hnil => absurd hnil hne) hfilled hrest
      rw [joined_append, List.length_append, ← List.append_assoc, ← Nat.add_assoc]
      exact ⟨congrArg (i :: ·) hstarts, hbegins', htouched'⟩

theorem grows_isRealEnd (i : Nat) : Keeps Grows (isRealEnd i) := by
  refine .bind (grows_read _) fun _ => ?_
  split
  · refine .bind (grows_read _) fun _ => ?_
    split
    · exact .bind (grows_read _) fun _ => .pure _
    · exact .pure _
  · exact .pure _

theorem grows_findEnd (i : Nat) : Keeps Grows (findEnd i) := by
  induction i using findEnd.induct with
  | case1 i ih =>
    refine .bind (grows_isRealEnd _) fun _ => ?_
    split
    · exact .pure _
    · exact ih
  | case2 i hi =>
    rw [findEnd]
    · exact .pure _
    · exact hi

theorem grows_mergeList (service : Service) (i : Nat) : Keeps Grows (mergeList service i) := by
  rw [mergeList]
  split_ifs
  · cases service.listAnswer with
    | none => exact .pure _
    | some list =>
      exact .bind (grows_store _ _) fun _ => grows_findEnd _
  · exact .pure _

theorem grows_mergeLists (services : List Service) (i : Nat) :
    Keeps Grows (mergeLists services i) := by
  induction services generalizing i with
  | nil => exact .pure _
  | cons service services ih =>
    exact .bind (grows_mergeList _ _) fun _ => .bind (ih _) fun _ => .pure _

/-- A list that does not fit is written beyond the buffer. -/
theorem touched_of_not_fit {size : Nat} (hsize : size < 2 ^ 32) (services : List Service)
    {ids : List Text} {i written : Nat} {b : Buffer} (h : Begins ids i written b)
    (hfirst : ids = [] →
      ∀ first ∈ (services.filterMap Service.retrieved).head?, first ≠ [])
    (hfilled : Filled services) (hfit : ¬ ListsFit size i services) :
    ∃ k, size ≤ k ∧ (mergeLists services i b).2.touched k = true := by
  induction services generalizing ids i written b with
  | nil => exact absurd trivial hfit
  | cons service services ih =>
    obtain ⟨hfull, hfilled⟩ := List.forall_mem_cons.1 hfilled
    rw [mergeLists, bind_apply, bind_apply]
    cases hretrieved : service.retrieved with
    | none =>
      have hids : service.ids = [] := Service.ids_of_none hretrieved
      rw [ListsFit, hids, hretrieved] at hfit
      rw [List.filterMap_cons_none hretrieved] at hfirst
      rw [mergeList_of_none hretrieved]
      exact ih h hfirst hfilled fun hrest => hfit ⟨fun hsome => absurd hsome (by simp), hrest⟩
    | some new =>
      have hids : service.ids = new := Service.ids_of_some hretrieved
      obtain ⟨hone, list, hlist, rfl⟩ := Service.exists_of_retrieved hretrieved
      have hne : ids ++ list.ids ≠ [] := append_ne_nil_of_first hretrieved hfirst
      have hdata := hfull list hlist
      by_cases hle : i + service.listSize ≤ size
      · obtain ⟨hnext, hbegins, -⟩ := mergeList_eq hone hlist hne (by omega) (by omega) h
        rw [hnext]
        refine ih hbegins (fun hnil => absurd hnil hne) hfilled fun hrest =>
          hfit ⟨fun _ => hle, ?_⟩
        rwa [hids]
      · refine ⟨i + service.listSize - 1, by omega, ?_⟩
        refine grows_mergeLists services _ _ _ ?_
        rw [mergeList, if_pos hone, hlist]
        have htouched : (store i list.data b).2.touched (i + service.listSize - 1) = true :=
          touched_store b (by omega) (by omega)
        exact grows_findEnd _ _ _ htouched

/-! ### The size of the buffer -/

/-- The sizes of the lists together, less one for each list. -/
def totalSize (services : List Service) : Nat :=
  (services.map fun service => service.listSize - 1).sum

theorem fullListSize_eq (services : List Service) :
    fullListSize services = totalSize services % 2 ^ 32 := by
  have hfold (full : Nat) (hfull : full < 2 ^ 32) : services.foldl (fun full service =>
      if service.listSize ≠ 0 then (full + (service.listSize - 1)) % 2 ^ 32 else full) full =
      (full + totalSize services) % 2 ^ 32 := by
    induction services generalizing full with
    | nil => exact (Nat.mod_eq_of_lt hfull).symm
    | cons service services ih =>
      rw [List.foldl_cons, totalSize, List.map_cons, List.sum_cons, ← totalSize]
      split_ifs with hzero
      · rw [ih _ (Nat.mod_lt _ (by decide)), Nat.mod_add_mod, Nat.add_assoc]
      · rw [ih _ hfull, not_not.1 hzero, Nat.zero_sub, Nat.zero_add]
  rw [fullListSize, hfold 0 (by decide), Nat.zero_add]

/-- A buffer that is allocated has the sizes together and one more byte, as far as this is a
`ULONG`. -/
theorem allocatedSize_eq {services : List Service} {size : Nat}
    (h : allocatedSize services = some size) : size = (totalSize services + 1) % 2 ^ 32 := by
  rw [allocatedSize, fullListSize_eq] at h
  split_ifs at h
  rw [← Option.some.inj h, Nat.mod_add_mod]

/-- The lists fit into the sizes together. -/
theorem listsFit_of_total (services : List Service) {used size : Nat}
    (h : used + totalSize services < size) : ListsFit size used services := by
  induction services generalizing used with
  | nil => trivial
  | cons service services ih =>
    rw [totalSize, List.map_cons, List.sum_cons, ← totalSize] at h
    have hids := service.length_ids_le
    exact ⟨fun _ => by omega, ih (by omega)⟩

/-! ### The walk over the ids -/

/-- Some ids that lie one after the other from a place on. -/
def founds : Nat → List Text → List Found
  | _, [] => []
  | p, text :: texts => ⟨p, text.chars.length⟩ :: founds (p + text.chars.length + 1) texts

theorem founds_append (p : Nat) (texts texts' : List Text) :
    founds p (texts ++ texts') = founds p texts ++ founds (p + (joined texts).length) texts' := by
  induction texts generalizing p with
  | nil => rfl
  | cons text texts ih =>
    have hlength : p + text.chars.length + 1 + (joined texts).length =
        p + (joined (text :: texts)).length := by
      rw [joined_cons, List.length_append, List.length_cons]
      omega
    rw [List.cons_append, founds, founds, ih, hlength, List.cons_append]

/-- The walk has come to the end of some of the texts. -/
def Walked (texts : List Text) (b : Buffer) (walk : Nat × List Found) (c : Buffer) : Prop :=
  Reads (· < (joined texts).length + 1) b c ∧
    ∃ before after, texts = before ++ after ∧
      walk = ((joined before).length, founds 0 before)

/-- **A turn of the walk.** It reads the zero behind the texts and returns them, or passes over a
text, or the text is too long for the number of turns. -/
theorem walkStep_cases {texts : List Text} {b : Buffer}
    (h : Holds texts ((joined texts).length + 1) b) (turns : Nat) {walk : Nat × List Found}
    {c : Buffer} (hwalk : Walked texts b walk c) :
    ((walkStep turns walk c).1 = .inr (some (founds 0 texts)) ∧
        Reads (· < (joined texts).length + 1) b (walkStep turns walk c).2 ∧
        (walkStep turns walk c).2.touched (joined texts).length = true) ∨
      (∃ walk', (walkStep turns walk c).1 = .inl walk' ∧
        Walked texts b walk' (walkStep turns walk c).2 ∧
        (joined texts).length - walk'.1 < (joined texts).length - walk.1) ∨
      ((walkStep turns walk c).1 = .inr none ∧ turns ≤ (joined texts).length) := by
  obtain ⟨hc, before, after, rfl, rfl⟩ := hwalk
  rw [walkStep, bind_apply]
  have hread : Reads (· < (joined (before ++ after)).length + 1) b
      (read (joined before).length c).2 := by
    refine trans_of _ hc (reads_read (P := (· < (joined (before ++ after)).length + 1)) ?_ c)
    rw [joined_append, List.length_append]
    omega
  have hbyte : (read (joined before).length c).1 = b.bytes (joined before).length :=
    congrFun hc.bytes _
  cases after with
  | nil =>
    rw [List.append_nil] at h hread ⊢
    rw [if_pos (hbyte.trans (h.zero (Nat.le_refl _) (Nat.lt_succ_self _)))]
    exact Or.inl ⟨rfl, hread, touched_read _ c⟩
  | cons text after =>
    obtain ⟨htext, hend⟩ := (h.reads hread).text (Nat.le_succ _)
    have hchar (k : Nat) (hk : k < text.chars.length) :
        (read (joined before).length c).2.bytes ((joined before).length + k) ≠ 0 := by
      rw [htext k _ (List.getElem?_eq_getElem hk)]
      exact text.ne_zero _ (List.getElem_mem hk)
    have hlength : (joined (before ++ text :: after)).length =
        (joined before).length + (text.chars.length + ((joined after).length + 1)) := by simp
    have hpos := List.length_pos_iff.2 text.ne_nil
    have hne : (read (joined before).length c).1 ≠ 0 := hchar 0 hpos
    right
    rw [if_neg hne, bind_apply]
    rcases Nat.lt_or_ge text.chars.length turns with hturns | hturns
    · obtain ⟨hresult, hreads⟩ : (strlen turns (joined before).length
          (read (joined before).length c).2).1 = _ ∧ _ := strlen_eq hchar hend hturns
      rw [hresult]
      refine Or.inl ⟨_, rfl, ⟨trans_of _ hread (hreads.mono fun k hk => ?_), before ++ [text],
        after, by simp, ?_⟩, ?_⟩
      · omega
      · rw [founds_append, Nat.zero_add]
        simp [founds]
        omega
      · dsimp only
        omega
    · rw [strlen_eq_none hchar hturns]
      exact Or.inr ⟨rfl, by omega⟩

theorem walked_start (texts : List Text) (b : Buffer) : Walked texts b (0, []) b :=
  ⟨refl_of _ b, [], texts, rfl, rfl⟩

/-- **The walk.** It comes to every id in the buffer, and reads up to the zero behind them. -/
theorem walkIds_eq {texts : List Text} {b : Buffer}
    (h : Holds texts ((joined texts).length + 1) b) {turns : Nat}
    (hturns : (joined texts).length < turns) :
    (walkIds turns b).1 = some (founds 0 texts) ∧
      Reads (· < (joined texts).length + 1) b (walkIds turns b).2 := by
  obtain ⟨found, hfound, rfl, hreads⟩ :
      ∃ found, (loop (walkStep turns) turns (0, []) b).1 = some found ∧
        found = some (founds 0 texts) ∧ Reads (· < (joined texts).length + 1) b _ := by
    refine exists_loop (I := Walked texts b)
      (Q := fun found c => found = some (founds 0 texts) ∧
        Reads (· < (joined texts).length + 1) b c)
      (fun walk _ => (joined texts).length - walk.1) (fun walk c hwalk => ?_) turns (0, []) b
      (walked_start texts b) (by omega)
    rcases walkStep_cases h turns hwalk with ⟨hr, hreads, -⟩ | ⟨walk', hr, hwalk', hlt⟩ | ⟨-, hle⟩
    · rw [hr]
      exact ⟨rfl, hreads⟩
    · rw [hr]
      exact ⟨hwalk', hlt⟩
    · exact absurd hturns (Nat.not_lt.2 hle)
  rw [walkIds, bind_apply, hfound]
  exact ⟨rfl, hreads⟩

/-! ### The ids of all drivers -/

/-- The ids of some drivers, each with the index of its driver. -/
def labelled : Nat → List Service → List (Nat × Text)
  | _, [] => []
  | k, service :: services => service.ids.map (Prod.mk k) ++ labelled (k + 1) services

/-- A device id is the one that is expected, and the test for UASP says whether it belongs to one of
the drivers from `UASPSTOR` on. -/
structure Reported (uaspListStart : Nat) (label : Nat × Text) (id : DeviceId) : Prop where
  text : id.text = textOf label.2.chars
  uasp : 2 ≤ label.2.chars.length → (uaspListStart ≤ id.offset + 2 ↔ uaspStart ≤ label.1)

/-- The lists are merged as they should be: nothing beyond the buffer is touched, and the walk comes
to the ids of all drivers. -/
structure MergesAll (services : List Service) : Prop where
  inside : ∀ size, allocatedSize services = some size → ∀ garbage,
    Within size (merged services garbage).2
  walk : ∀ garbage, ∃ turns ids, devidList services garbage turns = some ids ∧
    List.Forall₂ (Reported ((ids.map DeviceIds.uaspListStart).getD 0)) (labelled 0 services)
      ((ids.map DeviceIds.ids).getD [])

theorem map_snd_labelled (k : Nat) (services : List Service) :
    (labelled k services).map Prod.snd = services.flatMap Service.ids := by
  induction services generalizing k with
  | nil => rfl
  | cons service services ih =>
    rw [labelled, List.map_append, ih, List.flatMap_cons, List.map_map]
    exact congrArg (· ++ _) (List.map_id _)

theorem labelled_append (k : Nat) (services services' : List Service) :
    labelled k (services ++ services') =
      labelled k services ++ labelled (k + services.length) services' := by
  induction services generalizing k with
  | nil => rfl
  | cons service services ih =>
    rw [List.cons_append, labelled, labelled, ih, List.append_assoc, List.length_cons,
      Nat.add_assoc, Nat.add_comm 1]

theorem mem_labelled {k : Nat} {services : List Service} {label : Nat × Text}
    (h : label ∈ labelled k services) : k ≤ label.1 ∧ label.1 < k + services.length := by
  induction services generalizing k with
  | nil => cases h
  | cons service services ih =>
    rw [labelled, List.mem_append] at h
    rw [List.length_cons]
    rcases h with h | h
    · obtain ⟨id, -, rfl⟩ := List.mem_map.1 h
      exact ⟨Nat.le_refl _, by omega⟩
    · have := ih h
      omega

/-- What holds of every text at its place holds of what the walk finds. -/
theorem forall₂_founds {R : Nat × Text → Found → Prop} {labels : List (Nat × Text)}
    (h : ∀ before label after, labels = before ++ label :: after →
      R label ⟨(joined (before.map Prod.snd)).length, label.2.chars.length⟩) :
    List.Forall₂ R labels (founds 0 (labels.map Prod.snd)) := by
  have hfrom (before rest : List (Nat × Text)) (hlabels : labels = before ++ rest) :
      List.Forall₂ R rest (founds (joined (before.map Prod.snd)).length (rest.map Prod.snd)) := by
    induction rest generalizing before with
    | nil => exact .nil
    | cons label rest ih =>
      refine .cons (h before label rest hlabels) ?_
      have hnext := ih (before ++ [label]) (by rw [hlabels, List.append_assoc]; rfl)
      rw [List.map_append, List.map_singleton, joined_append, List.length_append, joined_cons,
        joined_nil, List.length_append] at hnext
      exact hnext
  exact hfrom [] labels rfl

theorem getD_starts (services : List Service) (i k : Nat) (hk : k < services.length) :
    (starts i services).getD k 0 =
      i + (joined ((services.take k).flatMap Service.ids)).length := by
  induction services generalizing i k with
  | nil => cases hk
  | cons service services ih =>
    cases k with
    | zero => rfl
    | succ k =>
      rw [starts, List.getD_cons_succ, ih _ k (Nat.lt_of_succ_lt_succ hk), List.take_succ_cons,
        List.flatMap_cons, joined_append, List.length_append, Nat.add_assoc]

/-- An id lies before the list of a driver or not according to its own driver. -/
theorem uasp_of_labelled {services : List Service} {n : Nat} (hn : n ≤ services.length)
    {before after : List (Nat × Text)} {label : Nat × Text}
    (h : labelled 0 services = before ++ label :: after) :
    (n ≤ label.1 → (joined ((services.take n).flatMap Service.ids)).length ≤
        (joined (before.map Prod.snd)).length) ∧
      (label.1 < n → (joined (before.map Prod.snd)).length + label.2.chars.length + 1 ≤
        (joined ((services.take n).flatMap Service.ids)).length) := by
  have hsplit : labelled 0 services =
      labelled 0 (services.take n) ++ labelled n (services.drop n) := by
    conv_lhs => rw [← List.take_append_drop n services]
    rw [labelled_append, List.length_take, Nat.min_eq_left hn, Nat.zero_add]
  rw [← map_snd_labelled 0]
  rw [hsplit] at h
  rcases List.append_eq_append_iff.1 h with ⟨mid, rfl, hafter⟩ | ⟨mid, hbefore, hafter⟩
  · refine ⟨fun _ => ?_, fun hlt => ?_⟩
    · rw [List.map_append, joined_append, List.length_append]
      exact Nat.le_add_right _ _
    · have hmem : label ∈ labelled n (services.drop n) := by
        rw [hafter]
        simp
      have := mem_labelled hmem
      omega
  · cases mid with
    | nil =>
      rw [List.append_nil] at hbefore
      refine ⟨fun _ => by rw [hbefore], fun hlt => ?_⟩
      have hmem : label ∈ labelled n (services.drop n) := by
        rw [List.nil_append] at hafter
        rw [← hafter]
        exact List.mem_cons_self
      have := mem_labelled hmem
      omega
    | cons label' mid =>
      obtain ⟨rfl, -⟩ := List.cons.inj hafter
      refine ⟨fun hle => ?_, fun _ => ?_⟩
      · have hmem : label ∈ labelled 0 (services.take n) := by
          rw [hbefore]
          simp
        have := mem_labelled hmem
        rw [List.length_take] at this
        omega
      · rw [hbefore, List.map_append, List.map_cons, joined_append, joined_cons]
        simp only [List.length_append, List.length_cons]
        omega

/-! ### The whole list -/

theorem begins_fresh (garbage : Nat → UInt8) : Begins [] 0 0 (fresh garbage) :=
  ⟨rfl, Nat.le_refl _,
    ⟨fun _ hk => absurd hk (Nat.not_lt_zero _), fun _ hk => absurd hk (Nat.not_lt_zero _)⟩,
    fun hne => absurd rfl hne⟩

section Whole

variable {services : List Service}
  (hfirst : ∀ first ∈ (services.filterMap Service.retrieved).head?, first ≠ [])

include hfirst in
/-- The buffer and the walk, when the lists are merged and fit. -/
theorem walked_eq {size : Nat} (hsize : size < 2 ^ 32) (hfilled : Filled services)
    (hfit : ListsFit size 0 services)
    (hne : services.flatMap Service.ids ≠ []) (garbage : Nat → UInt8) {turns : Nat}
    (hturns : (joined (services.flatMap Service.ids)).length < turns) :
    ((merged services garbage).1 = starts 0 services ∧ Within size (merged services garbage).2) ∧
      Holds (services.flatMap Service.ids) ((joined (services.flatMap Service.ids)).length + 1)
        (merged services garbage).2 ∧
      (walked services garbage turns).1 = some (founds 0 (services.flatMap Service.ids)) ∧
      ∀ k, (walked services garbage turns).2.touched k = true →
        k < (joined (services.flatMap Service.ids)).length + 1 := by
  obtain ⟨hstarts, ⟨written, hbegins⟩, hwithin⟩ :
      (merged services garbage).1 = starts 0 services ∧ _ ∧ Within size _ :=
    mergeLists_eq hsize services (begins_fresh garbage) (Nat.zero_le _) (fun _ hk => by cases hk)
      (fun _ => hfirst) hfilled hfit
  rw [List.nil_append, Nat.zero_add] at hbegins
  have hholds := hbegins.holds.mono (hbegins.ended hne)
  obtain ⟨hwalk, hreads⟩ : (walked services garbage turns).1 = _ ∧ _ :=
    walkIds_eq (b := { (merged services garbage).2 with touched := fun _ => false })
      ⟨hholds.bytes, hholds.written⟩ hturns
  refine ⟨⟨hstarts, hwithin⟩, hholds, hwalk, fun k hk => ?_⟩
  rcases hreads.touched k hk with hfalse | hlt
  · cases hfalse
  · exact hlt

/-- A list has no place in a buffer of one byte. -/
theorem ids_eq_nil_of_fit {used : Nat} (services : List Service) (hfit : ListsFit 1 used services) :
    services.flatMap Service.ids = [] := by
  induction services generalizing used with
  | nil => rfl
  | cons service services ih =>
    obtain ⟨hle, hrest⟩ := hfit
    rw [List.flatMap_cons, ih hrest, List.append_nil]
    cases hretrieved : service.retrieved with
    | none => exact Service.ids_of_none hretrieved
    | some ids =>
      have := hle (by rw [hretrieved]; rfl)
      have := (Service.exists_of_retrieved hretrieved).1
      omega

theorem exists_of_totalSize (services : List Service) (h : totalSize services ≠ 0) :
    ∃ service ∈ services, 1 < service.listSize := by
  obtain ⟨n, hn, hpos⟩ := List.sum_pos_iff_exists_pos_nat.1 (Nat.pos_of_ne_zero h)
  obtain ⟨service, hmem, rfl⟩ := List.mem_map.1 hn
  exact ⟨service, hmem, by omega⟩

theorem chars_of_holds {before after : List Text} {text : Text} {b : Buffer}
    (hholds : Holds (before ++ text :: after)
      ((joined (before ++ text :: after)).length + 1) b) :
    (Found.mk (joined before).length text.chars.length).chars b = text.chars := by
  obtain ⟨htext, -⟩ := hholds.text (Nat.le_succ _)
  refine List.ext_getElem (by simp [Found.chars]) fun k hk hk' => ?_
  simp only [Found.chars, List.getElem_map, List.getElem_range]
  exact htext k _ (List.getElem?_eq_getElem hk')

/-- The ids in the buffer, as they are expected. -/
theorem reported_of_holds (huasp : uaspStart < services.length) {b : Buffer}
    (hholds : Holds (services.flatMap Service.ids)
      ((joined (services.flatMap Service.ids)).length + 1) b) :
    List.Forall₂ (Reported ((starts 0 services).getD uaspStart 0)) (labelled 0 services)
      ((founds 0 (services.flatMap Service.ids)).map fun found =>
        ⟨found.offset, textOf (found.chars b)⟩) := by
  rw [List.forall₂_map_right_iff, ← map_snd_labelled 0]
  refine forall₂_founds fun before label after hlabels => ?_
  rw [getD_starts _ _ _ huasp, Nat.zero_add]
  obtain ⟨hfrom, hbelow⟩ := uasp_of_labelled huasp.le hlabels
  rw [← map_snd_labelled 0, hlabels, List.map_append, List.map_cons] at hholds
  refine ⟨congrArg textOf (chars_of_holds hholds), fun htwo => ⟨fun hle => ?_, fun hle => ?_⟩⟩
  · by_contra hlt
    have := hbelow (Nat.lt_of_not_le hlt)
    dsimp only at hle
    omega
  · exact (hfrom hle).trans (Nat.le_add_right _ _)

/-- Every list that is asked for is retrieved, with at least one id, and has the size that was
reported for it. -/
def Retrieves (services : List Service) : Prop :=
  ∀ service ∈ services, 1 < service.listSize →
    ∃ list, service.listAnswer = some list ∧ list.ids ≠ [] ∧ list.data.length = service.listSize

theorem Retrieves.retrieved (h : Retrieves services) {service : Service} (hmem : service ∈ services)
    (hsize : 1 < service.listSize) : ∃ ids, service.retrieved = some ids ∧ ids ≠ [] := by
  obtain ⟨list, hlist, hne, -⟩ := h service hmem hsize
  refine ⟨list.ids, ?_, hne⟩
  rw [Service.retrieved, if_pos hsize, hlist, Option.map_some]

theorem Retrieves.filled (h : Retrieves services) : Filled services := by
  intro service hmem list hlist
  by_cases hsize : 1 < service.listSize
  · obtain ⟨list', hlist', -, hlength⟩ := h service hmem hsize
    obtain rfl : list = list' := Option.some.inj (hlist.symm.trans hlist')
    exact hlength
  · have hle : list.data.length ≤ service.listSize := length_data_le list
    rw [length_data] at hle ⊢
    omega

theorem Retrieves.first (h : Retrieves services) :
    ∀ first ∈ (services.filterMap Service.retrieved).head?, first ≠ [] := by
  intro first hfirst
  obtain ⟨service, hmem, hretrieved⟩ := List.mem_filterMap.1 (List.mem_of_mem_head? hfirst)
  obtain ⟨ids, hids, hne⟩ := h.retrieved hmem (Service.exists_of_retrieved hretrieved).1
  rw [hretrieved] at hids
  exact Option.some.inj hids ▸ hne

theorem Retrieves.ids_ne_nil (h : Retrieves services) {service : Service}
    (hmem : service ∈ services) (hsize : 1 < service.listSize) :
    services.flatMap Service.ids ≠ [] := by
  obtain ⟨ids, hids, hne⟩ := h.retrieved hmem hsize
  intro hnil
  refine hne ?_
  rw [← List.flatMap_eq_nil_iff.1 hnil service hmem, Service.ids, hids, Option.getD_some]

theorem mergesAll_of_fit (huasp : uaspStart < services.length) (h : Retrieves services)
    (hfit : ListsFit ((totalSize services + 1) % 2 ^ 32) 0 services) : MergesAll services := by
  cases hallocated : allocatedSize services with
  | none =>
    have hzero : totalSize services % 2 ^ 32 = 0 := by
      rw [allocatedSize, fullListSize_eq] at hallocated
      split_ifs at hallocated with hzero
      exact not_not.1 hzero
    rw [show (totalSize services + 1) % 2 ^ 32 = 1 by omega] at hfit
    refine ⟨fun size hsize => absurd hsize (by simp [hallocated]), fun garbage => ?_⟩
    refine ⟨0, none, by rw [devidList, hallocated], ?_⟩
    have hnil := ids_eq_nil_of_fit services hfit
    rw [← map_snd_labelled 0, List.map_eq_nil_iff] at hnil
    rw [hnil]
    exact .nil
  | some size =>
    obtain rfl := allocatedSize_eq hallocated
    have hne : services.flatMap Service.ids ≠ [] := by
      have htotal : totalSize services ≠ 0 := by
        intro hzero
        rw [allocatedSize, fullListSize_eq, hzero] at hallocated
        cases hallocated
      obtain ⟨service, hmem, hsize⟩ := exists_of_totalSize services htotal
      exact h.ids_ne_nil hmem hsize
    have hrun (garbage : Nat → UInt8) := walked_eq h.first (Nat.mod_lt _ (by decide)) h.filled
      hfit hne garbage (Nat.lt_succ_self _)
    refine ⟨fun size hsize garbage => ?_, fun garbage => ?_⟩
    · rw [hallocated] at hsize
      obtain rfl := Option.some.inj hsize
      exact (hrun garbage).1.2
    · obtain ⟨⟨hstarts, -⟩, hholds, hwalk, -⟩ := hrun garbage
      have hlist : devidList services garbage
          ((joined (services.flatMap Service.ids)).length + 1) = some (some
          ⟨(founds 0 (services.flatMap Service.ids)).map fun found =>
            ⟨found.offset, textOf (found.chars (merged services garbage).2)⟩,
            (starts 0 services).getD uaspStart 0⟩) := by
        rw [devidList, hallocated]
        dsimp only
        rw [hwalk, hstarts, Option.map_some]
      exact ⟨_, _, hlist, reported_of_holds huasp hholds⟩

theorem fit_of_mergesAll (h : Retrieves services) (hall : MergesAll services) :
    ListsFit ((totalSize services + 1) % 2 ^ 32) 0 services := by
  by_contra hfit
  cases hallocated : allocatedSize services with
  | none =>
    have htotal : totalSize services ≠ 0 := fun hzero =>
      hfit (listsFit_of_total services (by omega))
    obtain ⟨service, hmem, hsize⟩ := exists_of_totalSize services htotal
    obtain ⟨turns, ids, hids, hreported⟩ := hall.walk fun _ => 0
    rw [devidList, hallocated] at hids
    obtain rfl := Option.some.inj hids
    have hnil : labelled 0 services = [] := List.forall₂_nil_right_iff.1 hreported
    refine h.ids_ne_nil hmem hsize ?_
    rw [← map_snd_labelled 0, hnil, List.map_nil]
  | some size =>
    obtain rfl := allocatedSize_eq hallocated
    obtain ⟨k, hle, htouched⟩ := touched_of_not_fit (Nat.mod_lt _ (by decide)) services
      (begins_fresh fun _ => 0) (fun _ => h.first) h.filled hfit
    exact absurd (hall.inside _ hallocated _ k htouched) (Nat.not_lt.2 hle)

end Whole

/-- **The merged list.** For all lists that the drivers may have, each with at least one id, the
lists are merged within the buffer, the walk comes to the ids of all drivers in their order, and the
test for UASP tells the drivers apart, if and only if every list fits, behind the ids of the lists
before it, into a buffer of all the sizes together less one for each list, as far as this is a
`ULONG`. -/
theorem mergesAll_iff (answers : String → Service)
    (h : Retrieves (usbstorName.map answers)) :
    MergesAll (usbstorName.map answers) ↔
      ListsFit ((totalSize (usbstorName.map answers) + 1) % 2 ^ 32) 0
        (usbstorName.map answers) := by
  have huasp : uaspStart < (usbstorName.map answers).length := by
    rw [List.length_map]
    decide
  exact ⟨fit_of_mergesAll h, mergesAll_of_fit huasp h⟩

/-- The id `AB`. -/
def idAb : Text := ⟨[65, 66], by simp, by simp⟩

/-- A list of one id, with zeros behind it up to a size. -/
def listAb (size : Nat) (hsize : 3 < size) : IdList size :=
  ⟨[idAb], size - 4, by change 3 + (size - 4) < size; omega⟩

/-- Two drivers, each with a list of one id and a size. -/
def twoDrivers (size : UInt32) (hsize : 3 < size.toNat) (name name' other : String) : Service :=
  if other = name ∨ other = name' then ⟨some size, some (listAb size.toNat hsize)⟩
  else ⟨none, none⟩

theorem retrieves_twoDrivers {size : UInt32} (hsize : 3 < size.toNat) (name name' : String) :
    Retrieves (usbstorName.map (twoDrivers size hsize name name')) := by
  intro service hmem hone
  obtain ⟨other, -, rfl⟩ := List.mem_map.1 hmem
  by_cases hname : other = name ∨ other = name'
  · have heq : twoDrivers size hsize name name' other =
        ⟨some size, some (listAb size.toNat hsize)⟩ := if_pos hname
    rw [heq]
    refine ⟨listAb size.toNat hsize, rfl, by simp [listAb], ?_⟩
    rw [length_data]
    change 3 + (size.toNat - 4 + 1) = size.toNat
    omega
  · have heq : twoDrivers size hsize name name' other = ⟨none, none⟩ := if_neg hname
    rw [heq] at hone
    cases hone

theorem mergesAll_twoDrivers :
    MergesAll (usbstorName.map (twoDrivers 5 (by decide) "USBSTOR" "UASPSTOR")) :=
  (mergesAll_iff _ (retrieves_twoDrivers _ _ _)).2 (listsFit_of_total _ (by decide +kernel))

/-- The sizes of the lists of two drivers are `2 ^ 32` together. -/
theorem not_mergesAll_overflow :
    ¬ MergesAll (usbstorName.map (twoDrivers 2147483649 (by decide) "USBSTOR" "UASPSTOR")) := by
  intro h
  have hfit := fit_of_mergesAll (retrieves_twoDrivers _ _ _) h
  have htotal : (totalSize (usbstorName.map (twoDrivers 2147483649 (by decide) "USBSTOR"
      "UASPSTOR")) + 1) % 2 ^ 32 = 1 := by
    decide +kernel
  rw [htotal] at hfit
  have hmem : twoDrivers 2147483649 (by decide) "USBSTOR" "UASPSTOR" "USBSTOR" ∈
      usbstorName.map (twoDrivers 2147483649 (by decide) "USBSTOR" "UASPSTOR") :=
    List.mem_map_of_mem (by decide)
  exact (retrieves_twoDrivers _ _ _).ids_ne_nil hmem (by decide +kernel) (ids_eq_nil_of_fit _ hfit)

end UsbMaker.Devices
