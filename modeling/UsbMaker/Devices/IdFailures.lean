import UsbMaker.Devices.IdList

/-!
# Lists of device ids that are not retrieved

A call for a list of device ids may fail after its size was asked for, a list may be empty by then,
and it may be shorter than its size, with nothing written behind its end. A list that is not
retrieved leaves the buffer as it is. If none is retrieved, the walk begins with a byte that nothing
has written. The scan for the end of a list goes wrong in two ways: behind an empty list at the
beginning of the buffer it comes to the third byte, and behind a list that is two bytes shorter than
its size it may take bytes that nothing has written for an end. In both cases the next list is put
behind a zero at which the walk ends.

## Main definitions

* `Devices.ReadsRetrieved`: the walk reads what was written, and finds what was retrieved.
* `Devices.ScansRight`: the scan is right behind every list that another id follows.

## Main results

* `Devices.holds_of_noIds`: empty lists at the end do not matter.
* `Devices.mergeLists_passed`: a list that has been put behind the zero is lost, and so are the
  lists after it.
* `Devices.holds_of_scansRight`, `Devices.exists_passed`: what the buffer begins with.
* `Devices.readsRetrieved_iff`.
-/

namespace UsbMaker.Devices

open Program Buffer

/-- When there is a buffer, the walk over it ends, reads only what is in the buffer and was written
by a call for a list, and finds the ids of the lists that were retrieved. -/
def ReadsRetrieved (services : List Service) : Prop :=
  ∀ size, allocatedSize services = some size → ∀ garbage, ∃ turns found,
    (walked services garbage turns).1 = some found ∧
    (∀ k, (walked services garbage turns).2.touched k = true →
      k < size ∧ (merged services garbage).2.written k = true) ∧
    found.map (fun found => found.chars (merged services garbage).2) =
      (services.flatMap Service.ids).map Text.chars

/-! ### Which lists have to be retrieved -/

/-- The list that is retrieved from a driver, `none` when it is not asked for or the call fails. -/
def Service.answer (service : Service) : Option (IdList service.listSize) :=
  if 1 < service.listSize then service.listAnswer else none

/-- No id is retrieved from some drivers. -/
def NoIds (services : List Service) : Prop := ∀ service ∈ services, service.ids = []

/-- The sizes of the lists that are retrieved, together. -/
def retrievedSize (services : List Service) : Nat :=
  (services.map fun service => if service.answer.isSome then service.listSize else 0).sum

/-- The scan behind a list is right if an id is retrieved later: there is an id in the list or
before it, and the scan begins at most one place behind what has been written. Before the list there
are `used` bytes of ids, and `written` bytes have been written. Behind the last id the scan only
must not wrap around. -/
def ScansRight : Nat → Nat → List Service → Prop
  | _, _, [] => True
  | used, written, service :: services =>
    match service.answer with
    | none => ScansRight used written services
    | some list =>
      (NoIds services ∧ used + service.listSize + retrievedSize services < 2 ^ 32) ∨
        (0 < used + (joined list.ids).length ∧
          used + service.listSize ≤ max written (used + list.data.length) + 1 ∧
          used + service.listSize < 2 ^ 32 ∧
          ScansRight (used + (joined list.ids).length)
            (max written (used + list.data.length)) services)

/-- The sizes less one are a multiple of `2 ^ 32` together, and there is no buffer; or some list is
retrieved, the ids and the zero behind them are not longer than the buffer, and the scans are
right. -/
def GoodAnswers (services : List Service) : Prop :=
  totalSize services % 2 ^ 32 = 0 ∨
    ((∃ service ∈ services, service.answer ≠ none) ∧
      (joined (services.flatMap Service.ids)).length < (totalSize services + 1) % 2 ^ 32 ∧
      ScansRight 0 0 services)

instance (services : List Service) : Decidable (NoIds services) :=
  inferInstanceAs (Decidable (∀ service ∈ services, service.ids = []))

instance decidableScansRight : (used written : Nat) → (services : List Service) →
    Decidable (ScansRight used written services)
  | _, _, [] => .isTrue trivial
  | used, written, service :: services =>
    match h : service.answer with
    | none =>
      have := decidableScansRight used written services
      decidable_of_iff (ScansRight used written services) (by rw [ScansRight, h])
    | some list =>
      have := decidableScansRight (used + (joined list.ids).length)
        (max written (used + list.data.length)) services
      decidable_of_iff (_ ∨ _) (by rw [ScansRight, h])

theorem Service.retrieved_eq (service : Service) :
    service.retrieved = service.answer.map IdList.ids := by
  rw [Service.retrieved, Service.answer]
  split_ifs <;> rfl

theorem Service.exists_of_answer {service : Service} {list : IdList service.listSize}
    (h : service.answer = some list) :
    1 < service.listSize ∧ service.listAnswer = some list ∧ service.ids = list.ids := by
  have hids : service.ids = list.ids := by
    rw [Service.ids, service.retrieved_eq, h, Option.map_some, Option.getD_some]
  rw [Service.answer] at h
  split_ifs at h with hsize
  exact ⟨hsize, h, hids⟩

theorem Service.ids_of_no_answer {service : Service} (h : service.answer = none) :
    service.ids = [] :=
  Service.ids_of_none (by rw [service.retrieved_eq, h, Option.map_none])

/-- A driver from which no list is retrieved. -/
theorem mergeList_of_no_answer {service : Service} {i : Nat} {b : Buffer}
    (h : service.answer = none) : mergeList service i b = (i, b) :=
  mergeList_of_none (by rw [service.retrieved_eq, h, Option.map_none])

/-- A driver from which a list is retrieved. -/
theorem mergeList_of_answer {service : Service} {list : IdList service.listSize} {i : Nat}
    {b : Buffer} (h : service.answer = some list) (hlt : i + service.listSize < 2 ^ 32) :
    mergeList service i b = findEnd (i + service.listSize) (store i list.data b).2 := by
  obtain ⟨hsize, hlist, -⟩ := Service.exists_of_answer h
  rw [mergeList, if_pos hsize, hlist]
  dsimp only
  rw [bind_apply, Nat.mod_eq_of_lt hlt]

theorem retrievedSize_cons (service : Service) (services : List Service) :
    retrievedSize (service :: services) =
      (if service.answer.isSome then service.listSize else 0) + retrievedSize services := by
  rw [retrievedSize, List.map_cons, List.sum_cons, retrievedSize]

/-! ### Where the scan stops -/

/-- The last byte of a text and two zeros lie before an index and on it. -/
def IsEnd (b : Buffer) (q : Nat) : Prop :=
  b.bytes (q - 2) ≠ 0 ∧ b.bytes (q - 1) = 0 ∧ b.bytes q = 0

theorem isRealEnd_iff (q : Nat) (b : Buffer) : (isRealEnd q b).1 = true ↔ IsEnd b q := by
  have hlast : (read (q - 2) b).1 = b.bytes (q - 2) := rfl
  have hzero : (read (q - 1) (read (q - 2) b).2).1 = b.bytes (q - 1) := rfl
  rw [isRealEnd, bind_apply, hlast, IsEnd]
  split_ifs with hne
  · rw [bind_apply, hzero]
    split_ifs with heq
    · simp only [hne, heq, not_false_eq_true, true_and, ne_eq]
      exact beq_iff_eq
    · simp [heq, pure_apply]
  · simp [hne, pure_apply]

theorem reads_isRealEnd (i : Nat) : Keeps (Reads fun _ => True) (isRealEnd i) := by
  refine .bind (reads_read trivial) fun _ => ?_
  split
  · refine .bind (reads_read trivial) fun _ => ?_
    split
    · exact .bind (reads_read trivial) fun _ => .pure _
    · exact .pure _
  · exact .pure _

/-- The scan changes nothing, and does not go below the third byte. -/
theorem findEnd_bounds (i : Nat) (b : Buffer) :
    min 2 i ≤ (findEnd i b).1 ∧ (findEnd i b).1 ≤ i ∧
      Reads (fun _ => True) b (findEnd i b).2 := by
  induction i using findEnd.induct generalizing b with
  | case1 i ih =>
    rw [findEnd, bind_apply]
    have hreads := reads_isRealEnd (i + 3) b
    split
    · exact ⟨Nat.min_le_right _ _, Nat.le_refl _, hreads⟩
    · obtain ⟨hmin, hle, hrest⟩ := ih (isRealEnd (i + 3) b).2
      exact ⟨by omega, by omega, trans_of _ hreads hrest⟩
  | case2 i hi =>
    rw [findEnd]
    · exact ⟨Nat.min_le_right _ _, Nat.le_refl _, refl_of _ b⟩
    · exact hi

/-- The scan does not pass over an end, and stops at one. -/
theorem findEnd_isEnd {q i : Nat} {b : Buffer} (hq : 3 ≤ q) (hle : q ≤ i) (h : IsEnd b q) :
    q ≤ (findEnd i b).1 ∧ IsEnd b (findEnd i b).1 := by
  induction i using findEnd.induct generalizing b with
  | case1 i ih =>
    rw [findEnd, bind_apply]
    have hbytes := (reads_isRealEnd (i + 3) b).bytes
    split_ifs with htrue
    · exact ⟨hle, (isRealEnd_iff _ b).1 htrue⟩
    · have hne : q ≠ i + 3 := by
        rintro rfl
        exact htrue ((isRealEnd_iff _ b).2 h)
      have hrest := ih (b := (isRealEnd (i + 3) b).2) (by omega) (by rwa [IsEnd, hbytes])
      rwa [IsEnd, hbytes] at hrest
  | case2 i hi => exact absurd (Nat.sub_add_cancel (hq.trans hle)).symm (hi (i - 3))

/-- The scan stays behind the ids with which the buffer begins. -/
theorem le_findEnd {ids : List Text} {i : Nat} {b : Buffer}
    (h : Holds ids ((joined ids).length + 1) b) (hle : (joined ids).length ≤ i) :
    (joined ids).length ≤ (findEnd i b).1 := by
  by_cases hids : ids = []
  · rw [hids]
    exact Nat.zero_le _
  · obtain ⟨htwo, hend⟩ := h.ended (Nat.lt_succ_self _) hids
    rcases Nat.lt_or_ge (joined ids).length 3 with hlt | hge
    · have := (findEnd_bounds i b).1
      omega
    · exact (findEnd_isEnd hge hle hend).1

/-! ### Empty lists at the end -/

theorem data_of_nil {size : Nat} {list : IdList size} (h : list.ids = []) :
    list.data = List.replicate (list.padding + 1) 0 := by
  rw [IdList.data, h, joined_nil, List.nil_append]

/-- **Empty lists at the end.** They leave the ids with which the buffer begins. -/
theorem holds_of_noIds (services : List Service) {ids : List Text} {i : Nat} {b : Buffer}
    (hno : NoIds services) (h : Holds ids ((joined ids).length + 1) b)
    (hle : (joined ids).length ≤ i) (hsum : i + retrievedSize services < 2 ^ 32) :
    Holds ids ((joined ids).length + 1) (mergeLists services i b).2 := by
  induction services generalizing i b with
  | nil => exact h
  | cons service services ih =>
    obtain ⟨hids, hno⟩ := List.forall_mem_cons.1 hno
    rw [retrievedSize_cons] at hsum
    rw [mergeLists, bind_apply, bind_apply]
    cases hanswer : service.answer with
    | none =>
      rw [mergeList_of_no_answer hanswer]
      exact ih hno h hle (by omega)
    | some list =>
      rw [hanswer, Option.isSome_some, if_pos rfl] at hsum
      rw [mergeList_of_answer hanswer (by omega),
        data_of_nil ((Service.exists_of_answer hanswer).2.2 ▸ hids)]
      have hstored := h.store_zeros hle (list.padding + 1)
      obtain ⟨-, hmax, hreads⟩ := findEnd_bounds (i + service.listSize)
        (store i (List.replicate (list.padding + 1) 0) b).2
      exact ih hno (hstored.reads hreads) (le_findEnd hstored (by omega)) (by omega)

/-! ### Lists that are lost -/

/-- The next list is put behind the zero that ends the ids with which the buffer begins. -/
structure Passed (ids : List Text) (i : Nat) (b : Buffer) : Prop where
  holds : Holds ids ((joined ids).length + 1) b
  lt : (joined ids).length < i
  isEnd : ids ≠ [] → IsEnd b i

/-- The end of a list that has been stored. -/
theorem isEnd_store {size : Nat} {list : IdList size} (h : list.ids ≠ []) (i : Nat) (b : Buffer) :
    IsEnd (store i list.data b).2 (i + (joined list.ids).length) := by
  obtain ⟨htwo, hzero, hlast⟩ := joined_end h
  have hlength := length_data list
  refine ⟨?_, ?_, ?_⟩
  · rw [bytes_store b (by omega) (by omega), IdList.data, List.getElem?_append_left (by omega),
      show i + (joined list.ids).length - 2 - i = (joined list.ids).length - 2 by omega]
    exact hlast
  · rw [bytes_store b (by omega) (by omega), IdList.data, List.getElem?_append_left (by omega),
      show i + (joined list.ids).length - 1 - i = (joined list.ids).length - 1 by omega]
    exact hzero
  · rw [bytes_store b (by omega) (by omega), Nat.add_sub_cancel_left, IdList.data,
      List.getElem?_append_right (Nat.le_refl _), Nat.sub_self]
    rfl

/-- An empty list that is stored on an end leaves it. -/
theorem IsEnd.store_zeros {i : Nat} {b : Buffer} (h : IsEnd b i) (htwo : 2 ≤ i) (n : Nat) :
    IsEnd (store i (List.replicate (n + 1) 0) b).2 i := by
  refine ⟨?_, ?_, ?_⟩
  · rw [bytes_store_of_not b (by omega)]
    exact h.1
  · rw [bytes_store_of_not b (by omega)]
    exact h.2.1
  · rw [bytes_store b (Nat.le_refl _) (by rw [List.length_replicate]; omega), Nat.sub_self]
    rfl

theorem Passed.mergeList {ids : List Text} {i : Nat} {b : Buffer} (h : Passed ids i b)
    {service : Service} {list : IdList service.listSize} (hanswer : service.answer = some list)
    (hlt : i + service.listSize < 2 ^ 32) :
    Passed ids (mergeList service i b).1 (mergeList service i b).2 := by
  obtain ⟨hsize, -⟩ := Service.exists_of_answer hanswer
  rw [mergeList_of_answer hanswer hlt]
  have hstored : Holds ids ((joined ids).length + 1) (store i list.data b).2 :=
    h.holds.store_behind h.lt
  obtain ⟨hmin, -, hreads⟩ := findEnd_bounds (i + service.listSize) (store i list.data b).2
  by_cases hids : ids = []
  · subst hids
    have hpos : 0 < i := h.lt
    exact ⟨hstored.reads hreads, show 0 < _ by omega, fun hne => absurd rfl hne⟩
  · obtain ⟨htwo, -⟩ := h.holds.ended (Nat.lt_succ_self _) hids
    have hlt' := h.lt
    have hend : ∃ q, i ≤ q ∧ q ≤ i + service.listSize ∧ IsEnd (store i list.data b).2 q := by
      by_cases hnew : list.ids = []
      · refine ⟨i, Nat.le_refl _, Nat.le_add_right _ _, ?_⟩
        rw [data_of_nil hnew]
        exact (h.isEnd hids).store_zeros (by omega) _
      · have hfits : (joined list.ids).length + list.padding < service.listSize := list.fits
        exact ⟨_, Nat.le_add_right _ _, by omega, isEnd_store hnew i b⟩
    obtain ⟨q, hiq, hqi, hq⟩ := hend
    obtain ⟨hle, hfound⟩ := findEnd_isEnd (by omega) hqi hq
    exact ⟨hstored.reads hreads, by omega, fun _ => by rwa [IsEnd, hreads.bytes]⟩

/-- **Lists that are lost.** A list that is put behind the zero leaves the ids with which the buffer
begins, and so do the lists after it. -/
theorem mergeLists_passed (services : List Service) {ids : List Text} {i : Nat} {b : Buffer}
    (h : Passed ids i b) (hsum : i + retrievedSize services < 2 ^ 32) :
    Holds ids ((joined ids).length + 1) (mergeLists services i b).2 := by
  induction services generalizing i b with
  | nil => exact h.holds
  | cons service services ih =>
    rw [retrievedSize_cons] at hsum
    rw [mergeLists, bind_apply, bind_apply]
    cases hanswer : service.answer with
    | none =>
      rw [mergeList_of_no_answer hanswer]
      exact ih h (by omega)
    | some list =>
      rw [hanswer, Option.isSome_some, if_pos rfl] at hsum
      have hlt : i + service.listSize < 2 ^ 32 := by omega
      refine ih (h.mergeList hanswer hlt) ?_
      have := (findEnd_bounds (i + service.listSize) (store i list.data b).2).2.1
      rw [mergeList_of_answer hanswer hlt]
      omega

/-! ### What the buffer begins with -/

/-- A list that is stored behind the ids. -/
theorem Begins.store {ids : List Text} {i written size : Nat} {b : Buffer}
    (h : Begins ids i written b) (list : IdList size) :
    Holds (ids ++ list.ids) ((joined (ids ++ list.ids)).length + 1) (store i list.data b).2 := by
  obtain ⟨rfl, hle, hholds, -⟩ := h
  have hdata := length_data list
  rw [IdList.data, joined_append, List.length_append]
  exact (hholds.store hle (list.padding + 1)).mono (by omega)

theorem joined_ne_nil {texts : List Text} (h : 0 < (joined texts).length) : texts ≠ [] := by
  rintro rfl
  exact absurd h (Nat.lt_irrefl _)

/-- **What is merged.** If the scans are right, the buffer begins with the ids of all lists. -/
theorem holds_of_scansRight (services : List Service) {ids : List Text} {i written : Nat}
    {b : Buffer} (h : Begins ids i written b)
    (hsome : i < written ∨ ∃ service ∈ services, service.answer ≠ none)
    (hscan : ScansRight i written services) :
    Holds (ids ++ services.flatMap Service.ids)
      ((joined (ids ++ services.flatMap Service.ids)).length + 1) (mergeLists services i b).2 := by
  induction services generalizing ids i written b with
  | nil =>
    obtain ⟨rfl, -, hholds, -⟩ := h
    rw [List.flatMap_nil, List.append_nil]
    exact hholds.mono (hsome.resolve_right (by simp))
  | cons service services ih =>
    rw [mergeLists, bind_apply, bind_apply, List.flatMap_cons]
    rw [ScansRight] at hscan
    cases hanswer : service.answer with
    | none =>
      rw [hanswer] at hscan
      rw [mergeList_of_no_answer hanswer, Service.ids_of_no_answer hanswer, List.nil_append]
      refine ih h (hsome.imp_right ?_) hscan
      rintro ⟨other, hmem, hother⟩
      rcases List.mem_cons.1 hmem with rfl | hmem
      · exact absurd hanswer hother
      · exact ⟨other, hmem, hother⟩
    | some list =>
      rw [hanswer] at hscan
      obtain ⟨hsize, hlist, hids⟩ := Service.exists_of_answer hanswer
      have hfits : (joined list.ids).length + list.padding < service.listSize := list.fits
      rw [hids]
      rcases hscan with ⟨hno, hsum⟩ | ⟨hpos, hscan, hlt, hrest⟩
      · have hstored := h.store list
        have hnil : services.flatMap Service.ids = [] := List.flatMap_eq_nil_iff.2 hno
        have hlength : (joined (ids ++ list.ids)).length = i + (joined list.ids).length := by
          rw [joined_append, List.length_append, h.length]
        rw [hnil, List.append_nil, mergeList_of_answer hanswer (by omega)]
        obtain ⟨-, hmax, hreads⟩ := findEnd_bounds (i + service.listSize) (store i list.data b).2
        exact holds_of_noIds services hno (hstored.reads hreads)
          (le_findEnd hstored (by omega)) (by omega)
      · have hne : ids ++ list.ids ≠ [] := by
          refine joined_ne_nil ?_
          rwa [joined_append, List.length_append, ← h.length]
        obtain ⟨hnext, hbegins, -⟩ := mergeList_eq hsize hlist hne hlt hscan h
        rw [hnext, ← List.append_assoc]
        refine ih hbegins (Or.inl ?_) hrest
        have := length_data list
        omega

/-- The bytes behind what has been written are those of the memory. -/
theorem bytes_mergeList {service : Service} {list : IdList service.listSize} {i : Nat} {b : Buffer}
    (hanswer : service.answer = some list) (hlt : i + service.listSize < 2 ^ 32) {k : Nat}
    (hk : i + list.data.length ≤ k) : (mergeList service i b).2.bytes k = b.bytes k := by
  rw [mergeList_of_answer hanswer hlt,
    (findEnd_bounds (i + service.listSize) (store i list.data b).2).2.2.bytes,
    bytes_store_of_not b (by omega)]

/-- Behind empty lists at the beginning of the buffer the next list is put behind the zero. -/
theorem passed_of_noIds {service : Service} {list : IdList service.listSize}
    {ids : List Text} {i written : Nat} {b : Buffer} (h : Begins ids i written b)
    (hanswer : service.answer = some list) (hlt : i + service.listSize < 2 ^ 32)
    (hzero : i + (joined list.ids).length = 0) :
    Passed (ids ++ list.ids) (mergeList service i b).1 (mergeList service i b).2 := by
  obtain ⟨hsize, -⟩ := Service.exists_of_answer hanswer
  have hlength : (joined (ids ++ list.ids)).length = i + (joined list.ids).length := by
    rw [joined_append, List.length_append, h.length]
  have hnil : ids ++ list.ids = [] := by
    by_contra hne
    obtain ⟨htwo, -⟩ := joined_end hne
    omega
  obtain ⟨hmin, -, hreads⟩ := findEnd_bounds (i + service.listSize) (store i list.data b).2
  rw [mergeList_of_answer hanswer hlt]
  exact ⟨(h.store list).reads hreads, by omega, fun hne => absurd hnil hne⟩

/-- Behind a list that is two bytes shorter than its size, when the memory looks like an end where
the scan begins, the next list is put behind the zero. -/
theorem passed_of_short {service : Service} {list : IdList service.listSize}
    {ids : List Text} {i written : Nat} {b : Buffer} (h : Begins ids i written b)
    (hanswer : service.answer = some list) (hlt : i + service.listSize < 2 ^ 32)
    (hthree : 3 ≤ i + service.listSize)
    (hshort : max written (i + list.data.length) + 1 < i + service.listSize)
    (hbytes : ∀ k, written ≤ k → b.bytes k = if k = i + service.listSize - 2 then 1 else 0) :
    Passed (ids ++ list.ids) (mergeList service i b).1 (mergeList service i b).2 := by
  have hfits : (joined list.ids).length + list.padding < service.listSize := list.fits
  have hdata := length_data list
  have hlength : (joined (ids ++ list.ids)).length = i + (joined list.ids).length := by
    rw [joined_append, List.length_append, h.length]
  have hbyte (k : Nat) (hk : max written (i + list.data.length) ≤ k) :
      (store i list.data b).2.bytes k = if k = i + service.listSize - 2 then 1 else 0 := by
    rw [bytes_store_of_not b (by omega)]
    exact hbytes k (by omega)
  have hend : IsEnd (store i list.data b).2 (i + service.listSize) := by
    refine ⟨?_, ?_, ?_⟩
    · rw [hbyte _ (by omega), if_pos rfl]
      decide
    · rw [hbyte _ (by omega), if_neg (by omega)]
    · rw [hbyte _ (by omega), if_neg (by omega)]
  obtain ⟨-, -, hreads⟩ := findEnd_bounds (i + service.listSize) (store i list.data b).2
  obtain ⟨hle, hfound⟩ := findEnd_isEnd hthree (Nat.le_refl _) hend
  rw [mergeList_of_answer hanswer hlt]
  refine ⟨(h.store list).reads hreads, by omega, fun _ => ?_⟩
  rwa [IsEnd, hreads.bytes]

/-- **What is lost.** If a scan is not right, there are contents of the memory for which the buffer
begins with fewer ids than there are. -/
theorem exists_passed (services : List Service) {ids : List Text} {i written : Nat}
    (hi : i = (joined ids).length) (hsum : i + retrievedSize services < 2 ^ 32)
    (hscan : ¬ ScansRight i written services) :
    ∃ garbage : Nat → UInt8, ∀ b, Begins ids i written b →
      (∀ k, written ≤ k → b.bytes k = garbage k) →
      ∃ ids', ids'.length < (ids ++ services.flatMap Service.ids).length ∧
        Holds ids' ((joined ids').length + 1) (mergeLists services i b).2 := by
  induction services generalizing ids i written with
  | nil => exact absurd trivial hscan
  | cons service services ih =>
    rw [retrievedSize_cons] at hsum
    simp only [mergeLists, bind_apply, List.flatMap_cons]
    rw [ScansRight] at hscan
    cases hanswer : service.answer with
    | none =>
      rw [hanswer] at hscan
      simp only [mergeList_of_no_answer hanswer, Service.ids_of_no_answer hanswer,
        List.nil_append]
      exact ih hi (by omega) hscan
    | some list =>
      rw [hanswer] at hscan
      rw [hanswer, Option.isSome_some, if_pos rfl] at hsum
      obtain ⟨hsize, hlist, hids⟩ := Service.exists_of_answer hanswer
      have hfits : (joined list.ids).length + list.padding < service.listSize := list.fits
      have hdata := length_data list
      have hlt : i + service.listSize < 2 ^ 32 := by omega
      obtain ⟨hlater, hscan⟩ := not_or.1 hscan
      have hlost : (ids ++ list.ids).length <
          (ids ++ (list.ids ++ services.flatMap Service.ids)).length := by
        have hne : services.flatMap Service.ids ≠ [] := fun hnil =>
          hlater ⟨List.flatMap_eq_nil_iff.1 hnil, by omega⟩
        have := List.length_pos_iff.2 hne
        simp only [List.length_append]
        omega
      have hlength : (joined (ids ++ list.ids)).length = i + (joined list.ids).length := by
        rw [joined_append, List.length_append, hi]
      rw [hids]
      -- the scan behind this list is wrong, or one of those behind it
      have hmax (b : Buffer) : (mergeList service i b).1 ≤ i + service.listSize := by
        rw [mergeList_of_answer hanswer hlt]
        exact (findEnd_bounds (i + service.listSize) (store i list.data b).2).2.1
      by_cases hzero : i + (joined list.ids).length = 0
      · refine ⟨fun _ => 0, fun b hb _ => ⟨ids ++ list.ids, hlost, ?_⟩⟩
        have := hmax b
        exact mergeLists_passed services (passed_of_noIds hb hanswer hlt hzero) (by omega)
      by_cases hshort : i + service.listSize ≤ max written (i + list.data.length) + 1
      · have hrest : ¬ ScansRight (i + (joined list.ids).length)
            (max written (i + list.data.length)) services := fun hrest =>
          hscan ⟨by omega, hshort, hlt, hrest⟩
        obtain ⟨garbage, hgarbage⟩ := ih hlength.symm (by omega) hrest
        refine ⟨garbage, fun b hb hbytes => ?_⟩
        have hne : ids ++ list.ids ≠ [] := joined_ne_nil (by omega)
        obtain ⟨hnext, hbegins, -⟩ := mergeList_eq hsize hlist hne hlt hshort hb
        rw [hnext, ← List.append_assoc]
        refine hgarbage _ hbegins fun k hk => ?_
        rw [bytes_mergeList hanswer hlt (by omega)]
        exact hbytes k (by omega)
      · -- the memory is made to look like an end where the scan begins
        refine ⟨fun k => if k = i + service.listSize - 2 then 1 else 0,
          fun b hb hbytes => ⟨ids ++ list.ids, hlost, ?_⟩⟩
        have := hmax b
        exact mergeLists_passed services
          (passed_of_short hb hanswer hlt (by omega) (by omega) hbytes) (by omega)

/-! ### The walk -/

/-- A walk that ends has come to every id in the buffer, and read the zero behind them. -/
theorem of_walkIds {texts : List Text} {b : Buffer}
    (h : Holds texts ((joined texts).length + 1) b) {turns : Nat} {found : List Found}
    (hwalk : (walkIds turns b).1 = some found) :
    found = founds 0 texts ∧ (walkIds turns b).2.touched (joined texts).length = true := by
  have hloop : (loop (walkStep turns) turns (0, []) b).1 = some (some found) :=
    Option.join_eq_some_iff.1 hwalk
  obtain ⟨walk, c, hheads, hreturn, hstate⟩ := exists_head_of_loop hloop
  have hwalked : Walked texts b walk c := by
    refine hheads.invariant (Q := fun _ _ _ => True) (walked_start texts b) fun walk c hwalk => ?_
    rcases walkStep_cases h turns hwalk with ⟨hr, -⟩ | ⟨walk', hr, hwalk', -⟩ | ⟨hr, -⟩
    · rw [hr]
      trivial
    · rw [hr]
      exact hwalk'
    · rw [hr]
      trivial
  have htouched : (walkIds turns b).2 = (walkStep turns walk c).2 := hstate
  rw [htouched]
  rcases walkStep_cases h turns hwalked with ⟨hr, -, hend⟩ | ⟨walk', hr, -⟩ | ⟨hr, -⟩
  · rw [hreturn] at hr
    exact ⟨Option.some.inj (Sum.inr.inj hr), hend⟩
  · rw [hreturn] at hr
    cases hr
  · rw [hreturn] at hr
    cases hr

theorem chars_founds {texts : List Text} {b : Buffer}
    (hholds : Holds texts ((joined texts).length + 1) b) :
    (founds 0 texts).map (fun found => found.chars b) = texts.map Text.chars := by
  have hfrom (before rest : List Text) (htexts : texts = before ++ rest) :
      (founds (joined before).length rest).map (fun found => found.chars b) =
        rest.map Text.chars := by
    induction rest generalizing before with
    | nil => rfl
    | cons text rest ih =>
      have hnext := ih (before ++ [text]) (by rw [htexts, List.append_assoc]; rfl)
      rw [joined_append, List.length_append, joined_cons, joined_nil, List.length_append] at hnext
      subst htexts
      rw [founds, List.map_cons, List.map_cons, chars_of_holds hholds]
      exact congrArg _ hnext
  exact hfrom [] texts rfl

/-- A walk that ends has read the first byte. -/
theorem touched_of_walkIds {turns : Nat} {b : Buffer} {found : List Found}
    (h : (walkIds turns b).1 = some found) : (walkIds turns b).2.touched 0 = true := by
  have hstep (walk : Nat × List Found) (c : Buffer) :
      Grows (read walk.1 c).2 (walkStep turns walk c).2 := by
    rw [walkStep, bind_apply]
    split
    · exact refl_of _ _
    · refine Keeps.bind (grows_strlen turns walk.1) (fun length => ?_) _
      cases length with
      | none => exact .pure _
      | some length => exact .pure _
  cases turns with
  | zero => cases h
  | succ turns =>
    have hread : (walkStep (turns + 1) (0, []) b).2.touched 0 = true :=
      hstep _ _ _ (touched_read 0 b)
    rw [walkIds, bind_apply, loop_succ]
    cases hr : (walkStep (turns + 1) (0, []) b).1 with
    | inl walk =>
      exact Keeps.loop (fun walk c => trans_of _ (grows_read walk.1 c) (hstep walk c)) turns walk _
        _ hread
    | inr found => exact hread

theorem allocatedSize_eq_none_iff (services : List Service) :
    allocatedSize services = none ↔ totalSize services % 2 ^ 32 = 0 := by
  rw [allocatedSize, fullListSize_eq]
  split_ifs with hzero <;> simpa using hzero

theorem mergeLists_of_no_answer (services : List Service)
    (h : ∀ service ∈ services, service.answer = none) (i : Nat) (b : Buffer) :
    (mergeLists services i b).2 = b := by
  induction services with
  | nil => rfl
  | cons service services ih =>
    obtain ⟨hservice, h⟩ := List.forall_mem_cons.1 h
    rw [mergeLists, bind_apply, bind_apply, mergeList_of_no_answer hservice]
    exact ih h

/-- The walk over the ids of all lists. -/
theorem holds_merged {services : List Service}
    (hsome : ∃ service ∈ services, service.answer ≠ none) (hscan : ScansRight 0 0 services)
    (garbage : Nat → UInt8) :
    Holds (services.flatMap Service.ids) ((joined (services.flatMap Service.ids)).length + 1)
      (merged services garbage).2 := by
  have hholds := holds_of_scansRight services (begins_fresh garbage) (Or.inr hsome) hscan
  rwa [List.nil_append] at hholds

theorem readsRetrieved_of_good {services : List Service} (h : GoodAnswers services) :
    ReadsRetrieved services := by
  intro size hsize garbage
  obtain hnone | ⟨hsome, hlt, hscan⟩ := h
  · rw [(allocatedSize_eq_none_iff services).2 hnone] at hsize
    cases hsize
  obtain rfl := allocatedSize_eq hsize
  have hholds := holds_merged hsome hscan garbage
  obtain ⟨hwalk, hreads⟩ : (walked services garbage _).1 = _ ∧ _ :=
    walkIds_eq (b := { (merged services garbage).2 with touched := fun _ => false })
      ⟨hholds.bytes, hholds.written⟩ (Nat.lt_succ_self _)
  refine ⟨_, _, hwalk, fun k hk => ?_, chars_founds hholds⟩
  rcases hreads.touched k hk with hfalse | hk
  · cases hfalse
  · exact ⟨by omega, hholds.written k hk⟩

theorem good_of_readsRetrieved {services : List Service} (hsum : retrievedSize services < 2 ^ 32)
    (h : ReadsRetrieved services) : GoodAnswers services := by
  rw [GoodAnswers, ← allocatedSize_eq_none_iff]
  refine or_iff_not_imp_left.2 fun hallocated => ?_
  obtain ⟨size, hsize⟩ := Option.ne_none_iff_exists'.1 hallocated
  have hsome : ∃ service ∈ services, service.answer ≠ none := by
    by_contra hnone
    push Not at hnone
    obtain ⟨turns, found, hwalk, hreads, -⟩ := h size hsize fun _ => 0
    have hwritten := (hreads 0 (touched_of_walkIds hwalk)).2
    rw [merged, mergeLists_of_no_answer services hnone] at hwritten
    cases hwritten
  have hscan : ScansRight 0 0 services := by
    by_contra hscan
    obtain ⟨garbage, hgarbage⟩ := exists_passed services (show 0 = (joined []).length from rfl)
      (by omega) hscan
    obtain ⟨ids, hlt, hholds⟩ := hgarbage (fresh garbage) (begins_fresh garbage) fun _ _ => rfl
    obtain ⟨turns, found, hwalk, -, hchars⟩ := h size hsize garbage
    obtain ⟨rfl, -⟩ : found = founds 0 ids ∧ _ :=
      of_walkIds (b := { (merged services garbage).2 with touched := fun _ => false })
        ⟨hholds.bytes, hholds.written⟩ hwalk
    have hfound : (founds 0 ids).map (fun found => found.chars (merged services garbage).2) =
        ids.map Text.chars := chars_founds hholds
    rw [hfound] at hchars
    have := congrArg List.length hchars
    rw [List.length_map, List.length_map] at this
    rw [List.nil_append] at hlt
    omega
  refine ⟨hsome, ?_, hscan⟩
  have hholds := holds_merged hsome hscan fun _ => 0
  obtain ⟨turns, found, hwalk, hreads, -⟩ := h size hsize fun _ => 0
  obtain ⟨-, htouched⟩ : found = _ ∧ _ :=
    of_walkIds (b := { (merged services fun _ => 0).2 with touched := fun _ => false })
      ⟨hholds.bytes, hholds.written⟩ hwalk
  rw [← allocatedSize_eq hsize]
  exact (hreads _ htouched).1

/-- The call for the list of one driver fails, and another one succeeds. -/
def oneFails (name : String) : Service :=
  if name = "USBSTOR" then ⟨some 10, none⟩
  else if name = "UASPSTOR" then ⟨some 5, some ⟨[idAb], 0, by decide⟩⟩
  else ⟨none, none⟩

/-- The size of the list of one driver is known, and the call for the list fails. -/
def allFail (name : String) : Service := if name = "USBSTOR" then ⟨some 5, none⟩ else ⟨none, none⟩

end UsbMaker.Devices
