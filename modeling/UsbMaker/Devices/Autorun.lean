import Mathlib.Data.List.DropRight
import Mathlib.Data.List.TakeWhile

/-!
# A line of `autorun.inf`

`get_token_data_line` looks for a token at the beginning of a line and returns the data behind it.
It goes over the line with an index that is not signed, and marks the end of the data in the line
itself, first at the place where the data ends and then backwards over the characters of the end of
the line.

A line is an array of characters that ends with a zero. A computation stops when it returns a null
pointer, or when it leaves the array.

## Main definitions

* `Autorun.Stop`: why a computation stops.
* `Autorun.getTokenDataLine`, in three parts: `Autorun.skipToken`, `Autorun.skipSeparator`,
  `Autorun.readData`.
* `Autorun.TextAt`: the text from an index on.

## Main results

* `Autorun.skipToken_eq`, `Autorun.skipSeparator_eq`, `Autorun.readData_eq`: what the parts do with
  the text, without the indices.
-/

namespace UsbMaker.Autorun

/-- Why a computation stops. -/
inductive Stop
  /-- A null pointer is returned. -/
  | null
  /-- An index is not one of the array. -/
  | outside
  deriving DecidableEq, Repr

/-- A `wchar_t`. -/
def wide (c : Char) : UInt16 := UInt16.ofNat c.toNat

/-- Whether a character is in `wspace`. -/
def isBlank (c : UInt16) : Bool := c == wide ' ' || c == wide '\t'

/-- Whether a character belongs to the end of a line. -/
def isEol (c : UInt16) : Bool := c == wide '\r' || c == wide '\n'

/-- `towlower`. -/
def towlower (c : UInt16) : UInt16 := if wide 'A' ≤ c ∧ c ≤ wide 'Z' then c + 32 else c

/-! ### Access to the line -/

/-- `wline[i]`. -/
def read (wline : List UInt16) (i : Nat) : Except Stop UInt16 :=
  match wline[i]? with
  | some c => .ok c
  | none => .error .outside

/-- `wline[i] = c`. -/
def write (wline : List UInt16) (i : Nat) (c : UInt16) : Except Stop (List UInt16) :=
  if i < wline.length then .ok (wline.set i c) else .error .outside

/-- The number of characters from an index on to the first one of a kind. -/
def find (wline : List UInt16) (p : UInt16 → Bool) (i : Nat) : Except Stop Nat :=
  match (wline.drop i).findIdx? p with
  | some n => .ok n
  | none => .error .outside

/-- `wcsspn(&wline[i], wspace)`. -/
def wcsspn (wline : List UInt16) (i : Nat) : Except Stop Nat := find wline (fun c => !isBlank c) i

/-- Whether `_wcsnicmp(&wline[i], wtoken, wcslen(wtoken))` is zero. -/
def wcsnicmp (wline : List UInt16) : Nat → List UInt16 → Except Stop Bool
  | _, [] => return true
  | i, t :: wtoken => do
    let c ← read wline i
    if towlower c ≠ towlower t then return false
    else if c = 0 then return true
    else wcsnicmp wline (i + 1) wtoken

/-! ### The parser -/

/-- The first part of `get_token_data_line`: the index behind the token. -/
def skipToken (wtoken wline : List UInt16) : Except Stop Nat := do
  if (← read wline 0) = 0 then throw .null
  let i ← wcsspn wline 0
  let i := if (← read wline i) = wide '<' then i + 1 else i
  let i := i + (← wcsspn wline i)
  if !(← wcsnicmp wline i wtoken) then throw .null
  return i + wtoken.length

/-- What is known before the data. -/
structure Start where
  xml : Bool
  quoteth : Bool
  /-- The starting position of the data. -/
  r : Nat
  deriving DecidableEq, Repr

/-- The second part of `get_token_data_line`. -/
def skipSeparator (wline : List UInt16) (i : Nat) : Except Stop Start := do
  let i := i + (← wcsspn wline i)
  let c ← read wline i
  if c ≠ wide '>' ∧ c ≠ wide '=' then throw .null
  let i := i + 1
  let i := i + (← wcsspn wline i)
  let quoteth := (← read wline i) == wide '"'
  return { xml := c == wide '>', quoteth := quoteth, r := if quoteth then i + 1 else i }

/-- Whether a character ends the data. -/
def endsData (xml quoteth : Bool) (c : UInt16) : Bool :=
  c == 0 || c == wide '"' && quoteth || c == wide '<' && xml

/-- The loop that eliminates trailing end-of-line characters, down from an index. Below zero the
index becomes the largest one of its type. -/
def eraseEol (r : Nat) : Nat → List UInt16 → Except Stop (List UInt16)
  | 0, wline => do
    if r = 0 then
      if isEol (← read wline 0) then throw .outside
    return wline
  | i + 1, wline => do
    if r ≤ i + 1 then
      if isEol (← read wline (i + 1)) then eraseEol r i (← write wline (i + 1) 0)
      else return wline
    else return wline

/-- The last part of `get_token_data_line`. -/
def readData (wline : List UInt16) (start : Start) : Except Stop (List UInt16) := do
  let n ← find wline (endsData start.xml start.quoteth) start.r
  let wline ← write wline (start.r + n) 0
  let wline ←
    match start.r + n with
    | 0 => throw .outside
    | i + 1 => eraseEol start.r i wline
  if (← read wline start.r) = 0 then throw .null
  return (wline.drop start.r).takeWhile fun c => c ≠ 0

/-- `get_token_data_line`, for a token and a line that are not null. -/
def getTokenDataLine (wtoken line : List UInt16) : Except Stop (List UInt16) := do
  let wline := line ++ [0]
  let i ← skipToken wtoken wline
  let start ← skipSeparator wline i
  readData wline start

@[simp] theorem ok_bind {α β : Type} (a : α) (f : α → Except Stop β) :
    (Except.ok a >>= f) = f a := rfl

@[simp] theorem error_bind {α β : Type} (stop : Stop) (f : α → Except Stop β) :
    (Except.error stop >>= f) = .error stop := rfl

/-! ### The text from an index on -/

/-- The text of a line from an index on. -/
def TextAt (wline : List UInt16) (i : Nat) (text : List UInt16) : Prop :=
  wline.drop i = text ++ [0]

section TextAt

variable {wline text : List UInt16} {i : Nat}

theorem textAt_zero (line : List UInt16) : TextAt (line ++ [0]) 0 line := rfl

theorem TextAt.skip {front : List UInt16} (h : TextAt wline i (front ++ text)) :
    TextAt wline (i + front.length) text := by
  rw [TextAt, ← List.drop_drop, h, List.append_assoc, List.drop_left]

theorem TextAt.drop (h : TextAt wline i text) {n : Nat} (hn : n ≤ text.length) :
    TextAt wline (i + n) (text.drop n) := by
  rw [TextAt, ← List.drop_drop, h, List.drop_append_of_le_length hn]

theorem TextAt.next {c : UInt16} (h : TextAt wline i (c :: text)) : TextAt wline (i + 1) text := by
  rw [TextAt, ← List.drop_drop, h]
  rfl

theorem TextAt.read (h : TextAt wline i text) : read wline i = .ok (text.headD 0) := by
  have hget : wline[i]? = some (text.headD 0) := by
    rw [← Nat.add_zero i, ← List.getElem?_drop, h]
    cases text <;> rfl
  rw [Autorun.read, hget]

theorem TextAt.find (h : TextAt wline i text) {p : UInt16 → Bool} (hp : p 0 = true) :
    find wline p i = .ok (text.takeWhile fun c => !p c).length := by
  have hfind : (text ++ [0]).findIdx? p = some (text.takeWhile fun c => !p c).length := by
    clear h
    induction text with
    | nil => simp [hp]
    | cons c text ih =>
      rw [List.cons_append, List.findIdx?_cons, ih]
      by_cases hc : p c = true
      · rw [if_pos hc, List.takeWhile_cons_of_neg (by simp [hc])]
        rfl
      · rw [if_neg hc, List.takeWhile_cons_of_pos (by simp [hc])]
        rfl
  rw [Autorun.find, h, hfind]

/-- The characters that are passed over. -/
theorem TextAt.dropWhile (h : TextAt wline i text) (p : UInt16 → Bool) :
    TextAt wline (i + (text.takeWhile p).length) (text.dropWhile p) := by
  rw [← List.takeWhile_append_dropWhile (p := p) (l := text)] at h
  exact h.skip

theorem TextAt.wcsspn (h : TextAt wline i text) :
    wcsspn wline i = .ok (text.takeWhile isBlank).length := by
  rw [Autorun.wcsspn, h.find rfl]
  simp only [Bool.not_not]

/-- A text begins with a token when case is ignored. -/
def BeginsWith (wtoken text : List UInt16) : Prop :=
  (text.take wtoken.length).map towlower = wtoken.map towlower

instance (wtoken text : List UInt16) : Decidable (BeginsWith wtoken text) :=
  inferInstanceAs (Decidable (_ = _))

theorem towlower_eq_zero {c : UInt16} (h : towlower c = 0) : c = 0 := by
  rw [towlower] at h
  have hA : wide 'A' = 65 := rfl
  have hZ : wide 'Z' = 90 := rfl
  rw [hA, hZ] at h
  split_ifs at h with hupper
  · have hsum := congrArg UInt16.toNat h
    rw [UInt16.le_iff_toNat_le, UInt16.le_iff_toNat_le] at hupper
    rw [UInt16.toNat_add] at hsum
    simp only [UInt16.reduceToNat] at hsum hupper
    omega
  · exact h

theorem TextAt.wcsnicmp {wtoken : List UInt16} (h : TextAt wline i text) (htoken : 0 ∉ wtoken) :
    wcsnicmp wline i wtoken = .ok (decide (BeginsWith wtoken text)) := by
  induction wtoken generalizing i text with
  | nil => rfl
  | cons t wtoken ih =>
    rw [List.mem_cons, not_or] at htoken
    rw [Autorun.wcsnicmp, h.read, ok_bind]
    by_cases hc : towlower (text.headD 0) = towlower t
    · have hzero : text.headD 0 ≠ 0 := by
        intro hzero
        rw [hzero] at hc
        exact htoken.1 (towlower_eq_zero hc.symm).symm
      obtain ⟨c, text, rfl⟩ : ∃ c rest, text = c :: rest := by
        cases text with
        | nil => exact absurd rfl hzero
        | cons c rest => exact ⟨c, rest, rfl⟩
      have hnext : TextAt wline (i + 1) text := h.next
      have hhead : towlower c = towlower t := hc
      have hiff : BeginsWith wtoken text ↔ BeginsWith (t :: wtoken) (c :: text) := by
        simp only [BeginsWith, List.length_cons, List.take_succ_cons, List.map_cons,
          List.cons.injEq, hhead, true_and]
      rw [if_neg (not_not.mpr hc), if_neg hzero, ih hnext htoken.2, decide_eq_decide.mpr hiff]
    · have hhead : ¬ BeginsWith (t :: wtoken) text := by
        intro hbegins
        cases text with
        | nil => cases hbegins
        | cons c text => exact hc (List.cons.inj hbegins).1
      rw [if_pos hc, decide_eq_false hhead]
      rfl

end TextAt

/-! ### The parts of the parser -/

/-- A text behind its opening angle bracket. -/
def afterTag : List UInt16 → List UInt16
  | [] => []
  | c :: text => if c = wide '<' then text else c :: text

/-- A line from its token on. -/
def fromToken (line : List UInt16) : List UInt16 :=
  (afterTag (line.dropWhile isBlank)).dropWhile isBlank

/-- A text behind its opening quote. -/
def afterQuote : List UInt16 → List UInt16
  | [] => []
  | c :: text => if c = wide '"' then text else c :: text

section Parts

variable {wline text : List UInt16} {i : Nat}

theorem TextAt.afterTag (h : TextAt wline i text) :
    TextAt wline (if text.headD 0 = wide '<' then i + 1 else i) (afterTag text) := by
  cases text with
  | nil => exact h
  | cons c text =>
    rw [List.headD_cons, Autorun.afterTag]
    split_ifs
    · exact h.next
    · exact h

theorem TextAt.afterQuote (h : TextAt wline i text) :
    TextAt wline (if text.headD 0 == wide '"' then i + 1 else i) (afterQuote text) := by
  cases text with
  | nil => exact h
  | cons c text =>
    rw [List.headD_cons, Autorun.afterQuote]
    by_cases hc : c = wide '"'
    · rw [if_pos hc, if_pos (beq_iff_eq.mpr hc)]
      exact h.next
    · rw [if_neg hc, if_neg (by rwa [beq_iff_eq])]
      exact h

theorem length_le_of_beginsWith {wtoken : List UInt16} (h : BeginsWith wtoken text) :
    wtoken.length ≤ text.length := by
  have hlength := congrArg List.length h
  rw [List.length_map, List.length_map, List.length_take] at hlength
  omega

/-- The index behind the token. -/
theorem skipToken_eq {wtoken line : List UInt16} (hne : wtoken ≠ []) (hzero : 0 ∉ wtoken)
    (hline : 0 ∉ line) :
    (BeginsWith wtoken (fromToken line) → ∃ i, skipToken wtoken (line ++ [0]) = .ok i ∧
        TextAt (line ++ [0]) i ((fromToken line).drop wtoken.length)) ∧
      (¬ BeginsWith wtoken (fromToken line) →
        skipToken wtoken (line ++ [0]) = .error .null) := by
  have hstart := textAt_zero line
  have hblank := hstart.dropWhile isBlank
  rw [Nat.zero_add] at hblank
  have htag := hblank.afterTag
  have htoken : TextAt _ _ (fromToken line) := htag.dropWhile isBlank
  cases line with
  | nil =>
    refine ⟨fun hbegins => ?_, fun _ => rfl⟩
    have hlength := length_le_of_beginsWith hbegins
    exact absurd (List.length_eq_zero_iff.mp (Nat.le_zero.mp hlength)) hne
  | cons c line =>
    have hc : c ≠ 0 := fun hc => hline (hc ▸ List.mem_cons_self)
    have hcompare := htoken.wcsnicmp hzero
    constructor
    · intro hbegins
      rw [decide_eq_true hbegins] at hcompare
      refine ⟨_, ?_, TextAt.drop htoken (length_le_of_beginsWith hbegins)⟩
      simp only [skipToken, hstart.read, List.headD_cons, hc, hstart.wcsspn, hblank.read,
        htag.wcsspn, hcompare, ok_bind, ↓reduceIte]
      rfl
    · intro hbegins
      rw [decide_eq_false hbegins] at hcompare
      simp only [skipToken, hstart.read, List.headD_cons, hc, hstart.wcsspn, hblank.read,
        htag.wcsspn, hcompare, ok_bind, ↓reduceIte]
      rfl

/-- What is known before the data. -/
theorem skipSeparator_eq (h : TextAt wline i text) :
    (∀ c rest, text.dropWhile isBlank = c :: rest → c = wide '>' ∨ c = wide '=' →
      ∃ r, skipSeparator wline i = .ok
          ⟨c == wide '>', (rest.dropWhile isBlank).headD 0 == wide '"', r⟩ ∧
        0 < r ∧ TextAt wline r (afterQuote (rest.dropWhile isBlank))) ∧
      ((∀ c rest, text.dropWhile isBlank = c :: rest → c ≠ wide '>' ∧ c ≠ wide '=') →
        skipSeparator wline i = .error .null) := by
  have hblank := h.dropWhile isBlank
  constructor
  · intro c rest htext hc
    rw [htext] at hblank
    have hrest := hblank.next.dropWhile isBlank
    have hsep : ¬ (c ≠ wide '>' ∧ c ≠ wide '=') := by tauto
    refine ⟨_, ?_, ?_, hrest.afterQuote⟩
    · simp only [skipSeparator, h.wcsspn, hblank.read, List.headD_cons, hsep, hblank.next.wcsspn,
        hrest.read, ok_bind, ↓reduceIte]
      rfl
    · split_ifs <;> omega
  · intro hnot
    have hhead : (text.dropWhile isBlank).headD 0 ≠ wide '>' ∧
        (text.dropWhile isBlank).headD 0 ≠ wide '=' := by
      cases htext : text.dropWhile isBlank with
      | nil => exact ⟨by decide, by decide⟩
      | cons c rest => exact hnot c rest htext
    simp only [skipSeparator, h.wcsspn, hblank.read, hhead, ok_bind, ne_eq, not_false_eq_true,
      and_self, ↓reduceIte]
    rfl

end Parts

/-! ### The end of the data -/

theorem read_append {front rest : List UInt16} {c : UInt16} :
    read (front ++ c :: rest) front.length = .ok c := by
  rw [read, List.getElem?_append_right (Nat.le_refl _), Nat.sub_self]
  rfl

theorem write_append {front rest : List UInt16} {c d : UInt16} :
    write (front ++ c :: rest) front.length d = .ok (front ++ d :: rest) := by
  rw [write, if_pos (by simp), List.set_append_right _ _ (Nat.le_refl _), Nat.sub_self]
  rfl

theorem eraseEol_of_lt {r i : Nat} (h : i < r) (wline : List UInt16) :
    eraseEol r i wline = .ok wline := by
  cases i with
  | zero =>
    rw [eraseEol, if_neg (by omega)]
    rfl
  | succ i =>
    rw [eraseEol, if_neg (by omega)]
    rfl

/-- The characters of the end of the line are taken from the data, and zeros are left. -/
theorem eraseEol_eq {front data rest : List UInt16} (hfront : front ≠ []) :
    ∃ rest', eraseEol front.length (front.length + data.length - 1) (front ++ data ++ 0 :: rest) =
      .ok (front ++ data.rdropWhile isEol ++ 0 :: rest') := by
  have hpos := List.length_pos_iff.mpr hfront
  induction data using List.reverseRecOn generalizing rest with
  | nil => exact ⟨rest, eraseEol_of_lt (by rw [List.length_nil]; omega) _⟩
  | append_singleton data c ih =>
    have hindex : front.length + (data ++ [c]).length - 1 =
        front.length + data.length - 1 + 1 := by
      rw [List.length_append, List.length_singleton]
      omega
    have hlast : front.length + data.length - 1 + 1 = (front ++ data).length := by
      rw [List.length_append]
      omega
    have hwline : front ++ (data ++ [c]) ++ 0 :: rest = front ++ data ++ c :: 0 :: rest := by simp
    rw [hindex, hwline, eraseEol, if_pos (by omega), hlast, read_append, ok_bind]
    by_cases hc : isEol c = true
    · rw [if_pos hc, write_append, ok_bind, List.rdropWhile_concat_pos _ _ _ hc]
      exact ih
    · rw [if_neg hc, List.rdropWhile_concat_neg _ _ _ hc]
      exact ⟨rest, by simp; rfl⟩

/-- The data with the characters of the end of the line taken from its end. -/
def stripEol (data : List UInt16) : List UInt16 := data.rdropWhile isEol

/-- The data that is read behind the separator, up to its end. -/
def dataOf (xml quoteth : Bool) (text : List UInt16) : List UInt16 :=
  text.takeWhile fun c => !endsData xml quoteth c

theorem isPrefix_stripEol (data : List UInt16) : stripEol data <+: data :=
  List.rdropWhile_prefix isEol data

/-- What is returned of a line in which a zero ends the data. -/
theorem returned_append {front strip rest : List UInt16} (hzero : 0 ∉ strip) :
    (do
      if (← read (front ++ strip ++ 0 :: rest) front.length) = 0 then throw .null
      return ((front ++ strip ++ 0 :: rest).drop front.length).takeWhile fun c => c ≠ 0 :
        Except Stop (List UInt16)) =
      if strip = [] then .error .null else .ok strip := by
  have hdrop : (front ++ strip ++ 0 :: rest).drop front.length = strip ++ 0 :: rest := by
    rw [List.append_assoc, List.drop_left]
  have hnonzero : ∀ d ∈ strip, decide (d ≠ 0) = true := by
    intro d hd
    rw [decide_eq_true_eq]
    rintro rfl
    exact hzero hd
  rw [hdrop]
  cases strip with
  | nil =>
    rw [List.append_nil, read_append, ok_bind, if_pos rfl]
    rfl
  | cons d strip =>
    have hd : d ≠ 0 := of_decide_eq_true (hnonzero d List.mem_cons_self)
    rw [List.takeWhile_append_of_pos hnonzero, List.takeWhile_cons_of_neg (by simp),
      List.append_assoc, List.cons_append, read_append, ok_bind, if_neg hd, List.append_nil,
      if_neg (List.cons_ne_nil d strip)]
    rfl

/-- The last part of the parser, when the data and its end are known. -/
theorem readData_append {front data rest : List UInt16} {c : UInt16} {xml quoteth : Bool}
    (hfront : front ≠ []) (hzero : 0 ∉ data)
    (hfind : find (front ++ data ++ c :: rest) (endsData xml quoteth) front.length =
      .ok data.length) :
    readData (front ++ data ++ c :: rest) ⟨xml, quoteth, front.length⟩ =
      if stripEol data = [] then .error .null else .ok (stripEol data) := by
  obtain ⟨i, hi⟩ : ∃ i, front.length + data.length = i + 1 :=
    Nat.exists_eq_succ_of_ne_zero (by have := List.length_pos_iff.mpr hfront; omega)
  have hend : i + 1 = (front ++ data).length := by rw [List.length_append, hi]
  obtain ⟨rest', herase⟩ : ∃ rest', eraseEol front.length i (front ++ data ++ 0 :: rest) =
      .ok (front ++ stripEol data ++ 0 :: rest') := by
    have hlast : i = front.length + data.length - 1 := by omega
    rw [hlast]
    exact eraseEol_eq hfront
  rw [readData]
  dsimp only
  rw [hfind, ok_bind, hi, hend, write_append, ok_bind, ← hend]
  dsimp only
  rw [herase, ok_bind]
  exact returned_append fun hmem => hzero ((isPrefix_stripEol data).subset hmem)

/-- The data is what comes before its end. -/
theorem readData_eq {wline text : List UInt16} {start : Start} (hr : 0 < start.r)
    (h : TextAt wline start.r text) (hzero : 0 ∉ text) :
    readData wline start =
      if stripEol (dataOf start.xml start.quoteth text) = [] then .error .null
      else .ok (stripEol (dataOf start.xml start.quoteth text)) := by
  obtain ⟨xml, quoteth, r⟩ := start
  dsimp only at hr h ⊢
  have hlt : r < wline.length := by
    have hlength := congrArg List.length h
    rw [List.length_drop, List.length_append, List.length_singleton] at hlength
    omega
  have hr' : (wline.take r).length = r := List.length_take_of_le hlt.le
  have htext : dataOf xml quoteth text ++ (text.dropWhile fun c => !endsData xml quoteth c) =
      text := List.takeWhile_append_dropWhile
  obtain ⟨c, rest, hrest⟩ := List.exists_cons_of_ne_nil (List.append_ne_nil_of_right_ne_nil
    (text.dropWhile fun c => !endsData xml quoteth c) (List.cons_ne_nil (0 : UInt16) []))
  have hwline : wline = wline.take r ++ dataOf xml quoteth text ++ c :: rest := by
    rw [List.append_assoc, ← hrest, ← List.append_assoc (dataOf xml quoteth text), htext, ← h,
      List.take_append_drop]
  have hfind : find wline (endsData xml quoteth) r = .ok (dataOf xml quoteth text).length :=
    h.find rfl
  have hdata : 0 ∉ dataOf xml quoteth text :=
    fun hmem => hzero ((List.takeWhile_prefix _).subset hmem)
  have hfront : wline.take r ≠ [] := List.length_pos_iff.mp (hr'.symm ▸ hr)
  have hfind' : find (wline.take r ++ dataOf xml quoteth text ++ c :: rest) (endsData xml quoteth)
      (wline.take r).length = .ok (dataOf xml quoteth text).length := by
    rw [← hwline, hr']
    exact hfind
  have happend := readData_append hfront hdata hfind'
  rwa [← hwline, hr'] at happend

end UsbMaker.Autorun
