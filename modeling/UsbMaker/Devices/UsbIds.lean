import Mathlib.Data.Bool.AllAny
import Mathlib.Data.Nat.Digits.Defs
import Mathlib.Tactic.IntervalCases
import UsbMaker.Devices.Enumerate

/-!
# The vendor and the product in a device id

The id of a USB device has the form `P\VID_xxxx&PID_xxxxR`. `GetDevices` looks in it for the first
two underscores after a backslash, and reads a hexadecimal number after each. It stores the number
as the product, and at the first underscore as the vendor too.

This file shows that this finds the vendor and the product (`scanIds_text`), whatever the parts `P`
and `R` are: underscores before the backslash are passed over, there is no underscore in `VID` and
none between the two numbers, and each number ends at a character that is not a hexadecimal digit.

## Main definitions

* `Devices.HexWord`: four hexadecimal digits; `Devices.UsbId`: an id of the form above.

## Main results

* `Devices.strtoul_digits`: `strtoul` reads a word.
* `Devices.scanIds_text`, `Devices.matchIds_text`.
-/

namespace UsbMaker.Devices

/-- Four hexadecimal digits. -/
structure HexWord where
  digits : List Char
  length_eq : digits.length = 4
  hex : ∀ c ∈ digits, (hexDigit c).isSome = true

/-- The number that the digits are the notation of. -/
def HexWord.value (word : HexWord) : Nat :=
  Nat.ofDigits 16 (word.digits.map fun c => (hexDigit c).getD 0).reverse

/-- A text that is empty or begins with a character that is not a hexadecimal digit. -/
def NoHexHead (str : List Char) : Prop := ∀ c ∈ str.head?, hexDigit c = none

/-- A device id of a USB device. -/
structure UsbId where
  /-- What is before the backslash. -/
  bus : List Char
  vid : HexWord
  pid : HexWord
  /-- What follows the product. -/
  rest : List Char
  bus_backslash : '\\' ∉ bus
  rest_head : NoHexHead rest

/-- The text of an id. -/
def UsbId.text (id : UsbId) : List Char :=
  id.bus ++ "\\VID_".toList ++ (id.vid.digits ++ ("&PID_".toList ++ (id.pid.digits ++ id.rest)))

/-! ### Reading a number -/

theorem lt_of_hexDigit {c : Char} {n : Nat} (h : hexDigit c = some n) : n < 16 := by
  have hbounds (low high : Char) (hc : low ≤ c ∧ c ≤ high) :
      low.toNat ≤ c.toNat ∧ c.toNat ≤ high.toNat := hc
  rw [hexDigit] at h
  split_ifs at h with hdigit hlower hupper
  · have hc := hbounds '0' '9' (by simpa [Char.isDigit, Char.le_def] using hdigit)
    simp only [Char.reduceToNat, Option.some.injEq] at hc h
    omega
  · have hc := hbounds 'a' 'f' hlower
    simp only [Char.reduceToNat, Option.some.injEq] at hc h
    omega
  · have hc := hbounds 'A' 'F' hupper
    simp only [Char.reduceToNat, Option.some.injEq] at hc h
    omega

theorem ne_of_hexDigit {c d : Char} (hc : (hexDigit c).isSome = true) (hd : hexDigit d = none) :
    c ≠ d := by
  rintro rfl
  rw [hd] at hc
  cases hc

theorem isSpace_of_hexDigit {c : Char} (h : (hexDigit c).isSome = true) : isSpace c = false := by
  have hspaces : ∀ d ∈ [' ', '\t', '\n', '\x0b', '\x0c', '\r'], hexDigit d = none :=
    List.all_iff_forall_prop.mp (by decide)
  rw [isSpace, List.contains_eq_mem, decide_eq_false_iff_not]
  exact fun hc => ne_of_hexDigit h (hspaces c hc) rfl

theorem foldl_hexDigit (digits : List Char) (n : Nat) :
    (digits.map hexDigit).foldl (fun value digit => value * 16 + digit.getD 0) n =
      n * 16 ^ digits.length +
        Nat.ofDigits 16 (digits.map fun c => (hexDigit c).getD 0).reverse := by
  induction digits generalizing n with
  | nil => simp
  | cons c digits ih =>
    rw [List.map_cons, List.foldl_cons, ih, List.map_cons, Nat.ofDigits_reverse_cons,
      List.length_map, List.length_cons]
    ring

theorem HexWord.value_lt (word : HexWord) : word.value < 2 ^ 16 := by
  have hdigits : ∀ n ∈ (word.digits.map fun c => (hexDigit c).getD 0).reverse, n < 16 := by
    intro n hn
    obtain ⟨c, hc, rfl⟩ := List.mem_map.mp (List.mem_reverse.mp hn)
    obtain ⟨m, hm⟩ := Option.isSome_iff_exists.mp (word.hex c hc)
    rw [hm]
    exact lt_of_hexDigit hm
  have hlt := Nat.ofDigits_lt_base_pow_length (by norm_num) hdigits
  rw [List.length_reverse, List.length_map, word.length_eq] at hlt
  exact hlt

/-- The value of the hexadecimal digits with which a text begins. -/
def prefixValue (str : List Char) : Nat :=
  ((str.map hexDigit).takeWhile Option.isSome).foldl (fun value digit => value * 16 + digit.getD 0)
    0

/-- There is no space, sign or prefix before two digits. -/
theorem strtoul_of_hexDigit {a b : Char} (ha : (hexDigit a).isSome = true)
    (hb : (hexDigit b).isSome = true) (str : List Char) :
    strtoul (a :: b :: str) =
      if 2 ^ 32 ≤ prefixValue (a :: b :: str) then 2 ^ 32 - 1 else prefixValue (a :: b :: str) := by
  have hminus := ne_of_hexDigit ha (d := '-') (by decide)
  have hplus := ne_of_hexDigit ha (d := '+') (by decide)
  unfold strtoul
  rw [List.dropWhile_cons_of_neg (by simp [isSpace_of_hexDigit ha])]
  simp only [List.cons.injEq, hminus, hplus, false_and, imp_self, implies_true, Bool.and_eq_true,
    Bool.or_eq_true, beq_iff_eq, Bool.false_eq_true, ↓reduceIte]
  split
  · next x digit rest heq =>
    obtain ⟨-, rfl, rfl⟩ : a = '0' ∧ b = x ∧ str = digit :: rest := by simpa using heq
    have hx := ne_of_hexDigit hb (d := 'x') (by decide)
    have hX := ne_of_hexDigit hb (d := 'X') (by decide)
    have hprefix : ¬ ((b = 'x' ∨ b = 'X') ∧ (hexDigit digit).isSome = true) :=
      fun h => h.1.elim hx hX
    rw [if_neg hprefix]
    rfl
  · rfl

/-- `strtoul` reads a word, and stops behind it. -/
theorem strtoul_digits (word : HexWord) {rest : List Char} (h : NoHexHead rest) :
    strtoul (word.digits ++ rest) = word.value := by
  have hvalue : prefixValue (word.digits ++ rest) = word.value := by
    have hstop : (rest.map hexDigit).takeWhile Option.isSome = [] := by
      cases rest with
      | nil => rfl
      | cons c rest =>
        rw [List.map_cons, h c rfl]
        rfl
    have hall : ∀ digit ∈ word.digits.map hexDigit, digit.isSome = true := by
      intro digit hdigit
      obtain ⟨c, hc, rfl⟩ := List.mem_map.mp hdigit
      exact word.hex c hc
    rw [prefixValue, List.map_append, List.takeWhile_append_of_pos hall, hstop, List.append_nil,
      foldl_hexDigit, Nat.zero_mul, Nat.zero_add]
    rfl
  obtain ⟨a, b, str, hdigits⟩ : ∃ a b str, word.digits = a :: b :: str := by
    match word.digits, word.length_eq with
    | a :: b :: str, _ => exact ⟨a, b, str, rfl⟩
  have ha : (hexDigit a).isSome = true := word.hex a (by simp [hdigits])
  have hb : (hexDigit b).isSome = true := word.hex b (by simp [hdigits])
  have hread := strtoul_of_hexDigit ha hb (str ++ rest)
  rw [← List.cons_append, ← List.cons_append, ← hdigits, hvalue] at hread
  have hlt := word.value_lt
  rw [hread, if_neg (by omega)]

/-! ### The scan -/

section Scan

variable {str : List Char} {ids : Nat × Nat} {l : Nat}

/-- What is before the backslash is passed over. -/
theorem scanIds_before {bus : List Char} (h : '\\' ∉ bus) (hl : l < 2) :
    scanIds (bus ++ str) false l ids = scanIds str false l ids := by
  induction bus with
  | nil => rfl
  | cons c bus ih =>
    rw [List.mem_cons, not_or] at h
    have hc : (c == '\\') = false := beq_eq_false_iff_ne.mpr (Ne.symm h.1)
    rw [List.cons_append, scanIds, if_neg (by omega)]
    simp only [hc, Bool.or_false, Bool.false_and, Bool.false_eq_true, ↓reduceIte]
    exact ih h.2

/-- After the backslash a text without underscores is passed over. -/
theorem scanIds_after {name : List Char} (h : '_' ∉ name) (hl : l < 2) :
    scanIds (name ++ str) true l ids = scanIds str true l ids := by
  induction name with
  | nil => rfl
  | cons c name ih =>
    rw [List.mem_cons, not_or] at h
    have hc : (c == '_') = false := beq_eq_false_iff_ne.mpr (Ne.symm h.1)
    rw [List.cons_append, scanIds, if_neg (by omega)]
    simp only [hc, Bool.true_or, Bool.and_false, Bool.false_eq_true, ↓reduceIte]
    exact ih h.2

theorem scanIds_underscore (hl : l < 2) :
    scanIds ('_' :: str) true l ids =
      scanIds str true (l + 1)
        (if l = 0 then strtoul str % 2 ^ 16 else ids.1, strtoul str % 2 ^ 16) := by
  rw [scanIds, if_neg (by omega)]
  rfl

/-- The scan ends at the second underscore. -/
theorem scanIds_end : scanIds str true 2 ids = ids := by
  cases str with
  | nil => rfl
  | cons c str => rw [scanIds, if_pos (Nat.le_refl 2)]

end Scan

theorem HexWord.underscore (word : HexWord) : '_' ∉ word.digits := fun h =>
  ne_of_hexDigit (word.hex _ h) (by decide) rfl

/-- **The vendor and the product are found**, whatever else there is in the id. -/
theorem scanIds_text (id : UsbId) (ids : Nat × Nat) :
    scanIds id.text false 0 ids = (id.vid.value, id.pid.value) := by
  have hvid : strtoul (id.vid.digits ++ ("&PID_".toList ++ (id.pid.digits ++ id.rest))) %
      2 ^ 16 = id.vid.value := by
    have hstop : NoHexHead ("&PID_".toList ++ (id.pid.digits ++ id.rest)) := by
      rintro c ⟨⟩
      rfl
    rw [strtoul_digits id.vid hstop, Nat.mod_eq_of_lt id.vid.value_lt]
  have hpid : strtoul (id.pid.digits ++ id.rest) % 2 ^ 16 = id.pid.value := by
    rw [strtoul_digits id.pid id.rest_head, Nat.mod_eq_of_lt id.pid.value_lt]
  have hfirst : scanIds ("\\VID_".toList ++
      (id.vid.digits ++ ("&PID_".toList ++ (id.pid.digits ++ id.rest)))) false 0 ids =
      scanIds (id.vid.digits ++ ("&PID_".toList ++ (id.pid.digits ++ id.rest))) true 1
        (id.vid.value, id.vid.value) := by
    rw [← hvid]
    rfl
  rw [UsbId.text, List.append_assoc, scanIds_before id.bus_backslash (by decide), hfirst,
    scanIds_after id.vid.underscore (by decide)]
  have hname : "&PID_".toList = "&PID".toList ++ ['_'] := rfl
  rw [hname, List.append_assoc, scanIds_after (by decide) (by decide)]
  change scanIds ('_' :: (id.pid.digits ++ id.rest)) true 1 _ = _
  rw [scanIds_underscore (by decide), hpid, scanIds_end]
  rfl

/-- An id with underscores everywhere. -/
def underscoredId : UsbId where
  bus := "USB_VENDOR_BUSID".toList
  vid := ⟨"0781".toList, rfl, List.all_iff_forall_prop.mp (by decide)⟩
  pid := ⟨"55aB".toList, rfl, List.all_iff_forall_prop.mp (by decide)⟩
  rest := "_2\\0F_1".toList
  bus_backslash := by decide
  rest_head := by
    rintro c ⟨⟩
    decide

example : scanIds underscoredId.text false 0 (0, 0) = (0x0781, 0x55AB) := by decide

/-! ### The id in capitals -/

/-- `ToUpper` changes neither what is a hexadecimal digit nor its value. -/
theorem toUpper_cases (c : Char) :
    c.toUpper = c ∨ hexDigit c.toUpper = hexDigit c ∧ c.toUpper ≠ '\\' := by
  by_cases h : 'a'.toNat ≤ c.toNat ∧ c.toNat ≤ 'z'.toNat
  · obtain ⟨n, hlow, hhigh, rfl⟩ : ∃ n, 97 ≤ n ∧ n ≤ 122 ∧ c = Char.ofNat n :=
      ⟨c.toNat, h.1, h.2, (Char.ofNat_toNat c).symm⟩
    exact Or.inr (by interval_cases n <;> decide)
  · exact Or.inl (dif_neg h)

theorem hexDigit_toUpper (c : Char) : hexDigit c.toUpper = hexDigit c := by
  rcases toUpper_cases c with h | h
  · rw [h]
  · exact h.1

/-- A word in capitals. -/
def HexWord.toUpper (word : HexWord) : HexWord where
  digits := word.digits.map Char.toUpper
  length_eq := by rw [List.length_map, word.length_eq]
  hex c hc := by
    obtain ⟨d, hd, rfl⟩ := List.mem_map.mp hc
    rw [hexDigit_toUpper]
    exact word.hex d hd

theorem HexWord.value_toUpper (word : HexWord) : word.toUpper.value = word.value := by
  simp only [value, toUpper, List.map_map, Function.comp_def, hexDigit_toUpper]

/-- An id in capitals. -/
def UsbId.toUpper (id : UsbId) : UsbId where
  bus := id.bus.map Char.toUpper
  vid := id.vid.toUpper
  pid := id.pid.toUpper
  rest := id.rest.map Char.toUpper
  bus_backslash hmem := by
    obtain ⟨c, hc, heq⟩ := List.mem_map.mp hmem
    rcases toUpper_cases c with h | h
    · rw [h] at heq
      exact id.bus_backslash (heq ▸ hc)
    · exact h.2 heq
  rest_head c hc := by
    rw [List.head?_map, Option.mem_map] at hc
    obtain ⟨d, hd, rfl⟩ := hc
    rw [hexDigit_toUpper]
    exact id.rest_head d hd

theorem UsbId.text_toUpper (id : UsbId) : id.toUpper.text = id.text.map Char.toUpper := by
  simp only [text, toUpper, HexWord.toUpper, List.map_append]
  rfl

/-- Whether the instance of a device is found under an id. -/
def Device.hasInstance (device : Device) (k : Nat) : Bool :=
  (device.idAnswers k).instances.any fun instances => instances.contains device.devInst

/-- **The vendor and the product of a device** that has no hub of its own, when the first id that
matches it is that of a USB device. -/
theorem matchIds_text {devidList : DeviceIds} {device : Device} {props : Props} {id : UsbId}
    {found : DeviceId} {k : Nat} (hfound : devidList.ids[k]? = some found)
    (htext : found.text.toList = id.text) (hmatch : device.hasInstance k = true)
    (hfirst : ∀ j < k, device.hasInstance j = false)
    (hhub : (device.idAnswers k).hasHub = false)
    (hparent : (device.idAnswers k).grandparent ≠ some true) :
    (matchIds devidList device props).vid = id.vid.value ∧
      (matchIds devidList device props).pid = id.pid.value := by
  have hfind : devidList.ids.zipIdx.find? (fun entry => device.hasInstance entry.2) =
      some (found, k) := by
    obtain ⟨hlt, hget⟩ := List.getElem?_eq_some_iff.mp hfound
    refine List.find?_eq_some_iff_getElem.mpr ⟨hmatch, k, by simpa using hlt, ?_, fun j hj => ?_⟩
    · simp [hget]
    · simpa using hfirst j hj
  unfold matchIds
  generalize hsearch : List.find? _ _ = search
  obtain rfl : search = some (found, k) := hsearch.symm.trans hfind
  dsimp only
  rw [htext, ← id.text_toUpper, scanIds_text, if_neg (by simp [hhub, hparent])]
  exact ⟨id.vid.value_toUpper, id.pid.value_toUpper⟩

end UsbMaker.Devices
