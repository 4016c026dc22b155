import UsbMaker.Disk.GptFormat

/-!
# The names of partitions

An entry of the table has a name of 36 units of UTF-16. `SetName` makes it from a text in UTF-8, and
`GetDescription` gives it as such a text. Both are written out in `gptpart.cc`. The second byte that
`GetDescription` gives for a character outside of the first plane is not one that may follow, so the
two are inverse to each other for characters of the first plane only.

## Main definitions

* `GptDisk.setName`, `GptDisk.getDescription`.
* `GptDisk.setType`: a new type, and a new name where the old one is that of the old type.

## Main results

* `GptDisk.getDescription_setName_iff`: the texts that are read back as they were written.
* `GptDisk.setName_getDescription_iff`: the names that stay when they are read and written.
-/

namespace UsbMaker.GptDisk

open Gpt (Guid)

/-- `NAME_SIZE`. -/
def nameSize : Nat := 36

/-! ### From UTF-8 -/

/-- What the first byte of a character says: its bits, and how many bytes follow. -/
def firstByte (cp : Nat) : Option (Nat × Nat) :=
  if cp < 0x80 then some (cp, 0)
  else if cp < 0xc0 ∨ 0xf7 < cp then none
  else if cp < 0xe0 then some (cp &&& 0x1f, 1)
  else if cp < 0xf0 then some (cp &&& 0x0f, 2)
  else some (cp &&& 0x7, 3)

/-- The loop over the bytes that follow. -/
def followers : Nat → Nat → List Byte → Option (Nat × List Byte)
  | 0, uni, bytes => some (uni, bytes)
  | _ + 1, _, [] => none
  | todo + 1, uni, cp :: bytes =>
    if 0xbf < cp.toNat ∨ cp.toNat < 0x80 then none
    else followers todo (uni <<< 6 ||| cp.toNat &&& 0x3f) bytes

/-- A turn of the loop of `SetName`, as far as UTF-8 goes: a character and what is after it. -/
def takeChar : List Byte → Option (Nat × List Byte)
  | [] => none
  | cp :: bytes =>
    match firstByte cp.toNat with
    | none => none
    | some (uni, todo) => followers todo uni bytes

/-- The loop of `SetName`, with the number of units that there is room for. -/
def nameUnits : Nat → List Byte → Nat → List (BitVec 16)
  | 0, _, _ => []
  | turns + 1, bytes, room =>
    if room = 0 then []
    else match takeChar bytes with
      | none => []
      | some (uni, bytes) =>
        if uni < 0x10000 then BitVec.ofNat 16 uni :: nameUnits turns bytes (room - 1)
        else if room < 2 then []
        else
          (BitVec.ofNat 16 ((uni - 0x10000) >>> 10) ||| 0xd800#16) ::
            (BitVec.ofNat 16 ((uni - 0x10000) &&& 0x3ff) ||| 0xdc00#16) ::
              nameUnits turns bytes (room - 2)

/-- Units with zeros after them. -/
def padName (units : List (BitVec 16)) : Vector (BitVec 16) 36 :=
  Vector.ofFn fun i => units.getD i 0

/-- `SetName`. -/
def setName (theName : List Byte) : Vector (BitVec 16) 36 :=
  padName (nameUnits theName.length theName nameSize)

/-! ### To UTF-8 -/

/-- The bytes that `GetDescription` gives for a character. -/
def charBytes (uni : Nat) : List Byte :=
  (if uni < 0x80 then [uni]
  else if uni < 0x800 then [0xc0 ||| uni >>> 6, 0x80 ||| uni &&& 0x3f]
  else if uni < 0x10000 then
    [0xe0 ||| uni >>> 12, 0x80 ||| uni >>> 6 &&& 0x3f, 0x80 ||| uni &&& 0x3f]
  else
    [0xf0 ||| uni >>> 18, 0xe0 ||| uni >>> 12 &&& 0x3f, 0x80 ||| uni >>> 6 &&& 0x3f,
      0x80 ||| uni &&& 0x3f]).map (BitVec.ofNat 8)

/-- The loop of `GetDescription`. -/
def description : List (BitVec 16) → List Byte
  | [] => []
  | cp :: units =>
    if cp = 0 then []
    else if cp.toNat < 0xd800 ∨ 0xdfff < cp.toNat then charBytes cp.toNat ++ description units
    else if cp.toNat < 0xdc00 then
      match units with
      | [] => []
      | trail :: units =>
        if trail.toNat < 0xdc00 ∨ 0xdfff < trail.toNat then []
        else
          charBytes (((cp.toNat &&& 0x3ff) <<< 10 ||| trail.toNat &&& 0x3ff) + 0x10000) ++
            description units
    else []

/-- `GetDescription`. -/
def getDescription (name : Vector (BitVec 16) 36) : List Byte := description name.toList

/-! ### Characters of the first plane -/

theorem or_eq_add {b : Nat} (a k : Nat) (hb : b < 2 ^ k) : a * 2 ^ k ||| b = a * 2 ^ k + b := by
  rw [← Nat.shiftLeft_eq, Nat.shiftLeft_add_eq_or_of_lt hb]

theorem and_eq_mod (a k mask : Nat) (h : mask = 2 ^ k - 1) : a &&& mask = a % 2 ^ k := by
  rw [h, Nat.and_two_pow_sub_one_eq_mod]

theorem charBytes_one {uni : Nat} (h : uni < 0x80) : charBytes uni = [BitVec.ofNat 8 uni] := by
  rw [charBytes, if_pos h]
  rfl

theorem charBytes_two {uni : Nat} (h : 0x80 ≤ uni) (h' : uni < 0x800) :
    charBytes uni = [BitVec.ofNat 8 (192 + uni / 64), BitVec.ofNat 8 (128 + uni % 64)] := by
  have hfirst : 0xc0 ||| uni >>> 6 = 192 + uni / 64 := by
    rw [Nat.shiftRight_eq_div_pow]
    exact or_eq_add 3 6 (by omega)
  have hlast : 0x80 ||| uni &&& 0x3f = 128 + uni % 64 := by
    rw [and_eq_mod uni 6 0x3f rfl]
    exact or_eq_add 2 6 (by omega)
  rw [charBytes, if_neg (by omega), if_pos h', hfirst, hlast]
  rfl

theorem charBytes_three {uni : Nat} (h : 0x800 ≤ uni) (h' : uni < 0x10000) :
    charBytes uni = [BitVec.ofNat 8 (224 + uni / 4096), BitVec.ofNat 8 (128 + uni / 64 % 64),
      BitVec.ofNat 8 (128 + uni % 64)] := by
  have hfirst : 0xe0 ||| uni >>> 12 = 224 + uni / 4096 := by
    rw [Nat.shiftRight_eq_div_pow]
    exact or_eq_add 14 4 (by omega)
  have hmid : 0x80 ||| uni >>> 6 &&& 0x3f = 128 + uni / 64 % 64 := by
    rw [and_eq_mod (uni >>> 6) 6 0x3f rfl, Nat.shiftRight_eq_div_pow]
    exact or_eq_add 2 6 (by omega)
  have hlast : 0x80 ||| uni &&& 0x3f = 128 + uni % 64 := by
    rw [and_eq_mod uni 6 0x3f rfl]
    exact or_eq_add 2 6 (by omega)
  rw [charBytes, if_neg (by omega), if_neg (by omega), if_pos h', hfirst, hmid, hlast]
  rfl

/-- A byte that follows adds its six bits. -/
theorem followers_succ (todo uni n : Nat) (bytes : List Byte) (hn : n < 64) :
    followers (todo + 1) uni (BitVec.ofNat 8 (128 + n) :: bytes) =
      followers todo (uni * 64 + n) bytes := by
  have hcp : (BitVec.ofNat 8 (128 + n)).toNat = 128 + n := by
    rw [BitVec.toNat_ofNat]
    omega
  have hlow : (128 + n) &&& 0x3f = n := by
    rw [and_eq_mod (128 + n) 6 0x3f rfl]
    omega
  rw [followers, hcp, if_neg (by omega), hlow, Nat.shiftLeft_eq, or_eq_add uni 6 hn]
  rfl

/-- `SetName` takes a character as `GetDescription` gives it. -/
theorem takeChar_charBytes {uni : Nat} (h : uni < 0x10000) (bytes : List Byte) :
    takeChar (charBytes uni ++ bytes) = some (uni, bytes) := by
  rcases Nat.lt_or_ge uni 0x80 with hone | hone
  · have hcp : (BitVec.ofNat 8 uni).toNat = uni := by
      rw [BitVec.toNat_ofNat]
      omega
    rw [charBytes_one hone, List.singleton_append, takeChar, hcp, firstByte, if_pos hone]
    rfl
  · rcases Nat.lt_or_ge uni 0x800 with htwo | htwo
    · have hcp : (BitVec.ofNat 8 (192 + uni / 64)).toNat = 192 + uni / 64 := by
        rw [BitVec.toNat_ofNat]
        omega
      have hlow : (192 + uni / 64) &&& 0x1f = uni / 64 := by
        rw [and_eq_mod (192 + uni / 64) 5 0x1f rfl]
        omega
      have hfirst : firstByte (192 + uni / 64) = some (uni / 64, 1) := by
        rw [firstByte, if_neg (by omega), if_neg (by omega), if_pos (by omega), hlow]
      rw [charBytes_two hone htwo, List.cons_append, List.singleton_append, takeChar, hcp, hfirst]
      dsimp only
      rw [followers_succ 0 _ _ _ (by omega), followers]
      congr 2
      omega
    · have hcp : (BitVec.ofNat 8 (224 + uni / 4096)).toNat = 224 + uni / 4096 := by
        rw [BitVec.toNat_ofNat]
        omega
      have hlow : (224 + uni / 4096) &&& 0x0f = uni / 4096 := by
        rw [and_eq_mod (224 + uni / 4096) 4 0x0f rfl]
        omega
      have hfirst : firstByte (224 + uni / 4096) = some (uni / 4096, 2) := by
        rw [firstByte, if_neg (by omega), if_neg (by omega), if_neg (by omega), if_pos (by omega),
          hlow]
      rw [charBytes_three htwo h, List.cons_append, List.cons_append, List.singleton_append,
        takeChar, hcp, hfirst]
      dsimp only
      rw [followers_succ 1 _ _ _ (by omega), followers_succ 0 _ _ _ (by omega), followers]
      congr 2
      omega

/-! ### Other characters -/

theorem toNat_cases (c : Char) :
    c.toNat < 0xd800 ∨ 0xdfff < c.toNat ∧ c.toNat < 0x110000 := c.valid

/-- A text in UTF-8. -/
def utf8 (text : List Char) : List Byte :=
  text.flatMap fun c => (String.utf8EncodeChar c).map UInt8.toBitVec

theorem utf8_cons (c : Char) (text : List Char) :
    utf8 (c :: text) = (String.utf8EncodeChar c).map UInt8.toBitVec ++ utf8 text := rfl

theorem charBytes_eq_utf8 {c : Char} (h : c.toNat < 0x10000) :
    charBytes c.toNat = (String.utf8EncodeChar c).map UInt8.toBitVec := by
  have hval : c.val.toNat = c.toNat := rfl
  rw [String.utf8EncodeChar, hval]
  rcases Nat.lt_or_ge c.toNat 0x80 with hone | hone
  · rw [charBytes_one hone, if_pos (by omega)]
    rfl
  · rw [if_neg (by omega)]
    rcases Nat.lt_or_ge c.toNat 0x800 with htwo | htwo
    · have hfirst : c.toNat / 64 % 0x20 + 0xc0 = 192 + c.toNat / 64 := by omega
      rw [charBytes_two hone htwo, if_pos (by omega), hfirst, Nat.add_comm _ 0x80]
      rfl
    · have hfirst : c.toNat / 4096 % 0x10 + 0xe0 = 224 + c.toNat / 4096 := by omega
      rw [charBytes_three htwo h, if_neg (by omega), if_pos (by omega), hfirst,
        Nat.add_comm _ 0x80, Nat.add_comm _ 0x80]
      rfl

/-- The first bytes that `GetDescription` gives for a character outside of the first plane. -/
theorem charBytes_four {uni : Nat} (h : 0x10000 ≤ uni) :
    ∃ first second last,
      charBytes uni = BitVec.ofNat 8 first :: BitVec.ofNat 8 second :: last ∧
        (uni < 2 ^ 26 → 0xf0 ≤ first ∧ first < 0x100) ∧ 0xe0 ≤ second ∧ second < 0x100 := by
  have hbytes : charBytes uni = List.map (BitVec.ofNat 8)
      [0xf0 ||| uni >>> 18, 0xe0 ||| uni >>> 12 &&& 0x3f, 0x80 ||| uni >>> 6 &&& 0x3f,
        0x80 ||| uni &&& 0x3f] := by
    rw [charBytes, if_neg (by omega), if_neg (by omega), if_neg (by omega)]
  have hshift (hsmall : uni < 2 ^ 26) : uni >>> 18 < 2 ^ 8 := by
    rw [Nat.shiftRight_eq_div_pow]
    omega
  have hmask : uni >>> 12 &&& 0x3f < 2 ^ 8 := Nat.and_lt_two_pow _ (by decide)
  exact ⟨_, _, _, hbytes,
    fun hsmall => ⟨Nat.left_le_or, Nat.or_lt_two_pow (by decide) (hshift hsmall)⟩,
    Nat.left_le_or, Nat.or_lt_two_pow (by decide) hmask⟩

/-- `SetName` does not take them. -/
theorem takeChar_four {uni : Nat} (h : 0x10000 ≤ uni) (h' : uni < 2 ^ 26) (bytes : List Byte) :
    takeChar (charBytes uni ++ bytes) = none := by
  obtain ⟨first, second, last, hbytes, hfirst, hlarge, hsmall⟩ := charBytes_four h
  obtain ⟨hlow, hhigh⟩ := hfirst h'
  have hcp : (BitVec.ofNat 8 first).toNat = first := by
    rw [BitVec.toNat_ofNat]
    omega
  have hnext : (BitVec.ofNat 8 second).toNat = second := by
    rw [BitVec.toNat_ofNat]
    omega
  rw [hbytes, List.cons_append, List.cons_append, takeChar, hcp, firstByte, if_neg (by omega)]
  by_cases hout : first < 0xc0 ∨ 0xf7 < first
  · rw [if_pos hout]
  · rw [if_neg hout, if_neg (by omega), if_neg (by omega)]
    dsimp only
    rw [followers, hnext, if_pos (by omega)]

/-- The second byte of UTF-8 of such a character. -/
theorem utf8EncodeChar_four {c : Char} (h : 0x10000 ≤ c.toNat) :
    (String.utf8EncodeChar c).map UInt8.toBitVec =
      [BitVec.ofNat 8 (240 + c.toNat / 262144), BitVec.ofNat 8 (128 + c.toNat / 4096 % 64),
        BitVec.ofNat 8 (128 + c.toNat / 64 % 64), BitVec.ofNat 8 (128 + c.toNat % 64)] := by
  have hval : c.val.toNat = c.toNat := rfl
  have hfirst : c.toNat / 262144 % 0x08 + 0xf0 = 240 + c.toNat / 262144 := by
    have hcases := toNat_cases c
    omega
  rw [String.utf8EncodeChar, hval, if_neg (by omega), if_neg (by omega), if_neg (by omega), hfirst,
    Nat.add_comm _ 0x80, Nat.add_comm _ 0x80, Nat.add_comm _ 0x80]
  rfl

theorem takeChar_utf8 (c : Char) (bytes : List Byte) :
    takeChar ((String.utf8EncodeChar c).map UInt8.toBitVec ++ bytes) = some (c.toNat, bytes) := by
  rcases Nat.lt_or_ge c.toNat 0x10000 with hlow | hhigh
  · rw [← charBytes_eq_utf8 hlow]
    exact takeChar_charBytes hlow bytes
  · have hcases := toNat_cases c
    have hcp : (BitVec.ofNat 8 (240 + c.toNat / 262144)).toNat = 240 + c.toNat / 262144 := by
      rw [BitVec.toNat_ofNat]
      omega
    have hbits : (240 + c.toNat / 262144) &&& 0x7 = c.toNat / 262144 := by
      rw [and_eq_mod (240 + c.toNat / 262144) 3 0x7 rfl]
      omega
    have hfirst : firstByte (240 + c.toNat / 262144) = some (c.toNat / 262144, 3) := by
      rw [firstByte, if_neg (by omega), if_neg (by omega), if_neg (by omega), if_neg (by omega),
        hbits]
    rw [utf8EncodeChar_four hhigh, List.cons_append, List.cons_append, List.cons_append,
      List.singleton_append, takeChar, hcp, hfirst]
    dsimp only
    rw [followers_succ 2 _ _ _ (by omega), followers_succ 1 _ _ _ (by omega),
      followers_succ 0 _ _ _ (by omega), followers]
    congr 2
    omega

/-! ### Reading what was written -/

theorem length_nameUnits_le (turns : Nat) (bytes : List Byte) (room : Nat) :
    (nameUnits turns bytes room).length ≤ room := by
  induction turns generalizing bytes room with
  | zero => exact Nat.zero_le _
  | succ turns ih =>
    rw [nameUnits]
    by_cases hroom : room = 0
    · rw [if_pos hroom]
      exact Nat.zero_le _
    · rw [if_neg hroom]
      cases takeChar bytes with
      | none => exact Nat.zero_le _
      | some found =>
        dsimp only
        split_ifs
        · have hrest := ih found.2 (room - 1)
          rw [List.length_cons]
          omega
        · exact Nat.zero_le _
        · have hrest := ih found.2 (room - 2)
          rw [List.length_cons, List.length_cons]
          omega

theorem toList_padName {units : List (BitVec 16)} (h : units.length ≤ 36) :
    (padName units).toList = units ++ List.replicate (36 - units.length) 0 := by
  have hpad : (padName units).toList = List.ofFn fun i : Fin 36 => units.getD i 0 :=
    Vector.toList_ofFn
  rw [hpad]
  refine List.ext_getElem ?_ fun i hi hi' => ?_
  · rw [List.length_ofFn, List.length_append, List.length_replicate]
    omega
  · rw [List.getElem_ofFn, List.getElem_append]
    split_ifs with hunit
    · rw [List.getD_eq_getElem?_getD, List.getElem?_eq_getElem hunit]
      rfl
    · rw [List.getD_eq_getElem?_getD, List.getElem?_eq_none (Nat.not_lt.mp hunit),
        List.getElem_replicate]
      rfl

theorem description_zero (units : List (BitVec 16)) : description (0 :: units) = [] := by
  cases units <;> rfl

theorem description_cons {cp : BitVec 16} (h : cp ≠ 0)
    (h' : cp.toNat < 0xd800 ∨ 0xdfff < cp.toNat) (units : List (BitVec 16)) :
    description (cp :: units) = charBytes cp.toNat ++ description units := by
  cases units with
  | nil =>
    rw [description, description, if_neg h, if_pos h', description]
  | cons trail units => rw [description, if_neg h, if_pos h']

/-- The lead and the trail of a character outside of the first plane. -/
theorem description_pair {uni : Nat} (h : 0x10000 ≤ uni) (h' : uni ≤ 0x10ffff)
    (units : List (BitVec 16)) :
    ∃ uni', 0x10000 ≤ uni' ∧
      description ((BitVec.ofNat 16 ((uni - 0x10000) >>> 10) ||| 0xd800#16) ::
        (BitVec.ofNat 16 ((uni - 0x10000) &&& 0x3ff) ||| 0xdc00#16) :: units) =
        charBytes uni' ++ description units := by
  have hlead : (BitVec.ofNat 16 ((uni - 0x10000) >>> 10) ||| 0xd800#16).toNat =
      0xd800 + (uni - 0x10000) / 1024 := by
    have hfits : (uni - 0x10000) / 1024 < 2 ^ 10 := by omega
    rw [BitVec.toNat_or, BitVec.toNat_ofNat, Nat.shiftRight_eq_div_pow, Nat.or_comm,
      Nat.mod_eq_of_lt (by omega)]
    exact or_eq_add 54 10 hfits
  have htrail : (BitVec.ofNat 16 ((uni - 0x10000) &&& 0x3ff) ||| 0xdc00#16).toNat =
      0xdc00 + (uni - 0x10000) % 1024 := by
    rw [and_eq_mod (uni - 0x10000) 10 0x3ff rfl, BitVec.toNat_or, BitVec.toNat_ofNat, Nat.or_comm,
      Nat.mod_eq_of_lt (by omega)]
    exact or_eq_add 55 10 (by omega)
  have hzero : BitVec.ofNat 16 ((uni - 0x10000) >>> 10) ||| 0xd800#16 ≠ 0 := by
    intro heq
    rw [heq] at hlead
    exact absurd hlead.symm (Nat.add_pos_left (by decide) _).ne'
  rw [description, if_neg hzero, hlead, if_neg (by omega), if_pos (by omega), htrail,
    if_neg (by omega)]
  exact ⟨_, Nat.le_add_left _ _, rfl⟩

theorem description_nameUnits_iff (text : List Char) (turns room zeros : Nat)
    (hturns : text.length ≤ turns) :
    description (nameUnits turns (utf8 text) room ++ List.replicate zeros 0) = utf8 text ↔
      (∀ c ∈ text, c.toNat ≠ 0 ∧ c.toNat < 0x10000) ∧ text.length ≤ room := by
  have hzeros (zeros : Nat) : description (List.replicate zeros 0) = [] := by
    cases zeros with
    | zero => rfl
    | succ zeros => rw [List.replicate_succ, description_zero]
  induction text generalizing turns room with
  | nil =>
    have hunits : nameUnits turns [] room = [] := by
      cases turns with
      | zero => rfl
      | succ turns =>
        rw [nameUnits]
        exact ite_self []
    rw [utf8, List.flatMap_nil, hunits, List.nil_append, hzeros]
    exact ⟨fun _ => ⟨fun c hc => absurd hc List.not_mem_nil, Nat.zero_le _⟩, fun _ => rfl⟩
  | cons c text ih =>
    obtain ⟨turns, rfl⟩ : ∃ n, turns = n + 1 := Nat.exists_eq_succ_of_ne_zero (by
      rw [List.length_cons] at hturns
      omega)
    have hne : utf8 (c :: text) ≠ [] := by
      rw [utf8_cons]
      exact List.append_ne_nil_of_left_ne_nil
        (fun hnil => String.utf8EncodeChar_ne_nil (List.map_eq_nil_iff.mp hnil)) _
    have hcases := toNat_cases c
    rw [nameUnits, utf8_cons, takeChar_utf8]
    dsimp only
    have hlength : (c :: text).length = text.length + 1 := rfl
    have hall : (∀ d ∈ c :: text, d.toNat ≠ 0 ∧ d.toNat < 0x10000) ↔
        (c.toNat ≠ 0 ∧ c.toNat < 0x10000) ∧ ∀ d ∈ text, d.toNat ≠ 0 ∧ d.toNat < 0x10000 :=
      List.forall_mem_cons
    rw [hall, hlength]
    rcases Nat.eq_zero_or_pos room with rfl | hroom
    · rw [if_pos rfl, List.nil_append, hzeros]
      exact ⟨fun heq => absurd heq.symm hne, fun hboth => absurd hboth.2 (Nat.not_succ_le_zero _)⟩
    · rw [if_neg hroom.ne']
      rcases Nat.lt_or_ge c.toNat 0x10000 with hlow | hhigh
      · rw [if_pos hlow, List.cons_append]
        have hcp : (BitVec.ofNat 16 c.toNat).toNat = c.toNat := by
          rw [BitVec.toNat_ofNat]
          exact Nat.mod_eq_of_lt hlow
        have hrest := ih turns (room - 1) (Nat.le_of_succ_le_succ hturns)
        by_cases hnul : c.toNat = 0
        · rw [hnul]
          have hnil : description (BitVec.ofNat 16 0 :: (nameUnits turns (utf8 text) (room - 1) ++
              List.replicate zeros 0)) = [] := description_zero _
          rw [hnil]
          exact ⟨fun heq => absurd heq.symm hne, fun hboth => absurd rfl hboth.1.1.1⟩
        · have hcp0 : BitVec.ofNat 16 c.toNat ≠ 0 := fun heq => hnul (by rw [← hcp, heq]; rfl)
          rw [description_cons hcp0 (by omega), hcp, charBytes_eq_utf8 hlow, List.append_right_inj]
          exact hrest.trans
            ⟨fun h => ⟨⟨⟨hnul, hlow⟩, h.1⟩, by omega⟩, fun h => ⟨h.1.2, by omega⟩⟩
      · rw [if_neg (Nat.not_lt.mpr hhigh)]
        refine ⟨fun heq => ?_, fun hboth => absurd hboth.1.1.2 (Nat.not_lt.mpr hhigh)⟩
        by_cases hshort : room < 2
        · rw [if_pos hshort, List.nil_append, hzeros] at heq
          exact absurd heq.symm hne
        · rw [if_neg hshort, List.cons_append, List.cons_append] at heq
          obtain ⟨uni, huni, hpair⟩ := description_pair hhigh (by omega)
            (nameUnits turns (utf8 text) (room - 2) ++ List.replicate zeros 0)
          obtain ⟨first, second, last, hbytes, -, hlarge, hsmall⟩ := charBytes_four huni
          rw [hpair, hbytes, utf8EncodeChar_four hhigh] at heq
          have hsecond := (List.cons.inj (List.cons.inj heq).2).1
          have hnat := congrArg BitVec.toNat hsecond
          rw [BitVec.toNat_ofNat, BitVec.toNat_ofNat] at hnat
          omega

theorem length_le_utf8 (text : List Char) : text.length ≤ (utf8 text).length := by
  induction text with
  | nil => exact Nat.zero_le _
  | cons c text ih =>
    have hpos : 0 < ((String.utf8EncodeChar c).map UInt8.toBitVec).length := by
      rw [List.length_map, String.length_utf8EncodeChar]
      exact Char.utf8Size_pos c
    rw [utf8_cons, List.length_append, List.length_cons]
    omega

/-- **The texts that can be read back**: `GetDescription` gives what `SetName` was given if and only
if all its characters are of the first plane and none is NUL, and there are at most 36 of them. -/
theorem getDescription_setName_iff (text : List Char) :
    getDescription (setName (utf8 text)) = utf8 text ↔
      (∀ c ∈ text, c.toNat ≠ 0 ∧ c.toNat < 0x10000) ∧ text.length ≤ 36 := by
  have hroom : (nameUnits (utf8 text).length (utf8 text) nameSize).length ≤ 36 :=
    length_nameUnits_le _ _ _
  rw [getDescription, setName, toList_padName hroom]
  exact description_nameUnits_iff text _ _ _ (length_le_utf8 text)

/-! ### Writing what was read -/

/-- A unit that is a character of its own. -/
def isPlain (unit : BitVec 16) : Bool :=
  unit ≠ 0 && (unit.toNat < 0xd800 || 0xdfff < unit.toNat)

/-- There is nothing, or a character outside of the first plane, where a surrogate is. -/
theorem description_surrogate {cp : BitVec 16} (h : cp ≠ 0)
    (h' : ¬ (cp.toNat < 0xd800 ∨ 0xdfff < cp.toNat)) (units : List (BitVec 16)) :
    description (cp :: units) = [] ∨ ∃ uni, 0x10000 ≤ uni ∧ uni < 2 ^ 26 ∧
      ∃ bytes, description (cp :: units) = charBytes uni ++ bytes := by
  cases units with
  | nil =>
    left
    rw [description, if_neg h, if_neg h']
    exact ite_self []
  | cons trail units =>
    rw [description, if_neg h, if_neg h']
    split_ifs
    · exact Or.inl rfl
    · have hlead : (cp.toNat &&& 0x3ff) <<< 10 < 2 ^ 20 := by
        rw [and_eq_mod cp.toNat 10 0x3ff rfl, Nat.shiftLeft_eq]
        omega
      have htrail : trail.toNat &&& 0x3ff < 2 ^ 20 := Nat.and_lt_two_pow _ (by decide)
      have hor := Nat.or_lt_two_pow hlead htrail
      exact Or.inr ⟨_, Nat.le_add_left _ _, by omega, _, rfl⟩
    · exact Or.inl rfl

theorem nameUnits_description (units : List (BitVec 16)) (turns room : Nat)
    (hturns : (description units).length ≤ turns) :
    nameUnits turns (description units) room = (units.takeWhile isPlain).take room := by
  have hnil (turns room : Nat) : nameUnits turns [] room = [] := by
    cases turns with
    | zero => rfl
    | succ turns =>
      rw [nameUnits]
      exact ite_self []
  induction units generalizing turns room with
  | nil => rw [description, hnil, List.takeWhile_nil, List.take_nil]
  | cons cp units ih =>
    by_cases hplain : isPlain cp = true
    · obtain ⟨hzero, hout⟩ : cp ≠ 0 ∧ (cp.toNat < 0xd800 ∨ 0xdfff < cp.toNat) := by
        rw [isPlain, Bool.and_eq_true, Bool.or_eq_true] at hplain
        exact ⟨of_decide_eq_true hplain.1,
          hplain.2.imp of_decide_eq_true of_decide_eq_true⟩
      have hlow : cp.toNat < 0x10000 := cp.isLt
      have hbytes : 0 < (charBytes cp.toNat).length := by
        refine List.length_pos_iff.mpr fun hnone => ?_
        have htake := takeChar_charBytes hlow []
        rw [hnone] at htake
        cases htake
      rw [description_cons hzero hout] at hturns ⊢
      rw [List.length_append] at hturns
      obtain ⟨turns, rfl⟩ : ∃ n, turns = n + 1 := Nat.exists_eq_succ_of_ne_zero (by omega)
      rw [nameUnits, takeChar_charBytes hlow, List.takeWhile_cons, if_pos hplain]
      dsimp only
      cases room with
      | zero => rw [if_pos rfl, List.take_zero]
      | succ room =>
        rw [if_neg (Nat.succ_ne_zero room), if_pos hlow, BitVec.ofNat_toNat, BitVec.setWidth_eq,
          List.take_succ_cons, Nat.add_sub_cancel, ih turns room (by omega)]
    · rw [List.takeWhile_cons, if_neg hplain, List.take_nil]
      by_cases hzero : cp = 0
      · rw [hzero, description_zero, hnil]
      · have hsurrogate : ¬ (cp.toNat < 0xd800 ∨ 0xdfff < cp.toNat) := by
          intro hout
          refine hplain ?_
          rw [isPlain, Bool.and_eq_true, Bool.or_eq_true]
          exact ⟨decide_eq_true hzero, hout.imp decide_eq_true decide_eq_true⟩
        rcases description_surrogate hzero hsurrogate units with
          hnone | ⟨uni, huni, huni', bytes, hpair⟩
        · rw [hnone, hnil]
        · rw [hpair]
          cases turns with
          | zero => rfl
          | succ turns =>
            rw [nameUnits, takeChar_four huni huni']
            exact ite_self []

/-- **What stays of a name** that is read and written again: the characters of the first plane up to
the first NUL or the first character that is none. -/
theorem setName_getDescription (name : Vector (BitVec 16) 36) :
    setName (getDescription name) = padName (name.toList.takeWhile isPlain) := by
  have hlength : (name.toList.takeWhile isPlain).length ≤ nameSize :=
    (List.takeWhile_sublist isPlain).length_le.trans (Vector.length_toList ..).le
  rw [setName, getDescription, nameUnits_description _ _ _ le_rfl, List.take_of_length_le hlength]

/-- A name stays if and only if there is nothing but zeros after these characters. -/
theorem setName_getDescription_iff (name : Vector (BitVec 16) 36) :
    setName (getDescription name) = name ↔ ∀ unit ∈ name.toList.dropWhile isPlain, unit = 0 := by
  have hlength : (name.toList.takeWhile isPlain).length ≤ 36 :=
    (List.takeWhile_sublist isPlain).length_le.trans (Vector.length_toList ..).le
  have hsum : (name.toList.takeWhile isPlain).length + (name.toList.dropWhile isPlain).length =
      36 := by
    rw [← List.length_append, List.takeWhile_append_dropWhile, Vector.length_toList]
  rw [setName_getDescription, ← Vector.toList_inj, toList_padName hlength]
  have hsplit : name.toList.takeWhile isPlain ++ name.toList.dropWhile isPlain = name.toList :=
    List.takeWhile_append_dropWhile
  have hzeros : 36 - (name.toList.takeWhile isPlain).length =
      (name.toList.dropWhile isPlain).length := by omega
  have hall : List.replicate (name.toList.dropWhile isPlain).length 0 =
      name.toList.dropWhile isPlain ↔ ∀ unit ∈ name.toList.dropWhile isPlain, unit = 0 := by
    rw [eq_comm, List.eq_replicate_iff]
    exact and_iff_right rfl
  refine Iff.trans ?_ hall
  rw [hzeros]
  exact ⟨fun heq => List.append_cancel_left (heq.trans hsplit.symm),
    fun heq => (congrArg (name.toList.takeWhile isPlain ++ ·) heq).trans hsplit⟩

/-! ### A new type -/

/-- `SetType`, for the names of the types. -/
def setType (typeName : Guid → List Byte) (part : Part) (partitionType : Guid) : Part :=
  { part with
    name :=
      if getDescription part.name = typeName part.partitionType then
        setName (typeName partitionType)
      else part.name
    partitionType := partitionType }

end UsbMaker.GptDisk
