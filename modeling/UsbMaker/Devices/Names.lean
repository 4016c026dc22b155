import Mathlib.Data.List.Find
import Mathlib.Data.List.TakeWhile
import Mathlib.Tactic.IntervalCases
import UsbMaker.Devices.Score

/-!
# The names of hard drives

A name of `str_score` is a pattern: a `#` in it stands for one digit, and the first pattern that the
friendly name of a drive begins with gives the score. `IsHDD` gets this score for most names, but
not for all. Its loop looks for the digit one place behind the `#`, and it ends at the first pattern
that is longer than the name, though `EXCELSTOR` stands before shorter ones.

## Main definitions

* `Devices.matchesPattern`, `Devices.patternScore`, `Devices.tableScore`: the score by the patterns.
* `Devices.Unambiguous`: the names for which the loop gets it.

## Main statements

* `Devices.isHdd_eq_tableScore_iff`: `IsHDD` returns the score by the patterns for these names only.
-/

namespace UsbMaker.Devices

open Disk (DriveType)

/-! ### The score by the patterns -/

/-- Whether a pattern is a prefix of a text: a `#` stands for one digit, and any other character for
itself in either case. -/
def matchesPattern : List Char → List Char → Bool
  | [], _ => true
  | _ :: _, [] => false
  | p :: pattern, c :: text =>
    (if p = '#' then c.isDigit else c.toLower == p.toLower) && matchesPattern pattern text

/-- The score of the first name of `str_score` that matches, wherever it stands in the table. -/
def patternScore (strid : String) : Int :=
  ((strScore.find? fun entry => matchesPattern entry.1.toList strid.toList).map Prod.snd).getD 0

/-- The score of a drive by the tables. -/
def tableScore (driveType : DriveType) (driveSize vid pid : Nat) (strid : String) : Int :=
  (if driveType = .fixed then 3 else 0) +
    (if 512 * gb < driveSize then 10 else if driveSize < 8 * gb then -10 else 0) +
    patternScore strid +
    ((strAdjust.filter fun entry => strstr strid entry.1).map Prod.snd).sum +
    ((vidScore.find? fun entry => entry.1 == vid).map Prod.snd).getD 0 +
    ((vidpidScore.find? fun entry => entry.1 == vid && entry.2.1 == pid).map
      fun entry => entry.2.2).getD 0

/-! ### The names that are not mistaken -/

/-- Whether a name begins with a text, in either case. -/
def begins (strid text : String) : Bool := strnicmp strid text text.length

/-- Whether a digit stands at a place of a name. -/
def digitAt (strid : String) (k : Nat) : Bool := (strid.toList[k]?).any Char.isDigit

/-- The makers that stand behind `EXCELSTOR` and have a shorter name. -/
def flashMakers : List String :=
  ["CORSAIR", "KINGMAX", "KINGSTON", "LEXAR", "MUSHKIN", "PNY", "SANDISK"]

/-- The texts before a `#`, but for `ST` and `STM`. -/
def digitStems : List String := ["IC", "MX", "HDS", "HDP", "HDT", "HTE", "HTS", "HUA"]

/-- A name that is too short for `EXCELSTOR` begins with no maker behind it, and the place behind a
`#` has a digit where the place of the `#` has one. -/
structure Unambiguous (strid : String) : Prop where
  maker : strid.length < "EXCELSTOR".length → ∀ maker ∈ flashMakers, begins strid maker = false
  digit : ∀ stem ∈ digitStems, begins strid stem →
    digitAt strid (stem.length + 1) = digitAt strid stem.length
  st : begins strid "ST" → begins strid "STM" = false → digitAt strid 3 = digitAt strid 2
  stm : begins strid "STM" → digitAt strid 4 → digitAt strid 3

/-! ### Names of the table -/

/-- Whether a name of the table ends with a `#`. -/
def wild (name : String) : Bool := name.toList[name.length - 1]? == some '#'

/-- A name of the table without the `#`. -/
def stem (name : String) : String := String.ofList (name.toList.filter (· != '#'))

/-- Every name of the table is its stem, with a `#` behind it if it ends with one. -/
theorem toList_name : ∀ entry ∈ strScore,
    entry.1.toList = (stem entry.1).toList ++ if wild entry.1 then ['#'] else [] := by
  decide

theorem begins_iff {strid text : String} :
    begins strid text ↔ text.toList.map Char.toLower <+: strid.toList.map Char.toLower := by
  rw [begins, strnicmp, List.prefix_iff_eq_take, beq_iff_eq, List.map_take, List.map_take,
    List.length_map, String.length_toList]
  rw [List.take_of_length_le (l := text.toList.map Char.toLower)
    (by rw [List.length_map, String.length_toList])]
  exact eq_comm

/-- A pattern that begins without a `#` asks for this text, and for the rest of the pattern. -/
theorem matchesPattern_append {pattern rest text : List Char} (h : '#' ∉ pattern) :
    matchesPattern (pattern ++ rest) text ↔
      pattern.map Char.toLower <+: text.map Char.toLower ∧
        matchesPattern rest (text.drop pattern.length) := by
  induction pattern generalizing text with
  | nil => simp
  | cons p pattern ih =>
    have hp : p ≠ '#' := fun hp => h (hp ▸ List.mem_cons_self)
    have hpattern : '#' ∉ pattern := fun hmem => h (List.mem_cons_of_mem _ hmem)
    cases text with
    | nil => simp [matchesPattern]
    | cons c text =>
      rw [List.cons_append, matchesPattern, if_neg hp, Bool.and_eq_true, ih hpattern,
        List.map_cons, List.map_cons, List.cons_prefix_cons, beq_iff_eq, eq_comm, and_assoc,
        List.length_cons, List.drop_succ_cons]

theorem matchesPattern_of_notMem {pattern text : List Char} (h : '#' ∉ pattern) :
    matchesPattern pattern text ↔ pattern.map Char.toLower <+: text.map Char.toLower := by
  have happend : matchesPattern (pattern ++ []) text ↔ _ := matchesPattern_append h
  rw [List.append_nil] at happend
  rw [happend]
  exact and_iff_left (by rw [matchesPattern])

theorem matchesPattern_append_hash {pattern text : List Char} (h : '#' ∉ pattern) :
    matchesPattern (pattern ++ ['#']) text ↔
      pattern.map Char.toLower <+: text.map Char.toLower ∧
        (text[pattern.length]?).any Char.isDigit := by
  rw [matchesPattern_append h, ← List.head?_drop]
  cases text.drop pattern.length <;> simp [matchesPattern]

/-- What a pattern of the table asks for: its stem, and a digit in the place of the `#`. -/
theorem matchesPattern_iff {entry : String × Int} (hentry : entry ∈ strScore) (strid : String) :
    matchesPattern entry.1.toList strid.toList ↔
      begins strid (stem entry.1) ∧
        (wild entry.1 → digitAt strid (stem entry.1).length) := by
  have hstem : '#' ∉ (stem entry.1).toList := by simp [stem]
  rw [toList_name entry hentry, begins_iff]
  cases wild entry.1 with
  | false => simp [matchesPattern_of_notMem hstem]
  | true => simp [matchesPattern_append_hash hstem, digitAt, String.length_toList]

/-- What the loop asks for: the stem, and a digit one place behind the `#`. -/
def loopMatches (strid name : String) : Bool :=
  begins strid (stem name) && (!wild name || digitAt strid ((stem name).length + 1))

theorem begins_of_loopMatches {strid name : String} (h : loopMatches strid name) :
    begins strid (stem name) :=
  (Bool.and_eq_true_iff.1 h).1

theorem length_name {entry : String × Int} (hentry : entry ∈ strScore) :
    entry.1.length = (stem entry.1).length + if wild entry.1 then 1 else 0 := by
  rw [← String.length_toList, toList_name entry hentry, List.length_append, String.length_toList]
  split <;> rfl

/-- The condition of the loop. -/
theorem strnicmp_name {entry : String × Int} (hentry : entry ∈ strScore) (strid : String) :
    (strnicmp strid entry.1 (entry.1.length - if wild entry.1 then 1 else 0) &&
      (!wild entry.1 || (strid.toList[entry.1.length]?).any Char.isDigit)) =
    loopMatches strid entry.1 := by
  have hname := toList_name entry hentry
  rw [loopMatches, begins, digitAt, strnicmp, strnicmp, length_name hentry, Nat.add_sub_cancel,
    hname, List.take_left' String.length_toList,
    List.take_of_length_le String.length_toList.le]
  cases wild entry.1 <;> rfl

theorem nameScore_eq_find {strid : String} {table : List (String × Int)}
    (htable : ∀ entry ∈ table, entry ∈ strScore) :
    nameScore strid table =
      (((table.takeWhile fun entry => decide (entry.1.length ≤ strid.length)).find?
        fun entry => loopMatches strid entry.1).map Prod.snd).getD 0 := by
  induction table with
  | nil => rfl
  | cons entry table ih =>
    obtain ⟨name, score⟩ := entry
    have hentry : (name, score) ∈ strScore := htable _ List.mem_cons_self
    have hrest := ih fun entry hmem => htable entry (List.mem_cons_of_mem _ hmem)
    have hcond := strnicmp_name hentry strid
    by_cases hlen : strid.length < name.length
    · simp [nameScore, hlen]
    · have hle : name.length ≤ strid.length := Nat.le_of_not_lt hlen
      rw [nameScore, if_neg hlen]
      change (if (strnicmp strid name (name.length - if wild name then 1 else 0) &&
        (!wild name || (strid.toList[name.length]?).any Char.isDigit)) then score
        else nameScore strid table) = _
      rw [hcond, hrest, List.takeWhile_cons_of_pos (by simpa using hle), List.find?_cons]
      cases loopMatches strid name <;> rfl

/-! ### The part of the table that counts -/

/-- The names before `EXCELSTOR`. -/
def firstNames : List (String × Int) := strScore.takeWhile fun entry => entry.1 != "EXCELSTOR"

/-- The entries that can match in the loop: all of them, or those before `EXCELSTOR` if the name is
too short for it. -/
def consulted (strid : String) : List (String × Int) :=
  if strid.length < "EXCELSTOR".length then firstNames else strScore

theorem mem_strScore_of_mem_consulted {strid : String} {entry : String × Int}
    (h : entry ∈ consulted strid) : entry ∈ strScore := by
  rw [consulted] at h
  split at h
  · exact (List.takeWhile_prefix _).subset h
  · exact h

/-- The names before `EXCELSTOR` are sorted by their lengths, and no name is longer than it. -/
theorem takeWhile_length (n : Nat) :
    (strScore.takeWhile fun entry => decide (entry.1.length ≤ n)) =
      (if n < "EXCELSTOR".length then firstNames else strScore).filter
        fun entry => decide (entry.1.length ≤ n) := by
  by_cases hn : n < "EXCELSTOR".length
  · rw [if_pos hn]
    change n < 9 at hn
    interval_cases n <;> decide
  · have hall : ∀ entry ∈ strScore, decide (entry.1.length ≤ n) = true := by
      have hle : ∀ entry ∈ strScore, entry.1.length ≤ "EXCELSTOR".length := by decide
      intro entry hentry
      exact decide_eq_true ((hle entry hentry).trans (Nat.le_of_not_lt hn))
    rw [if_neg hn, List.filter_eq_self.2 hall, List.takeWhile_eq_self_iff.2 hall]

theorem lt_length_of_digitAt {strid : String} {k : Nat} (h : digitAt strid k) :
    k < strid.length := by
  obtain ⟨hsome, -⟩ := (Option.any_eq_true_iff_get _ _).1 h
  rw [← String.length_toList]
  simpa using hsome

theorem length_le_of_begins {strid text : String} (h : begins strid text) :
    text.length ≤ strid.length := by
  simpa [String.length_toList] using (begins_iff.1 h).length_le

/-- A name is as long as what it matches. -/
theorem length_le_of_loopMatches {entry : String × Int} {strid : String}
    (hentry : entry ∈ strScore) (h : loopMatches strid entry.1) :
    entry.1.length ≤ strid.length := by
  rw [loopMatches, Bool.and_eq_true] at h
  obtain ⟨hbegins, hdigit⟩ := h
  rw [length_name hentry]
  cases hwild : wild entry.1 with
  | false => simpa using length_le_of_begins hbegins
  | true =>
    rw [hwild] at hdigit
    have hlt := lt_length_of_digitAt hdigit
    simpa using hlt.le

/-- The loop finds the first entry that it takes to match, among those that can. -/
theorem nameScore_strScore (strid : String) :
    nameScore strid strScore =
      (((consulted strid).find? fun entry => loopMatches strid entry.1).map Prod.snd).getD 0 := by
  have hfind : ((consulted strid).find? fun entry =>
      decide (decide (entry.1.length ≤ strid.length) = true ∧ loopMatches strid entry.1 = true)) =
      (consulted strid).find? fun entry => loopMatches strid entry.1 := by
    refine List.find?_congr fun entry hentry => ?_
    cases hmatch : loopMatches strid entry.1 with
    | false => simp
    | true =>
      have hlen := length_le_of_loopMatches (mem_strScore_of_mem_consulted hentry) hmatch
      simp [hlen]
  rw [nameScore_eq_find fun _ h => h, takeWhile_length, ← consulted, List.find?_filter, ← hfind]

/-! ### Stems that a name begins with -/

/-- Whether one of two texts begins with the other, in either case. -/
def comparable (text text' : String) : Bool := begins text text' || begins text' text

theorem comparable_of_begins {strid text text' : String} (h : begins strid text)
    (h' : begins strid text') : comparable text text' := by
  rw [comparable, Bool.or_eq_true, begins_iff, begins_iff]
  exact (List.prefix_or_prefix_of_prefix (begins_iff.1 h) (begins_iff.1 h')).symm

/-- Only `ST` and `STM` are stems of which one begins with the other. -/
theorem comparable_stems : ∀ entry ∈ strScore, ∀ entry' ∈ strScore,
    comparable (stem entry.1) (stem entry'.1) →
      entry = entry' ∨ begins (stem entry.1) "ST" ∧ begins (stem entry'.1) "ST" := by
  decide +kernel

/-- What a name scores if all the entries that match have one score. -/
theorem score_find {table : List (String × Int)} {test : String × Int → Bool} {c : Int}
    (h : ∀ entry ∈ table, test entry → entry.2 = c) :
    ((table.find? test).map Prod.snd).getD 0 = if table.any test then c else 0 := by
  cases hfind : table.find? test with
  | none =>
    rw [if_neg (by simpa using List.find?_eq_none.1 hfind)]
    rfl
  | some entry =>
    have hmem := List.mem_of_find?_eq_some hfind
    have htest := List.find?_some hfind
    rw [if_pos (List.any_eq_true.2 ⟨entry, hmem, htest⟩)]
    exact h entry hmem htest

/-- The entries whose stems a name begins with have the same score, so the scores agree if the loop
finds an entry exactly where there is one. -/
theorem nameScore_eq_patternScore_iff (strid : String) :
    nameScore strid strScore = patternScore strid ↔
      ((∃ entry ∈ consulted strid, loopMatches strid entry.1) ↔
        ∃ entry ∈ strScore, matchesPattern entry.1.toList strid.toList) := by
  have hzero : ∀ entry ∈ strScore, entry.2 ≠ 0 := by decide
  have hscores : ∀ entry ∈ strScore, ∀ entry' ∈ strScore,
      comparable (stem entry.1) (stem entry'.1) → entry.2 = entry'.2 := by decide +kernel
  by_cases hbegins : ∃ entry ∈ strScore, begins strid (stem entry.1)
  · obtain ⟨entry₀, hentry₀, hbegins₀⟩ := hbegins
    have hloop : ∀ entry ∈ consulted strid, loopMatches strid entry.1 → entry.2 = entry₀.2 := by
      intro entry hentry hmatch
      exact hscores entry (mem_strScore_of_mem_consulted hentry) entry₀ hentry₀
        (comparable_of_begins (begins_of_loopMatches hmatch) hbegins₀)
    have hpattern : ∀ entry ∈ strScore, matchesPattern entry.1.toList strid.toList →
        entry.2 = entry₀.2 := by
      intro entry hentry hmatch
      exact hscores entry hentry entry₀ hentry₀
        (comparable_of_begins ((matchesPattern_iff hentry strid).1 hmatch).1 hbegins₀)
    rw [nameScore_strScore, patternScore, score_find hloop, score_find hpattern,
      ← List.any_eq_true, ← List.any_eq_true]
    have hne := hzero entry₀ hentry₀
    generalize (consulted strid).any _ = found, strScore.any _ = present
    cases found <;> cases present <;> simp [hne, hne.symm]
  · have hloop : ¬ ∃ entry ∈ consulted strid, loopMatches strid entry.1 := by
      rintro ⟨entry, hentry, hmatch⟩
      exact hbegins ⟨entry, mem_strScore_of_mem_consulted hentry, begins_of_loopMatches hmatch⟩
    have hpattern : ¬ ∃ entry ∈ strScore, matchesPattern entry.1.toList strid.toList := by
      rintro ⟨entry, hentry, hmatch⟩
      exact hbegins ⟨entry, hentry, ((matchesPattern_iff hentry strid).1 hmatch).1⟩
    have hnone : nameScore strid strScore = patternScore strid := by
      rw [nameScore_strScore, patternScore, List.find?_eq_none.2 (by simpa using hloop),
        List.find?_eq_none.2 (by simpa using hpattern)]
    exact iff_of_true hnone (iff_of_false hloop hpattern)

/-! ### When the loop finds the entry -/

section Cases

variable {strid : String}

theorem toLower_of_isDigit {c : Char} (h : c.isDigit) : c.toLower = c := by
  have hc := (Char.isDigit_iff_toNat.1 h).2
  have hupper : ¬ ('A'.val ≤ c.val ∧ c.val ≤ 'Z'.val) := by
    rintro ⟨hle, -⟩
    exact absurd (UInt32.le_iff_toNat_le.1 hle |>.trans hc) (by decide)
  exact dif_neg hupper

/-- The place behind `ST` holds no digit if an `M` stands there. -/
theorem digitAt_two_of_begins_stm (h : begins strid "STM") : digitAt strid 2 = false := by
  obtain ⟨rest, hrest⟩ := begins_iff.1 h
  have hc : (strid.toList.map Char.toLower)[2]? = some 'm' := by
    rw [← hrest]
    rfl
  rw [List.getElem?_map, Option.map_eq_some_iff] at hc
  obtain ⟨c, hc, hlower⟩ := hc
  rw [digitAt, hc, Option.any_some, Bool.eq_false_iff]
  intro hdigit
  rw [toLower_of_isDigit hdigit] at hlower
  rw [hlower] at hdigit
  exact absurd hdigit (by decide)

theorem begins_st_of_stm (h : begins strid "STM") : begins strid "ST" := by
  rw [begins_iff] at h ⊢
  exact List.IsPrefix.trans (by decide) h

/-- The entries that count for a name that begins with `ST`. -/
theorem begins_stem_of_st (hst : begins strid "ST") :
    ∀ entry ∈ strScore, begins strid (stem entry.1) →
      entry = ("ST#", 10) ∨ entry = ("STM#", 10) := by
  have hstems : ∀ entry ∈ strScore, comparable (stem entry.1) "ST" →
      entry = ("ST#", 10) ∨ entry = ("STM#", 10) := by decide +kernel
  intro entry hentry hbegins
  exact hstems entry hentry (comparable_of_begins hbegins hst)

/-- The loop looks one place too far for the digit. -/
theorem exists_loopMatches_iff_of_st (hst : begins strid "ST") :
    (∃ entry ∈ consulted strid, loopMatches strid entry.1) ↔
      digitAt strid 3 ∨ begins strid "STM" ∧ digitAt strid 4 := by
  constructor
  · rintro ⟨entry, hentry, hmatch⟩
    rw [loopMatches, Bool.and_eq_true] at hmatch
    obtain ⟨hbegins, hdigit⟩ := hmatch
    obtain rfl | rfl := begins_stem_of_st hst entry (mem_strScore_of_mem_consulted hentry) hbegins
    · exact .inl hdigit
    · exact .inr ⟨hbegins, hdigit⟩
  · rintro (hdigit | ⟨hstm, hdigit⟩)
    · refine ⟨("ST#", 10), ?_, Bool.and_eq_true _ _ ▸ ⟨hst, hdigit⟩⟩
      rw [consulted]
      split <;> decide
    · refine ⟨("STM#", 10), ?_, Bool.and_eq_true _ _ ▸ ⟨hstm, hdigit⟩⟩
      rw [consulted]
      split <;> decide

theorem exists_matchesPattern_iff_of_st (hst : begins strid "ST") :
    (∃ entry ∈ strScore, matchesPattern entry.1.toList strid.toList) ↔
      digitAt strid 2 ∨ begins strid "STM" ∧ digitAt strid 3 := by
  constructor
  · rintro ⟨entry, hentry, hmatch⟩
    obtain ⟨hbegins, hdigit⟩ := (matchesPattern_iff hentry strid).1 hmatch
    obtain rfl | rfl := begins_stem_of_st hst entry hentry hbegins
    · exact .inl (hdigit rfl)
    · exact .inr ⟨hbegins, hdigit rfl⟩
  · rintro (hdigit | ⟨hstm, hdigit⟩)
    · have hmem : ("ST#", 10) ∈ strScore := by decide
      exact ⟨_, hmem, (matchesPattern_iff hmem strid).2 ⟨hst, fun _ => hdigit⟩⟩
    · have hmem : ("STM#", 10) ∈ strScore := by decide
      exact ⟨_, hmem, (matchesPattern_iff hmem strid).2 ⟨hstm, fun _ => hdigit⟩⟩

theorem begins_eq_false_of_st (hst : begins strid "ST") :
    ∀ text ∈ flashMakers ++ digitStems, begins strid text = false := by
  have hnot : ∀ text ∈ flashMakers ++ digitStems, comparable text "ST" = false := by decide
  intro text htext
  rw [Bool.eq_false_iff]
  intro hbegins
  exact Bool.eq_false_iff.1 (hnot text htext) (comparable_of_begins hbegins hst)

/-- A name that begins with `ST` begins with no stem but `ST` and `STM`. -/
theorem unambiguous_iff_of_st (hst : begins strid "ST") :
    ((∃ entry ∈ consulted strid, loopMatches strid entry.1) ↔
      ∃ entry ∈ strScore, matchesPattern entry.1.toList strid.toList) ↔ Unambiguous strid := by
  have hother := begins_eq_false_of_st hst
  rw [exists_loopMatches_iff_of_st hst, exists_matchesPattern_iff_of_st hst]
  constructor
  · intro h
    refine ⟨fun _ maker hmaker => hother maker (List.mem_append_left _ hmaker),
      fun text htext hbegins => ?_, fun _ hstm => ?_, fun hstm hdigit => ?_⟩
    · exact absurd hbegins (Bool.eq_false_iff.1 (hother text (List.mem_append_right _ htext)))
    · simpa [hstm] using h
    · simpa [digitAt_two_of_begins_stm hstm, hstm, hdigit] using h
  · intro h
    cases hstm : begins strid "STM" with
    | false => simp [h.st hst hstm]
    | true =>
      simpa [digitAt_two_of_begins_stm hstm] using h.stm hstm

/-- The names of the table but for `ST#` and `STM#`: those that the loop reaches, those that it may
not reach, and those with a `#`. -/
theorem name_cases : ∀ entry ∈ strScore, begins (stem entry.1) "ST" ∨
    wild entry.1 = false ∧ (entry ∈ firstNames ∨ (stem entry.1).length = "EXCELSTOR".length) ∧
      stem entry.1 ∉ flashMakers ∧ stem entry.1 ∉ digitStems ∨
    wild entry.1 = false ∧ entry ∉ firstNames ∧ stem entry.1 ∈ flashMakers ∧
      stem entry.1 ∉ digitStems ∨
    wild entry.1 = true ∧ entry ∈ firstNames ∧ stem entry.1 ∉ flashMakers ∧
      stem entry.1 ∈ digitStems := by
  decide +kernel

theorem mem_consulted_iff {entry : String × Int} (hentry : entry ∈ strScore) :
    entry ∈ consulted strid ↔ strid.length < "EXCELSTOR".length → entry ∈ firstNames := by
  rw [consulted]
  split
  · exact ⟨fun h _ => h, fun h => h ‹_›⟩
  · exact iff_of_true hentry fun h => absurd h ‹_›

theorem exists_stem : ∀ text ∈ flashMakers ++ digitStems,
    ∃ entry ∈ strScore, stem entry.1 = text := by
  decide +kernel

/-- A maker or a stem of the two lists that a name begins with is the stem of its only entry. -/
theorem unambiguous_iff_of_unique {entry : String × Int} (hbegins : begins strid (stem entry.1))
    (hst : begins strid "ST" = false)
    (hunique : ∀ entry' ∈ strScore, begins strid (stem entry'.1) → entry' = entry) :
    Unambiguous strid ↔
      (strid.length < "EXCELSTOR".length → stem entry.1 ∉ flashMakers) ∧
      (stem entry.1 ∈ digitStems → digitAt strid ((stem entry.1).length + 1) =
        digitAt strid (stem entry.1).length) := by
  have hstems : ∀ text ∈ flashMakers ++ digitStems, begins strid text → text = stem entry.1 := by
    intro text htext hbegins'
    obtain ⟨entry', hentry', rfl⟩ := exists_stem text htext
    rw [hunique entry' hentry' hbegins']
  constructor
  · intro h
    refine ⟨fun hlen hmaker => ?_, fun hstem => h.digit _ hstem hbegins⟩
    exact Bool.eq_false_iff.1 (h.maker hlen _ hmaker) hbegins
  · rintro ⟨hmaker, hdigit⟩
    refine ⟨fun hlen maker hmem => ?_, fun text htext hbegins' => ?_, fun hst' => ?_,
      fun hstm => ?_⟩
    · rw [Bool.eq_false_iff]
      intro hbegins'
      rw [hstems maker (List.mem_append_left _ hmem) hbegins'] at hmem
      exact hmaker hlen hmem
    · obtain rfl := hstems text (List.mem_append_right _ htext) hbegins'
      exact hdigit htext
    · exact absurd hst' (Bool.eq_false_iff.1 hst)
    · exact absurd (begins_st_of_stm hstm) (Bool.eq_false_iff.1 hst)

/-- Any other name begins with the stem of one entry at most. -/
theorem eq_of_begins {entry entry' : String × Int} (hst : begins strid "ST" = false)
    (hentry : entry ∈ strScore) (hbegins : begins strid (stem entry.1))
    (hentry' : entry' ∈ strScore) (hbegins' : begins strid (stem entry'.1)) : entry' = entry := by
  obtain heq | ⟨-, h⟩ := comparable_stems entry' hentry' entry hentry
    (comparable_of_begins hbegins' hbegins)
  · exact heq
  · have hst' := (begins_iff.1 h).trans (begins_iff.1 hbegins)
    exact absurd (begins_iff.2 hst') (Bool.eq_false_iff.1 hst)

/-- A name that begins with the stem of one entry scores what the entry says, or nothing. -/
theorem unambiguous_iff_of_entry {entry : String × Int} (hentry : entry ∈ strScore)
    (hbegins : begins strid (stem entry.1)) (hst : begins strid "ST" = false) :
    ((∃ entry ∈ consulted strid, loopMatches strid entry.1) ↔
      ∃ entry ∈ strScore, matchesPattern entry.1.toList strid.toList) ↔ Unambiguous strid := by
  have hunique : ∀ entry' ∈ strScore, begins strid (stem entry'.1) → entry' = entry :=
    fun _ => eq_of_begins hst hentry hbegins
  have hloop : (∃ entry ∈ consulted strid, loopMatches strid entry.1) ↔
      entry ∈ consulted strid ∧ (wild entry.1 → digitAt strid ((stem entry.1).length + 1)) := by
    constructor
    · rintro ⟨entry', hentry', hmatch⟩
      rw [loopMatches, Bool.and_eq_true] at hmatch
      obtain rfl := hunique entry' (mem_strScore_of_mem_consulted hentry') hmatch.1
      exact ⟨hentry', fun hwild => by simpa [hwild] using hmatch.2⟩
    · rintro ⟨hmem, hdigit⟩
      refine ⟨entry, hmem, ?_⟩
      rw [loopMatches, hbegins]
      cases hwild : wild entry.1 with
      | false => rfl
      | true => exact hdigit hwild
  have hpattern : (∃ entry ∈ strScore, matchesPattern entry.1.toList strid.toList) ↔
      (wild entry.1 → digitAt strid (stem entry.1).length) := by
    constructor
    · rintro ⟨entry', hentry', hmatch⟩
      rw [matchesPattern_iff hentry'] at hmatch
      obtain rfl := hunique entry' hentry' hmatch.1
      exact hmatch.2
    · intro hdigit
      exact ⟨entry, hentry, (matchesPattern_iff hentry strid).2 ⟨hbegins, hdigit⟩⟩
  rw [hloop, hpattern, mem_consulted_iff hentry, unambiguous_iff_of_unique hbegins hst hunique]
  have hlen := length_le_of_begins hbegins
  obtain h | ⟨hwild, hreached, hmaker, hdigit⟩ | ⟨hwild, hnot, hmaker, hdigit⟩ |
      ⟨hwild, hfirst, hmaker, hdigit⟩ := name_cases entry hentry
  · have hst' := (begins_iff.1 h).trans (begins_iff.1 hbegins)
    exact absurd (begins_iff.2 hst') (Bool.eq_false_iff.1 hst)
  · have hconsulted : strid.length < "EXCELSTOR".length → entry ∈ firstNames := by
      intro hlt
      exact hreached.resolve_right (hlen.trans_lt hlt).ne
    simpa [hwild, hmaker, hdigit] using hconsulted
  · simp [hwild, hnot, hmaker, hdigit]
  · simp [hwild, hfirst, hmaker, hdigit]

theorem exists_iff_of_none (hbegins : ¬ ∃ entry ∈ strScore, begins strid (stem entry.1)) :
    (∃ entry ∈ consulted strid, loopMatches strid entry.1) ↔
      ∃ entry ∈ strScore, matchesPattern entry.1.toList strid.toList := by
  refine iff_of_false ?_ ?_
  · rintro ⟨entry, hentry, hmatch⟩
    exact hbegins ⟨entry, mem_strScore_of_mem_consulted hentry, begins_of_loopMatches hmatch⟩
  · rintro ⟨entry, hentry, hmatch⟩
    exact hbegins ⟨entry, hentry, ((matchesPattern_iff hentry strid).1 hmatch).1⟩

theorem unambiguous_of_none (hst : begins strid "ST" = false)
    (hbegins : ¬ ∃ entry ∈ strScore, begins strid (stem entry.1)) : Unambiguous strid := by
  have hnot : ∀ text ∈ flashMakers ++ digitStems, begins strid text = false := by
    intro text htext
    obtain ⟨entry, hentry, rfl⟩ := exists_stem text htext
    rw [Bool.eq_false_iff]
    exact fun h => hbegins ⟨entry, hentry, h⟩
  refine ⟨fun _ maker hmaker => hnot maker (List.mem_append_left _ hmaker),
    fun text htext h => ?_, fun h => ?_, fun h => ?_⟩
  · exact absurd h (Bool.eq_false_iff.1 (hnot text (List.mem_append_right _ htext)))
  · exact absurd h (Bool.eq_false_iff.1 hst)
  · exact absurd (begins_st_of_stm h) (Bool.eq_false_iff.1 hst)

end Cases

/-- The loop over `str_score` gives the score by the patterns for the unambiguous names only. -/
theorem nameScore_eq_iff (strid : String) :
    nameScore strid strScore = patternScore strid ↔ Unambiguous strid := by
  rw [nameScore_eq_patternScore_iff]
  cases hst : begins strid "ST" with
  | true => exact unambiguous_iff_of_st hst
  | false =>
    by_cases hbegins : ∃ entry ∈ strScore, begins strid (stem entry.1)
    · obtain ⟨entry, hentry, hbegins⟩ := hbegins
      exact unambiguous_iff_of_entry hentry hbegins hst
    · exact iff_of_true (exists_iff_of_none hbegins) (unambiguous_of_none hst hbegins)

/-- `IsHDD` returns the score by the tables for the unambiguous names, and for no others. -/
theorem isHdd_eq_tableScore_iff (driveType : DriveType) (driveSize vid pid : Nat)
    (strid : String) :
    isHdd driveType driveSize vid pid strid = tableScore driveType driveSize vid pid strid ↔
      Unambiguous strid := by
  rw [isHdd, tableScore, add_left_inj, add_left_inj, add_left_inj, add_right_inj,
    nameScore_eq_iff]

/-- A drive with the name of a maker of flash drives, too short for `EXCELSTOR`. -/
theorem isHdd_ne_tableScore_sandisk :
    isHdd .removable (16 * gb) 0 0 "SanDisk" ≠ tableScore .removable (16 * gb) 0 0 "SanDisk" := by
  decide +kernel

end UsbMaker.Devices
