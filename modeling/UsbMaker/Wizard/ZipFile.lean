import Mathlib.Data.List.DropRight

/-!
# The path of the extracted file

`ZipFile::extractFirstFile` asks for the name of the first entry, with a buffer of 256 bytes, and
then has the entry extracted without its path into the directory of the archive. It returns the path
that the name has in the directory of the archive. The file is written under the last part of the
name only.

A path is the bytes of its text in UTF-8. A file name that a zip archive holds is any bytes without
a zero. What lies in memory behind the buffer is not known; it counts when the name fills the
buffer, which then has no zero at its end. The bytes in the buffer become a `QString`: those that
are not UTF-8 are replaced, and a byte order mark at the beginning is dropped.

This file shows when the path that is returned is that of the file (`returnsWritten_iff`): the name
is shorter than the buffer, it has a last part, which is kept when the name becomes a text, and the
folder that it names in the directory of the archive is the current directory while the file is
extracted.

## Main definitions

* `ZipFile.EntryName`, `ZipFile.fromUtf8`, `ZipFile.firstFileName`: a name, and what is read in the
  buffer.
* `ZipFile.absoluteFilePath`, `ZipFile.extractCurrentfile`: the path that is returned, and that of
  the file.
* `ZipFile.extractFirstFile`, `ZipFile.ReturnsWritten`.

## Main results

* `ZipFile.returnsWritten_iff`, `ZipFile.meets_of_flat`.
-/

namespace UsbMaker.ZipFile

/-- The text of a path. -/
abbrev Path := List UInt8

/-- A slash. -/
def slash : UInt8 := 47

/-- A backslash. -/
def backslash : UInt8 := 92

/-- A colon. -/
def colon : UInt8 := 58

/-- The name of an entry. -/
structure EntryName where
  bytes : Path
  no_zero : 0 ∉ bytes

/-- Whether a byte is in the last part of a path. -/
def inLastPart (c : UInt8) : Bool := c ≠ slash && c ≠ backslash

/-- The part of a path after the last slash or backslash. -/
def withoutPath (path : Path) : Path := path.rtakeWhile inLastPart

/-- The part of a path up to the last slash or backslash. -/
def folders (path : Path) : Path := path.rdropWhile inLastPart

/-! ### Texts -/

/-- A byte behind the first one of a character. -/
def tail : UInt8 × UInt8 := (0x80, 0xBF)

/-- The least and the greatest of the bytes that follow the first byte of a character of more than
one byte. -/
def tails (c : UInt8) : List (UInt8 × UInt8) :=
  if 0xC2 ≤ c ∧ c ≤ 0xDF then [tail]
  else if c = 0xE0 then [(0xA0, 0xBF), tail]
  else if c = 0xED then [(0x80, 0x9F), tail]
  else if 0xE1 ≤ c ∧ c ≤ 0xEF then [tail, tail]
  else if c = 0xF0 then [(0x90, 0xBF), tail, tail]
  else if 0xF1 ≤ c ∧ c ≤ 0xF3 then [tail, tail, tail]
  else if c = 0xF4 then [(0x80, 0x8F), tail, tail]
  else []

/-- Whether some bytes begin with bytes in given ranges. -/
def follow : List (UInt8 × UInt8) → Path → Bool
  | [], _ => true
  | _ :: _, [] => false
  | (least, greatest) :: ranges, c :: rest => least ≤ c && c ≤ greatest && follow ranges rest

/-- The number of bytes of the character with which some bytes begin, zero if there is none. -/
def charLength : Path → Nat
  | [] => 0
  | c :: rest =>
    if c < 0x80 then 1
    else if tails c ≠ [] && follow (tails c) rest then (tails c).length + 1
    else 0

/-- `QChar::ReplacementCharacter`. -/
def replacementCharacter : Path := [0xEF, 0xBF, 0xBD]

/-- The characters of some bytes, when that many bytes are left of a character. -/
def decode : Nat → Path → Path
  | _, [] => []
  | left + 1, c :: rest => c :: decode left rest
  | 0, c :: rest =>
    match charLength (c :: rest) with
    | 0 => replacementCharacter ++ decode 0 rest
    | left + 1 => c :: decode left rest

/-- `QString::fromUtf8`. -/
def fromUtf8 (bytes : Path) : Path :=
  if bytes.take 3 = [0xEF, 0xBB, 0xBF] then decode 0 (bytes.drop 3) else decode 0 bytes

example : fromUtf8 [0x63, 0x61, 0x66, 0xC3, 0xA9] = [0x63, 0x61, 0x66, 0xC3, 0xA9] := by decide

example : fromUtf8 [0x63, 0x61, 0x66, 0xE9] = [0x63, 0x61, 0x66, 0xEF, 0xBF, 0xBD] := by decide

/-! ### Paths -/

/-- `QDir::fromNativeSeparators`. -/
def fromNativeSeparators (path : Path) : Path :=
  path.map fun c => if c = backslash then slash else c

/-- `QDir::isAbsolutePath`. -/
def isAbsolutePath (path : Path) : Bool :=
  match fromNativeSeparators path with
  | [] => false
  | c :: rest => c == slash || rest.head? == some colon

/-- A directory as the beginning of the paths of its files. -/
def slashed (dir : Path) : Path := if dir.getLast? = some slash then dir else dir ++ [slash]

/-- `QDir::absoluteFilePath`. -/
def absoluteFilePath (dir name : Path) : Path :=
  fromNativeSeparators
    (if isAbsolutePath name then name else if name = [] then dir else slashed dir ++ name)

/-! ### The extraction -/

/-- How the calls of `extractFirstFile` end. -/
structure Answers where
  /-- Whether the archive is opened. -/
  opens : Bool := true
  /-- Whether `unzGoToFirstFile2` returns `UNZ_OK`. -/
  goToFirstFile : Bool := true
  /-- Whether `QDir::setCurrent` succeeds. -/
  setCurrent : Bool := true
  /-- Whether `miniunz_extract_currentfile` returns `UNZ_OK`. -/
  extract : Bool := true

/-- The reasons for a `ZipError`. -/
inductive ZipError
  | opening
  | goToFirstFile
  | extractCurrentfile
  deriving DecidableEq, Repr

/-- What is known when `extractFirstFile` has returned: the path that is returned, and the path of
the file that was written, if one was. -/
structure Extraction where
  returned : Path
  written : Option Path
  deriving DecidableEq, Repr

/-- `FILENAME_BUFFER_SIZE`. -/
def filenameBufferSize : Nat := 256

/-- The bytes in the buffer of `goToFirstFile`, before `memory` and up to a zero. -/
def inBuffer (memory : Path) (name : EntryName) : Path :=
  let filename := name.bytes.take filenameBufferSize ++
    List.replicate (filenameBufferSize - name.bytes.length) 0
  (filename ++ memory).takeWhile fun c => c ≠ 0

/-- The text that `goToFirstFile` makes of the buffer. -/
def firstFileName (memory : Path) (name : EntryName) : Path := fromUtf8 (inBuffer memory name)

/-- `ZipFile::goToFirstFile`. -/
def goToFirstFile (io : Answers) (memory : Path) (name : EntryName) : Except ZipError Path :=
  if io.goToFirstFile then .ok (firstFileName memory name) else .error .goToFirstFile

/-- The file that `miniunz_extract_currentfile` writes in the current directory; there is none for
the name of a directory. -/
def extractCurrentfile (current : Path) (name : EntryName) : Option Path :=
  if withoutPath name.bytes = [] then none
  else some (fromNativeSeparators (slashed current) ++ withoutPath name.bytes)

/-- The current directory while the file is extracted. A failure to set it is only logged. -/
def workingDirectory (io : Answers) (zipDir current : Path) : Path :=
  if io.setCurrent then zipDir else current

/-- `ZipFile::extractFirstFile`, for an archive in `zipDir`, after it has been opened. -/
def extractFirstFile (io : Answers) (memory zipDir current : Path) (name : EntryName) :
    Except ZipError Extraction := do
  if !io.opens then throw .opening
  let firstFileName ← goToFirstFile io memory name
  if !io.extract then throw .extractCurrentfile
  return { returned := absoluteFilePath zipDir firstFileName
           written := extractCurrentfile (workingDirectory io zipDir current) name }

/-- Whenever `extractFirstFile` returns, whatever lies behind the buffer, it returns the path of the
file that was written. -/
def ReturnsWritten (io : Answers) (zipDir current : Path) (name : EntryName) : Prop :=
  ∀ memory extraction, extractFirstFile io memory zipDir current name = .ok extraction →
    extraction.written = some extraction.returned

/-- No call fails. -/
def Answers.Succeeds (io : Answers) : Prop :=
  io.opens = true ∧ io.goToFirstFile = true ∧ io.extract = true

/-- The folder that a path names in a directory, as the beginning of a path. -/
def folderIn (dir path : Path) : Path :=
  fromNativeSeparators (if isAbsolutePath path then folders path else slashed dir ++ folders path)

variable {io : Answers} {memory zipDir current : Path} {name : EntryName}

theorem extractFirstFile_eq_ok_iff {extraction : Extraction} :
    extractFirstFile io memory zipDir current name = .ok extraction ↔
      io.Succeeds ∧ extraction =
        { returned := absoluteFilePath zipDir (firstFileName memory name)
          written := extractCurrentfile (workingDirectory io zipDir current) name } := by
  obtain ⟨opens, first, chdir, extract⟩ := io
  cases opens <;> cases first <;> cases extract <;>
    simp [extractFirstFile, goToFirstFile, Answers.Succeeds, bind, Except.bind, pure,
      Except.pure, throw, throwThe, MonadExceptOf.throw, workingDirectory, eq_comm]

/-! ### The name in the buffer -/

theorem ne_zero_of_mem {c : UInt8} (h : c ∈ name.bytes) : c ≠ 0 := fun hc => name.no_zero (hc ▸ h)

/-- A name that is shorter than the buffer is read in full. -/
theorem inBuffer_of_lt (memory : Path) (h : name.bytes.length < filenameBufferSize) :
    inBuffer memory name = name.bytes := by
  obtain ⟨n, hn⟩ := Nat.exists_eq_add_one_of_ne_zero (Nat.sub_ne_zero_of_lt h)
  rw [inBuffer, List.take_of_length_le h.le, hn, List.replicate_succ, List.append_assoc,
    List.takeWhile_append_of_pos fun c hc => decide_eq_true (ne_zero_of_mem hc), List.cons_append,
    List.takeWhile_cons_of_neg (by simp), List.append_nil]

/-- A longer one is cut off, and goes on with what lies behind the buffer. -/
theorem inBuffer_of_le (memory : Path) (h : filenameBufferSize ≤ name.bytes.length) :
    inBuffer memory name =
      name.bytes.take filenameBufferSize ++ memory.takeWhile fun c => c ≠ 0 := by
  rw [inBuffer, Nat.sub_eq_zero_of_le h, List.replicate_zero, List.append_nil,
    List.takeWhile_append_of_pos]
  exact fun c hc => decide_eq_true (ne_zero_of_mem (List.mem_of_mem_take hc))

/-! ### The text of a name -/

theorem length_le_of_follow {ranges : List (UInt8 × UInt8)} {path : Path}
    (h : follow ranges path = true) : ranges.length ≤ path.length := by
  induction ranges generalizing path with
  | nil => exact Nat.zero_le _
  | cons range ranges ih =>
    cases path with
    | nil => cases h
    | cons c rest =>
      rw [follow, Bool.and_eq_true] at h
      exact Nat.succ_le_succ (ih h.2)

/-- A character has no more bytes than there are. -/
theorem charLength_le (path : Path) : charLength path ≤ path.length := by
  cases path with
  | nil => exact Nat.le_refl _
  | cons c rest =>
    rw [charLength]
    split_ifs with hascii htails
    · exact Nat.succ_le_succ (Nat.zero_le _)
    · exact Nat.succ_le_succ (length_le_of_follow (Bool.and_eq_true_iff.mp htails).2)
    · exact Nat.zero_le _

/-- The bytes that follow the first one of a character are not ASCII. -/
theorem le_of_mem_tails {c : UInt8} {range : UInt8 × UInt8} (h : range ∈ tails c) :
    0x80 ≤ range.1 := by
  revert h
  rw [tails]
  split_ifs <;> simp only [List.mem_cons, List.not_mem_nil, or_false]
  all_goals
    intro h
    rcases h with rfl | rfl | rfl <;> decide

/-- An ASCII character behind some bytes belongs to none of their characters. -/
theorem follow_append {ranges : List (UInt8 × UInt8)} (hranges : ∀ range ∈ ranges, 0x80 ≤ range.1)
    {c : UInt8} (hc : c < 0x80) (path : Path) :
    follow ranges (path ++ [c]) = follow ranges path := by
  induction ranges generalizing path with
  | nil => rfl
  | cons range ranges ih =>
    obtain ⟨hrange, hranges⟩ := List.forall_mem_cons.mp hranges
    cases path with
    | nil =>
      have hfalse : decide (range.1 ≤ c) = false :=
        decide_eq_false fun hle => UInt8.not_le.mpr hc (UInt8.le_trans hrange hle)
      rw [List.nil_append, follow, follow, hfalse, Bool.false_and, Bool.false_and]
    | cons d rest =>
      rw [List.cons_append, follow, follow, ih hranges]

theorem charLength_append {c : UInt8} (hc : c < 0x80) {path : Path} (h : path ≠ []) :
    charLength (path ++ [c]) = charLength path := by
  obtain ⟨d, rest, rfl⟩ := List.exists_cons_of_ne_nil h
  have hfollow : follow (tails d) (rest ++ [c]) = follow (tails d) rest :=
    follow_append (fun _ => le_of_mem_tails) hc rest
  simp only [List.cons_append, charLength, hfollow]

theorem decode_append {c : UInt8} (hc : c < 0x80) (path : Path) {left : Nat}
    (h : left ≤ path.length) : decode left (path ++ [c]) = decode left path ++ [c] := by
  induction path generalizing left with
  | nil =>
    obtain rfl := Nat.le_zero.mp h
    have hone : charLength [c] = 1 := if_pos hc
    simp only [List.nil_append, decode, hone]
  | cons d rest ih =>
    cases left with
    | succ left => exact congrArg (d :: ·) (ih (Nat.le_of_succ_le_succ h))
    | zero =>
      have hsame := charLength_append hc (List.cons_ne_nil d rest)
      have hle := charLength_le (d :: rest)
      rw [List.cons_append] at hsame ⊢
      rw [decode, decode, hsame]
      cases hlength : charLength (d :: rest) with
      | zero =>
        dsimp only
        rw [ih (Nat.zero_le _), List.append_assoc]
      | succ left =>
        rw [hlength] at hle
        exact congrArg (d :: ·) (ih (Nat.le_of_succ_le_succ hle))

theorem length_le_decode (left : Nat) (path : Path) :
    path.length ≤ (decode left path).length := by
  induction path generalizing left with
  | nil => exact Nat.zero_le _
  | cons c rest ih =>
    cases left with
    | succ left => exact Nat.succ_le_succ (ih left)
    | zero =>
      rw [decode]
      split
      · have := ih 0
        rw [List.length_append, List.length_cons, replacementCharacter]
        simp only [List.length_cons, List.length_nil]
        omega
      · exact Nat.succ_le_succ (ih _)

/-- An ASCII character is kept behind the other characters. -/
theorem fromUtf8_append {c : UInt8} (hc : c < 0x80) {path : Path} (h : 3 ≤ path.length) :
    fromUtf8 (path ++ [c]) = fromUtf8 path ++ [c] := by
  rw [fromUtf8, fromUtf8, List.take_append_of_le_length h, List.drop_append_of_le_length h]
  split_ifs
  · exact decode_append hc _ (Nat.zero_le _)
  · exact decode_append hc _ (Nat.zero_le _)

theorem length_le_fromUtf8 (path : Path) : path.length - 3 ≤ (fromUtf8 path).length := by
  rw [fromUtf8]
  split_ifs
  · rw [← List.length_drop]
    exact length_le_decode 0 _
  · exact (Nat.sub_le _ _).trans (length_le_decode 0 _)

/-- A text of ASCII characters is kept. -/
theorem fromUtf8_of_ascii {path : Path} (h : ∀ c ∈ path, c < 0x80) : fromUtf8 path = path := by
  have hdecode : decode 0 path = path := by
    induction path with
    | nil => rfl
    | cons c rest ih =>
      obtain ⟨hc, hrest⟩ := List.forall_mem_cons.mp h
      rw [decode, charLength, if_pos hc]
      exact congrArg (c :: ·) (ih hrest)
  rw [fromUtf8, if_neg, hdecode]
  intro hmark
  have hmem : (0xEF : UInt8) ∈ path := List.mem_of_mem_take (hmark ▸ List.mem_cons_self)
  exact absurd (h _ hmem) (by decide)

/-! ### The parts of a path -/

theorem inLastPart_of_mem {path : Path} {c : UInt8} (h : c ∈ withoutPath path) :
    inLastPart c = true := List.mem_rtakeWhile_imp h

theorem fromNativeSeparators_withoutPath (path : Path) :
    fromNativeSeparators (withoutPath path) = withoutPath path := by
  have hpart : ∀ c ∈ withoutPath path, (if c = backslash then slash else c) = c := by
    intro c hc
    have hlast := inLastPart_of_mem hc
    rw [inLastPart, Bool.and_eq_true, decide_eq_true_eq, decide_eq_true_eq] at hlast
    exact if_neg hlast.2
  exact (List.map_congr_left hpart).trans (List.map_id _)

theorem folders_append (path : Path) : folders path ++ withoutPath path = path :=
  List.rdropWhile_append_rtakeWhile

/-- The path that is returned is the last part of the name in the folder that the name names. -/
theorem absoluteFilePath_eq (dir : Path) {path : Path} (h : path ≠ []) :
    absoluteFilePath dir path = folderIn dir path ++ withoutPath path := by
  rw [absoluteFilePath, folderIn, if_neg h]
  conv_rhs => rw [← fromNativeSeparators_withoutPath]
  rw [fromNativeSeparators, fromNativeSeparators, fromNativeSeparators, ← List.map_append]
  congr 1
  split_ifs
  · exact (folders_append path).symm
  · rw [List.append_assoc, folders_append]

/-- A folder ends with a slash, or is empty. -/
def IsFolder (path : Path) : Prop := path = [] ∨ path.getLast? = some slash

theorem isFolder_folders (path : Path) :
    folders path = [] ∨ ∃ c ∈ (folders path).getLast?, inLastPart c = false := by
  refine or_iff_not_imp_left.mpr fun hne => ?_
  have hlast := List.rdropWhile_last_not inLastPart path hne
  exact ⟨_, List.getLast?_eq_getLast_of_ne_nil hne, Bool.eq_false_iff.mpr hlast⟩

theorem isFolder_fromNativeSeparators {path : Path}
    (h : path = [] ∨ ∃ c ∈ path.getLast?, inLastPart c = false) :
    IsFolder (fromNativeSeparators path) := by
  rcases h with rfl | ⟨c, hc, hlast⟩
  · exact Or.inl rfl
  · right
    rw [fromNativeSeparators, List.getLast?_map, hc]
    rw [inLastPart, Bool.and_eq_false_iff, decide_eq_false_iff_not, decide_eq_false_iff_not,
      not_not, not_not] at hlast
    rcases hlast with rfl | rfl <;> rfl

theorem getLast?_slashed (dir : Path) : (slashed dir).getLast? = some slash := by
  rw [slashed]
  split_ifs with h
  · exact h
  · exact List.getLast?_concat

theorem isFolder_slashed (dir : Path) : IsFolder (fromNativeSeparators (slashed dir)) :=
  isFolder_fromNativeSeparators (Or.inr ⟨slash, getLast?_slashed dir, rfl⟩)

theorem isFolder_folderIn (dir path : Path) : IsFolder (folderIn dir path) := by
  refine isFolder_fromNativeSeparators ?_
  split_ifs
  · exact isFolder_folders path
  · right
    rcases isFolder_folders path with hnil | ⟨c, hc, hlast⟩
    · exact ⟨slash, by rw [hnil, List.append_nil]; exact getLast?_slashed dir, rfl⟩
    · exact ⟨c, by rw [List.getLast?_append, hc]; rfl, hlast⟩

/-- The last part of a path that is put together. -/
theorem withoutPath_append {folder part : Path} (hfolder : IsFolder folder)
    (hpart : ∀ c ∈ part, inLastPart c = true) : withoutPath (folder ++ part) = part := by
  rw [withoutPath, List.rtakeWhile, List.reverse_append, List.takeWhile_append_of_pos fun c hc =>
    hpart c (List.mem_reverse.mp hc)]
  rcases hfolder with rfl | hlast
  · simp
  · obtain ⟨init, rfl⟩ : ∃ init, folder = init ++ [slash] :=
      ⟨_, (List.dropLast_append_getLast? slash hlast).symm⟩
    have hstop : (init ++ [slash]).reverse.takeWhile inLastPart = [] := by
      rw [List.reverse_append, List.reverse_singleton, List.singleton_append]
      exact List.takeWhile_cons_of_neg (by decide)
    rw [hstop, List.append_nil, List.reverse_reverse]

/-- The first two bytes tell whether a path is absolute. -/
theorem isAbsolutePath_append {path : Path} (rest : Path) (h : 2 ≤ path.length) :
    isAbsolutePath (path ++ rest) = isAbsolutePath path := by
  match path, h with
  | _ :: _ :: _, _ => rfl

theorem length_absoluteFilePath_append (dir : Path) {path : Path} (rest : Path)
    (h : 2 ≤ path.length) :
    (absoluteFilePath dir (path ++ rest)).length =
      (absoluteFilePath dir path).length + rest.length := by
  have hne : path ≠ [] := by
    rintro rfl
    simp at h
  rw [absoluteFilePath, absoluteFilePath, isAbsolutePath_append rest h, if_neg hne,
    if_neg (List.append_ne_nil_of_left_ne_nil hne rest), fromNativeSeparators,
    fromNativeSeparators, List.length_map, List.length_map]
  split_ifs
  · rw [List.length_append]
  · rw [← List.append_assoc, List.length_append]

/-! ### The path that is returned -/

/-- A name that fills the buffer is read in different ways. -/
theorem not_returnsWritten_of_le (hsucceeds : io.Succeeds)
    (h : filenameBufferSize ≤ name.bytes.length) :
    ¬ ReturnsWritten io zipDir current name := by
  intro hreturns
  have hnone := hreturns [] _ (extractFirstFile_eq_ok_iff.mpr ⟨hsucceeds, rfl⟩)
  have hsome := hreturns [1] _ (extractFirstFile_eq_ok_iff.mpr ⟨hsucceeds, rfl⟩)
  have heq := Option.some.inj (hnone.symm.trans hsome)
  dsimp only at heq
  have hone : [1].takeWhile (fun c : UInt8 => c ≠ 0) = [1] := rfl
  have hlong : (name.bytes.take filenameBufferSize).length = 256 := List.length_take_of_le h
  have htext := length_le_fromUtf8 (name.bytes.take filenameBufferSize)
  rw [firstFileName, firstFileName, inBuffer_of_le _ h, inBuffer_of_le _ h, hone,
    List.takeWhile_nil, List.append_nil, fromUtf8_append (by decide) (by omega)] at heq
  have hlength := congrArg List.length heq
  rw [length_absoluteFilePath_append _ _ (by omega), List.length_singleton] at hlength
  omega

/-- The text of a name that is shorter than the buffer. -/
theorem firstFileName_of_lt (memory : Path) (h : name.bytes.length < filenameBufferSize) :
    firstFileName memory name = fromUtf8 name.bytes := by
  rw [firstFileName, inBuffer_of_lt memory h]

/-- The path that the text of a name has in a directory is that of its last part in the current
directory: the text has the same last part, and the folder that it names is the current one. The
text of a name that is only a byte order mark is empty, and its path is that of the directory. -/
def Meets (zipDir current : Path) (name : EntryName) : Prop :=
  if fromUtf8 name.bytes = [] then
    fromNativeSeparators zipDir =
      fromNativeSeparators (slashed current) ++ withoutPath name.bytes
  else
    withoutPath (fromUtf8 name.bytes) = withoutPath name.bytes ∧
      folderIn zipDir (fromUtf8 name.bytes) = fromNativeSeparators (slashed current)

theorem meets_iff :
    Meets zipDir current name ↔ absoluteFilePath zipDir (fromUtf8 name.bytes) =
      fromNativeSeparators (slashed current) ++ withoutPath name.bytes := by
  rw [Meets]
  split_ifs with hnil
  · rw [hnil]
    exact Iff.rfl
  · rw [absoluteFilePath_eq zipDir hnil]
    refine ⟨fun ⟨hkept, hfolder⟩ => by rw [hkept, hfolder], fun heq => ?_⟩
    have hlast := congrArg withoutPath heq
    rw [withoutPath_append (isFolder_slashed _) fun _ => inLastPart_of_mem,
      withoutPath_append (isFolder_folderIn _ _) fun _ => inLastPart_of_mem] at hlast
    rw [hlast] at heq
    exact ⟨hlast, List.append_cancel_right heq⟩

/-- **The condition under which the path that is returned is that of the file**: if no call fails,
the name is shorter than the buffer and has a last part, this is kept when the name becomes a text,
and the folder that the text names is the current directory while the file is extracted. -/
theorem returnsWritten_iff (io : Answers) (zipDir current : Path) (name : EntryName) :
    ReturnsWritten io zipDir current name ↔
      (io.Succeeds → name.bytes.length < filenameBufferSize ∧ withoutPath name.bytes ≠ [] ∧
        Meets zipDir (workingDirectory io zipDir current) name) := by
  constructor
  · intro hreturns hsucceeds
    have hlt : name.bytes.length < filenameBufferSize :=
      Nat.not_le.mp fun h => not_returnsWritten_of_le hsucceeds h hreturns
    have hwritten := hreturns [] _ (extractFirstFile_eq_ok_iff.mpr ⟨hsucceeds, rfl⟩)
    rw [firstFileName_of_lt [] hlt, extractCurrentfile] at hwritten
    split_ifs at hwritten with hpart
    exact ⟨hlt, hpart, meets_iff.mpr (Option.some.inj hwritten).symm⟩
  · intro h memory extraction hok
    obtain ⟨hsucceeds, rfl⟩ := extractFirstFile_eq_ok_iff.mp hok
    obtain ⟨hlt, hpart, hmeets⟩ := h hsucceeds
    rw [firstFileName_of_lt memory hlt, meets_iff.mp hmeets, extractCurrentfile, if_neg hpart]

/-- A name of ASCII characters without folders and without a drive meets its path in the directory
of the archive. -/
theorem meets_of_flat (hne : name.bytes ≠ []) (hascii : ∀ c ∈ name.bytes, c < 0x80)
    (hflat : folders name.bytes = []) (hrelative : isAbsolutePath name.bytes = false) :
    Meets zipDir zipDir name := by
  rw [Meets, fromUtf8_of_ascii hascii, if_neg hne, folderIn, hrelative, hflat, List.append_nil]
  exact ⟨rfl, rfl⟩

/-- The bytes of an ASCII text. -/
def ascii (text : String) : Path := text.toList.map fun c => UInt8.ofNat c.toNat

/-- The name of a disk image in a folder. -/
def nestedName : EntryName := ⟨ascii "images/disk.bin", by decide⟩

/-- The path of `images/disk.bin` is returned, but the file is `disk.bin`. -/
theorem not_returnsWritten_nested :
    ¬ ReturnsWritten {} (ascii "C:/Users") (ascii "C:/") nestedName := by
  intro h
  have hwritten := h [] _ (extractFirstFile_eq_ok_iff.mpr ⟨⟨rfl, rfl, rfl⟩, rfl⟩)
  revert hwritten
  decide

end UsbMaker.ZipFile
