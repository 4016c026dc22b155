import UsbMaker.Devices.Autorun

/-!
# The form of a line with data

The comment of `get_token_data_line` says which lines have data: those of the form
`[ ][<][ ]token[ ][=|>][ ]["]data["][ ][<]`. This file says the form in terms of the parts of a line
and shows that the parser returns data for exactly these lines (`getTokenDataLine_iff`): the data
without the end of the line. For other lines it returns a null pointer, and it leaves the line for
none.

## Main definitions

* `Autorun.Token`, `Autorun.Line`, `Autorun.Parts`, `Autorun.Parts.HasForm`.

## Main results

* `Autorun.getTokenDataLine_text`: a line of the form has data.
* `Autorun.getTokenDataLine_cases`: a line that has data is of the form.
* `Autorun.getTokenDataLine_iff`.
-/

namespace UsbMaker.Autorun

/-- A token that does not begin with a blank or an opening angle bracket. -/
structure Token where
  text : List UInt16
  no_zero : 0 ∉ text
  ne_nil : text ≠ []
  head : ∀ c ∈ text.head?, isBlank c = false ∧ c ≠ wide '<'

/-- A line, up to the zero that ends it. -/
structure Line where
  text : List UInt16
  no_zero : 0 ∉ text

/-- The parts of a line. -/
structure Parts where
  /-- The blanks at four places. -/
  blanks : List UInt16 × List UInt16 × List UInt16 × List UInt16
  /-- Whether there is an opening angle bracket. -/
  tag : Bool
  name : List UInt16
  xml : Bool
  /-- Whether there is an opening quote. -/
  quoteth : Bool
  data : List UInt16
  /-- The end of the data and what follows. -/
  rest : List UInt16

/-- The text from the data on. -/
def Parts.dataText (parts : Parts) : List UInt16 := parts.data ++ parts.rest

/-- The text behind the separator and the blanks. -/
def Parts.quotedText (parts : Parts) : List UInt16 :=
  (if parts.quoteth then [wide '"'] else []) ++ parts.dataText

/-- The text from the token on. -/
def Parts.tokenText (parts : Parts) : List UInt16 :=
  parts.name ++ (parts.blanks.2.2.1 ++
    wide (if parts.xml then '>' else '=') :: (parts.blanks.2.2.2 ++ parts.quotedText))

/-- The line: `[ ][<][ ]token[ ][=|>][ ]["]data["][<]`. -/
def Parts.text (parts : Parts) : List UInt16 :=
  parts.blanks.1 ++ ((if parts.tag then [wide '<'] else []) ++
    (parts.blanks.2.1 ++ parts.tokenText))

/-- The parts are of the kinds that the form names, and the data has a character that does not
belong to the end of the line. A quote before the data is the opening one, and blanks before it are
not part of it. -/
structure Parts.HasForm (parts : Parts) (token : Token) : Prop where
  blank₁ : ∀ c ∈ parts.blanks.1, isBlank c = true
  blank₂ : ∀ c ∈ parts.blanks.2.1, isBlank c = true
  blank₃ : ∀ c ∈ parts.blanks.2.2.1, isBlank c = true
  blank₄ : ∀ c ∈ parts.blanks.2.2.2, isBlank c = true
  name : parts.name.map towlower = token.text.map towlower
  data : ∀ c ∈ parts.data, endsData parts.xml parts.quoteth c = false
  rest : ∀ c ∈ parts.rest.head?, endsData parts.xml parts.quoteth c = true
  head : parts.quoteth = false → ∀ c ∈ parts.data.head?, isBlank c = false ∧ c ≠ wide '"'
  nonempty : ∃ c ∈ parts.data, isEol c = false

/-! ### A line of the form -/

/-- The characters below the letters have no other case. -/
theorem towlower_eq_iff {b c : UInt16} (hb : b.toNat < 65) : towlower c = b ↔ c = b := by
  have hA : wide 'A' = 65 := rfl
  have hZ : wide 'Z' = 90 := rfl
  rw [towlower, hA, hZ]
  split_ifs with hupper
  · rw [UInt16.le_iff_toNat_le, UInt16.le_iff_toNat_le] at hupper
    constructor
    · intro h
      have hsum := congrArg UInt16.toNat h
      rw [UInt16.toNat_add] at hsum
      simp only [UInt16.reduceToNat] at hsum hupper
      omega
    · rintro rfl
      simp only [UInt16.reduceToNat] at hupper
      omega
  · rfl

/-- Whether a character is a blank or an opening angle bracket does not depend on its case. -/
theorem eq_of_towlower_eq {b c t : UInt16} (hb : b.toNat < 65) (h : towlower c = towlower t)
    (hc : c = b) : t = b := by
  rw [(towlower_eq_iff hb).mpr hc] at h
  exact (towlower_eq_iff hb).mp h.symm

theorem dropWhile_blanks {blanks text : List UInt16} (h : ∀ c ∈ blanks, isBlank c = true)
    (htext : ∀ c ∈ text.head?, isBlank c = false) : (blanks ++ text).dropWhile isBlank = text := by
  rw [List.dropWhile_append_of_pos h]
  cases text with
  | nil => rfl
  | cons c text => exact List.dropWhile_cons_of_neg (by simp [htext c rfl])

theorem Parts.zero_notMem_dataText {parts : Parts} (h : 0 ∉ parts.text) : 0 ∉ parts.dataText := by
  intro hmem
  refine h ?_
  rw [Parts.text, Parts.tokenText, Parts.quotedText]
  simp only [List.mem_append, List.mem_cons, hmem, or_true]

section Form

variable {parts : Parts} {token : Token} (h : parts.HasForm token)

include h

theorem Parts.HasForm.length_name : parts.name.length = token.text.length := by
  have hlength := congrArg List.length h.name
  rwa [List.length_map, List.length_map] at hlength

/-- The token in the line begins neither with a blank nor with an angle bracket. -/
theorem Parts.HasForm.head_tokenText :
    ∀ c ∈ parts.tokenText.head?, isBlank c = false ∧ c ≠ wide '<' := by
  intro c hc
  have hname := h.name
  obtain ⟨t, text, htoken⟩ := List.exists_cons_of_ne_nil token.ne_nil
  obtain ⟨d, name, hparts⟩ : ∃ d name, parts.name = d :: name := by
    refine List.exists_cons_of_ne_nil fun hnil => ?_
    rw [hnil, htoken] at hname
    cases hname
  obtain ⟨hblank, htag⟩ := token.head t (by rw [htoken]; rfl)
  rw [Parts.tokenText, hparts] at hc
  obtain rfl : d = c := Option.some.inj hc
  rw [hparts, htoken] at hname
  have hd : towlower d = towlower t := (List.cons.inj hname).1
  rw [isBlank, Bool.or_eq_false_iff, beq_eq_false_iff_ne, beq_eq_false_iff_ne] at hblank ⊢
  exact ⟨⟨fun heq => hblank.1 (eq_of_towlower_eq (by decide) hd heq),
    fun heq => hblank.2 (eq_of_towlower_eq (by decide) hd heq)⟩,
    fun heq => htag (eq_of_towlower_eq (by decide) hd heq)⟩

/-- The parser comes to the token. -/
theorem Parts.HasForm.fromToken_text : fromToken parts.text = parts.tokenText := by
  have hhead := h.head_tokenText
  have hsame : afterTag parts.tokenText = parts.tokenText := by
    cases htext : parts.tokenText with
    | nil => rfl
    | cons c text => exact if_neg (hhead c (by rw [htext]; rfl)).2
  rw [fromToken, Parts.text]
  cases htag : parts.tag with
  | false =>
    rw [if_neg Bool.false_ne_true, List.nil_append, ← List.append_assoc]
    have hblanks : ∀ c ∈ parts.blanks.1 ++ parts.blanks.2.1, isBlank c = true :=
      List.forall_mem_append.mpr ⟨h.blank₁, h.blank₂⟩
    rw [dropWhile_blanks hblanks fun c hc => (hhead c hc).1, hsame]
    exact dropWhile_blanks (List.forall_mem_nil _) fun c hc => (hhead c hc).1
  | true =>
    rw [if_pos rfl, dropWhile_blanks h.blank₁ (by rintro c ⟨⟩; rfl)]
    exact dropWhile_blanks h.blank₂ fun c hc => (hhead c hc).1

theorem Parts.HasForm.beginsWith : BeginsWith token.text parts.tokenText := by
  rw [BeginsWith, Parts.tokenText, ← h.length_name, List.take_left, h.name]

theorem Parts.HasForm.drop_tokenText : parts.tokenText.drop token.text.length =
    parts.blanks.2.2.1 ++
      wide (if parts.xml then '>' else '=') :: (parts.blanks.2.2.2 ++ parts.quotedText) := by
  rw [Parts.tokenText, ← h.length_name, List.drop_left]

theorem Parts.HasForm.data_ne_nil : parts.data ≠ [] := by
  obtain ⟨c, hc, -⟩ := h.nonempty
  exact List.ne_nil_of_mem hc

/-- The parser comes to the quote or to the data. -/
theorem Parts.HasForm.dropWhile_quotedText :
    (parts.blanks.2.2.2 ++ parts.quotedText).dropWhile isBlank = parts.quotedText ∧
      (parts.quotedText.headD 0 == wide '"') = parts.quoteth ∧
      afterQuote parts.quotedText = parts.dataText := by
  obtain ⟨d, data, hdata⟩ := List.exists_cons_of_ne_nil h.data_ne_nil
  rw [Parts.quotedText, Parts.dataText]
  cases hquote : parts.quoteth with
  | true =>
    rw [if_pos rfl]
    exact ⟨dropWhile_blanks h.blank₄ (by rintro c ⟨⟩; rfl), rfl, rfl⟩
  | false =>
    obtain ⟨hblank, hd⟩ := h.head hquote d (by rw [hdata]; rfl)
    rw [if_neg Bool.false_ne_true, List.nil_append, hdata]
    refine ⟨dropWhile_blanks h.blank₄ (by rintro c ⟨⟩; exact hblank), ?_, if_neg hd⟩
    exact beq_eq_false_iff_ne.mpr hd

theorem Parts.HasForm.dataOf_dataText :
    dataOf parts.xml parts.quoteth parts.dataText = parts.data := by
  have hdata : ∀ c ∈ parts.data, (!endsData parts.xml parts.quoteth c) = true :=
    fun c hc => by rw [h.data c hc]; rfl
  rw [dataOf, Parts.dataText, List.takeWhile_append_of_pos hdata]
  cases hrest : parts.rest with
  | nil => exact List.append_nil _
  | cons c rest =>
    rw [List.takeWhile_cons_of_neg (by simp [h.rest c (by rw [hrest]; rfl)]), List.append_nil]

theorem Parts.HasForm.stripEol_ne_nil : stripEol parts.data ≠ [] := by
  obtain ⟨c, hc, heol⟩ := h.nonempty
  intro hnil
  rw [stripEol, List.rdropWhile_eq_nil_iff] at hnil
  rw [hnil c hc] at heol
  cases heol

/-- **A line of the form has data.** -/
theorem getTokenDataLine_text (hzero : 0 ∉ parts.text) :
    getTokenDataLine token.text parts.text = .ok (stripEol parts.data) := by
  obtain ⟨i, hskip, htext⟩ := (skipToken_eq token.ne_nil token.no_zero hzero).1
    (h.fromToken_text ▸ h.beginsWith)
  rw [h.fromToken_text, h.drop_tokenText] at htext
  obtain ⟨hquoted, hquote, hafter⟩ := h.dropWhile_quotedText
  have hsep : isBlank (wide (if parts.xml then '>' else '=')) = false := by
    cases parts.xml <;> rfl
  obtain ⟨r, hstart, hr, hdata⟩ := (skipSeparator_eq htext).1 _ _
    (dropWhile_blanks h.blank₃ (by rintro c ⟨⟩; exact hsep)) (by cases parts.xml <;> decide)
  have hxml : (wide (if parts.xml then '>' else '=') == wide '>') = parts.xml := by
    cases parts.xml <;> rfl
  rw [hquoted, hquote, hxml] at hstart
  rw [hquoted, hafter] at hdata
  have hnonzero := Parts.zero_notMem_dataText hzero
  rw [getTokenDataLine, hskip, ok_bind, hstart, ok_bind, readData_eq hr hdata hnonzero]
  dsimp only
  rw [h.dataOf_dataText, if_neg h.stripEol_ne_nil]

end Form

/-! ### A line that has data -/

theorem takeWhile_blank (text : List UInt16) : ∀ c ∈ text.takeWhile isBlank, isBlank c = true :=
  fun _ hc => List.mem_takeWhile_imp hc

theorem head_dropWhile {p : UInt16 → Bool} {text : List UInt16} :
    ∀ c ∈ (text.dropWhile p).head?, p c = false := by
  intro c hc
  have hnot := List.head?_dropWhile_not p text
  rw [hc] at hnot
  exact hnot

theorem tag_append (text : List UInt16) :
    (if text.headD 0 == wide '<' then [wide '<'] else []) ++ afterTag text = text := by
  cases text with
  | nil => rfl
  | cons c text =>
    rw [List.headD_cons, afterTag]
    by_cases hc : c = wide '<'
    · rw [if_pos hc, if_pos (beq_iff_eq.mpr hc), hc]
      rfl
    · rw [if_neg hc, if_neg (by rwa [beq_iff_eq])]
      rfl

theorem quote_append (text : List UInt16) :
    (if text.headD 0 == wide '"' then [wide '"'] else []) ++ afterQuote text = text := by
  cases text with
  | nil => rfl
  | cons c text =>
    rw [List.headD_cons, afterQuote]
    by_cases hc : c = wide '"'
    · rw [if_pos hc, if_pos (beq_iff_eq.mpr hc), hc]
      rfl
    · rw [if_neg hc, if_neg (by rwa [beq_iff_eq])]
      rfl

/-- The text behind the quote is the text itself if there is no quote. -/
theorem afterQuote_of_headD {text : List UInt16} (h : (text.headD 0 == wide '"') = false) :
    afterQuote text = text := by
  have happend := quote_append text
  rwa [h, if_neg Bool.false_ne_true, List.nil_append] at happend

/-- The parts of a line with a separator, when the text behind the separator is `rest`. -/
def partsOf (token : Token) (line rest : List UInt16) (xml : Bool) : Parts :=
  let text := rest.dropWhile isBlank
  let quoteth := text.headD 0 == wide '"'
  { blanks := (line.takeWhile isBlank, (afterTag (line.dropWhile isBlank)).takeWhile isBlank,
      ((fromToken line).drop token.text.length).takeWhile isBlank, rest.takeWhile isBlank)
    tag := (line.dropWhile isBlank).headD 0 == wide '<'
    name := (fromToken line).take token.text.length
    xml := xml
    quoteth := quoteth
    data := dataOf xml quoteth (afterQuote text)
    rest := (afterQuote text).dropWhile fun c => !endsData xml quoteth c }

section PartsOf

variable {token : Token} {line rest : List UInt16} {xml : Bool}

theorem partsOf_dataText (token : Token) (line rest : List UInt16) (xml : Bool) :
    (partsOf token line rest xml).dataText = afterQuote (rest.dropWhile isBlank) :=
  List.takeWhile_append_dropWhile

theorem partsOf_text (h : ((fromToken line).drop token.text.length).dropWhile isBlank =
    wide (if xml then '>' else '=') :: rest) : (partsOf token line rest xml).text = line := by
  have hquoted : (partsOf token line rest xml).quotedText = rest.dropWhile isBlank := by
    rw [Parts.quotedText, partsOf_dataText]
    exact quote_append _
  have htoken : (partsOf token line rest xml).tokenText = fromToken line := by
    rw [Parts.tokenText, hquoted]
    change (fromToken line).take token.text.length ++
      (((fromToken line).drop token.text.length).takeWhile isBlank ++
        wide (if xml then '>' else '=') :: (rest.takeWhile isBlank ++ rest.dropWhile isBlank)) = _
    rw [List.takeWhile_append_dropWhile, ← h, List.takeWhile_append_dropWhile,
      List.take_append_drop]
  have htag : (if (partsOf token line rest xml).tag then [wide '<'] else []) ++
      ((afterTag (line.dropWhile isBlank)).takeWhile isBlank ++ fromToken line) =
        line.dropWhile isBlank := by
    rw [fromToken, List.takeWhile_append_dropWhile]
    exact tag_append _
  rw [Parts.text, htoken]
  exact (congrArg (line.takeWhile isBlank ++ ·) htag).trans List.takeWhile_append_dropWhile

theorem partsOf_hasForm (hbegins : BeginsWith token.text (fromToken line))
    (hdata : stripEol (partsOf token line rest xml).data ≠ []) :
    (partsOf token line rest xml).HasForm token where
  blank₁ := takeWhile_blank _
  blank₂ := takeWhile_blank _
  blank₃ := takeWhile_blank _
  blank₄ := takeWhile_blank _
  name := hbegins
  data c hc := by
    have hnot := List.mem_takeWhile_imp hc
    rwa [Bool.not_eq_true'] at hnot
  rest c hc := by
    have hends := head_dropWhile c hc
    rwa [Bool.not_eq_false'] at hends
  head hquote c hc := by
    have hhead : (rest.dropWhile isBlank).head? = some c := by
      rw [← afterQuote_of_headD hquote]
      have hfilter : (dataOf xml _ (afterQuote (rest.dropWhile isBlank))).head? = some c := hc
      rw [dataOf, List.head?_takeWhile, Option.filter_eq_some_iff] at hfilter
      exact hfilter.1
    refine ⟨head_dropWhile c hhead, ?_⟩
    have hne : ((rest.dropWhile isBlank).headD 0 == wide '"') = false := hquote
    rwa [List.headD_eq_head?_getD, hhead, Option.getD_some, beq_eq_false_iff_ne] at hne
  nonempty := by
    rw [stripEol, ne_eq, List.rdropWhile_eq_nil_iff] at hdata
    push Not at hdata
    obtain ⟨c, hc, heol⟩ := hdata
    exact ⟨c, hc, Bool.eq_false_iff.mpr heol⟩

end PartsOf

/-- **A line that has data is of the form**, and the parser leaves the array for no line. -/
theorem getTokenDataLine_cases (token : Token) (line : Line) :
    getTokenDataLine token.text line.text = .error .null ∨
      ∃ parts : Parts, parts.HasForm token ∧ parts.text = line.text ∧
        getTokenDataLine token.text line.text = .ok (stripEol parts.data) := by
  obtain ⟨hfound, hmissing⟩ := skipToken_eq token.ne_nil token.no_zero line.no_zero
  by_cases hbegins : BeginsWith token.text (fromToken line.text)
  · obtain ⟨i, hskip, htext⟩ := hfound hbegins
    obtain ⟨hsep, hnosep⟩ := skipSeparator_eq htext
    by_cases hc : ∃ (xml : Bool) (rest : List UInt16),
        ((fromToken line.text).drop token.text.length).dropWhile isBlank =
          wide (if xml then '>' else '=') :: rest
    · obtain ⟨xml, rest, hrest⟩ := hc
      obtain ⟨r, hstart, hr, hdata⟩ := hsep _ _ hrest (by cases xml <;> decide)
      have hxml : (wide (if xml then '>' else '=') == wide '>') = xml := by cases xml <;> rfl
      rw [hxml] at hstart
      have hzero : 0 ∉ afterQuote (rest.dropWhile isBlank) := by
        rw [← partsOf_dataText token line.text rest xml]
        refine Parts.zero_notMem_dataText ?_
        rw [partsOf_text hrest]
        exact line.no_zero
      have hread : getTokenDataLine token.text line.text =
          if stripEol (partsOf token line.text rest xml).data = [] then .error .null
          else .ok (stripEol (partsOf token line.text rest xml).data) := by
        rw [getTokenDataLine, hskip, ok_bind, hstart, ok_bind, readData_eq hr hdata hzero]
        rfl
      rw [hread]
      by_cases hnil : stripEol (partsOf token line.text rest xml).data = []
      · exact Or.inl (if_pos hnil)
      · exact Or.inr ⟨_, partsOf_hasForm hbegins hnil, partsOf_text hrest, if_neg hnil⟩
    · left
      rw [getTokenDataLine, hskip, ok_bind, hnosep]
      · rfl
      · intro c rest hrest
        refine ⟨?_, ?_⟩
        · rintro rfl
          exact hc ⟨true, rest, hrest⟩
        · rintro rfl
          exact hc ⟨false, rest, hrest⟩
  · left
    rw [getTokenDataLine, hmissing hbegins, error_bind]

/-- **The lines that have data.** For all tokens and lines, `get_token_data_line` returns data if
and only if the line is of the form, and then the data without the end of the line; in all other
cases it returns a null pointer. It never leaves the line. -/
theorem getTokenDataLine_iff (token : Token) (line : Line) :
    (∀ data, getTokenDataLine token.text line.text = .ok data ↔
      ∃ parts : Parts, parts.HasForm token ∧ parts.text = line.text ∧
        data = stripEol parts.data) ∧
      ((¬ ∃ parts : Parts, parts.HasForm token ∧ parts.text = line.text) →
        getTokenDataLine token.text line.text = .error .null) ∧
      getTokenDataLine token.text line.text ≠ .error .outside := by
  rcases getTokenDataLine_cases token line with hnull | ⟨parts, hform, htext, hok⟩
  · refine ⟨fun data => ⟨fun hdata => ?_, ?_⟩, fun _ => hnull, ?_⟩
    · rw [hnull] at hdata
      cases hdata
    · rintro ⟨parts, hform, htext, rfl⟩
      rw [← htext]
      exact getTokenDataLine_text hform (htext ▸ line.no_zero)
    · rw [hnull]
      decide
  · refine ⟨fun data => ⟨fun hdata => ?_, ?_⟩, fun hnone => ?_, ?_⟩
    · rw [hok] at hdata
      exact ⟨parts, hform, htext, (Except.ok.inj hdata).symm⟩
    · rintro ⟨parts', hform', htext', rfl⟩
      rw [← htext']
      exact getTokenDataLine_text hform' (htext' ▸ line.no_zero)
    · exact absurd ⟨parts, hform, htext⟩ hnone
    · rw [hok]
      exact fun h => by cases h

/-- The token `label`. -/
def label : Token where
  text := ['l', 'a', 'b', 'e', 'l'].map wide
  no_zero := by decide
  ne_nil := by decide
  head := by
    rintro c ⟨⟩
    decide

/-- The line `LABEL ="A B"`. -/
def labelLine : Line where
  text := ['L', 'A', 'B', 'E', 'L', ' ', '=', '"', 'A', ' ', 'B', '"'].map wide
  no_zero := by decide

theorem getTokenDataLine_label :
    getTokenDataLine label.text labelLine.text = .ok (['A', ' ', 'B'].map wide) := by
  let parts : Parts :=
    { blanks := ([], [], [wide ' '], [])
      tag := false
      name := ['L', 'A', 'B', 'E', 'L'].map wide
      xml := false
      quoteth := true
      data := ['A', ' ', 'B'].map wide
      rest := [wide '"'] }
  have hform : parts.HasForm label := by
    refine ⟨List.forall_mem_nil _, List.forall_mem_nil _, List.forall_mem_singleton.mpr rfl,
      List.forall_mem_nil _, by decide, ?_, ?_, fun hquote => Bool.noConfusion hquote,
      ⟨wide 'A', List.mem_cons_self, rfl⟩⟩
    · exact List.forall_mem_cons.mpr ⟨rfl, List.forall_mem_cons.mpr
        ⟨rfl, List.forall_mem_singleton.mpr rfl⟩⟩
    · rintro c ⟨⟩
      rfl
  exact ((getTokenDataLine_iff label labelLine).1 _).mpr ⟨parts, hform, by decide, by decide⟩

end UsbMaker.Autorun
