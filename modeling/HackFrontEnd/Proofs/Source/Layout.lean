import HackFrontEnd.Cursor.Basic
import HackFrontEnd.Proofs.Instruction.Grammar
import Mathlib.Data.List.Basic

/-!
# Written programs

A program is written with one statement a line, and much about a line is left to the writer. `Row`
is a line with all that freedom: the gaps around and between words, the sign and the leading zeros
of a number, blank lines and comments.

* `words_spaced`, `isTrimmed_spaced`: gaps do not matter to words, and trimming finds the words;
* `Written.says_words`: the words of a written statement say just that;
* `Row.describe_instructionOn?`: what is read from one line;
* `describe_text`: so reading undoes writing, for whole programs.
-/

namespace HackFrontEnd.Layout

open Text

/-! ## Gaps between words -/

/-- Blanks on a line, possibly none. -/
structure Gap where
  chars : List Char
  isBlank : ∀ c ∈ chars, Text.isBlank c = true
  newline_not_mem : '\n' ∉ chars

/-- Blanks that keep two words apart. -/
structure Break extends Gap where
  ne_nil : chars ≠ []

/-- Words on a line, with gaps between them. -/
def spaced : Word → List (Break × Word) → List Char
  | w, [] => w.chars
  | w, (gap, v) :: rest => w.chars ++ (gap.chars ++ spaced v rest)

/-- Gaps do not matter to words. -/
theorem words_spaced (w : Word) (rest : List (Break × Word)) :
    words (spaced w rest) = w.chars :: rest.map fun (_, v) => v.chars := by
  induction rest generalizing w with
  | nil => exact w.words_chars
  | cons next rest ih =>
    obtain ⟨gap, v⟩ := next
    rw [spaced, words_append_gap gap.ne_nil gap.isBlank, w.words_chars, ih v]
    rfl

lemma head?_spaced (w : Word) (rest : List (Break × Word)) :
    (spaced w rest).head? = w.chars.head? := by
  cases rest with
  | nil => rfl
  | cons next rest => rw [spaced, List.head?_append_of_ne_nil w.chars w.ne_nil]

lemma spaced_ne_nil (w : Word) (rest : List (Break × Word)) : spaced w rest ≠ [] := by
  intro h
  have hhead := head?_spaced w rest
  rw [h, List.head?_nil] at hhead
  exact w.ne_nil (List.head?_eq_none_iff.mp hhead.symm)

/-- Words have nothing around them that trimming would take away. -/
theorem isTrimmed_spaced (w : Word) (rest : List (Break × Word)) : IsTrimmed (spaced w rest) where
  head := by
    intro c hc
    rw [head?_spaced] at hc
    exact w.not_isBlank c (List.mem_of_mem_head? hc)
  last := by
    induction rest generalizing w with
    | nil => exact fun c hc => w.not_isBlank c (List.mem_of_mem_getLast? hc)
    | cons next rest ih =>
      obtain ⟨gap, v⟩ := next
      intro c hc
      -- the last character is that of the words further on
      rw [spaced, ← List.append_assoc,
        List.getLast?_append_of_ne_nil _ (spaced_ne_nil v rest)] at hc
      exact ih v c hc

/-- A line feed is blank, so there is none in a word. -/
lemma newline_not_mem_word (w : Word) : '\n' ∉ w.chars := by
  intro h
  have hblank := w.not_isBlank '\n' h
  rw [isBlank_newline] at hblank
  contradiction

/-- Neither words nor the gaps between them end the line. -/
lemma newline_not_mem_spaced (w : Word) (rest : List (Break × Word)) :
    '\n' ∉ spaced w rest := by
  induction rest generalizing w with
  | nil => exact newline_not_mem_word w
  | cons next rest ih =>
    obtain ⟨gap, v⟩ := next
    intro h
    rw [spaced, List.mem_append, List.mem_append] at h
    rcases h with h | h | h
    · exact newline_not_mem_word w h
    · exact gap.newline_not_mem h
    · exact ih v h

/-- Words are no comment if the first of them does not begin like one. -/
lemma isInstruction_spaced {w : Word} (hhead : w.chars.head? ≠ some '/')
    (rest : List (Break × Word)) :
    Source.isInstruction Source.defaultMarker (spaced w rest) = true := by
  obtain ⟨c, cs, hcs⟩ := List.exists_cons_of_ne_nil (spaced_ne_nil w rest)
  have hc : '/' ≠ c := by
    rintro rfl
    apply hhead
    rw [← head?_spaced w rest, hcs]
    rfl
  rw [hcs]
  simp [Source.isInstruction, Source.defaultMarker, List.isPrefixOf, hc]

/-- A text of one line of words is one instruction, as it stands. -/
theorem instructions_spaced {w : Word} (hhead : w.chars.head? ≠ some '/')
    (rest : List (Break × Word)) (filename : String) :
    Source.instructions Source.defaultMarker filename (String.ofList (spaced w rest)) =
      [⟨String.ofList (spaced w rest), 1, filename⟩] := by
  have hnewline : ∀ c ∈ spaced w rest, (c == '\n') = false := by
    intro c hc
    apply beq_eq_false_iff_ne.mpr
    rintro rfl
    exact newline_not_mem_spaced w rest hc
  have htrim : trim (spaced w rest) = spaced w rest := by
    have h := trim_surrounded (a := []) (b := []) (by simp) (by simp) (isTrimmed_spaced w rest)
    rwa [List.nil_append, List.append_nil] at h
  have hentry : Source.instructionOn? Source.defaultMarker (spaced w rest, 1) =
      some (1, String.ofList (spaced w rest)) := by
    rw [Source.instructionOn?, htrim, if_pos (isInstruction_spaced hhead rest)]
  rw [Source.instructions, Source.clean, String.toList_ofList, lines,
    List.splitOnP_eq_singleton hnewline, Source.cleanFrom, List.zipIdx_singleton,
    List.filterMap_cons_some hentry]
  rfl

/-! ## Written statements -/

/-- A way to write a statement. -/
inductive Written : Statement → Type
  | arithmetic (operator : Operator) : Written (.arithmetic operator)
  | ret : Written .ret
  | label (keyword : LabelKeyword) (gap : Break) (name : Word) : Written (.label keyword name)
  | number (keyword : NumberKeyword) (gap : Break) (name : Word) (gap' : Break) {n : Nat}
      (numeral : Decimal.Numeral n) : Written (.number keyword name n)

/-- The statement as it is written. -/
def Written.chars {s : Statement} : Written s → List Char
  | arithmetic operator => operator.text.toList
  | ret => "return".toList
  | label keyword gap name => keyword.text.toList ++ (gap.chars ++ name.chars)
  | number keyword gap name gap' numeral =>
    keyword.text.toList ++ (gap.chars ++ (name.chars ++ (gap'.chars ++ numeral.chars)))

/-- A keyword is a word, and none begins like a comment. -/
lemma exists_word_of_keyword {w : String} {k : Kind} (h : Kind.ofKeyword? w = some k) :
    ∃ word : Word, word.chars = w.toList ∧ word.text = w ∧ word.chars.head? ≠ some '/' := by
  -- `any` and not a quantifier over characters, which would be decided by trying all of them
  have hall : ∀ p ∈ keywords, p.1.toList ≠ [] ∧ p.1.toList.any isBlank = false ∧
      p.1.toList.head? ≠ some '/' := by decide +kernel
  obtain ⟨hne, hblank, hhead⟩ := hall (w, k) (Kind.ofKeyword?_eq_some_iff.mp h)
  rw [List.any_eq_false] at hblank
  have hword : ∀ c ∈ w.toList, isBlank c = false := by
    intro c hc
    exact Bool.eq_false_iff.mpr (hblank c hc)
  exact ⟨⟨w.toList, hne, hword⟩, rfl, String.ofList_toList, hhead⟩

lemma isBlank_of_isDigit {c : Char} (h : c.isDigit = true) : isBlank c = false := by
  have hrange := Decimal.toNat_of_isDigit h
  simp [isBlank]
  omega

/-- A numeral is a word. -/
def numeralWord {n : Nat} (numeral : Decimal.Numeral n) : Word where
  chars := numeral.chars
  ne_nil := by
    intro h
    have hsigned := numeral.isNumeral_chars.signed
    rw [h] at hsigned
    rcases hsigned with hnil | hcons
    · exact numeral.isNumeral_chars.ne_nil hnil.symm
    · contradiction
  not_isBlank := by
    intro c hc
    rcases numeral.isNumeral_chars.signed with heq | heq
    · exact isBlank_of_isDigit (numeral.isDigit_digits c (heq ▸ hc))
    · rw [heq, List.mem_cons] at hc
      rcases hc with rfl | hc
      · decide
      · exact isBlank_of_isDigit (numeral.isDigit_digits c hc)

namespace Written

variable {s : Statement}

/-- A written statement is words with gaps between them, which say it. -/
lemma exists_spaced (w : Written s) :
    ∃ first rest, w.chars = spaced first rest ∧ first.chars.head? ≠ some '/' ∧
      Says (first.text :: rest.map fun (_, v) => v.text) s := by
  -- keywords, names and numerals become the words, each with the gap that was before it
  cases w with
  | arithmetic operator =>
    obtain ⟨first, hchars, htext, hhead⟩ := exists_word_of_keyword operator.ofKeyword?_text
    refine ⟨first, [], hchars.symm, hhead, ?_⟩
    rw [htext]
    exact .arithmetic operator []
  | ret =>
    have hkeyword : Kind.ofKeyword? "return" = some .ret := by decide +kernel
    obtain ⟨first, hchars, htext, hhead⟩ := exists_word_of_keyword hkeyword
    refine ⟨first, [], hchars.symm, hhead, ?_⟩
    rw [htext]
    exact .ret []
  | label keyword gap name =>
    obtain ⟨first, hchars, htext, hhead⟩ := exists_word_of_keyword keyword.ofKeyword?_text
    refine ⟨first, [(gap, name)], ?_, hhead, ?_⟩
    · show keyword.text.toList ++ (gap.chars ++ name.chars) = _
      rw [← hchars]
      rfl
    · rw [htext]
      exact .label keyword name []
  | @number keyword gap name gap' n numeral =>
    obtain ⟨first, hchars, htext, hhead⟩ := exists_word_of_keyword keyword.ofKeyword?_text
    refine ⟨first, [(gap, name), (gap', numeralWord numeral)], ?_, hhead, ?_⟩
    · show keyword.text.toList ++ (gap.chars ++ (name.chars ++ (gap'.chars ++ numeral.chars))) = _
      rw [← hchars]
      rfl
    · have hnumeral : Decimal.IsNumeral (numeralWord numeral).text.toList numeral.digits := by
        rw [Word.text, String.toList_ofList]
        exact numeral.isNumeral_chars
      have hsays := Says.number keyword name [] hnumeral numeral.length_digits_le
      -- whatever the zeros in front, the digits denote the number that was written
      rw [← Decimal.value_eq_ofDigits, numeral.value_digits] at hsays
      rw [htext]
      exact hsays

/-- The words of a written statement say just that. -/
theorem says_words (w : Written s) : Says ((words w.chars).map String.ofList) s := by
  obtain ⟨first, rest, hchars, _, hsays⟩ := w.exists_spaced
  rw [hchars, words_spaced, List.map_cons, List.map_map]
  exact hsays

lemma isTrimmed_chars (w : Written s) : IsTrimmed w.chars := by
  obtain ⟨first, rest, hchars, _⟩ := w.exists_spaced
  rw [hchars]
  exact isTrimmed_spaced first rest

lemma newline_not_mem_chars (w : Written s) : '\n' ∉ w.chars := by
  obtain ⟨first, rest, hchars, _⟩ := w.exists_spaced
  rw [hchars]
  exact newline_not_mem_spaced first rest

/-- A written statement is no comment. -/
lemma isInstruction_chars (w : Written s) :
    Source.isInstruction Source.defaultMarker w.chars = true := by
  obtain ⟨first, rest, hchars, hhead, _⟩ := w.exists_spaced
  rw [hchars]
  exact isInstruction_spaced hhead rest

end Written

/-! ## Rows -/

/-- A line of a program. -/
inductive Row
  | blank (gap : Gap)
  | comment (indent : Gap) (rest : List Char) (newline_not_mem : '\n' ∉ rest)
  | statement (indent : Gap) {s : Statement} (written : Written s) (trailing : Gap)

namespace Row

def chars : Row → List Char
  | blank gap => gap.chars
  | comment indent rest _ => indent.chars ++ '/' :: rest
  | statement indent written trailing => indent.chars ++ (written.chars ++ trailing.chars)

/-- What a listing tells about a row with a certain number. -/
def entry? : Row → Nat → Option Listing.Entry
  | @statement _ s written _, line => some (s.entry line (String.ofList written.chars))
  | _, _ => none

/-- No row ends the line that it is on. -/
lemma newline_not_mem_chars (row : Row) : '\n' ∉ row.chars := by
  cases row with
  | blank gap => exact gap.newline_not_mem
  | comment indent rest newline_not_mem =>
    intro h
    rcases List.mem_append.mp h with h | h
    · exact indent.newline_not_mem h
    · rcases List.mem_cons.mp h with h | h
      · contradiction
      · exact newline_not_mem h
  | statement indent written trailing =>
    intro h
    rw [chars, List.mem_append, List.mem_append] at h
    rcases h with h | h | h
    · exact indent.newline_not_mem h
    · exact written.newline_not_mem_chars h
    · exact trailing.newline_not_mem h

/-- A row is read as what it says, and blanks and comments as nothing. -/
theorem describe_instructionOn? (row : Row) (line : Nat) (filename : String) :
    (Source.instructionOn? Source.defaultMarker (row.chars, line)).map
        (fun (line, text) => (⟨text, line, filename⟩ : Instruction).describe) =
      (row.entry? line).map .ok := by
  cases row with
  | blank gap =>
    rw [Source.instructionOn?, chars, trim_blanks gap.isBlank]
    rfl
  | comment indent rest newline_not_mem =>
    -- trimming may take away from the end of a comment, but never its marker
    have htrim : trim (indent.chars ++ '/' :: rest) = '/' :: trimEnd rest :=
      trim_blanks_cons indent.isBlank (by decide) rest
    have hcomment :
        ¬Source.isInstruction Source.defaultMarker ('/' :: trimEnd rest) = true := by
      simp [Source.isInstruction, Source.defaultMarker, List.isPrefixOf]
    rw [Source.instructionOn?, chars, htrim, if_neg hcomment]
    rfl
  | @statement indent s written trailing =>
    have htrim : trim (indent.chars ++ (written.chars ++ trailing.chars)) = written.chars :=
      trim_surrounded indent.isBlank trailing.isBlank written.isTrimmed_chars
    rw [Source.instructionOn?, chars, htrim, if_pos written.isInstruction_chars, Option.map_some]
    have hsays : Says (Instruction.words ⟨String.ofList written.chars, line, filename⟩) s := by
      rw [Instruction.words, String.toList_ofList]
      exact written.says_words
    exact congrArg some (Instruction.describe_of_statement hsays)

end Row

/-! ## Programs -/

/-- The text of a program. -/
def text (rows : List Row) : String :=
  String.ofList (['\n'].intercalate (rows.map Row.chars))

/-- The listing of a program: its statements, with the numbers of the lines they stand on. -/
def entries (rows : List Row) : List Listing.Entry :=
  (rows.zipIdx 1).filterMap fun (row, line) => row.entry? line

/-- The lines of a program are its rows. -/
lemma lines_text {rows : List Row} (hne : rows ≠ []) :
    lines (text rows).toList = rows.map Row.chars := by
  rw [lines, text, String.toList_ofList, ← List.splitOn_eq_splitOnP]
  apply List.splitOn_intercalate
  · intro line hline
    obtain ⟨row, _, rfl⟩ := List.mem_map.mp hline
    exact row.newline_not_mem_chars
  · intro h
    exact hne (List.map_eq_nil_iff.mp h)

/-- Reading a program gives back the statements that were written, in order and at their lines,
however they were laid out. -/
theorem describe_text (rows : List Row) (filename : String) :
    (Cursor.ofSource Source.defaultMarker filename (text rows)).drain.1.map
        Instruction.describe =
      (entries rows).map .ok := by
  cases rows with
  | nil => rfl -- the empty text is one blank line
  | cons row rows =>
    rw [Cursor.drain_ofSource, Source.instructions, Source.clean,
      lines_text (List.cons_ne_nil row rows), Source.cleanFrom, List.zipIdx_map,
      List.filterMap_map, List.map_map, List.map_filterMap, entries, List.map_filterMap]
    -- line by line, what is read is what was written
    apply List.filterMap_congr
    rintro ⟨row, line⟩ _
    exact row.describe_instructionOn? line filename

example :
    (Cursor.ofSource Source.defaultMarker "a" "// start\n\n\tpush  x +07 \nreturn").drain.1.map
        Instruction.describe =
      [.ok { line := 3, kind := "PUSH", text := "push  x +07", arg1 := some "x", arg2 := some 7 },
        .ok { line := 4, kind := "RETURN", text := "return" }] := by
  rfl

end HackFrontEnd.Layout
