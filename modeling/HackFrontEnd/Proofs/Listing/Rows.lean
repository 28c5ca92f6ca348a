import HackFrontEnd.Proofs.Source.Layout
import HackFrontEnd.Proofs.Text.Lines

/-!
# Rows of a listing

A row is made up of words: the line, the kind, and the operands there are. Padding keeps them apart
and in their columns, and is taken away at the end of a row, so nothing of an entry is lost:

* `toList_row_entry`: a row is its words with spaces around them;
* `words_row_entry`: so the words of a row are what the entry shows;
* `lines_rows`: and the lines of a listing are its rows;
* `rows_read_back`: different entries of instructions have different listings.
-/

namespace HackFrontEnd

open Text Layout

/-! ## Words of a row -/

/-- The numeral of an integer. -/
def Text.Word.ofInt (n : Int) : Word where
  chars := (Decimal.ofInt n).toList
  ne_nil := Decimal.toList_ofInt_ne_nil n
  not_isBlank := by
    intro c hc
    rcases Decimal.isDigit_of_mem_ofInt hc with hdigit | rfl
    · exact isBlank_of_isDigit hdigit
    · decide

/-- The name of a kind. -/
def Kind.word (k : Kind) : Word where
  chars := k.name.toList
  ne_nil := by cases k <;> decide
  not_isBlank := by
    have hall : k.name.toList.all (!isBlank ·) = true := by cases k <;> decide +kernel
    intro c hc
    simpa using List.all_eq_true.mp hall c hc

/-- The names fit in their column. -/
lemma Kind.length_name_le (k : Kind) : k.name.length ≤ 10 := by
  cases k <;> decide

/-- An operator is a keyword and so a word. -/
def Operator.word (operator : Operator) : Word where
  chars := operator.text.toList
  ne_nil := by cases operator <;> decide
  not_isBlank := by
    have hall : operator.text.toList.all (!isBlank ·) = true := by
      cases operator <;> decide +kernel
    intro c hc
    simpa using List.all_eq_true.mp hall c hc

/-- The words for the operands of a statement. -/
def Statement.operands : Statement → List Word
  | arithmetic operator => [operator.word]
  | ret => []
  | label _ name => [name]
  | number _ name n => [name, .ofInt n]

namespace Listing

lemma isBlank_of_mem_padding {n : Nat} : ∀ c ∈ List.replicate n ' ', isBlank c = true := by
  intro c hc
  rw [List.eq_of_mem_replicate hc]
  decide

/-- One space, and more after it. -/
def spaces (more : Nat) : Break where
  chars := List.replicate (more + 1) ' '
  isBlank := isBlank_of_mem_padding
  newline_not_mem := by
    intro hmem
    exact absurd (List.eq_of_mem_replicate hmem) (by decide)
  ne_nil := List.cons_ne_nil _ _

/-- The words of a row after the line, each with the spaces before it. The kind is padded to the
width of its column where an operand follows it. -/
def cells (k : Kind) : List Word → List (Break × Word)
  | [] => [(spaces 1, k.word)]
  | first :: more =>
    (spaces 1, k.word) :: (spaces (11 - k.name.length), first) ::
      more.map fun w => (spaces 0, w)

/-- The line and the words after it, with the spaces before and between them. -/
def spacedRow (line : Int) (k : Kind) (operands : List Word) : List Char :=
  List.replicate (5 - (Decimal.ofInt line).length) ' ' ++ spaced (.ofInt line) (cells k operands)

/-! ## The layout of a row -/

/-- The padding of a column and the two spaces after it. -/
lemma padding_append {width : Nat} (h : width ≤ 10) :
    List.replicate (10 - width) ' ' ++ [' ', ' '] = (spaces (11 - width)).chars := by
  -- the name is shorter than its column, so nothing is cut off by the subtraction
  have hlength : 11 - width + 1 = 10 - width + 2 := by omega
  show _ = List.replicate (11 - width + 1) ' '
  rw [hlength, List.replicate_add]
  rfl

lemma toList_alignRight (width : Nat) (s : String) :
    (alignRight width s).toList = List.replicate (width - s.length) ' ' ++ s.toList := by
  rw [alignRight, String.toList_append, String.toList_ofList]

lemma toList_alignLeft (width : Nat) (s : String) :
    (alignLeft width s).toList = s.toList ++ List.replicate (width - s.length) ' ' := by
  rw [alignLeft, String.toList_append, String.toList_ofList]

/-- What is at the end of a row apart from its words is trimmed. -/
lemma trimEnd_spacedRow (line : Int) (k : Kind) (operands : List Word) {rest : List Char}
    (h : ∀ c ∈ rest, isBlank c = true) :
    trimEnd (spacedRow line k operands ++ rest) = spacedRow line k operands := by
  apply trimEnd_append_blanks h
  intro c hc
  have hne : spaced (.ofInt line) (cells k operands) ≠ [] := spaced_ne_nil _ _
  rw [spacedRow, List.getLast?_append_of_ne_nil _ hne] at hc
  exact (isTrimmed_spaced _ _).last c hc

/-- A row is trimmed after its last word. -/
lemma toList_row_of_untrimmed {e : Entry} {k : Kind} {operands : List Word} (rest : List Char)
    (h : (alignRight 5 (Decimal.ofInt e.line) ++ "  " ++ alignLeft 10 e.kind ++
      (e.arg1.map ("  " ++ ·)).getD "" ++
      (e.arg2.map fun n => " " ++ Decimal.ofInt n).getD "").toList =
        spacedRow e.line k operands ++ rest)
    (hrest : ∀ c ∈ rest, isBlank c = true) : e.row.toList = spacedRow e.line k operands := by
  rw [Entry.row, String.toList_ofList]
  exact (congrArg trimEnd h).trans (trimEnd_spacedRow e.line k operands hrest)

section Layout

variable (line : Int) (k : Kind) (text : String)

/-- Without operands, the padding after the kind is trimmed. -/
lemma toList_row_of_no_operand :
    (Entry.row { line, kind := k.name, text }).toList = spacedRow line k [] := by
  apply toList_row_of_untrimmed (List.replicate (10 - k.name.length) ' ')
  · simp only [Option.map_none, Option.getD_none, String.append_empty, String.toList_append,
      toList_alignRight, toList_alignLeft, List.append_assoc, spacedRow, cells, spaced]
    rfl
  · exact isBlank_of_mem_padding

/-- One operand ends the row, and its kind keeps the padding. -/
lemma toList_row_of_operand (w : Word) :
    (Entry.row { line, kind := k.name, text, arg1 := some w.text }).toList =
      spacedRow line k [w] := by
  apply toList_row_of_untrimmed []
  · simp only [Option.map_some, Option.getD_some, Option.map_none, Option.getD_none,
      String.append_empty, String.toList_append, toList_alignRight, toList_alignLeft,
      List.append_assoc, List.append_nil, spacedRow, cells, spaced, List.map_nil,
      ← padding_append k.length_name_le, Word.toList_text]
    rfl
  · exact fun c hc => absurd hc List.not_mem_nil

/-- A second operand follows the first one after a space. -/
lemma toList_row_of_operands (w : Word) (n : Int) :
    (Entry.row { line, kind := k.name, text, arg1 := some w.text, arg2 := some n }).toList =
      spacedRow line k [w, .ofInt n] := by
  apply toList_row_of_untrimmed []
  · simp only [Option.map_some, Option.getD_some, String.toList_append, toList_alignRight,
      toList_alignLeft, List.append_assoc, List.append_nil, spacedRow, cells, spaced,
      List.map_cons, List.map_nil, ← padding_append k.length_name_le, Word.toList_text]
    rfl
  · exact fun c hc => absurd hc List.not_mem_nil

/-- A row is its words with spaces around them. -/
theorem toList_row_entry (s : Statement) :
    (s.entry line text).row.toList = spacedRow line s.kind s.operands := by
  rw [Statement.entry, Statement.typeName_eq]
  cases s with
  | arithmetic operator =>
    have hrow := toList_row_of_operand line .arithmetic text operator.word
    rwa [show operator.word.text = operator.text from String.ofList_toList] at hrow
  | ret => exact toList_row_of_no_operand line .ret text
  | label keyword name => exact toList_row_of_operand line keyword.kind text name
  | number keyword name n => exact toList_row_of_operands line keyword.kind text name n

end Layout

/-! ## What a row shows -/

/-- What the row of an entry shows, column by column. -/
def Entry.columns (e : Entry) : List String :=
  Decimal.ofInt e.line :: e.kind :: (e.arg1.toList ++ (e.arg2.map Decimal.ofInt).toList)

/-- What can be told from the row of an entry. -/
def Entry.shown (e : Entry) : Int × String × Option String × Option Int :=
  (e.line, e.kind, e.arg1, e.arg2)

lemma words_spacedRow (line : Int) (k : Kind) (operands : List Word) :
    words (spacedRow line k operands) =
      (Word.ofInt line).chars :: k.word.chars :: operands.map Word.chars := by
  rw [spacedRow, words_blanks_append isBlank_of_mem_padding, words_spaced]
  cases operands with
  | nil => rfl
  | cons first more =>
    rw [cells, List.map_cons, List.map_cons, List.map_map]
    rfl

/-- The words of a row are what the entry shows. -/
theorem words_row_entry (s : Statement) (line : Int) (text : String) :
    words (s.entry line text).row.toList = (s.entry line text).columns.map String.toList := by
  rw [toList_row_entry, words_spacedRow, Statement.entry, Statement.typeName_eq]
  cases s with
  | arithmetic | ret => rfl
  | label keyword name | number keyword name n =>
    simp only [Statement.operands, Entry.columns, Statement.arg1, Statement.arg2,
      Option.toList_some, Option.toList_none, Option.map_some, Option.map_none, List.map_cons,
      List.map_nil, List.cons_append, List.nil_append, Word.toList_text]
    rfl

/-- A row ends with its last word. -/
lemma isBlank_of_getLast?_row (s : Statement) (line : Int) (text : String) :
    ∀ c ∈ (s.entry line text).row.toList.getLast?, isBlank c = false := by
  intro c hc
  have hne : spaced (.ofInt line) (cells s.kind s.operands) ≠ [] := spaced_ne_nil _ _
  rw [toList_row_entry, spacedRow, List.getLast?_append_of_ne_nil _ hne] at hc
  exact (isTrimmed_spaced _ _).last c hc

lemma oneLine_row (s : Statement) (line : Int) (text : String) :
    OneLine (s.entry line text).row := by
  unfold OneLine
  rw [toList_row_entry, spacedRow, List.mem_append]
  rintro (hpadding | hwords)
  · exact absurd (List.eq_of_mem_replicate hpadding) (by decide)
  · exact newline_not_mem_spaced _ _ hwords

lemma row_ne_empty (s : Statement) (line : Int) (text : String) :
    (s.entry line text).row ≠ "" := by
  intro h
  have hwords := words_row_entry s line text
  rw [h] at hwords
  exact absurd hwords (List.cons_ne_nil _ _).symm

/-! ## Columns -/

lemma prefix_spaced (w : Word) (rest : List (Break × Word)) : w.chars <+: spaced w rest := by
  cases rest with
  | nil => exact List.prefix_rfl
  | cons next rest => exact List.prefix_append _ _

lemma length_word_ofInt (n : Int) : (Word.ofInt n).chars.length = (Decimal.ofInt n).length :=
  String.length_toList

lemma length_spaces (more : Nat) : (spaces more).chars.length = more + 1 :=
  List.length_replicate

lemma length_kind_word (k : Kind) : k.word.chars.length = k.name.length :=
  String.length_toList

variable {line : Int}

/-- While the line fits in its column, the kind is in its own. -/
lemma kind_prefix_spacedRow (h : (Decimal.ofInt line).length ≤ 5) (k : Kind)
    (operands : List Word) : k.word.chars <+: (spacedRow line k operands).drop 7 := by
  -- operands or not, the kind is the first word after the line
  obtain ⟨more, hcells⟩ : ∃ more, cells k operands = (spaces 1, k.word) :: more := by
    cases operands <;> exact ⟨_, rfl⟩
  have hfront : (List.replicate (5 - (Decimal.ofInt line).length) ' ' ++
      (Word.ofInt line).chars ++ (spaces 1).chars).length = 7 := by
    rw [List.length_append, List.length_append, List.length_replicate, length_word_ofInt,
      length_spaces]
    omega
  rw [spacedRow, hcells, spaced, ← List.append_assoc, ← List.append_assoc,
    List.drop_left' hfront]
  exact prefix_spaced k.word more

/-- While the line fits in its column, so is the first operand. -/
lemma operand_prefix_spacedRow (h : (Decimal.ofInt line).length ≤ 5) (k : Kind) (w : Word)
    (more : List Word) : w.chars <+: (spacedRow line k (w :: more)).drop 19 := by
  have hfront : (List.replicate (5 - (Decimal.ofInt line).length) ' ' ++
      (Word.ofInt line).chars ++ (spaces 1).chars ++ k.word.chars ++
      (spaces (11 - k.name.length)).chars).length = 19 := by
    have hname : k.name.length ≤ 10 := k.length_name_le
    simp only [List.length_append, List.length_replicate, length_word_ofInt, length_spaces,
      length_kind_word]
    omega
  rw [spacedRow, cells, spaced, spaced, ← List.append_assoc, ← List.append_assoc,
    ← List.append_assoc, ← List.append_assoc, List.drop_left' hfront]
  exact prefix_spaced w _

/-- A line of up to five digits leaves the kind and the first operand in their columns. -/
theorem columns_of_row (s : Statement) (text : String) (hline : 0 ≤ line)
    (hfits : line ≤ 99999) :
    s.typeName.toList <+: (s.entry line text).row.toList.drop 7 ∧
      ∀ arg1 ∈ s.arg1, arg1.toList <+: (s.entry line text).row.toList.drop 19 := by
  have hlength : (Decimal.ofInt line).length ≤ 5 :=
    Decimal.length_ofInt_le (by decide) hline (by omega)
  rw [toList_row_entry, Statement.typeName_eq]
  refine ⟨kind_prefix_spacedRow hlength s.kind s.operands, fun arg1 harg1 => ?_⟩
  cases s with
  | ret => contradiction
  | arithmetic operator =>
    rw [← Option.some.inj harg1]
    exact operand_prefix_spacedRow hlength .arithmetic operator.word []
  | label keyword name =>
    rw [← Option.some.inj harg1, Word.toList_text]
    exact operand_prefix_spacedRow hlength keyword.kind name []
  | number keyword name n =>
    rw [← Option.some.inj harg1, Word.toList_text]
    exact operand_prefix_spacedRow hlength keyword.kind name [.ofInt n]

/-! ## Listings of instructions -/

/-- The columns in their order: the line, the kind and the operands, if there are any. -/
lemma getElem?_columns (line : Int) (s : Statement) (text : String) :
    (s.entry line text).columns[0]? = some (Decimal.ofInt line) ∧
      (s.entry line text).columns[1]? = some s.typeName ∧
      (s.entry line text).columns[2]? = s.arg1 ∧
      (s.entry line text).columns[3]? = (s.arg2.map Int.ofNat).map Decimal.ofInt := by
  cases s <;> exact ⟨rfl, rfl, rfl, rfl⟩

/-- The columns tell the line, the kind and the operands. -/
lemma shown_eq_of_columns_eq {s s' : Statement} {line' : Int} {text text' : String}
    (h : (s.entry line text).columns = (s'.entry line' text').columns) :
    (s.entry line text).shown = (s'.entry line' text').shown := by
  obtain ⟨hline, hkind, harg1, harg2⟩ := getElem?_columns line s text
  obtain ⟨hline', hkind', harg1', harg2'⟩ := getElem?_columns line' s' text'
  rw [h] at hline hkind harg1 harg2
  have hlines : line = line' :=
    Decimal.ofInt_inj (Option.some.inj (hline.symm.trans hline'))
  have hkinds : s.typeName = s'.typeName := Option.some.inj (hkind.symm.trans hkind')
  have hnumbers : s.arg2.map Int.ofNat = s'.arg2.map Int.ofNat :=
    Option.map_injective (fun _ _ => Decimal.ofInt_inj) (harg2.symm.trans harg2')
  rw [Entry.shown, Entry.shown, Prod.mk.injEq, Prod.mk.injEq, Prod.mk.injEq]
  exact ⟨hlines, hkinds, harg1.symm.trans harg1', hnumbers⟩

/-- The entry tells of a statement, as all entries of instructions do. -/
def Entry.TellsStatement (e : Entry) : Prop :=
  ∃ (s : Statement) (line : Int) (text : String), e = s.entry line text

/-- What describing an instruction gives tells of a statement. -/
lemma tellsStatement_of_describe {i : Instruction} {e : Entry} (h : i.describe = .ok e) :
    e.TellsStatement := by
  obtain ⟨s, _, rfl⟩ := Instruction.describe_eq_ok_iff.mp h
  exact ⟨s, i.line, i.text, rfl⟩

lemma tellsStatement_of_mem {instructions : List Instruction} {entries : List Entry}
    (h : instructions.map Instruction.describe = entries.map .ok) :
    ∀ e ∈ entries, e.TellsStatement := by
  intro e he
  have hmem : Except.ok e ∈ instructions.map Instruction.describe := by
    rw [h]
    exact List.mem_map_of_mem he
  obtain ⟨i, _, hi⟩ := List.mem_map.mp hmem
  exact tellsStatement_of_describe hi

lemma shown_eq_of_row_eq {e e' : Entry} (h : e.TellsStatement) (h' : e'.TellsStatement)
    (hrow : e.row = e'.row) : e.shown = e'.shown := by
  obtain ⟨s, line, text, rfl⟩ := h
  obtain ⟨s', line', text', rfl⟩ := h'
  have hwords := words_row_entry s line text
  rw [hrow, words_row_entry s' line' text'] at hwords
  have hcolumns := List.map_injective_iff.mpr (fun _ _ => String.toList_inj.mp) hwords
  exact shown_eq_of_columns_eq hcolumns.symm

variable {entries entries' : List Entry}

/-- The lines of a listing are its rows. -/
theorem lines_rows (h : ∀ e ∈ entries, e.TellsStatement) (hne : entries ≠ []) :
    lines (rows entries).toList = entries.map fun e => e.row.toList := by
  have hrows : entries.map Entry.row ≠ [] := by
    intro hnil
    exact hne (List.map_eq_nil_iff.mp hnil)
  rw [rows, lines_intercalate hrows, List.map_map]
  · rfl
  · intro row hrow
    obtain ⟨e, he, rfl⟩ := List.mem_map.mp hrow
    obtain ⟨s, line, text, rfl⟩ := h e he
    exact oneLine_row s line text

/-- Only the listing of nothing is empty. -/
theorem rows_eq_empty_iff (h : ∀ e ∈ entries, e.TellsStatement) :
    rows entries = "" ↔ entries = [] := by
  constructor
  · intro hempty
    by_contra hne
    have hlines := lines_rows h hne
    rw [hempty] at hlines
    -- the only line of an empty text is empty, and no row is
    obtain ⟨e, more, rfl⟩ := List.exists_cons_of_ne_nil hne
    obtain ⟨s, line, text, rfl⟩ := h e List.mem_cons_self
    have hrow : [] = (s.entry line text).row.toList := (List.cons.inj hlines).1
    exact row_ne_empty s line text (String.toList_inj.mp hrow.symm)
  · rintro rfl
    rfl

/-- Equal listings have equal rows. -/
lemma map_row_eq_of_rows_eq (h : ∀ e ∈ entries, e.TellsStatement)
    (h' : ∀ e ∈ entries', e.TellsStatement) (hrows : rows entries = rows entries') :
    entries.map Entry.row = entries'.map Entry.row := by
  -- the lines of an empty listing are not its rows, so that case is apart
  by_cases hne : entries = []
  · have hempty : rows entries' = "" := by rw [← hrows, hne, rows_eq_empty_iff (by simp)]
    rw [hne, (rows_eq_empty_iff h').mp hempty]
  · have hne' : entries' ≠ [] := by
      intro hnil
      rw [(rows_eq_empty_iff h').mpr hnil] at hrows
      exact hne ((rows_eq_empty_iff h).mp hrows)
    have hlines := lines_rows h hne
    rw [hrows, lines_rows h' hne'] at hlines
    apply List.map_injective_iff.mpr fun _ _ => String.toList_inj.mp
    rw [List.map_map, List.map_map]
    exact hlines.symm

/-- Equal listings show the same. -/
theorem shown_eq_of_rows_eq (h : ∀ e ∈ entries, e.TellsStatement)
    (h' : ∀ e ∈ entries', e.TellsStatement) (hrows : rows entries = rows entries') :
    entries.map Entry.shown = entries'.map Entry.shown := by
  have hmap := map_row_eq_of_rows_eq h h' hrows
  -- equal rows are all that the induction needs: a shorter listing is no part of the whole text
  clear hrows
  induction entries generalizing entries' with
  | nil => rw [List.map_eq_nil_iff.mp hmap.symm]
  | cons e more ih =>
    obtain ⟨e', more', rfl, hrow, hmore⟩ := List.map_eq_cons_iff.mp hmap.symm
    obtain ⟨he, hall⟩ := List.forall_mem_cons.mp h
    obtain ⟨he', hall'⟩ := List.forall_mem_cons.mp h'
    rw [List.map_cons, List.map_cons, shown_eq_of_row_eq he he' hrow.symm, ih hall hall' hmore.symm]

/-- The listing of instructions that can all be described reads back. It is empty only if there are
none, and otherwise each of its lines is the row of one of them, in their order. A row does not end
in a blank; its words are the line, the kind and the operands; and while the line has up to five
digits, the kind and the first operand stand in columns of their own. So two listings that are
equal are of instructions with the same lines, kinds and operands. -/
theorem rows_read_back {instructions : List Instruction}
    (h : instructions.map Instruction.describe = entries.map .ok) :
    (rows entries = "" ↔ instructions = []) ∧
      (instructions ≠ [] →
        lines (rows entries).toList = entries.map fun e => e.row.toList) ∧
      (∀ e ∈ entries,
        (∀ c ∈ e.row.toList.getLast?, isBlank c = false) ∧
        words e.row.toList = e.columns.map String.toList ∧
        (0 ≤ e.line → e.line ≤ 99999 →
          e.kind.toList <+: e.row.toList.drop 7 ∧
            ∀ arg1 ∈ e.arg1, arg1.toList <+: e.row.toList.drop 19)) ∧
      ∀ (instructions' : List Instruction) (entries' : List Entry),
        instructions'.map Instruction.describe = entries'.map .ok →
        rows entries = rows entries' → entries.map Entry.shown = entries'.map Entry.shown := by
  have hall := tellsStatement_of_mem h
  have hnil : instructions = [] ↔ entries = [] := by
    rw [← List.map_eq_nil_iff (f := Instruction.describe), h, List.map_eq_nil_iff]
  refine ⟨?_, fun hne => ?_, fun e he => ?_, fun instructions' entries' h' => ?_⟩
  · rw [hnil]
    exact rows_eq_empty_iff hall
  · exact lines_rows hall (mt hnil.mpr hne)
  · obtain ⟨s, line, text, rfl⟩ := hall e he
    refine ⟨isBlank_of_getLast?_row s line text, words_row_entry s line text, ?_⟩
    exact columns_of_row s text
  · exact shown_eq_of_rows_eq hall (tellsStatement_of_mem h')

/-- The padding after a kind without operands is gone, and a line that is too wide for its column
moves the others. -/
theorem rows_read_back_of_wide_line :
    let instructions : List Instruction :=
      [⟨" return", -3, "f"⟩, ⟨"push \u03b1 +07 8", 123456, "f"⟩]
    let entries : List Entry :=
      [{ line := -3, kind := "RETURN", text := " return" },
        { line := 123456, kind := "PUSH", text := "push \u03b1 +07 8", arg1 := some "\u03b1",
          arg2 := some 7 }]
    instructions.map Instruction.describe = entries.map .ok ∧
      rows entries = "   -3  RETURN\n123456  PUSH        \u03b1 7" ∧
      lines (rows entries).toList = entries.map (fun e => e.row.toList) ∧
      entries.map Entry.columns = [["-3", "RETURN"], ["123456", "PUSH", "\u03b1", "7"]] ∧
      ∀ e ∈ entries, words e.row.toList = e.columns.map String.toList := by
  intro instructions entries
  have h : instructions.map Instruction.describe = entries.map .ok := by decide +kernel
  obtain ⟨_, hlines, hrows, _⟩ := rows_read_back h
  refine ⟨h, by decide +kernel, hlines (by decide), by decide +kernel, fun e he => ?_⟩
  exact (hrows e he).2.1

end Listing

end HackFrontEnd
