import HackFrontEnd.Encoding.Decode
import HackFrontEnd.File.Load
import HackFrontEnd.Proofs.Source.LineEnds

/-!
# Loading a file and taking its text

A file that can be decoded is loaded, and the cursor over it is one over a text in memory: the text
of the file with uniform line ends, under the tidy form of its path. Where every carriage return is
part of a pair, it is also the cursor over the text as it stands.
-/

namespace HackFrontEnd.File

open Source

/-- There is a file at the path, and its bytes stand for the text in the encoding of this name. -/
structure HoldsText (codecs : Codecs) (look : View) (encoding path : String) (text : List Char) :
    Prop where
  noNull : Text.holdsNull encoding = false
  decodes : ∃ bytes, look.read path = .ok bytes ∧ codecs.decode encoding bytes = .ok text

/-- The cursor over a text in memory that is shown under a path. -/
def inMemory (settings : Settings) (path : String) (text : List Char) : Cursor :=
  .ofSource settings.commentMarker (Path.tidy path) (String.ofList text)

/-- The text that is read is that of the file with uniform line ends. -/
lemma readText_of_holdsText {codecs : Codecs} {look : View} {encoding path : String}
    {text : List Char} (h : HoldsText codecs look encoding path text) :
    readText codecs look encoding path = .ok (String.ofList (unifyLineEnds text)) := by
  obtain ⟨bytes, hread, hdecode⟩ := h.decodes
  unfold readText
  rw [h.noNull, hread]
  simp only [Except.mapError, bind, Except.bind, pure, Except.pure, hdecode, Bool.false_eq_true,
    if_false]

/-- Loading a file is taking its text with uniform line ends. -/
lemma load_of_holdsText {codecs : Codecs} {look : View} {settings : Settings} {path : String}
    {text : List Char} (h : HoldsText codecs look settings.sourceEncoding (Path.tidy path) text) :
    load codecs look settings path = .ok (inMemory settings path (unifyLineEnds text)) := by
  unfold load
  simp only [readText_of_holdsText h, bind, Except.bind, pure, Except.pure]
  rfl

/-- Cleaning does not see the carriage return of a pair, so the cursor is the same without it. -/
lemma inMemory_unifyLineEnds {text : List Char} (h : ReturnsPaired text) (settings : Settings)
    (path : String) :
    inMemory settings path (unifyLineEnds text) = inMemory settings path text := by
  unfold inMemory Cursor.ofSource Source.instructions
  rw [clean_unifyLineEnds h]

/-- Putting a carriage return in front of every line feed changes nothing in memory. -/
lemma inMemory_withReturns {text : List Char} (h : '\r' ∉ text) (settings : Settings)
    (path : String) :
    inMemory settings path (withReturns text) = inMemory settings path text := by
  rw [← inMemory_unifyLineEnds (returnsPaired_withReturns h), unifyLineEnds_withReturns h]

/-- Loading a file agrees with taking its text from memory. The text has uniform line ends there: no
carriage return is left in it, and one that stood alone has become the end of a line. Or it is the
text as it stands, where every carriage return is part of a pair; and whether the lines of a file
end with line feeds or with pairs does not matter to either way in. -/
theorem load_agrees_with_inMemory {codecs : Codecs} {look : View} {settings : Settings}
    {path : String} {text : List Char}
    (h : HoldsText codecs look settings.sourceEncoding (Path.tidy path) text) :
    load codecs look settings path = .ok (inMemory settings path (unifyLineEnds text)) ∧
    '\r' ∉ unifyLineEnds text ∧
    (∀ a b, text = a ++ '\r' :: b → b.head? ≠ some '\n' →
      Text.lines (unifyLineEnds text) =
        Text.lines (unifyLineEnds a) ++ Text.lines (unifyLineEnds b)) ∧
    (ReturnsPaired text →
      load codecs look settings path = .ok (inMemory settings path text)) ∧
    ∀ unix, '\r' ∉ unix → text = unix ∨ text = withReturns unix →
      load codecs look settings path = .ok (inMemory settings path unix) ∧
      load codecs look settings path = .ok (inMemory settings path (withReturns unix)) := by
  have hload := load_of_holdsText h
  refine ⟨hload, return_not_mem_unifyLineEnds text, ?_, ?_, ?_⟩
  · rintro a b rfl hb
    exact lines_unifyLineEnds_of_lone_return a hb
  · intro hpaired
    rw [hload, inMemory_unifyLineEnds hpaired]
  · intro unix hunix htext
    have huniform : unifyLineEnds text = unix := by
      rcases htext with rfl | rfl
      · exact unifyLineEnds_of_not_mem hunix
      · exact unifyLineEnds_withReturns hunix
    rw [huniform] at hload
    refine ⟨hload, ?_⟩
    rw [hload, inMemory_withReturns hunix]

/-- A file in UTF-16 with a mark, at a path that is not tidy, whose first carriage return stands
alone: it separates two instructions, whereas in memory it is a blank inside of one. -/
theorem load_agrees_of_lone_return :
    let bytes : List UInt8 := [0xff, 0xfe, 0x61, 0, 0x64, 0, 0x64, 0, 0x0d, 0, 0x73, 0, 0x75, 0,
      0x62, 0, 0x0d, 0, 0x0a, 0, 0x6e, 0, 0x65, 0, 0x67, 0]
    let look : View := fun path => if path = "a/M.vm" then .file bytes else .missing
    let settings : Settings := { sourceEncoding := "UTF 16" }
    let text := "add\rsub\r\nneg".toList
    HoldsText .builtin look settings.sourceEncoding (Path.tidy "a//./M.vm") text ∧
    load .builtin look settings "a//./M.vm" =
      .ok (inMemory settings "a//./M.vm" (unifyLineEnds text)) ∧
    Text.lines (unifyLineEnds text) =
      Text.lines (unifyLineEnds "add".toList) ++ Text.lines (unifyLineEnds "sub\r\nneg".toList) ∧
    (inMemory settings "a//./M.vm" (unifyLineEnds text)).pending =
      [⟨"add", 1, "a/M.vm"⟩, ⟨"sub", 2, "a/M.vm"⟩, ⟨"neg", 3, "a/M.vm"⟩] ∧
    (inMemory settings "a//./M.vm" text).pending =
      [⟨"add\rsub", 1, "a/M.vm"⟩, ⟨"neg", 2, "a/M.vm"⟩] := by
  intro bytes look settings text
  have htext : HoldsText .builtin look settings.sourceEncoding (Path.tidy "a//./M.vm") text :=
    ⟨by decide +kernel, bytes, by decide +kernel, by decide +kernel⟩
  obtain ⟨hload, _, hlone, _⟩ := load_agrees_with_inMemory htext
  refine ⟨htext, hload, ?_, by decide +kernel, by decide +kernel⟩
  exact hlone "add".toList "sub\r\nneg".toList rfl (by decide)

end HackFrontEnd.File
