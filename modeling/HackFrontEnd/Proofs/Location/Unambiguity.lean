import HackFrontEnd.Proofs.Cursor.History
import HackFrontEnd.Proofs.Source.Cleaning
import HackFrontEnd.Proofs.Text.Numeral

/-!
# What the text of a location tells

A file name may hold colons with numbers behind them, so the text of a location is read from its
end: the number of the line has no colon in it, whatever the file name is.

* `Location.toList_text_eq_iff`: the last colon stands between the file name and the line;
* `Location.text_unambiguous`: so no two locations have the same text;
* `Cursor.Session.nodup_location_text`: in the course of a session, a location names at most one
  instruction.
-/

namespace HackFrontEnd

open Text

namespace Location

variable {l l' : Location}

/-! ## The last colon -/

lemma toList_text (l : Location) :
    l.text.toList = l.filename.toList ++ ':' :: (Decimal.ofInt l.line).toList := by
  rw [text, String.toList_append, String.toList_append, List.append_assoc]
  rfl

lemma colon_not_mem_ofInt (n : Int) : ':' ∉ (Decimal.ofInt n).toList :=
  Decimal.not_mem_ofInt (by decide) (by decide) n

/-- What stands before the last colon is the file name, and what stands behind it is the number of
the line. -/
theorem toList_text_eq_iff {before behind : List Char} :
    l.text.toList = before ++ ':' :: behind ∧ ':' ∉ behind ↔
      before = l.filename.toList ∧ behind = (Decimal.ofInt l.line).toList := by
  constructor
  · rintro ⟨htext, hlast⟩
    rw [toList_text] at htext
    exact Decimal.eq_of_append_cons_eq hlast (colon_not_mem_ofInt l.line) htext.symm
  · rintro ⟨rfl, rfl⟩
    exact ⟨toList_text l, colon_not_mem_ofInt l.line⟩

/-- Different locations have different texts. -/
theorem text_inj (h : l.text = l'.text) : l = l' := by
  have hsplit : l.text.toList = l'.filename.toList ++ ':' :: (Decimal.ofInt l'.line).toList := by
    rw [h, toList_text]
  obtain ⟨hfilename, hnumeral⟩ := toList_text_eq_iff.mp ⟨hsplit, colon_not_mem_ofInt l'.line⟩
  have hname : l'.filename = l.filename := String.toList_inj.mp hfilename
  have hline : l'.line = l.line := Decimal.ofInt_inj (String.toList_inj.mp hnumeral)
  rw [Location.mk.injEq]
  exact ⟨hname.symm, hline.symm⟩

end Location

/-! ## The locations of instructions -/

lemma Instruction.location_eq_iff {i j : Instruction} :
    i.location = j.location ↔ i.filename = j.filename ∧ i.line = j.line := by
  rw [location, location, Location.mk.injEq]

/-- Locations are unambiguous as texts: whatever colons and numbers the file names hold, and
whatever the lines are, only the same location has the same text. So instructions whose locations
are the same text are on the same line of the same file. -/
theorem Location.text_unambiguous :
    (∀ l l' : Location, l.text = l'.text ↔ l = l') ∧
      ∀ i j : Instruction,
        i.location.text = j.location.text ↔ i.filename = j.filename ∧ i.line = j.line := by
  have hsame : ∀ l l' : Location, l.text = l'.text ↔ l = l' :=
    fun l l' => ⟨text_inj, congrArg text⟩
  refine ⟨hsame, fun i j => ?_⟩
  rw [hsame, Instruction.location_eq_iff]

-- a number in the name of the file, and a line below zero of a file without a name
example : (⟨"a:1", 12⟩ : Location).text = "a:1:12" ∧ (⟨"", -12⟩ : Location).text = ":-12" := by
  decide +kernel

/-! ## The locations of a source -/

/-- The instructions of a source stand on different lines, so their locations differ as texts. -/
theorem Source.nodup_location_text (marker filename source : String) :
    ((Source.instructions marker filename source).map fun i => i.location.text).Nodup := by
  rw [Source.instructions, List.map_map, List.Nodup, List.pairwise_map]
  refine (Source.pairwise_clean marker source).imp fun {entry entry'} hlt hsame => ?_
  have hline : (entry.1 : Int) = entry'.1 := congrArg Location.line (Location.text_inj hsame)
  omega

/-- After any run over a source, no two of the instructions that were handed out or are still to
come have a location with the same text. -/
theorem Cursor.Session.nodup_location_text (marker filename source : String) (steps : List Step) :
    let s := (ofSource marker filename source).after steps
    ((s.handedOut ++ s.cursor.pending).map fun i => i.location.text).Nodup := by
  intro s
  have hfollows := followsFrom_after (followsFrom_ofSource marker filename source) steps
  rw [hfollows.handedOut, hfollows.split]
  exact Source.nodup_location_text marker filename source

end HackFrontEnd
