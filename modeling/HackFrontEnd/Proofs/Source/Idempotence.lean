import HackFrontEnd.Proofs.Source.Cleaning

/-!
# Cleaned sources

What cleaning leaves of a source can be written down again, with or without the lines that were
dropped, and then cleaning has nothing left to do:

* `IsCleaned`: what cleaning leaves are texts without blank ends that are no comments, in the order
  of their lines;
* `clean_of_laysOut`: such entries are found again in every document that has them on their lines,
  and nothing else;
* `clean_idempotent`: so the entries of a source are found again, on the same lines or one below the
  other.
-/

namespace HackFrontEnd.Source

open Text

variable {marker source document : String} {entries : List (Nat × String)}

/-! ## Entries that cleaning leaves as they are -/

/-- The text is on one line, has no blank ends and is no comment. -/
structure IsKept (marker text : String) : Prop where
  oneLine : OneLine text
  trimmed : trim text.toList = text.toList
  isInstruction : Source.isInstruction marker text.toList = true

/-- The entries are texts that cleaning keeps, in the order of their lines. -/
structure IsCleaned (marker : String) (entries : List (Nat × String)) : Prop where
  ordered : entries.Pairwise fun e e' => e.1 < e'.1
  kept : ∀ entry ∈ entries, IsKept marker entry.2

theorem isCleaned_clean (marker source : String) : IsCleaned marker (clean marker source) where
  ordered := pairwise_clean marker source
  kept := by
    rintro ⟨n, t⟩ hmem
    obtain ⟨_, line, hline, htext, hkept⟩ := mem_clean_iff.mp hmem
    refine ⟨oneLine_of_trim (List.mem_of_getElem? hline) htext, ?_, ?_⟩
    · rw [htext, trim_trim]
    · rw [htext]
      exact hkept

/-! ## Documents -/

/-- The document has the entries on the lines of their numbers, counted from one, and empty lines
elsewhere. -/
structure LaysOut (entries : List (Nat × String)) (document : String) : Prop where
  entry : ∀ n t, (n, t) ∈ entries →
    1 ≤ n ∧ (lines document.toList)[n - 1]? = some t.toList
  empty : ∀ n line, 1 ≤ n → (lines document.toList)[n - 1]? = some line →
    (∀ t, (n, t) ∉ entries) → line = []

/-- Cleaning finds the entries that a document lays out. -/
theorem clean_of_laysOut (h : IsCleaned marker entries) (hdocument : LaysOut entries document) :
    clean marker document = entries := by
  apply eq_of_mem_iff_of_pairwise (pairwise_clean marker document) h.ordered
  intro n t
  rw [mem_clean_iff]
  constructor
  -- a line of the document is laid out from an entry, or else it is empty and not kept
  · rintro ⟨hn, line, hline, htext, hkept⟩
    by_cases hentry : ∃ t', (n, t') ∈ entries
    · obtain ⟨t', ht'⟩ := hentry
      have hsame : line = t'.toList :=
        Option.some.inj (hline.symm.trans (hdocument.entry n t' ht').2)
      rw [hsame, (h.kept _ ht').trimmed] at htext
      rwa [String.toList_inj.mp htext]
    · have hempty : line = [] :=
        hdocument.empty n line hn hline fun t' ht' => hentry ⟨t', ht'⟩
      rw [hempty] at hkept
      exact absurd rfl (isInstruction_iff.mp hkept).1
  · intro hentry
    obtain ⟨hn, hline⟩ := hdocument.entry n t hentry
    have hkept := h.kept _ hentry
    exact ⟨hn, t.toList, hline, hkept.trimmed.symm, hkept.trimmed.symm ▸ hkept.isInstruction⟩

/-! ## Writing entries down again -/

/-- What is left of a line, counted from zero: the text of an instruction, or nothing. -/
def textLeft (marker source : String) (k : Nat) : String :=
  if isInstruction marker (trim ((lines source.toList)[k]?.getD [])) then
    String.ofList (trim ((lines source.toList)[k]?.getD []))
  else ""

/-- As many lines as asked for, with what is left of the lines of the source. -/
def blankedOut (marker source : String) (size : Nat) : String :=
  "\n".intercalate ((List.range size).map (textLeft marker source))

lemma oneLine_textLeft (marker source : String) (k : Nat) :
    OneLine (textLeft marker source k) := by
  rw [textLeft]
  split
  · cases hline : (lines source.toList)[k]? with
    | none => exact List.not_mem_nil
    | some line => exact oneLine_of_trim (List.mem_of_getElem? hline) String.toList_ofList
  · exact List.not_mem_nil

/-- The lines are what is left of those of the source. -/
lemma lines_blankedOut {size : Nat} (hsize : 0 < size) :
    lines (blankedOut marker source size).toList =
      ((List.range size).map (textLeft marker source)).map String.toList := by
  have hne : (List.range size).map (textLeft marker source) ≠ [] := by
    rw [Ne, List.map_eq_nil_iff, List.range_eq_nil]
    omega
  rw [blankedOut, lines_intercalate hne]
  intro text htext
  obtain ⟨k, _, rfl⟩ := List.mem_map.mp htext
  exact oneLine_textLeft marker source k

/-- The text of an entry is what is left of its line. -/
lemma textLeft_of_mem {n : Nat} {t : String} (h : (n, t) ∈ clean marker source) :
    textLeft marker source (n - 1) = t := by
  obtain ⟨_, line, hline, htext, hkept⟩ := mem_clean_iff.mp h
  rw [textLeft, hline, Option.getD_some, if_pos hkept, ← htext, String.ofList_toList]

/-- Nothing is left of a line without an entry. -/
lemma textLeft_of_not_mem {n : Nat} (hn : 1 ≤ n) (h : ∀ t, (n, t) ∉ clean marker source) :
    textLeft marker source (n - 1) = "" := by
  rw [textLeft, if_neg]
  intro hkept
  cases hline : (lines source.toList)[n - 1]? with
  | none =>
    rw [hline] at hkept
    exact absurd rfl (isInstruction_iff.mp hkept).1
  | some line =>
    rw [hline, Option.getD_some] at hkept
    have hentry : (n, String.ofList (trim line)) ∈ clean marker source :=
      mem_clean_iff.mpr ⟨hn, line, hline, String.toList_ofList, hkept⟩
    exact h _ hentry

/-- The lines that are not instructions may be empty, and there may be as many of them behind the
last instruction as one likes. -/
theorem laysOut_blankedOut {size : Nat} (hsize : 0 < size)
    (hlast : ∀ entry ∈ clean marker source, entry.1 ≤ size) :
    LaysOut (clean marker source) (blankedOut marker source size) where
  entry := by
    intro n t hentry
    have hn : 1 ≤ n := (mem_clean_iff.mp hentry).1
    have hle : n ≤ size := hlast (n, t) hentry
    refine ⟨hn, ?_⟩
    rw [lines_blankedOut hsize, List.getElem?_map, List.getElem?_map,
      List.getElem?_range (by omega), Option.map_some, textLeft_of_mem hentry]
    rfl
  empty := by
    intro n line hn hline hnone
    rw [lines_blankedOut hsize, List.map_map, List.getElem?_map, Option.map_eq_some_iff] at hline
    obtain ⟨k, hk, rfl⟩ := hline
    obtain ⟨hlt, hnk⟩ := List.getElem?_eq_some_iff.mp hk
    rw [List.getElem_range] at hnk
    rw [← hnk, Function.comp_apply, textLeft_of_not_mem hn hnone]
    rfl

/-- Texts numbered from one. -/
def numbered (texts : List String) : List (Nat × String) :=
  (texts.zipIdx 1).map fun (t, n) => (n, t)

lemma mem_numbered_iff {texts : List String} {n : Nat} {t : String} :
    (n, t) ∈ numbered texts ↔ 1 ≤ n ∧ texts[n - 1]? = some t := by
  rw [← List.mk_mem_zipIdx_iff_le_and_getElem?_sub, numbered, List.mem_map]
  constructor
  · rintro ⟨⟨t', n'⟩, hmem, heq⟩
    obtain ⟨rfl, rfl⟩ := Prod.mk.inj heq
    exact hmem
  · exact fun hmem => ⟨(t, n), hmem, rfl⟩

/-- Texts that are one below the other are numbered from one. -/
lemma laysOut_numbered {texts : List String} (h : ∀ t ∈ texts, OneLine t) :
    LaysOut (numbered texts) ("\n".intercalate texts) := by
  cases texts with
  | nil =>
    refine ⟨fun n t hmem => absurd hmem List.not_mem_nil, fun n line _ hline _ => ?_⟩
    have hmem : line ∈ lines ("\n".intercalate []).toList := List.mem_of_getElem? hline
    exact List.mem_singleton.mp hmem
  | cons text texts =>
    have hlines := lines_intercalate (List.cons_ne_nil text texts) h
    constructor
    · intro n t hmem
      obtain ⟨hn, ht⟩ := mem_numbered_iff.mp hmem
      rw [hlines, List.getElem?_map, ht]
      exact ⟨hn, rfl⟩
    · intro n line hn hline hnone
      rw [hlines, List.getElem?_map, Option.map_eq_some_iff] at hline
      obtain ⟨t, ht, _⟩ := hline
      exact absurd (mem_numbered_iff.mpr ⟨hn, ht⟩) (hnone t)

/-- Texts that cleaning keeps are cleaned when they are numbered. -/
lemma isCleaned_numbered {texts : List String} (h : ∀ t ∈ texts, IsKept marker t) :
    IsCleaned marker (numbered texts) where
  ordered := by
    rw [numbered, List.pairwise_map, ← List.pairwise_map (f := Prod.snd), List.zipIdx_map_snd]
    exact List.pairwise_lt_range'
  kept := by
    rintro ⟨n, t⟩ hmem
    exact h t (List.mem_of_getElem? (mem_numbered_iff.mp hmem).2)

/-! ## Cleaning once more -/

/-- Cleaning is idempotent up to layout. A document with what cleaning leaves of a source on the
lines that it stood on, and empty lines elsewhere, is cleaned to the same entries, however many
lines it has; and the texts one below the other are cleaned to themselves, numbered from one. -/
theorem clean_idempotent (marker source : String) :
    (∀ document, LaysOut (clean marker source) document →
      clean marker document = clean marker source) ∧
    (∀ size, 0 < size → (∀ entry ∈ clean marker source, entry.1 ≤ size) →
      ∃ document, (lines document.toList).length = size ∧
        LaysOut (clean marker source) document) ∧
    clean marker ("\n".intercalate ((clean marker source).map Prod.snd)) =
      numbered ((clean marker source).map Prod.snd) := by
  have hcleaned := isCleaned_clean marker source
  have hkept : ∀ t ∈ (clean marker source).map Prod.snd, IsKept marker t := by
    intro t ht
    obtain ⟨entry, hentry, rfl⟩ := List.mem_map.mp ht
    exact hcleaned.kept entry hentry
  refine ⟨fun document h => clean_of_laysOut hcleaned h, fun size hsize hlast => ?_, ?_⟩
  · refine ⟨blankedOut marker source size, ?_, laysOut_blankedOut hsize hlast⟩
    rw [lines_blankedOut hsize, List.length_map, List.length_map, List.length_range]
  · apply clean_of_laysOut (isCleaned_numbered hkept)
    exact laysOut_numbered fun t ht => (hkept t ht).oneLine

-- the entries of lines two and four, with an empty line behind them, and one below the other
example : clean "/" "\n add \n// x\n\tsub" = [(2, "add"), (4, "sub")] ∧
    clean "/" "\nadd\n\nsub\n" = [(2, "add"), (4, "sub")] ∧
    clean "/" "add\nsub" = [(1, "add"), (2, "sub")] := by
  decide +kernel

end HackFrontEnd.Source
