import HackFrontEnd.Proofs.CommandLine.AllOrNothing
import HackFrontEnd.Proofs.Instruction.Grammar
import HackFrontEnd.Proofs.Json.Reader
import HackFrontEnd.Proofs.Json.Writing
import HackFrontEnd.Proofs.Source.Cleaning

/-!
# Listings in JSON

A listing in JSON holds line feeds and printable characters of ASCII alone, so no control sequence
is left out of it on a stream. Where the characters of a source stand for themselves, nothing is
lost: every reader of JSON finds the entries in it. A character that stands for half a surrogate
pair is another matter, since a pair of halves is written like the character that they make up.

* `tells_toJson`, `Tells.unique`: an object tells about one entry, field by field;
* `isLiteral_of_describe`: an entry says nothing in other characters than those of its source;
* `isText_jsonText`, `jsonText_inj`: what is written of a list of entries, and that it is the
  writing of no other list;
* `ListTool.putsOut_of_success`, `ListTool.ListsAsJson.out_eq`: what a run puts out that was asked
  for JSON;
* `ListTool.json_listing_reads_back`: what can be read in it;
* `ListTool.json_of_surrogate_pair`: two listings that are written alike.
-/

namespace HackFrontEnd

open Text

/-! ## Objects that tell about entries -/

namespace Listing

attribute [ext] Entry

/-- The members are the fields of the entry. What the entry leaves out is absent, and there is
nothing else. -/
structure AreFields (members : List (String × Json)) (e : Entry) : Prop where
  line : members.lookup "line" = some (.int e.line)
  kind : members.lookup "type" = some (.str e.kind)
  text : members.lookup "text" = some (.str e.text)
  arg1 : members.lookup "arg1" = e.arg1.map .str
  arg2 : members.lookup "arg2" = e.arg2.map .int
  keys : ∀ m ∈ members, m.1 ∈ ["line", "type", "text", "arg1", "arg2"]

/-- The value is an object with the fields of the entry. -/
def Tells (v : Json) (e : Entry) : Prop :=
  ∃ members, v = .object members ∧ AreFields members e

/-- An entry is written as an object that tells about it. -/
theorem tells_toJson (e : Entry) : Tells e.toJson e := by
  obtain ⟨line, kind, text, arg1, arg2⟩ := e
  refine ⟨_, rfl, ?_⟩
  cases arg1 <;> cases arg2 <;>
    exact ⟨rfl, rfl, rfl, rfl, rfl, by simp⟩

/-- An object tells about one entry. -/
theorem Tells.unique {v : Json} {e e' : Entry} (h : Tells v e) (h' : Tells v e') : e = e' := by
  obtain ⟨members, rfl, h⟩ := h
  obtain ⟨_, hmembers, h'⟩ := h'
  cases hmembers
  ext1
  · exact Json.int.inj (Option.some.inj (h.line.symm.trans h'.line))
  · exact Json.str.inj (Option.some.inj (h.kind.symm.trans h'.kind))
  · exact Json.str.inj (Option.some.inj (h.text.symm.trans h'.text))
  · exact Option.map_injective (fun _ _ => Json.str.inj) (h.arg1.symm.trans h'.arg1)
  · exact Option.map_injective (fun _ _ => Json.int.inj) (h.arg2.symm.trans h'.arg2)

lemma forall₂_tells (entries : List Entry) :
    List.Forall₂ Tells (entries.map Entry.toJson) entries := by
  induction entries with
  | nil => exact .nil
  | cons e entries ih => exact .cons (tells_toJson e) ih

/-- Different lists of entries have different values. -/
theorem json_inj {entries entries' : List Entry} (h : json entries = json entries') :
    entries = entries' := by
  have hlists : entries.map Entry.toJson = entries'.map Entry.toJson := Json.list.inj h
  have hone : ∀ e e' : Entry, e.toJson = e'.toJson → e = e' := fun e e' he =>
    (tells_toJson e).unique (he ▸ tells_toJson e')
  exact List.map_injective_iff.mpr hone hlists

/-! ## Characters of a listing -/

section Characters

variable {codePoint : Char → Nat}

/-- Characters of ASCII stand for themselves. -/
def LeavesAscii (codePoint : Char → Nat) : Prop :=
  ∀ c : Char, c.toNat < 0x80 → codePoint c = c.toNat

/-- Every character in the texts of the entry stands for itself. -/
structure Entry.IsLiteral (codePoint : Char → Nat) (e : Entry) : Prop where
  kind : Json.IsLiteralString codePoint e.kind
  text : Json.IsLiteralString codePoint e.text
  arg1 : ∀ a ∈ e.arg1, Json.IsLiteralString codePoint a

/-- A text of ASCII is one of characters that stand for themselves. -/
lemma isLiteralString_of_ascii (hascii : LeavesAscii codePoint) {s : String}
    (h : s.toList.all (·.toNat < 0x80) = true) : Json.IsLiteralString codePoint s :=
  fun c hc => hascii c (of_decide_eq_true (List.all_eq_true.mp h c hc))

/-- The keys of an object say nothing in other characters than those of ASCII. -/
lemma isLiteral_toJson (hascii : LeavesAscii codePoint) {e : Entry} (h : e.IsLiteral codePoint) :
    Json.IsLiteral codePoint e.toJson := by
  obtain ⟨members, hmembers, hfields⟩ := tells_toJson e
  have hkeys : ∀ key ∈ ["line", "type", "text", "arg1", "arg2"],
      key.toList.all (·.toNat < 0x80) = true := by
    decide
  rw [hmembers]
  refine .object (fun m hm => ?_) fun m hm => ?_
  · exact isLiteralString_of_ascii hascii (hkeys m.1 (hfields.keys m hm))
  -- the members are at most five, each with a text of the entry or a number
  · rw [Entry.toJson] at hmembers
    cases hmembers
    simp only [List.mem_append, List.mem_cons, Option.mem_toList, Option.map_eq_some_iff,
      List.not_mem_nil, or_false] at hm
    rcases hm with ((rfl | rfl | rfl) | ⟨a, ha, rfl⟩) | ⟨n, _, rfl⟩
    · exact .int e.line
    · exact .str h.kind
    · exact .str h.text
    · exact .str (h.arg1 a ha)
    · exact .int n

/-- The words of an instruction are made of characters of its text. -/
lemma isLiteralString_of_mem_words {i : Instruction}
    (htext : Json.IsLiteralString codePoint i.text) {w : String} (h : w ∈ i.words) :
    Json.IsLiteralString codePoint w := by
  obtain ⟨cs, hcs, rfl⟩ := List.mem_map.mp h
  intro c hc
  rw [String.toList_ofList] at hc
  exact htext c (subset_of_mem_words hcs hc)

/-- The names of types say nothing in other characters than those of ASCII either. -/
lemma isLiteralString_typeName (hascii : LeavesAscii codePoint) (s : Statement) :
    Json.IsLiteralString codePoint s.typeName := by
  refine isLiteralString_of_ascii hascii ?_
  rw [s.typeName_eq]
  cases s.kind <;> decide

/-- An entry says nothing in other characters than those of its instruction and of ASCII. -/
theorem isLiteral_of_describe (hascii : LeavesAscii codePoint) {i : Instruction} {e : Entry}
    (htext : Json.IsLiteralString codePoint i.text) (h : i.describe = .ok e) :
    e.IsLiteral codePoint := by
  obtain ⟨s, hsays, rfl⟩ := Instruction.describe_eq_ok_iff.mp h
  refine ⟨isLiteralString_typeName hascii s, htext, fun a ha => ?_⟩
  -- the first operand is one of the words
  have hmem : a ∈ i.words := by
    generalize hwords : i.words = words at hsays
    cases hsays <;> cases ha <;> simp
  exact isLiteralString_of_mem_words htext hmem

end Characters

/-! ## The text of a listing -/

lemma hasDistinctKeys_toJson (e : Entry) : e.toJson.HasDistinctKeys := by
  obtain ⟨line, kind, text, arg1, arg2⟩ := e
  refine .object ?_ ?_
  · cases arg1 <;> cases arg2 <;> simp
  · cases arg1 <;> cases arg2 <;> simp [Json.HasDistinctKeys.int, Json.HasDistinctKeys.str]

/-- No object of a listing has a key twice. -/
lemma hasDistinctKeys_json (entries : List Entry) : (json entries).HasDistinctKeys := by
  refine .list fun v hv => ?_
  obtain ⟨e, _, rfl⟩ := List.mem_map.mp hv
  exact hasDistinctKeys_toJson e

section Texts

variable {codePoint codePoint' : Char → Nat} {entries entries' : List Entry}

/-- The text of a listing, and the line feed that ends it. -/
def jsonText (codePoint : Char → Nat) (entries : List Entry) : String :=
  (json entries).text codePoint ++ "\n"

/-- Where characters stand for themselves, the text holds the listing. -/
lemma isText_jsonText (hascii : LeavesAscii codePoint) (h : ∀ e ∈ entries, e.IsLiteral codePoint) :
    Json.IsText (json entries) (jsonText codePoint entries) := by
  refine Json.isText_text (.list fun v hv => ?_) (Json.isGap_newline 0)
  obtain ⟨e, he, rfl⟩ := List.mem_map.mp hv
  exact isLiteral_toJson hascii (h e he)

/-- Whatever characters stand for, the text is plain. -/
lemma isPlain_jsonText (hlt : ∀ c, codePoint c < 0x110000) (entries : List Entry) :
    Json.IsPlain (jsonText codePoint entries).toList := by
  rw [jsonText, String.toList_append]
  exact Json.isPlain_append (Json.isPlain_text hlt _) (by decide)

/-- There is no control sequence to be left out. -/
lemma escape_not_mem_jsonText (hlt : ∀ c, codePoint c < 0x110000) (entries : List Entry) :
    ControlSequence.escape ∉ (jsonText codePoint entries).toList :=
  fun hescape => absurd (isPlain_jsonText hlt entries _ hescape) (by decide)

/-- Where characters stand for themselves, different lists of entries have different texts. -/
lemma jsonText_inj (hascii : LeavesAscii codePoint) (hascii' : LeavesAscii codePoint')
    (he : ∀ e ∈ entries, e.IsLiteral codePoint) (he' : ∀ e ∈ entries', e.IsLiteral codePoint')
    (h : jsonText codePoint entries = jsonText codePoint' entries') : entries = entries' :=
  json_inj ((isText_jsonText hascii he).unique (h ▸ isText_jsonText hascii' he'))

end Texts

end Listing

/-! ## Runs -/

namespace CommandLine.ListTool

open Listing

variable {host : Host} {env : Environment} {args : List String} {r : Request}
  {settings : Settings} {entries : List Entry} {text out : String}

/-- What a run puts where the request says: on the output stream, or in a file. -/
def PutsOut (r : Request) (o : Outcome) (out : String) : Prop :=
  match r.output with
  | none => o.stdout = out
  | some output => o.written = some (File.Path.tidy output, out)

lemma PutsOut.unique {o : Outcome} {out out' : String} (h : PutsOut r o out)
    (h' : PutsOut r o out') : out = out' := by
  rw [PutsOut] at h h'
  cases houtput : r.output with
  | none =>
    rw [houtput] at h h'
    exact h.symm.trans h'
  | some output =>
    rw [houtput] at h h'
    exact (Prod.mk.inj (Option.some.inj (h.symm.trans h'))).2

/-- A listing in JSON that is put out with success is put out as it is. -/
lemma putsOut_deliver (hhost : host.Lawful) (hformat : r.format = .json) (log : String)
    (h : (deliver host r entries).ending = .exit .success) :
    PutsOut r { deliver host r entries with stderr := log }
      (jsonText host.codePoint entries) := by
  have hcontent : content host r entries = jsonText host.codePoint entries := by
    rw [content, hformat]
    rfl
  cases houtput : r.output with
  | none =>
    rw [deliver_of_no_output houtput, hcontent] at h ⊢
    rw [PutsOut, houtput]
    cases hprint : host.print (jsonText host.codePoint entries) with
    | error i =>
      rw [say_of_print_error hprint] at h
      cases h
    | ok shown =>
      rw [say_of_print hprint]
      exact hhost.print_eq hprint (escape_not_mem_jsonText hhost.codePoint_lt entries)
  -- a file has the text as it is; the note about it goes to the stream
  | some path =>
    cases hstore : host.store (File.Path.tidy path) (content host r entries) with
    | ok _ => rw [deliver_of_store houtput hstore, PutsOut, houtput, hcontent]
    | error i =>
      rw [deliver_of_store_error houtput hstore] at h
      cases h

/-- No failure ends with success, so a request that succeeds comes to putting out a listing. -/
lemma perform_of_success (h : (perform host settings r).ending = .exit .success) :
    ∃ text entries log, textOf host settings r = .ok text ∧
      Lists (instructionsOf settings r text) entries ∧
      perform host settings r = { deliver host r entries with stderr := log } := by
  rcases input_cases host settings r with ⟨e, he⟩ | ⟨text, i, e, htext, hi⟩ |
    ⟨text, entries, htext, hlists⟩
  · rw [perform_of_unreadable he] at h
    exact absurd (Ending.exit.inj h) (exitCodeOf_ne_success _)
  · rw [perform_of_firstFailing htext hi] at h
    exact absurd (Ending.exit.inj h) (exitCodeOf_ne_success _)
  · obtain ⟨log, hperform⟩ := perform_of_lists htext hlists
    exact ⟨text, entries, log, htext, hlists, hperform⟩

/-- A run for JSON that succeeds puts out the text of all entries. -/
lemma putsOut_of_success (hhost : host.Lawful) (hformat : r.format = .json)
    (h : (perform host settings r).ending = .exit .success) :
    ∃ text entries, textOf host settings r = .ok text ∧
      Lists (instructionsOf settings r text) entries ∧
      PutsOut r (perform host settings r) (jsonText host.codePoint entries) := by
  obtain ⟨text, entries, log, htext, hlists, hperform⟩ := perform_of_success h
  rw [hperform] at h ⊢
  exact ⟨text, entries, htext, hlists, putsOut_deliver hhost hformat log h⟩

/-- The output stream of the standard host takes every listing in JSON, whatever its source
holds. -/
lemma exits_of_describes {look : File.View}
    (h : Describes (.standard look env) env args r settings text entries)
    (hformat : r.format = .json) (houtput : r.output = none) :
    (run (.standard look env) env args).ending = .exit .success := by
  have hhost := Host.lawful_standard look env
  obtain ⟨log, hrun⟩ := h.run_eq
  have hliteral : ∀ c ∈ (content (.standard look env) r entries).toList,
      (Host.standard look env).codePoint c = c.toNat := by
    intro c hc
    rw [content, hformat] at hc
    rcases isPlain_jsonText hhost.codePoint_lt entries c hc with rfl | ⟨_, hle⟩
    · exact hhost.codePoint_ascii (by decide)
    · exact hhost.codePoint_ascii (Nat.lt_of_le_of_lt hle (by decide))
  have hprint : (Host.standard look env).print (content (.standard look env) r entries) =
      .ok (plain (content (.standard look env) r entries)) :=
    Host.print_ofView_of_literal hliteral
  rw [hrun, deliver_of_no_output houtput, say_of_print hprint]

/-- A run for a listing in JSON that succeeds, the text and the entries of its input, and what it
puts out. -/
structure ListsAsJson (host : Host) (env : Environment) (args : List String) (text : String)
    (entries : List Entry) (out : String) : Prop where
  exits : (run host env args).ending = .exit .success
  describes : ∃ r settings, r.format = .json ∧ Describes host env args r settings text entries ∧
    PutsOut r (run host env args) out

/-- It is the text of these entries that is put out. -/
theorem ListsAsJson.out_eq (hhost : host.Lawful) (h : ListsAsJson host env args text entries out) :
    out = jsonText host.codePoint entries := by
  obtain ⟨hexit, r, settings, hformat, hdescribes, hout⟩ := h
  rw [run_eq_perform hdescribes.asks hdescribes.reads] at hexit hout
  obtain ⟨text', entries', htext', hlists', hout'⟩ := putsOut_of_success hhost hformat hexit
  cases hdescribes.decodes.symm.trans htext'
  rw [hdescribes.lists.unique hlists']
  exact hout.unique hout'

/-- If the characters of the input stand for themselves, so do those of its entries. -/
lemma isLiteral_of_lists (hhost : host.Lawful)
    (hlists : Lists (instructionsOf settings r text) entries)
    (htext : Json.IsLiteralString host.codePoint text) :
    ∀ e ∈ entries, e.IsLiteral host.codePoint := by
  intro e he
  have hmem : .ok e ∈ (instructionsOf settings r text).map Instruction.describe :=
    hlists ▸ List.mem_map_of_mem he
  obtain ⟨i, hi, hdescribe⟩ := List.mem_map.mp hmem
  refine isLiteral_of_describe (fun c => hhost.codePoint_ascii) (fun c hc => ?_) hdescribe
  exact htext c (Source.subset_of_mem_instructions hi hc)

/-- A listing in JSON holds line feeds and printable characters of ASCII alone. If every character
of the input stands for itself, every conforming reader finds a list in it, with an object for each
instruction in order that has the fields of its entry. So among such inputs the listings of
different entries are different, whatever they are listings of. -/
theorem json_listing_reads_back (hhost : host.Lawful) (hasks : host.settle args = .ok r)
    (hformat : r.format = .json) (hexit : (run host env args).ending = .exit .success) :
    ∃ settings text entries out,
      Settings.read host.codecs.isKnown env = .ok settings ∧ textOf host settings r = .ok text ∧
      (instructionsOf settings r text).map Instruction.describe = entries.map .ok ∧
      PutsOut r (run host env args) out ∧
      (∀ c ∈ out.toList, c = '\n' ∨ 0x20 ≤ c.toNat ∧ c.toNat ≤ 0x7E) ∧
      ((∀ c ∈ text.toList, host.codePoint c = c.toNat) →
        (∀ read, Json.Conforming read →
          ∃ values, read out = some (.list values) ∧ List.Forall₂ Tells values entries) ∧
        ∀ (host' : Host) env' args' text' entries', host'.Lawful →
          ListsAsJson host' env' args' text' entries' out →
          (∀ c ∈ text'.toList, host'.codePoint c = c.toNat) → entries' = entries) := by
  cases hread : Settings.read host.codecs.isKnown env with
  | error message =>
    rw [run_of_read_error hasks hread] at hexit
    cases hexit
  | ok settings =>
    rw [run_eq_perform hasks hread] at hexit ⊢
    obtain ⟨text, entries, htext, hlists, hout⟩ := putsOut_of_success hhost hformat hexit
    refine ⟨settings, text, entries, jsonText host.codePoint entries, rfl, htext, hlists, hout,
      isPlain_jsonText hhost.codePoint_lt entries, fun hliteral => ?_⟩
    have hascii : LeavesAscii host.codePoint := fun c => hhost.codePoint_ascii
    have he := isLiteral_of_lists hhost hlists hliteral
    constructor
    · intro read hconforming
      have hvalue := hconforming _ _ (hasDistinctKeys_json entries) (isText_jsonText hascii he)
      exact ⟨entries.map Entry.toJson, hvalue, forall₂_tells entries⟩
    · -- the other run put out the text of its own entries
      intro host' env' args' text' entries' hhost' hlistsAs hliteral'
      have hout' := hlistsAs.out_eq hhost'
      obtain ⟨_, r', settings', _, hdescribes, _⟩ := hlistsAs
      have hascii' : LeavesAscii host'.codePoint := fun c => hhost'.codePoint_ascii
      have he' := isLiteral_of_lists hhost' hdescribes.lists hliteral'
      exact jsonText_inj hascii' hascii he' he hout'.symm

/-- A quote, a backslash, a control character and one beyond the first plane come through, and
operands that are not there stay away. -/
theorem json_listing_of_awkward_label :
    let source : File.Folder :=
      { files := [(["M.vm"], "label \"\\\x01😀\nreturn\npush s 7\n".toUTF8.toList)] }
    let entries : List Entry :=
      [{ line := 1, kind := "LABEL", text := "label \"\\\x01😀", arg1 := some "\"\\\x01😀" },
        { line := 2, kind := "RETURN", text := "return" },
        { line := 3, kind := "PUSH", text := "push s 7", arg1 := some "s", arg2 := some 7 }]
    let out := (run (.standard source.look {}) {} ["-fjson", "M.vm"]).stdout
    Json.IsPlain out.toList ∧
      ∃ values, Json.read out = some (.list values) ∧ List.Forall₂ Tells values entries := by
  intro source entries out
  let host : Host := .standard source.look {}
  let r : Request := { input := "M.vm", format := .json }
  have hdescribes : Describes host {} ["-fjson", "M.vm"] r {}
      "label \"\\\x01😀\nreturn\npush s 7\n" entries :=
    ⟨by decide +kernel, rfl, by decide +kernel, by rw [Lists]; decide +kernel⟩
  obtain ⟨settings, text, entries', out', hsettings, htext, hlists, hout, hplain, hliteral⟩ :=
    json_listing_reads_back (Host.lawful_standard source.look {}) hdescribes.asks rfl
      (exits_of_describes hdescribes rfl rfl)
  cases hsettings
  cases hdescribes.decodes.symm.trans htext
  have hname : (Settings.ofEnvironmentKnowing Encoding.isKnown {}).sourceEncoding = "utf-8" := rfl
  have hutf8 : Encoding.ofName "utf-8" = .ok .utf8 := by decide +kernel
  obtain ⟨hread, _⟩ := hliteral fun c _ => Host.codePoint_standard hname hutf8 (by decide) c
  have hstdout : out = out' := hout
  rw [hstdout, hdescribes.lists.unique hlists]
  exact ⟨hplain, hread Json.read Json.conforming_read⟩

/-- Two halves of a pair and the character that they make up are different labels, and their
listings are the same text. -/
theorem json_of_surrogate_pair :
    let look : File.View := fun path =>
      if path = "halves.vm" then .file "label \\ud83d\\ude00\n".toUTF8.toList
      else if path = "whole.vm" then .file "label \\U0001f600\n".toUTF8.toList
      else .missing
    let env : Environment := { sourceEncoding := some "raw_unicode_escape" }
    let host : Host := .standard look env
    let halves := String.ofList [Encoding.standIn 0xD83D, Encoding.standIn 0xDE00]
    let entryOf (label : String) : Entry :=
      { line := 1, kind := "LABEL", text := "label " ++ label, arg1 := some label }
    host.codePoint (Encoding.standIn 0xD83D) = 0xD83D ∧
      host.codePoint (Encoding.standIn 0xDE00) = 0xDE00 ∧ entryOf halves ≠ entryOf "😀" ∧
      ∃ out,
        ListsAsJson host env ["-fjson", "halves.vm"] ("label " ++ halves ++ "\n")
          [entryOf halves] out ∧
        ListsAsJson host env ["-fjson", "whole.vm"] "label 😀\n" [entryOf "😀"] out := by
  intro look env host halves entryOf
  let settings : Settings := { sourceEncoding := "raw_unicode_escape" }
  have hlawful : host.Lawful := Host.lawful_standard look env
  have hreads : Settings.read host.codecs.isKnown env = .ok settings := by decide +kernel
  have hhalves : Describes host env ["-fjson", "halves.vm"]
      { input := "halves.vm", format := .json } settings ("label " ++ halves ++ "\n")
      [entryOf halves] :=
    ⟨by decide +kernel, hreads, by decide +kernel, by rw [Lists]; decide +kernel⟩
  have hwhole : Describes host env ["-fjson", "whole.vm"]
      { input := "whole.vm", format := .json } settings "label 😀\n" [entryOf "😀"] :=
    ⟨by decide +kernel, hreads, by decide +kernel, by rw [Lists]; decide +kernel⟩
  have hlistsHalves : ListsAsJson host env ["-fjson", "halves.vm"] ("label " ++ halves ++ "\n")
      [entryOf halves] (run host env ["-fjson", "halves.vm"]).stdout :=
    ⟨exits_of_describes hhalves rfl rfl, _, settings, rfl, hhalves, rfl⟩
  have hlistsWhole : ListsAsJson host env ["-fjson", "whole.vm"] "label 😀\n"
      [entryOf "😀"] (run host env ["-fjson", "whole.vm"]).stdout :=
    ⟨exits_of_describes hwhole rfl rfl, _, settings, rfl, hwhole, rfl⟩
  have hsame :
      jsonText host.codePoint [entryOf halves] = jsonText host.codePoint [entryOf "😀"] := by
    decide +kernel
  have hout :=
    (hlistsHalves.out_eq hlawful).trans (hsame.trans (hlistsWhole.out_eq hlawful).symm)
  exact ⟨by decide +kernel, by decide +kernel, by decide +kernel, _, hout ▸ hlistsHalves,
    hlistsWhole⟩

end CommandLine.ListTool

end HackFrontEnd
