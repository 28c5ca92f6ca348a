import HackFrontEnd.Proofs.CommandLine.Runs
import HackFrontEnd.Proofs.Text.Numeral
import Mathlib.Control.Monad.Basic

/-!
# Verbose runs

How much a run tells about itself does not change what it does. Two runs that differ in the level of
the log alone, or in that one of them is verbose, differ on the error stream at most; but a verbose
run notes on the output stream that it wrote a file.

* `read_logLevel`, `perform_logLevel`: the level of the log is no more than that;
* `perform_verbose`: what becomes of one request in a quiet and in a verbose run;
* `verbosity_affects_errors_only`: what becomes of any arguments on a lawful host;
* `note_without_control_sequence`: on the standard host the note loses its control sequences.
-/

namespace HackFrontEnd.CommandLine

/-- The outcomes differ on the error stream at most. -/
structure Outcome.SameApartFromErrors (o o' : Outcome) : Prop where
  ending : o.ending = o'.ending
  stdout : o.stdout = o'.stdout
  written : o.written = o'.written

lemma Outcome.SameApartFromErrors.refl (o : Outcome) : o.SameApartFromErrors o :=
  ⟨rfl, rfl, rfl⟩

namespace ListTool

variable {host : Host} {env : Environment} {args : List String} {r : Request}
  {settings : Settings}

/-! ## The level of the log -/

/-- The level of the log has no say in whether settings can be read, nor in the other settings. -/
lemma read_logLevel (isKnown : String → Except String Bool) (env : Environment)
    (level : Option String) :
    Settings.read isKnown { env with logLevel := level } =
      (Settings.read isKnown env).map fun settings =>
        { settings with logLevel := ((level.bind Settings.levelOf?).getD .warning).name } := by
  obtain ⟨marker, oldLevel, encoding⟩ := env
  rw [Settings.read, Settings.read]
  cases encoding with
  | none => rfl
  | some name =>
    by_cases hempty : name = ""
    · subst hempty
      rfl
    · simp only
      -- the name of the encoding is what reading the settings may fail at
      cases isKnown name <;> rfl

/-- The level of the log is the level of the log alone. -/
lemma perform_logLevel (host : Host) (settings : Settings) (level : String) (r : Request) :
    (perform host { settings with logLevel := level } r).SameApartFromErrors
      (perform host settings r) :=
  ⟨rfl, rfl, rfl⟩

/-- The level of the log has a say in the error stream of a run, and in nothing else. -/
lemma run_logLevel (host : Host) (env : Environment) (level : Option String)
    (args : List String) :
    (run host { env with logLevel := level } args).SameApartFromErrors (run host env args) := by
  cases hsettle : host.settle args with
  | error o =>
    rw [run_of_settle_error hsettle, run_of_settle_error hsettle]
    exact .refl o
  | ok r =>
    have hlevel := read_logLevel host.codecs.isKnown env level
    cases hread : Settings.read host.codecs.isKnown env with
    | error message =>
      rw [hread] at hlevel
      rw [run_of_read_error hsettle hlevel, run_of_read_error hsettle hread]
      exact .refl _
    | ok settings =>
      rw [hread] at hlevel
      rw [run_eq_perform hsettle hlevel, run_eq_perform hsettle hread]
      exact perform_logLevel host settings _ r

/-! ## The option for a verbose run -/

/-- A quiet run of a request that succeeds and writes its file. -/
structure WritesQuietly (host : Host) (settings : Settings) (r : Request) (text : String)
    (entries : List Listing.Entry) (path : String) : Prop where
  quiet : r.verbose = false
  decodes : textOf host settings r = .ok text
  lists : Lists (instructionsOf settings r text) entries
  output : r.output = some path
  stores : host.store (File.Path.tidy path) (content host r entries) = .ok ()

/-- Such a run says nothing, whereas a verbose run of the request notes what it did. -/
lemma WritesQuietly.perform_eq {text path : String} {entries : List Listing.Entry}
    (h : WritesQuietly host settings r text entries path) :
    (∃ log, perform host settings r =
      { stderr := log
        written := some (File.Path.tidy path, content host r entries) }) ∧
    ∃ log, perform host settings { r with verbose := true } =
      { host.say (note entries.length (File.Path.tidy path)) with
        stderr := log
        written := some (File.Path.tidy path, content host r entries) } := by
  let loud : Request := { r with verbose := true }
  have hloud : textOf host settings loud = .ok text := h.decodes
  obtain ⟨log, hperform⟩ := perform_of_lists h.decodes h.lists
  obtain ⟨log', hperform'⟩ := perform_of_lists hloud h.lists
  have hstores : host.store (File.Path.tidy path) (content host loud entries) = .ok () := h.stores
  rw [hperform, hperform', deliver_of_store h.output h.stores,
    deliver_of_store (r := loud) h.output hstores, h.quiet]
  exact ⟨⟨log, rfl⟩, log', rfl⟩

/-- A verbose run of a request differs from a quiet one on the error stream alone, unless the quiet
one writes its file. -/
lemma perform_verbose (host : Host) (settings : Settings) (hquiet : r.verbose = false) :
    (∃ text entries path, WritesQuietly host settings r text entries path) ∨
      (((perform host settings r).ending ≠ .exit .success ∨
          (perform host settings r).written = none) ∧
        (perform host settings { r with verbose := true }).SameApartFromErrors
          (perform host settings r)) := by
  let loud : Request := { r with verbose := true }
  -- what is read and described does not depend on how much is told about it
  have hinput : textOf host settings loud = textOf host settings r := rfl
  rcases input_cases host settings r with ⟨e, htext⟩ | ⟨text, i, e, htext, hi⟩ |
    ⟨text, entries, htext, hlists⟩
  · rw [perform_of_unreadable htext, perform_of_unreadable (hinput.trans htext)]
    exact .inr ⟨.inr rfl, rfl, rfl, rfl⟩
  · rw [perform_of_firstFailing htext hi, perform_of_firstFailing (hinput.trans htext) hi]
    exact .inr ⟨.inr rfl, rfl, rfl, rfl⟩
  · obtain ⟨log, hperform⟩ := perform_of_lists htext hlists
    obtain ⟨log', hperform'⟩ := perform_of_lists (hinput.trans htext) hlists
    rw [hperform, hperform']
    cases houtput : r.output with
    | none =>
      rw [deliver_of_no_output houtput, deliver_of_no_output (r := loud) houtput]
      exact .inr ⟨.inr (written_say _), rfl, rfl, rfl⟩
    | some path =>
      cases hstore : host.store (File.Path.tidy path) (content host r entries) with
      | ok _ => exact .inl ⟨text, entries, path, hquiet, htext, hlists, houtput, hstore⟩
      | error i =>
        rw [deliver_of_store_error houtput hstore,
          deliver_of_store_error (r := loud) houtput hstore]
        exact .inr ⟨.inl (by rintro ⟨⟩), rfl, rfl, rfl⟩

/-! ## What becomes of arguments -/

/-- If there is no request for a quiet run, the option for a verbose run says nothing new. -/
lemma run_verbose_of_not_quiet (hhost : host.Lawful)
    (h : ∀ r, host.settle args = .ok r → r.verbose = true) :
    run host env ("-v" :: args) = run host env args := by
  have hverbose := hhost.settle_verbose args
  cases hsettle : host.settle args with
  | error o =>
    rw [hsettle] at hverbose
    rw [run_of_settle_error hverbose, run_of_settle_error hsettle]
  | ok r =>
    rw [hsettle] at hverbose
    have hsame : host.settle ("-v" :: args) = .ok r := by
      rw [hverbose, ← h r hsettle]
      rfl
    rw [run, run, hsame, hsettle]

/-- A request that is made is made with the option for a verbose run, too, as a verbose one. -/
lemma settle_verbose_of_settle (hhost : host.Lawful) (h : host.settle args = .ok r) :
    host.settle ("-v" :: args) = .ok { r with verbose := true } := by
  rw [hhost.settle_verbose, h]
  rfl

/-- Without an escape in the name of the file there is none in the note about it. -/
lemma escape_not_mem_note {path : String} (h : Text.ControlSequence.escape ∉ path.toList)
    (count : Nat) : Text.ControlSequence.escape ∉ (note count path).toList := by
  have hcount : Text.ControlSequence.escape ∉ (Text.Decimal.ofInt count).toList :=
    Text.Decimal.not_mem_ofInt (by decide) (by decide) count
  have hnumeral : Text.Decimal.ofInt count = Text.Decimal.ofNat count := rfl
  rw [hnumeral] at hcount
  simp only [note, String.toList_append, List.mem_append, not_or]
  exact ⟨⟨⟨⟨by decide, hcount⟩, by decide⟩, h⟩, by decide⟩

/-- Where settings cannot be read, a request for a quiet run comes to the same with the option for a
verbose one. It is performed as a verbose request otherwise. -/
lemma run_verbose_of_quiet (hhost : host.Lawful) (env : Environment)
    (hasks : host.settle args = .ok r) :
    (∃ message, run host env args = { ending := .uncaught (.encoding message) } ∧
      run host env ("-v" :: args) = run host env args) ∨
    ∃ settings, Settings.read host.codecs.isKnown env = .ok settings ∧
      run host env args = perform host settings r ∧
      run host env ("-v" :: args) = perform host settings { r with verbose := true } := by
  have hloud := settle_verbose_of_settle hhost hasks
  cases hread : Settings.read host.codecs.isKnown env with
  | error message =>
    rw [run_of_read_error hasks hread, run_of_read_error hloud hread]
    exact .inl ⟨message, rfl, rfl⟩
  | ok settings =>
    exact .inr ⟨settings, rfl, run_eq_perform hasks hread, run_eq_perform hloud hread⟩

/-- The note is put out if the output stream takes it, and cuts the verbose run short otherwise. -/
lemma WritesQuietly.note_of_verbose (hhost : host.Lawful) {source path : String}
    {entries : List Listing.Entry} (h : WritesQuietly host settings r source entries path) :
    let noted := note (instructionsOf settings r source).length (File.Path.tidy path)
    let loud := perform host settings { r with verbose := true }
    (∀ shown, host.print noted = .ok shown →
      loud.ending = .exit .success ∧ loud.stdout = shown ∧
        (Text.ControlSequence.escape ∉ (File.Path.tidy path).toList → loud.stdout = noted)) ∧
    ∀ i, host.print noted = .error i →
      loud.ending = .uncaught i.fault ∧ loud.stdout = i.left := by
  obtain ⟨_, log, hperform⟩ := h.perform_eq
  rw [h.lists.length_eq, hperform]
  intro noted loud
  refine ⟨fun shown hprint => ?_, fun i hprint => ?_⟩
  · simp only [loud, noted, say_of_print hprint]
    exact ⟨trivial, trivial, fun hescape => hhost.print_eq hprint (escape_not_mem_note hescape _)⟩
  · simp only [loud, noted, say_of_print_error hprint, and_self]

/-- The quiet run exits with success, and it has written a file. -/
def HasWritten (o : Outcome) : Prop :=
  o.ending = .exit .success ∧ o.written ≠ none

/-- The level of the log has a say in the error stream alone. The same holds of the option for a
verbose run, except where there would be a quiet run otherwise that exits with success and writes
its file: then the verbose run also puts a note about it on the output stream, which may cut it
short if it does not take the note. If it takes it, the note loses control sequences at most. -/
theorem verbosity_affects_errors_only (hhost : host.Lawful) (env : Environment)
    (args : List String) :
    (∀ level, (run host { env with logLevel := level } args).SameApartFromErrors
      (run host env args)) ∧
    let quiet := run host env args
    let loud := run host env ("-v" :: args)
    loud.written = quiet.written ∧
      (∀ r path text, host.settle args = .ok r → r.verbose = false →
        quiet.ending = .exit .success → quiet.written = some (path, text) →
          r.output.map File.Path.tidy = some path ∧ quiet.stdout = "" ∧
          ∃ settings source, Settings.read host.codecs.isKnown env = .ok settings ∧
            textOf host settings r = .ok source ∧
            let noted := note (instructionsOf settings r source).length path
            (∀ shown, host.print noted = .ok shown →
              loud.ending = .exit .success ∧ loud.stdout = shown ∧
                (Text.ControlSequence.escape ∉ path.toList → loud.stdout = noted)) ∧
            ∀ i, host.print noted = .error i →
              loud.ending = .uncaught i.fault ∧ loud.stdout = i.left) ∧
      ((¬∃ r, host.settle args = .ok r ∧ r.verbose = false ∧ HasWritten quiet) →
        loud.ending = quiet.ending ∧ loud.stdout = quiet.stdout) := by
  refine ⟨fun level => run_logLevel host env level args, ?_⟩
  intro quiet loud
  -- only a request for a quiet run can become another one by the option
  by_cases hexists : ∃ r, host.settle args = .ok r ∧ r.verbose = false
  · obtain ⟨r, hasks, hverbose⟩ := hexists
    rcases run_verbose_of_quiet hhost env hasks with
      ⟨message, hquiet, hsame⟩ | ⟨settings, hread, hquiet, hloud⟩
    · rw [show loud = quiet from hsame]
      refine ⟨rfl, fun _ _ _ _ _ hexit => ?_, fun _ => ⟨rfl, rfl⟩⟩
      rw [show quiet = _ from hquiet] at hexit
      contradiction
    · rw [show quiet = _ from hquiet, show loud = _ from hloud]
      rcases perform_verbose host settings hverbose with
        ⟨source, entries, path, hwrites⟩ | ⟨hnot, hending, hstdout, hwritten⟩
      · have hnote := hwrites.note_of_verbose hhost
        obtain ⟨⟨log, hperform⟩, log', hperform'⟩ := hwrites.perform_eq
        rw [hperform] at hquiet ⊢
        refine ⟨by rw [hperform'], fun r' path' text' hasks' _ _ hsome => ?_, fun hnot => ?_⟩
        · obtain ⟨rfl, rfl⟩ := Prod.mk.inj (Option.some.inj hsome)
          cases hasks.symm.trans hasks'
          exact ⟨by rw [hwrites.output]; rfl, rfl, settings, source, hread, hwrites.decodes, hnote⟩
        · exact absurd ⟨r, hasks, hverbose, rfl, Option.some_ne_none _⟩ hnot
      · -- nothing was written in the end, so there is nothing to note
        refine ⟨hwritten, fun _ _ _ _ _ hexit hsome => ?_, fun _ => ⟨hending, hstdout⟩⟩
        rcases hnot with hfails | hnone
        · exact absurd hexit hfails
        · rw [hnone] at hsome
          contradiction
  · have hall (r : Request) (hasks : host.settle args = .ok r) : r.verbose = true := by
      rw [← Bool.not_eq_false]
      exact fun hverbose => hexists ⟨r, hasks, hverbose⟩
    have hsame : loud = quiet := run_verbose_of_not_quiet hhost hall
    rw [hsame]
    exact ⟨rfl, fun r _ _ hasks hverbose => absurd ⟨r, hasks, hverbose⟩ hexists,
      fun _ => ⟨rfl, rfl⟩⟩

/-- Where a character of a file name is no more than half of a pair, the file is written all the
same, and the verbose run comes to its end over the note. -/
theorem note_of_untold_name :
    let source : File.Folder := { files := [(["M.vm"], "add\n".toUTF8.toList)] }
    let host : Host := .ofView source.look fun c => if c = '\uFFFD' then 0xDCFF else c.toNat
    let quiet := run host {} ["M.vm", "-o", "\uFFFD"]
    let loud := run host {} ["-v", "M.vm", "-o", "\uFFFD"]
    quiet.ending = .exit .success ∧ loud.written = quiet.written ∧
      loud.ending = .uncaught (.encoding ("'utf-8' codec can't encode character '\\udcff' " ++
        "in position 20: surrogates not allowed")) := by
  intro source host quiet loud
  have hlawful : host.Lawful := by
    refine Host.lawful_ofView source.look (fun c => ?_) fun c hc => if_neg ?_
    · split
      · decide
      · exact Text.toNat_lt c
    · rintro rfl
      exact absurd hc (by decide)
  let r : Request := { input := "M.vm", output := some "\uFFFD" }
  have hasks : host.settle ["M.vm", "-o", "\uFFFD"] = .ok r := by decide +kernel
  have hexit : quiet.ending = .exit .success := by decide +kernel
  have hwritten : quiet.written = some ("\uFFFD", "    1  ARITHMETIC  add\n") := by decide +kernel
  obtain ⟨_, hsame, hnotes, _⟩ :=
    verbosity_affects_errors_only hlawful {} ["M.vm", "-o", "\uFFFD"]
  obtain ⟨_, _, settings, text, hread, htext, _, hfault⟩ :=
    hnotes r _ _ hasks rfl hexit hwritten
  have htext' : textOf host {} r = .ok "add\n" := by decide +kernel
  cases hread
  cases htext.symm.trans htext'
  exact ⟨hexit, hsame, (hfault ⟨.encoding _, ""⟩ (by decide +kernel)).1⟩

/-- The note on a file whose name holds a control sequence does not have the name as it is. -/
theorem note_without_control_sequence :
    let source : File.Folder := { files := [(["M.vm"], "add\n".toUTF8.toList)] }
    let host : Host := .standard source.look {}
    let quiet := run host {} ["M.vm", "-o", "\x1b[31mx"]
    let loud := run host {} ["-v", "M.vm", "-o", "\x1b[31mx"]
    quiet.written = some ("\x1b[31mx", "    1  ARITHMETIC  add\n") ∧
      loud.stdout ≠ quiet.stdout ++ "Wrote 1 commands to \x1b[31mx\n" ∧
      loud.stdout = quiet.stdout ++ "Wrote 1 commands to x\n" := by
  decide +kernel

end ListTool

end HackFrontEnd.CommandLine
