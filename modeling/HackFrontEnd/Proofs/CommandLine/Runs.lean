import HackFrontEnd.File.Folder
import HackFrontEnd.Proofs.CommandLine.Host
import HackFrontEnd.Proofs.FirstFailure

/-!
# What a run comes to

Everything that can become of a run of the tool that lists a source:

* `run_of_settle_error`, `run_of_read_error`, `run_eq_perform`: what it does with its arguments and
  with the environment;
* `input_cases`: what can become of the input, told apart by the first thing that is at fault;
* `perform_of_unreadable`, `perform_of_firstFailing`, `perform_of_lists`: what the run makes of
  each of these;
* `Undelivered`, `LetsOut`: the ways in which a fault gets past the run;
* `exits_iff`: a run ends with one of the exit codes, unless a fault gets past it in one of these.
-/

namespace HackFrontEnd.CommandLine.ListTool

variable {host : Host} {env : Environment} {args : List String} {r : Request}
  {settings : Settings}

/-! ## From arguments to a request -/

lemma run_of_settle_error {o : Outcome} (h : host.settle args = .error o) :
    run host env args = o := by
  rw [run, h]

/-- If looking up the name of an encoding fails outright, nothing handles that. -/
lemma run_of_read_error {message : String} (hasks : host.settle args = .ok r)
    (h : Settings.read host.codecs.isKnown env = .error message) :
    run host env args = { ending := .uncaught (.encoding message) } := by
  rw [run, hasks]
  simp only [h]

/-- A request that was made is performed. -/
lemma run_eq_perform (hasks : host.settle args = .ok r)
    (h : Settings.read host.codecs.isKnown env = .ok settings) :
    run host env args = perform host settings r := by
  rw [run, hasks]
  simp only [h]

/-! ## From a request to a listing -/

/-- The text of the input, read in the encoding of the settings. -/
def textOf (host : Host) (settings : Settings) (r : Request) : Except File.LoadError String :=
  File.readText host.codecs host.look settings.sourceEncoding (File.Path.tidy r.input)

/-- The instructions in a text of the input. -/
def instructionsOf (settings : Settings) (r : Request) (text : String) : List Instruction :=
  Source.instructions settings.commentMarker (File.Path.tidy r.input) text

/-- The entries are those of the instructions, every one of which can be described. -/
def Lists (instructions : List Instruction) (entries : List Listing.Entry) : Prop :=
  instructions.map Instruction.describe = entries.map .ok

/-- The instruction is the first that cannot be described, for this reason. -/
def FirstFailing (instructions : List Instruction) (i : Instruction) (e : ReadError) : Prop :=
  ∃ before after, instructions = before ++ i :: after ∧
    (∀ j ∈ before, ∃ entry, j.describe = .ok entry) ∧ i.describe = .error e

/-- There is one reason for the first failure. -/
lemma FirstFailing.unique {instructions : List Instruction} {i j : Instruction} {e e' : ReadError}
    (h : FirstFailing instructions i e) (h' : FirstFailing instructions j e') : e = e' := by
  obtain ⟨before, after, hsplit⟩ := h
  obtain ⟨before', after', hsplit'⟩ := h'
  -- describing one after the other ends with the first failure, and ends in one way
  have he := mapM_eq_error_iff.mpr ⟨before, i, after, hsplit⟩
  have he' := mapM_eq_error_iff.mpr ⟨before', j, after', hsplit'⟩
  exact Except.error.inj (he.symm.trans he')

/-- Either all instructions can be described, or there is a first that cannot. -/
lemma lists_or_firstFailing (instructions : List Instruction) :
    (∃ entries, Lists instructions entries) ∨ ∃ i e, FirstFailing instructions i e := by
  cases hentries : instructions.mapM Instruction.describe with
  | error e =>
    obtain ⟨before, i, after, hsplit⟩ := mapM_eq_error_iff.mp hentries
    exact .inr ⟨i, e, before, after, hsplit⟩
  | ok entries => exact .inl ⟨entries, mapM_eq_ok_iff.mp hentries⟩

/-- Instructions have one list of entries. -/
lemma Lists.unique {instructions : List Instruction} {entries entries' : List Listing.Entry}
    (h : Lists instructions entries) (h' : Lists instructions entries') : entries = entries' :=
  (List.map_inj_right fun _ _ => Except.ok.inj).mp (h.symm.trans h')

lemma Lists.length_eq {instructions : List Instruction} {entries : List Listing.Entry}
    (h : Lists instructions entries) : instructions.length = entries.length := by
  rw [← List.length_map Instruction.describe, h, List.length_map]

/-- Without a text nothing is logged. -/
lemma listing_of_unreadable {e : File.LoadError} (h : textOf host settings r = .error e) :
    listing host settings r.input = ([], .error (.load e)) := by
  have hload : File.load host.codecs host.look settings r.input = .error e := by
    rw [textOf] at h
    rw [File.load, h]
    rfl
  rw [listing, hload]

/-- The cursor over the instructions in a text of the input. -/
def cursorOn (settings : Settings) (r : Request) (text : String) : Cursor :=
  .ofSource settings.commentMarker (File.Path.tidy r.input) text

/-- What the error stream shows of the record of a source that was just read. -/
def openingLog (settings : Settings) (r : Request) (text : String) : String :=
  shownRecords settings r.verbose [(cursorOn settings r text).opened]

/-- With a text, the instructions are described one by one. -/
lemma listing_of_textOf {text : String} (h : textOf host settings r = .ok text) :
    listing host settings r.input =
      match (instructionsOf settings r text).mapM Instruction.describe with
      | .error e => ([(cursorOn settings r text).opened], .error (.ofReadError e))
      | .ok entries =>
        ([(cursorOn settings r text).opened, parsed entries.length (File.Path.tidy r.input)],
          .ok entries) := by
  have hload : File.load host.codecs host.look settings r.input =
      .ok (cursorOn settings r text) := by
    rw [textOf] at h
    rw [File.load, h]
    rfl
  rw [listing, hload]
  rfl

/-- What can become of the input of a request: it cannot be read, an instruction in it is the first
that cannot be described, or all of them can. -/
lemma input_cases (host : Host) (settings : Settings) (r : Request) :
    (∃ e, textOf host settings r = .error e) ∨
      (∃ text i e, textOf host settings r = .ok text ∧
        FirstFailing (instructionsOf settings r text) i e) ∨
      ∃ text entries, textOf host settings r = .ok text ∧
        Lists (instructionsOf settings r text) entries := by
  cases htext : textOf host settings r with
  | error e => exact .inl ⟨e, rfl⟩
  | ok text =>
    rcases lists_or_firstFailing (instructionsOf settings r text) with
      ⟨entries, hlists⟩ | ⟨i, e, hi⟩
    · exact .inr (.inr ⟨text, entries, rfl, hlists⟩)
    · exact .inr (.inl ⟨text, i, e, rfl, hi⟩)

/-! ## Outcomes of a request -/

lemma perform_of_unreadable {e : File.LoadError} (h : textOf host settings r = .error e) :
    perform host settings r = failed host.report r.verbose "" (.load e) := by
  rw [perform, listing_of_unreadable h]
  simp [shownRecords, failed]

/-- The first instruction that cannot be described is reported, below the record of the source. -/
lemma perform_of_firstFailing {text : String} {i : Instruction} {e : ReadError}
    (htext : textOf host settings r = .ok text)
    (h : FirstFailing (instructionsOf settings r text) i e) :
    perform host settings r =
      { ending := .exit (exitCodeOf (.ofReadError e))
        stderr := openingLog settings r text ++
          complaint host.report r.verbose "" (.ofReadError e) } := by
  obtain ⟨before, after, hsplit⟩ := h
  rw [perform, listing_of_textOf htext, mapM_eq_error_iff.mpr ⟨before, i, after, hsplit⟩]
  rfl

/-- With a list of entries, the listing is put out. -/
lemma perform_of_lists {text : String} {entries : List Listing.Entry}
    (htext : textOf host settings r = .ok text)
    (h : Lists (instructionsOf settings r text) entries) :
    ∃ log, perform host settings r = { deliver host r entries with stderr := log } := by
  rw [perform, listing_of_textOf htext, mapM_eq_ok_iff.mpr h]
  exact ⟨_, rfl⟩

/-! ## Putting out a listing -/

section Delivery

variable {entries : List Listing.Entry} {path : String}

/-- The text that a request for these entries puts out. -/
def content (host : Host) (r : Request) (entries : List Listing.Entry) : String :=
  rendered host.codePoint r.format entries ++ "\n"

/-- A text that the output stream takes is shown there, and nothing else happens. -/
lemma say_of_print {text shown : String} (h : host.print text = .ok shown) :
    host.say text = { stdout := shown } := by
  rw [Host.say, h]

lemma say_of_print_error {text : String} {i : Interruption String}
    (h : host.print text = .error i) :
    host.say text = { ending := .uncaught i.fault, stdout := i.left } := by
  rw [Host.say, h]

/-- Only the output stream keeps a text from being said. -/
lemma ending_say_eq_uncaught_iff {text : String} {f : Unhandled} :
    (host.say text).ending = .uncaught f ↔ ∃ i, host.print text = .error i ∧ i.fault = f := by
  cases hprint : host.print text with
  | ok shown => simp [say_of_print hprint]
  | error i => simp [say_of_print_error hprint]

/-- Saying a text writes no file. -/
lemma written_say (text : String) : (host.say text).written = none := by
  cases hprint : host.print text with
  | ok shown => rw [say_of_print hprint]
  | error i => rw [say_of_print_error hprint]

lemma deliver_of_no_output (h : r.output = none) :
    deliver host r entries = host.say (content host r entries) := by
  rw [deliver, h]
  rfl

/-- A file that cannot be written ends the run before anything is said. -/
lemma deliver_of_store_error {i : Interruption (Option String)} (h : r.output = some path)
    (hstore : host.store (File.Path.tidy path) (content host r entries) = .error i) :
    deliver host r entries =
      { ending := .uncaught i.fault, written := i.left.map (File.Path.tidy path, ·) } := by
  rw [content] at hstore
  rw [deliver, h]
  simp only [hstore]

/-- Once the file is written, only a verbose run has something to say. -/
lemma deliver_of_store (h : r.output = some path)
    (hstore : host.store (File.Path.tidy path) (content host r entries) = .ok ()) :
    deliver host r entries =
      { (if r.verbose then host.say (note entries.length (File.Path.tidy path)) else {}) with
        written := some (File.Path.tidy path, content host r entries) } := by
  rw [content] at hstore
  rw [deliver, h]
  simp only [hstore]
  rfl

/-- The ways in which a listing fails to be put out, and the faults that it then meets. None of them
is handled. -/
inductive Undelivered (host : Host) (r : Request) (entries : List Listing.Entry) : Unhandled → Prop
  /-- The output stream does not take the listing. -/
  | stream {i : Interruption String} (houtput : r.output = none)
    (hprint : host.print (content host r entries) = .error i) : Undelivered host r entries i.fault
  /-- The file cannot be written. -/
  | file {path : String} {i : Interruption (Option String)} (houtput : r.output = some path)
    (hstore : host.store (File.Path.tidy path) (content host r entries) = .error i) :
    Undelivered host r entries i.fault
  /-- The file is written, and the output stream does not take the note about it. -/
  | note {path : String} {i : Interruption String} (houtput : r.output = some path)
    (hstore : host.store (File.Path.tidy path) (content host r entries) = .ok ())
    (hverbose : r.verbose = true)
    (hprint : host.print (note entries.length (File.Path.tidy path)) = .error i) :
    Undelivered host r entries i.fault

/-- A fault in putting out a listing is that of the stream or that of the file. -/
theorem ending_deliver_eq_uncaught_iff {f : Unhandled} :
    (deliver host r entries).ending = .uncaught f ↔ Undelivered host r entries f := by
  constructor
  · intro h
    cases houtput : r.output with
    | none =>
      rw [deliver_of_no_output houtput] at h
      obtain ⟨i, hprint, rfl⟩ := ending_say_eq_uncaught_iff.mp h
      exact .stream houtput hprint
    | some path =>
      cases hstore : host.store (File.Path.tidy path) (content host r entries) with
      | error i =>
        rw [deliver_of_store_error houtput hstore] at h
        exact Ending.uncaught.inj h ▸ .file houtput hstore
      | ok _ =>
        rw [deliver_of_store houtput hstore] at h
        cases hverbose : r.verbose with
        -- a quiet run has nothing more to say, and so nothing more to fail at
        | false =>
          rw [hverbose] at h
          cases h
        | true =>
          rw [hverbose, if_pos rfl] at h
          obtain ⟨i, hprint, rfl⟩ := ending_say_eq_uncaught_iff.mp h
          exact .note houtput hstore hverbose hprint
  · rintro (⟨houtput, hprint⟩ | ⟨houtput, hstore⟩ | ⟨houtput, hstore, hverbose, hprint⟩)
    · rw [deliver_of_no_output houtput, say_of_print_error hprint]
    · rw [deliver_of_store_error houtput hstore]
    · rw [deliver_of_store houtput hstore, hverbose, if_pos rfl, say_of_print_error hprint]

end Delivery

/-! ## Endings -/

/-- The arguments make the request, and all of its input can be described, under these settings. -/
structure Describes (host : Host) (env : Environment) (args : List String) (r : Request)
    (settings : Settings) (text : String) (entries : List Listing.Entry) : Prop where
  asks : host.settle args = .ok r
  reads : Settings.read host.codecs.isKnown env = .ok settings
  decodes : textOf host settings r = .ok text
  lists : Lists (instructionsOf settings r text) entries

/-- Where all of the input can be described, a run does no more than put out the listing. -/
lemma Describes.run_eq {text : String} {entries : List Listing.Entry}
    (h : Describes host env args r settings text entries) :
    ∃ log, run host env args = { deliver host r entries with stderr := log } := by
  rw [run_eq_perform h.asks h.reads]
  exact perform_of_lists h.decodes h.lists

/-- The ways in which a fault gets past a run. -/
inductive LetsOut (host : Host) (env : Environment) (args : List String) : Unhandled → Prop
  /-- Already the arguments are at fault. -/
  | arguments {o : Outcome} {f : Unhandled} (hsettle : host.settle args = .error o)
    (hending : o.ending = .uncaught f) : LetsOut host env args f
  /-- It cannot be found out whether the name of an encoding is known. -/
  | settings {r : Request} {message : String} (hsettle : host.settle args = .ok r)
    (hread : Settings.read host.codecs.isKnown env = .error message) :
    LetsOut host env args (.encoding message)
  /-- A listing cannot be put out. -/
  | listing {r : Request} {settings : Settings} {text : String} {entries : List Listing.Entry}
    {f : Unhandled} (hdescribes : Describes host env args r settings text entries)
    (hdeliver : Undelivered host r entries f) : LetsOut host env args f

/-- These are the ways: reading and describing the input are in none of them. -/
theorem ending_eq_uncaught_iff {f : Unhandled} :
    (run host env args).ending = .uncaught f ↔ LetsOut host env args f := by
  constructor
  · intro h
    cases hsettle : host.settle args with
    | error o =>
      rw [run_of_settle_error hsettle] at h
      exact .arguments hsettle h
    | ok r =>
      cases hread : Settings.read host.codecs.isKnown env with
      | error message =>
        rw [run_of_read_error hsettle hread] at h
        exact Ending.uncaught.inj h ▸ .settings hsettle hread
      | ok settings =>
        rw [run_eq_perform hsettle hread] at h
        -- all faults of the input are handled, so what is left is putting out the listing
        rcases input_cases host settings r with ⟨e, htext⟩ | ⟨text, i, e, htext, hi⟩ |
          ⟨text, entries, htext, hlists⟩
        · rw [perform_of_unreadable htext] at h
          cases h
        · rw [perform_of_firstFailing htext hi] at h
          cases h
        · obtain ⟨log, hperform⟩ := perform_of_lists htext hlists
          rw [hperform] at h
          exact .listing ⟨hsettle, hread, htext, hlists⟩ (ending_deliver_eq_uncaught_iff.mp h)
  · rintro (⟨hsettle, hending⟩ | ⟨hsettle, hread⟩ | ⟨hdescribes, hdeliver⟩)
    · rw [run_of_settle_error hsettle, hending]
    · rw [run_of_read_error hsettle hread]
    · obtain ⟨log, hrun⟩ := hdescribes.run_eq
      rw [hrun]
      exact ending_deliver_eq_uncaught_iff.mpr hdeliver

/-- A run ends with one of the exit codes, unless a fault gets past it in one of the ways above.
That happens for the arguments only if one of them holds the null character. -/
theorem exits_iff (hhost : host.Lawful) (env : Environment) (args : List String) :
    ((∃ code, (run host env args).ending = .exit code ∧ code.number ∈ [0, 1, 2, 3]) ↔
        ¬∃ f, LetsOut host env args f) ∧
      (∀ f, (run host env args).ending = .uncaught f ↔ LetsOut host env args f) ∧
      ∀ o f, host.settle args = .error o → o.ending = .uncaught f →
        ∃ arg ∈ args, Text.holdsNull arg = true := by
  refine ⟨?_, fun f => ending_eq_uncaught_iff, fun o f hsettle hending => ?_⟩
  · simp only [← ending_eq_uncaught_iff]
    cases (run host env args).ending with
    | exit code => cases code <;> simp [ExitCode.number]
    | uncaught f => simp
  · obtain ⟨_, hexit | hexit | harg⟩ := hhost.settle_eq_error hsettle
    · rw [hexit] at hending
      cases hending
    · rw [hexit] at hending
      cases hending
    · exact harg

/-- A listing for a file in a directory that does not exist ends the run, and nothing handles
that. -/
theorem not_exit_of_missing_directory :
    let source : File.Folder := { files := [(["M.vm"], "add\n".toUTF8.toList)] }
    (run (.standard source.look {}) {} ["M.vm", "-o", "nodir/x"]).ending =
      .uncaught (.file (.notFound "nodir/x")) := by
  decide +kernel

/-- A file that may be read and not written lets its fault out as well. -/
theorem not_exit_of_read_only_output :
    let look : File.View := fun path =>
      if path = "M.vm" then .file "add\n".toUTF8.toList
      else if path = "x" then .file [] false
      else .missing
    LetsOut (.standard look {}) {} ["M.vm", "-o", "x"] (.file (.permissionDenied "x")) ∧
      ¬∃ code, (run (.standard look {}) {} ["M.vm", "-o", "x"]).ending = .exit code ∧
        code.number ∈ [0, 1, 2, 3] := by
  intro look
  obtain ⟨hexits, hways, _⟩ :=
    exits_iff (Host.lawful_standard look {}) {} ["M.vm", "-o", "x"]
  have hout : LetsOut (.standard look {}) {} ["M.vm", "-o", "x"]
      (.file (.permissionDenied "x")) := (hways _).mp (by decide +kernel)
  exact ⟨hout, fun hexit => hexits.mp hexit ⟨_, hout⟩⟩

end HackFrontEnd.CommandLine.ListTool
