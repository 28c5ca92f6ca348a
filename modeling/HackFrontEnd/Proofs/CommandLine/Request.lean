import HackFrontEnd.CommandLine.StandardHost
import HackFrontEnd.Proofs.CommandLine.Arguments

/-!
# Requests

When arguments make a request to list a source, and which requests can be made, where the tool reads
its arguments as `settle` does:

* `request_eq_ok_iff`: all that is checked before anything is read;
* `settle_arguments`, `valid_of_settle`: some arguments make a request exactly if the input is a
  file, the output is no directory and both may be opened;
* `settle_of_not_valid`: the arguments of any other request are refused;
* `settle_eq_error`: what becomes of arguments that make no request;
* `settle_verbose`: asking for a verbose run asks for nothing else.
-/

namespace HackFrontEnd.CommandLine.ListTool

variable {look : File.View} {args : List String} {a : Arguments Switch} {r : Request}

/-! ## Checks of paths -/

/-- A path is looked up unless it holds the null character. -/
lemma lookUp_eq_ok_iff {path : String} {found : File.Access} :
    lookUp look path = .ok found ↔ Text.holdsNull path = false ∧ look path = found := by
  rw [lookUp, File.pathFault?]
  cases Text.holdsNull path with
  | true =>
    constructor
    · intro h
      cases h
    · rintro ⟨h, _⟩
      cases h
  | false => exact ⟨fun h => ⟨rfl, Except.ok.inj h⟩, fun h => congrArg Except.ok h.2⟩

/-- Only the null character keeps a path from being looked up. -/
lemma lookUp_eq_error {path : String} {e : Refusal} (h : lookUp look path = .error e) :
    e = .path .nullInPath ∧ Text.holdsNull path = true := by
  rw [lookUp, File.pathFault?] at h
  cases hnull : Text.holdsNull path with
  | true =>
    rw [hnull] at h
    exact ⟨(Except.error.inj h).symm, rfl⟩
  | false =>
    rw [hnull] at h
    cases h

/-- There is a file that may be opened, even if its bytes cannot be read then. -/
def IsFile (found : File.Access) : Prop :=
  (∃ bytes writable, found = .file bytes writable) ∨ ∃ message, found = .unreadable message

/-- The input passes its check if it is a file that may be opened. -/
lemma checkInput_eq_ok_iff {path : String} :
    checkInput look path = .ok () ↔ Text.holdsNull path = false ∧ IsFile (look path) := by
  rw [checkInput, bind_eq_ok_iff]
  constructor
  · rintro ⟨found, hfound, hcheck⟩
    obtain ⟨hnull, rfl⟩ := lookUp_eq_ok_iff.mp hfound
    refine ⟨hnull, ?_⟩
    cases hlook : look path with
    | file bytes writable => exact .inl ⟨bytes, writable, rfl⟩
    | unreadable message => exact .inr ⟨message, rfl⟩
    | missing | notDirectory | nameTooLong | directory | denied =>
      rw [hlook] at hcheck
      cases hcheck
  · rintro ⟨hnull, ⟨bytes, writable, hfile⟩ | ⟨message, hfile⟩⟩
    · exact ⟨.file bytes writable, lookUp_eq_ok_iff.mpr ⟨hnull, hfile⟩, rfl⟩
    · exact ⟨.unreadable message, lookUp_eq_ok_iff.mpr ⟨hnull, hfile⟩, rfl⟩

/-- The output passes its check if it is no directory and may be opened, as far as it is there. -/
lemma checkOption_output_eq_ok_iff {path : String} (hpath : a.value? .output = some path) :
    checkOption look a .output = .ok () ↔
      Text.holdsNull path = false ∧ look path ≠ .directory ∧ look path ≠ .denied := by
  rw [checkOption, hpath]
  show (lookUp look path >>= _) = _ ↔ _
  rw [bind_eq_ok_iff]
  constructor
  · rintro ⟨found, hfound, hcheck⟩
    obtain ⟨hnull, rfl⟩ := lookUp_eq_ok_iff.mp hfound
    refine ⟨hnull, fun hdirectory => ?_, fun hdenied => ?_⟩
    · rw [hdirectory] at hcheck
      cases hcheck
    · rw [hdenied] at hcheck
      cases hcheck
  · rintro ⟨hnull, hdirectory, hdenied⟩
    refine ⟨look path, lookUp_eq_ok_iff.mpr ⟨hnull, rfl⟩, ?_⟩
    cases hlook : look path with
    | directory => exact absurd hlook hdirectory
    | denied => exact absurd hlook hdenied
    | missing | notDirectory | nameTooLong | unreadable _ | file _ _ => rfl

/-! ## Making a request -/

/-- A request is made if all options and the input pass their checks, and there is one operand. -/
theorem request_eq_ok_iff :
    request look a = .ok r ↔
      (∀ option ∈ a.distinct, checkOption look a option = .ok ()) ∧ a.operands = [r.input] ∧
        checkInput look r.input = .ok () ∧ formatOf a = .ok r.format ∧
        r.output = a.value? .output ∧ r.verbose = a.has .verbose := by
  -- one step of the checks after the other, in the order in which they are made
  rw [request, bind_eq_ok_iff]
  constructor
  · rintro ⟨⟨⟩, hoptions, hrest⟩
    refine ⟨forM_eq_ok_iff.mp hoptions, ?_⟩
    split at hrest
    · cases hrest
    · rename_i input surplus hoperands
      obtain ⟨⟨⟩, hinput, hrest⟩ := bind_eq_ok_iff.mp hrest
      cases surplus with
      | cons _ _ => cases hrest
      | nil =>
        obtain ⟨format, hformat, hrest⟩ := bind_eq_ok_iff.mp hrest
        rw [← Except.ok.inj hrest]
        exact ⟨hoperands, hinput, hformat, rfl, rfl⟩
  · rintro ⟨hoptions, hoperands, hinput, hformat, houtput, hverbose⟩
    refine ⟨(), forM_eq_ok_iff.mpr hoptions, ?_⟩
    rw [hoperands]
    show (checkInput look r.input >>= _) = _
    rw [hinput]
    show (formatOf a >>= _) = _
    rw [hformat, show r = ⟨r.input, a.value? .output, r.format, a.has .verbose⟩ from
      houtput ▸ hverbose ▸ rfl]
    rfl

/-- The value of an option was given with it. -/
lemma mem_options_of_value? {option : Switch} {value : String} (h : a.value? option = some value) :
    ∃ given ∈ a.options, given.option = option ∧ given.value = some value := by
  obtain ⟨given, hfound, hvalue⟩ := Option.bind_eq_some_iff.mp h
  have hmem : given ∈ a.options := List.mem_reverse.mp (List.mem_of_find?_eq_some hfound)
  have hoption := List.find?_some hfound
  exact ⟨given, hmem, eq_of_beq hoption, hvalue⟩

/-- An option that has a value is among those that are checked. -/
lemma mem_distinct_of_value? {option : Switch} {value : String}
    (h : a.value? option = some value) : option ∈ a.distinct := by
  obtain ⟨given, hmem, hoption, _⟩ := mem_options_of_value? h
  rw [Arguments.distinct, List.mem_eraseDups]
  exact List.mem_map.mpr ⟨given, hmem, hoption⟩

/-- The arguments are read, and they do not ask the tool about itself. -/
def Reads (args : List String) (a : Arguments Switch) : Prop :=
  readArguments tool.specs args = .ok a ∧ a.options.findSome? (tool.notice? ·.option) = none

/-- Arguments make a request if what is read in them does. -/
lemma settle_eq_ok_iff : settle look args = .ok r ↔ ∃ a, Reads args a ∧ request look a = .ok r := by
  rw [settle, Tool.settle]
  constructor
  · intro h
    split at h
    · contradiction
    · rename_i a hread
      split at h
      · contradiction
      · rename_i hnotice
        split at h
        · rename_i hrequest
          exact ⟨a, ⟨hread, hnotice⟩, Except.ok.inj h ▸ hrequest⟩
        · contradiction
        · contradiction
  · rintro ⟨a, ⟨hread, hnotice⟩, hrequest⟩
    rw [hread]
    simp only [hnotice, hrequest]

/-- Arguments that are read and make no request for a fault in their use are refused. -/
lemma settle_of_usage {f : UsageFault} (h : Reads args a)
    (hrequest : request look a = .error (.usage f)) :
    settle look args = .error (tool.refuse f) := by
  rw [settle, Tool.settle, h.1]
  simp only [h.2, hrequest]

/-! ## Valid requests -/

/-- No path of the request holds the null character. -/
structure Request.NamesPaths (r : Request) : Prop where
  input : Text.holdsNull r.input = false
  output : ∀ output ∈ r.output, Text.holdsNull output = false

/-- The input is a file and the output is no directory, and as far as they are there, both may be
opened. -/
structure Request.Valid (look : File.View) (r : Request) : Prop where
  namesPaths : r.NamesPaths
  input_isFile : IsFile (look r.input)
  output_not_directory : ∀ output ∈ r.output, look output ≠ .directory
  output_not_denied : ∀ output ∈ r.output, look output ≠ .denied

/-- What was checked makes a request valid. -/
lemma valid_of_request (h : request look a = .ok r) : r.Valid look := by
  obtain ⟨hoptions, _, hinput, _, houtput, _⟩ := request_eq_ok_iff.mp h
  obtain ⟨hnull, hfile⟩ := checkInput_eq_ok_iff.mp hinput
  have hcheck : ∀ output ∈ r.output, Text.holdsNull output = false ∧
      look output ≠ .directory ∧ look output ≠ .denied := by
    intro output hmem
    have hvalue : a.value? .output = some output := houtput ▸ hmem
    have hchecked := hoptions .output (mem_distinct_of_value? hvalue)
    exact (checkOption_output_eq_ok_iff hvalue).mp hchecked
  exact ⟨⟨hnull, fun o ho => (hcheck o ho).1⟩, hfile, fun o ho => (hcheck o ho).2.1,
    fun o ho => (hcheck o ho).2.2⟩

/-- Only valid requests are made. -/
theorem valid_of_settle (h : settle look args = .ok r) : r.Valid look := by
  obtain ⟨a, _, hrequest⟩ := settle_eq_ok_iff.mp h
  exact valid_of_request hrequest

/-! ## Arguments for a request -/

/-- Arguments for a request. The input is kept from being taken for an option. -/
def Request.arguments (r : Request) : List String :=
  ["--format", r.format.name] ++ (if r.verbose then ["--verbose"] else []) ++
    (r.output.map fun output => ["--output", output]).getD [] ++ ["--", r.input]

/-- What is read in the arguments for a request. -/
def Request.given (r : Request) : Arguments Switch where
  options :=
    ⟨.format, some r.format.name⟩ :: (if r.verbose then [⟨.verbose, none⟩] else []) ++
      (r.output.map fun output => ⟨.output, some output⟩).toList
  operands := [r.input]

lemma reads_arguments (r : Request) : Reads r.arguments r.given := by
  obtain ⟨input, output, format, verbose⟩ := r
  cases output <;> cases verbose <;> exact ⟨rfl, rfl⟩

lemma value?_output_given (r : Request) : r.given.value? .output = r.output := by
  obtain ⟨input, output, format, verbose⟩ := r
  cases output <;> cases verbose <;> rfl

lemma has_verbose_given (r : Request) : r.given.has .verbose = r.verbose := by
  obtain ⟨input, output, format, verbose⟩ := r
  cases output <;> cases verbose <;> rfl

lemma value?_format_given (r : Request) : r.given.value? .format = some r.format.name := by
  obtain ⟨input, output, format, verbose⟩ := r
  cases output <;> cases verbose <;> rfl

/-- The name of a format chooses it. -/
lemma ofValue_name (f : Format) : Format.ofValue f.name = .ok f := by
  have hfind : Format.find? f.name = some f := by cases f <;> decide +kernel
  rw [Format.ofValue, hfind]

lemma formatOf_given (r : Request) : formatOf r.given = .ok r.format := by
  rw [formatOf, value?_format_given, Format.chosen, ofValue_name]
  rfl

/-- A valid request passes the check of every option. -/
lemma checkOption_given (h : r.Valid look) (option : Switch) :
    checkOption look r.given option = .ok () := by
  cases option with
  | output =>
    cases houtput : r.output with
    | none => rw [checkOption, value?_output_given, houtput]
    | some output =>
      have hvalue := (value?_output_given r).trans houtput
      exact (checkOption_output_eq_ok_iff hvalue).mpr ⟨h.namesPaths.output output houtput,
        h.output_not_directory output houtput, h.output_not_denied output houtput⟩
  | format =>
    rw [checkOption, formatOf_given]
    rfl
  | verbose | version | help => rfl

lemma request_given (h : r.Valid look) : request look r.given = .ok r :=
  request_eq_ok_iff.mpr ⟨fun option _ => checkOption_given h option, rfl,
    checkInput_eq_ok_iff.mpr ⟨h.namesPaths.input, h.input_isFile⟩, formatOf_given r,
    (value?_output_given r).symm, (has_verbose_given r).symm⟩

/-- Every valid request is made by its arguments. -/
theorem settle_arguments (h : r.Valid look) : settle look r.arguments = .ok r :=
  settle_eq_ok_iff.mpr ⟨r.given, reads_arguments r, request_given h⟩

/-! ## Paths that cannot be looked up -/

/-- A path stops the check of an option only if it is the output and holds the null character. -/
lemma checkOption_eq_error_path {option : Switch} {f : File.Fault}
    (h : checkOption look a option = .error (.path f)) :
    f = .nullInPath ∧ ∃ path, Text.holdsNull path = true ∧ a.value? .output = some path := by
  cases option with
  | output =>
    rw [checkOption] at h
    split at h
    · rename_i path hpath
      rcases bind_eq_error_iff.mp h with hlook | ⟨found, _, hcheck⟩
      · obtain ⟨hf, hnull⟩ := lookUp_eq_error hlook
        exact ⟨Refusal.path.inj hf, path, hnull, hpath⟩
      · cases found <;> cases hcheck
    · cases h
  | format =>
    rw [checkOption, formatOf] at h
    cases hformat : Format.chosen (a.value? .format) <;> rw [hformat] at h <;> cases h
  | verbose | version | help => cases h

/-- The input stops its check for the same reason. -/
lemma checkInput_eq_error_path {path : String} {f : File.Fault}
    (h : checkInput look path = .error (.path f)) :
    f = .nullInPath ∧ Text.holdsNull path = true := by
  rcases bind_eq_error_iff.mp h with hlook | ⟨found, _, hkind⟩
  · obtain ⟨hf, hnull⟩ := lookUp_eq_error hlook
    exact ⟨Refusal.path.inj hf, hnull⟩
  · cases found <;> cases hkind

/-- A path stops a request only if it is the input or the output and holds the null character. -/
lemma request_eq_error_path {f : File.Fault} (h : request look a = .error (.path f)) :
    f = .nullInPath ∧ ∃ path, Text.holdsNull path = true ∧
      (path ∈ a.operands ∨ a.value? .output = some path) := by
  rw [request, bind_eq_error_iff] at h
  -- the checks come one after the other, so a path stops one of them after those before it passed
  rcases h with hoptions | ⟨_, _, hrest⟩
  · obtain ⟨option, _, hoption⟩ := forM_eq_error hoptions
    obtain ⟨hf, path, hnull, hpath⟩ := checkOption_eq_error_path hoption
    exact ⟨hf, path, hnull, .inr hpath⟩
  · split at hrest
    · cases hrest
    · rename_i input surplus hoperands
      rcases bind_eq_error_iff.mp hrest with hinput | ⟨_, _, hrest⟩
      · obtain ⟨hf, hnull⟩ := checkInput_eq_error_path hinput
        exact ⟨hf, input, hnull, .inl (hoperands ▸ List.mem_cons_self)⟩
      · cases surplus with
        | cons _ _ => cases hrest
        | nil =>
          rw [formatOf] at hrest
          cases hformat : Format.chosen (a.value? .format) <;> rw [hformat] at hrest <;> cases hrest

lemma holdsNull_of_suffix {s t : String} (h : s.toList <:+ t.toList)
    (hnull : Text.holdsNull s = true) : Text.holdsNull t = true :=
  List.contains_iff_mem.mpr (h.subset (List.contains_iff_mem.mp hnull))

/-- Where a path stops a request, one of the arguments holds the null character. -/
lemma exists_holdsNull {f : File.Fault} (hread : readArguments tool.specs args = .ok a)
    (h : request look a = .error (.path f)) : ∃ arg ∈ args, Text.holdsNull arg = true := by
  obtain ⟨hoperands, hvalues⟩ := mem_of_readArguments hread
  obtain ⟨_, path, hnull, hpath⟩ := request_eq_error_path h
  rcases hpath with hoperand | hvalue
  · exact ⟨path, hoperands path hoperand, hnull⟩
  · obtain ⟨given, hmem, _, hgiven⟩ := mem_options_of_value? hvalue
    obtain ⟨text, htext, hends⟩ := hvalues given hmem path hgiven
    obtain ⟨arg, harg, rfl⟩ := List.mem_map.mp htext
    exact ⟨arg, harg, holdsNull_of_suffix hends hnull⟩

/-! ## Arguments that make no request -/

/-- What becomes of arguments that make no request. -/
theorem settle_eq_error {o : Outcome} (h : settle look args = .error o) :
    (∃ f, o = tool.refuse f) ∨ (∃ notice, o = tool.tell notice) ∨
      ∃ f, o = { ending := .uncaught (.file f) } ∧ ∃ arg ∈ args, Text.holdsNull arg = true := by
  rw [settle, Tool.settle] at h
  split at h
  · exact .inl ⟨_, (Except.error.inj h).symm⟩
  · rename_i a hread
    split at h
    · exact .inr (.inl ⟨_, (Except.error.inj h).symm⟩)
    · split at h
      · contradiction
      · exact .inl ⟨_, (Except.error.inj h).symm⟩
      · rename_i f hrequest
        exact .inr (.inr ⟨f, (Except.error.inj h).symm, exists_holdsNull hread hrequest⟩)

/-- The arguments of a request that is not valid are refused, if its paths can be looked up. -/
theorem settle_of_not_valid (hpaths : r.NamesPaths) (h : ¬r.Valid look) :
    ∃ f, settle look r.arguments = .error (tool.refuse f) := by
  cases hrequest : request look r.given with
  | ok r' =>
    -- the request that was made would be this one
    obtain ⟨_, hoperands, _, hformat, houtput, hverbose⟩ := request_eq_ok_iff.mp hrequest
    have hinput : r.input = r'.input := List.singleton_inj.mp hoperands
    have hsame : r' = r := by
      cases r
      cases r'
      rw [value?_output_given] at houtput
      rw [has_verbose_given] at hverbose
      rw [formatOf_given] at hformat
      simp_all
    exact absurd (hsame ▸ valid_of_request hrequest) h
  | error e =>
    cases e with
    | usage f => exact ⟨f, settle_of_usage (reads_arguments r) hrequest⟩
    | path f =>
      obtain ⟨_, path, hnull, hpath | hpath⟩ := request_eq_error_path hrequest
      · rw [List.mem_singleton.mp hpath, hpaths.input] at hnull
        contradiction
      · rw [value?_output_given] at hpath
        rw [hpaths.output path hpath] at hnull
        contradiction

/-! ## The option for a verbose run -/

/-- The arguments with the option for a verbose run in front. -/
def withVerbose (a : Arguments Switch) : Arguments Switch :=
  { a with options := ⟨.verbose, none⟩ :: a.options }

/-- The option for a verbose run is read first, and the other arguments are read as they were. -/
lemma readArguments_verbose (args : List String) :
    readArguments tool.specs ("-v" :: args) = (readArguments tool.specs args).map withVerbose := by
  have hoption : isOption "-v" = true := by decide
  have hread : readOption tool.specs "-v".toList = .ok ⟨[⟨.verbose, none⟩], none⟩ := by
    with_unfolding_all rfl
  rw [readArguments, if_neg (by decide), hoption, hread]
  cases readArguments tool.specs args <;> rfl

/-- The other options keep their values. -/
lemma value?_withVerbose {option : Switch} (h : option ≠ .verbose) :
    (withVerbose a).value? option = a.value? option := by
  have hother : (Switch.verbose == option) = false := beq_eq_false_iff_ne.mpr (Ne.symm h)
  rw [Arguments.value?, Arguments.value?, withVerbose, List.reverse_cons, List.find?_append,
    List.find?_singleton, hother]
  simp

lemma formatOf_withVerbose : formatOf (withVerbose a) = formatOf a := by
  rw [formatOf, formatOf, value?_withVerbose (by decide)]

/-- All options pass their checks as they did. -/
lemma checkOption_withVerbose : checkOption look (withVerbose a) = checkOption look a := by
  funext option
  cases option with
  | output => rw [checkOption, checkOption, value?_withVerbose (by decide)]
  | format => rw [checkOption, checkOption, formatOf_withVerbose]
  | verbose | version | help => rfl

/-- The option for a verbose run comes first among those that are checked. -/
lemma distinct_withVerbose :
    (withVerbose a).distinct = .verbose :: a.distinct.filter (!· == .verbose) := by
  rw [Arguments.distinct, Arguments.distinct, withVerbose, List.map_cons, List.eraseDups_cons,
    eraseDups_filter]

/-- The option for a verbose run passes its check, and no other check looks at it. -/
lemma request_withVerbose :
    request look (withVerbose a) =
      (request look a).map fun r => { r with verbose := true } := by
  have hpasses : ∀ option : Switch, (!option == .verbose) = false →
      checkOption look a option = .ok () := by
    intro option hoption
    rw [show option = .verbose by simpa using hoption]
    rfl
  have hchecks : (withVerbose a).distinct.forM (checkOption look (withVerbose a)) =
      a.distinct.forM (checkOption look a) := by
    rw [checkOption_withVerbose, distinct_withVerbose]
    exact forM_filter hpasses a.distinct
  rw [request, request, hchecks, formatOf_withVerbose, value?_withVerbose (by decide),
    show (withVerbose a).operands = a.operands from rfl]
  -- what is done with the outcomes of the checks is the same
  cases a.distinct.forM (checkOption look a) with
  | error e => rfl
  | ok _ =>
    cases a.operands with
    | nil => rfl
    | cons input surplus =>
      simp only [bind, Except.bind]
      cases checkInput look input with
      | error e => rfl
      | ok _ =>
        cases surplus with
        | cons _ _ => rfl
        | nil =>
          cases formatOf a with
          | error e => rfl
          | ok format => rfl

/-- Asking for a verbose run asks for nothing else. -/
theorem settle_verbose (look : File.View) (args : List String) :
    settle look ("-v" :: args) =
      (settle look args).map fun r => { r with verbose := true } := by
  rw [settle, settle, Tool.settle, Tool.settle, readArguments_verbose]
  cases readArguments tool.specs args with
  | error f => rfl
  | ok a =>
    have hnotice : (withVerbose a).options.findSome? (tool.notice? ·.option) =
        a.options.findSome? (tool.notice? ·.option) := rfl
    simp only [Except.map, hnotice, request_withVerbose]
    cases a.options.findSome? (tool.notice? ·.option) with
    | some notice => rfl
    | none =>
      cases request look a with
      | ok r => rfl
      | error e => cases e <;> rfl

end HackFrontEnd.CommandLine.ListTool
