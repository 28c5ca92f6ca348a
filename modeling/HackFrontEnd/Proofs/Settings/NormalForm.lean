import HackFrontEnd.Encoding.Decode
import HackFrontEnd.Proofs.Source.Cleaning
import HackFrontEnd.Settings

/-!
# Settings from the environment

Whatever the variables hold, the settings that come of them are such that every part of a run can
use them as they are:

* `markerOf?_eq_some_iff`, `levelOf?_eq_some_iff`, `encodingOf?_eq_some_iff`: which values of a
  single variable are valid, and what they set;
* `IsNormal`, `isNormal_ofEnvironmentKnowing`: the settings are always in normal form;
* `Follows`, `follows_ofEnvironmentKnowing`: each of them is set by its own variable or stays at its
  default;
* `IsNormal.ofEnvironmentKnowing_asEnvironment`: settings in normal form are their own environment;
* `read_of_known`: reading the environment comes to that wherever names can be looked up;
* `ofEnvironment_normal_form`: all of this together, and what it means for the lines of a source.
-/

namespace HackFrontEnd

open Text

/-! ## Levels -/

/-- The name of a level stands for the number of that level. -/
lemma Level.numberOf?_name (l : Level) : Level.numberOf? l.name = some l.number := by
  cases l <;> decide

namespace Settings

variable {known : String → Bool} {env : Environment} {s : Settings} {value : String}

/-! ## Values of single variables -/

/-- A value sets no marker exactly if there is nothing but blanks in it. -/
lemma markerOf?_eq_none_iff :
    markerOf? value = none ↔ ∀ c ∈ value.toList, isBlank c = true := by
  rw [← trim_eq_nil_iff, markerOf?, ite_eq_left_iff, List.isEmpty_iff]
  simp

/-- Any other value sets the marker that is left of it without the blanks at its ends. -/
lemma markerOf?_eq_some_iff {marker : String} :
    markerOf? value = some marker ↔
      (∃ c ∈ value.toList, isBlank c = false) ∧ WithoutBlankEnds value.toList marker.toList := by
  rw [withoutBlankEnds_iff, ← trim_ne_nil_iff, markerOf?]
  -- whether anything is left by trimming is what the value is judged by
  by_cases hnil : trim value.toList = []
  · rw [hnil]
    simp
  · have hempty : (trim value.toList).isEmpty = false := by simpa using hnil
    rw [hempty, if_neg Bool.false_ne_true, Option.some.injEq, ← String.toList_inj,
      String.toList_ofList, and_iff_right hnil, eq_comm]

lemma find?_name_eq_some_iff {name : String} {l : Level} :
    Level.all.find? (·.name == name) = some l ↔ l.name = name := by
  constructor
  · intro h
    have hl := List.find?_some h
    exact beq_iff_eq.mp hl
  · rintro rfl
    cases l <;> decide

/-- A value sets the level whose name it is in capitals. -/
lemma levelOf?_eq_some_iff {l : Level} :
    levelOf? value = some l ↔ value.toList.map capital = l.name.toList := by
  rw [levelOf?, find?_name_eq_some_iff, ← String.toList_inj, String.toList_ofList, eq_comm]

/-- A value sets no level exactly if it is the name of none in capitals. -/
lemma levelOf?_eq_none_iff :
    levelOf? value = none ↔ ∀ l : Level, value.toList.map capital ≠ l.name.toList := by
  rw [Option.eq_none_iff_forall_ne_some]
  exact forall_congr' fun l => levelOf?_eq_some_iff.not

/-- A value sets the encoding that it names, if that name is known. -/
lemma encodingOf?_eq_some_iff {encoding : String} :
    encodingOf? known value = some encoding ↔
      value ≠ "" ∧ known value = true ∧ encoding = value := by
  rw [encodingOf?, Option.ite_none_right_eq_some, Bool.and_eq_true, decide_eq_true_eq,
    Option.some.injEq, and_assoc, eq_comm (a := value) (b := encoding)]

/-- A value sets no encoding exactly if it is empty or names none that is known. -/
lemma encodingOf?_eq_none_iff :
    encodingOf? known value = none ↔ value ≠ "" → known value = false := by
  rw [encodingOf?, ite_eq_right_iff]
  simp

/-! ## What a variable sets -/

section
variable {α : Type} {P : α → Prop} {read : String → Option α} {default a : α}
  {held : Option String}

/-- What holds of the default, and of all that is read from values, holds of what a variable
sets. -/
lemma getD_bind_of (hdefault : P default) (hread : ∀ value a, read value = some a → P a)
    (held : Option String) : P ((held.bind read).getD default) := by
  cases hset : held.bind read with
  | none => exact hdefault
  | some a =>
    obtain ⟨value, _, ha⟩ := Option.bind_eq_some_iff.mp hset
    exact hread value a ha

lemma getD_bind_of_valid (hheld : held = some value) (ha : read value = some a) :
    (held.bind read).getD default = a := by
  rw [hheld, Option.bind_some, ha, Option.getD_some]

/-- A variable that is absent, or holds no valid value, leaves the default. -/
lemma getD_bind_of_invalid (h : ∀ value, held = some value → read value = none) :
    (held.bind read).getD default = default := by
  cases held with
  | none => rfl
  | some value => rw [Option.bind_some, h value rfl, Option.getD_none]

end

/-! ## Normal form -/

/-- The settings are as every part of a run expects them, where some names of encodings are
known. -/
structure IsNormal (known : String → Bool) (s : Settings) : Prop where
  marker_ne_empty : s.commentMarker ≠ ""
  marker_trimmed : IsTrimmed s.commentMarker.toList
  /-- The level is one of the five, and its own number is found under its name. -/
  level : ∃ l : Level, s.logLevel = l.name ∧ Level.numberOf? s.logLevel = some l.number ∧
    s.logThreshold = l.number
  encoding_ne_empty : s.sourceEncoding ≠ ""
  encoding_known : known s.sourceEncoding = true

lemma isTrimmed_of_markerOf? {marker : String} (h : markerOf? value = some marker) :
    marker ≠ "" ∧ IsTrimmed marker.toList := by
  obtain ⟨hblank, hends⟩ := markerOf?_eq_some_iff.mp h
  have hmarker : marker.toList = trim value.toList := withoutBlankEnds_iff.mp hends
  rw [Ne, ← String.toList_eq_nil_iff, hmarker]
  exact ⟨trim_ne_nil_iff.mpr hblank, isTrimmed_trim value.toList⟩

lemma isTrimmed_defaultMarker :
    Source.defaultMarker ≠ "" ∧ IsTrimmed Source.defaultMarker.toList := by
  have hmarker : Source.defaultMarker.toList = ['/'] := rfl
  have hslash : ∀ c ∈ some '/', isBlank c = false := by
    rintro c ⟨⟩
    rfl
  rw [hmarker]
  exact ⟨by decide, ⟨hslash, hslash⟩⟩

lemma known_of_encodingOf? {encoding : String} (h : encodingOf? known value = some encoding) :
    encoding ≠ "" ∧ known encoding = true := by
  obtain ⟨hne, hknown, rfl⟩ := encodingOf?_eq_some_iff.mp h
  exact ⟨hne, hknown⟩

/-- Whatever the environment holds, the settings that come of it are in normal form. -/
theorem isNormal_ofEnvironmentKnowing (hknown : known Encoding.defaultName = true)
    (env : Environment) : IsNormal known (ofEnvironmentKnowing known env) := by
  have hmarker : (ofEnvironmentKnowing known env).commentMarker ≠ "" ∧
      IsTrimmed (ofEnvironmentKnowing known env).commentMarker.toList :=
    getD_bind_of (P := fun marker : String => marker ≠ "" ∧ IsTrimmed marker.toList)
      isTrimmed_defaultMarker (fun _ _ => isTrimmed_of_markerOf?) env.commentMarker
  have hencoding : (ofEnvironmentKnowing known env).sourceEncoding ≠ "" ∧
      known (ofEnvironmentKnowing known env).sourceEncoding = true :=
    getD_bind_of (P := fun encoding => encoding ≠ "" ∧ known encoding = true)
      ⟨by decide, hknown⟩ (fun _ _ => known_of_encodingOf?) env.sourceEncoding
  have hnumber := Level.numberOf?_name ((env.logLevel.bind levelOf?).getD .warning)
  -- the threshold is looked up under the name of the level, and so it is that of the level
  refine ⟨hmarker.1, hmarker.2, ⟨_, rfl, hnumber, ?_⟩, hencoding.1, hencoding.2⟩
  show (Level.numberOf? ((env.logLevel.bind levelOf?).getD .warning).name).getD _ = _
  rw [hnumber, Option.getD_some]

/-! ## One variable for each setting -/

/-- Each of the settings is what a valid value of its own variable says, and its default where that
variable is absent or holds no valid value. -/
structure Follows (known : String → Bool) (env : Environment) (s : Settings) : Prop where
  marker : ∀ value, env.commentMarker = some value → (∃ c ∈ value.toList, isBlank c = false) →
    WithoutBlankEnds value.toList s.commentMarker.toList
  marker_default : (∀ value, env.commentMarker = some value → ∀ c ∈ value.toList,
    isBlank c = true) → s.commentMarker = ({} : Settings).commentMarker
  level : ∀ value (l : Level), env.logLevel = some value →
    value.toList.map capital = l.name.toList → s.logLevel = l.name
  level_default : (∀ value, env.logLevel = some value → ∀ l : Level,
    value.toList.map capital ≠ l.name.toList) → s.logLevel = ({} : Settings).logLevel
  encoding : ∀ value, env.sourceEncoding = some value → value ≠ "" → known value = true →
    s.sourceEncoding = value
  encoding_default : (∀ value, env.sourceEncoding = some value → value ≠ "" →
    known value = false) → s.sourceEncoding = ({} : Settings).sourceEncoding

/-- Each setting follows its own variable: a valid value sets it, and without one it stays at its
default. -/
theorem follows_ofEnvironmentKnowing (known : String → Bool) (env : Environment) :
    Follows known env (ofEnvironmentKnowing known env) where
  marker := by
    intro value hheld hblank
    have hread : markerOf? value = some (String.ofList (trim value.toList)) :=
      markerOf?_eq_some_iff.mpr
        ⟨hblank, withoutBlankEnds_iff.mpr String.toList_ofList⟩
    rw [ofEnvironmentKnowing, getD_bind_of_valid hheld hread]
    exact withoutBlankEnds_iff.mpr String.toList_ofList
  marker_default := by
    intro h
    exact getD_bind_of_invalid fun value hheld => markerOf?_eq_none_iff.mpr (h value hheld)
  level := by
    intro value l hheld hname
    exact congrArg Level.name (getD_bind_of_valid hheld (levelOf?_eq_some_iff.mpr hname))
  level_default := by
    intro h
    exact congrArg Level.name (getD_bind_of_invalid fun value hheld =>
      levelOf?_eq_none_iff.mpr (h value hheld))
  encoding := by
    intro value hheld hne hknown
    exact getD_bind_of_valid hheld (encodingOf?_eq_some_iff.mpr ⟨hne, hknown, rfl⟩)
  encoding_default := by
    intro h
    exact getD_bind_of_invalid fun value hheld => encodingOf?_eq_none_iff.mpr (h value hheld)

/-! ## Reading settings back -/

/-- The variables that spell out some settings. -/
def asEnvironment (s : Settings) : Environment :=
  ⟨some s.commentMarker, some s.logLevel, some s.sourceEncoding⟩

lemma map_capital_name (l : Level) : l.name.toList.map capital = l.name.toList := by
  cases l <;> decide

/-- Settings in normal form are what the variables that spell them out ask for. -/
theorem IsNormal.ofEnvironmentKnowing_asEnvironment (h : IsNormal known s) :
    ofEnvironmentKnowing known s.asEnvironment = s := by
  obtain ⟨l, hlevel, _⟩ := h.level
  -- nothing is left to trim or to capitalize, and the name is known
  have hmarker : markerOf? s.commentMarker = some s.commentMarker := by
    have htrim := h.marker_trimmed.trim_eq
    rw [markerOf?_eq_some_iff, withoutBlankEnds_iff, ← trim_ne_nil_iff, htrim, Ne,
      String.toList_eq_nil_iff]
    exact ⟨h.marker_ne_empty, rfl⟩
  have hname : levelOf? s.logLevel = some l := by
    rw [levelOf?_eq_some_iff, hlevel]
    exact map_capital_name l
  have hencoding : encodingOf? known s.sourceEncoding = some s.sourceEncoding :=
    encodingOf?_eq_some_iff.mpr ⟨h.encoding_ne_empty, h.encoding_known, rfl⟩
  rw [ofEnvironmentKnowing, asEnvironment, getD_bind_of_valid rfl hmarker,
    getD_bind_of_valid rfl hname, getD_bind_of_valid rfl hencoding, ← hlevel]

/-! ## Looking up the name of the encoding -/

/-- What an environment asks for depends on the known names only through the name that it holds. -/
lemma ofEnvironmentKnowing_congr {known' : String → Bool}
    (h : ∀ name, env.sourceEncoding = some name → name ≠ "" → known name = known' name) :
    ofEnvironmentKnowing known env = ofEnvironmentKnowing known' env := by
  have hencoding : env.sourceEncoding.bind (encodingOf? known) =
      env.sourceEncoding.bind (encodingOf? known') := by
    apply Option.bind_congr
    intro name hname
    by_cases hempty : name = ""
    · simp [encodingOf?, hempty]
    · rw [encodingOf?, encodingOf?, h name hname hempty]
  rw [ofEnvironmentKnowing, ofEnvironmentKnowing, hencoding]

/-- Where every name is either known or not, reading the environment does not fail. -/
theorem read_of_known {ε : Type} (known : String → Bool) (env : Environment) :
    read (fun name => (.ok (known name) : Except ε Bool)) env =
      .ok (ofEnvironmentKnowing known env) := by
  unfold read
  split
  · rename_i hnone
    exact congrArg Except.ok (ofEnvironmentKnowing_congr fun name hname => by
      rw [hnone] at hname
      cases hname)
  · -- the empty name is not looked up, and no encoding has it
    rename_i hempty
    exact congrArg Except.ok (ofEnvironmentKnowing_congr fun name hname hne => by
      rw [hempty] at hname
      exact absurd (Option.some.inj hname).symm hne)
  · rename_i held _ hheld
    exact congrArg Except.ok (ofEnvironmentKnowing_congr fun name hname _ => by
      rw [hheld] at hname
      rw [Option.some.inj hname])

/-! ## The settings of an environment -/

/-- Reading the environment yields settings in normal form, whatever names of encodings are known as
long as the default one is, and does not fail where every name is either known or not. Each of them
follows its own variable and no other, and reading them back yields them again. So a line that is
not blank is left out of any source exactly if it starts with one and the same marker, which is
neither empty nor has blanks at its ends. -/
theorem ofEnvironment_normal_form {known : String → Bool}
    (hknown : known Encoding.defaultName = true) (env : Environment) :
    let s := ofEnvironmentKnowing known env
    read (fun name => (.ok (known name) : Except String Bool)) env = .ok s ∧
      IsNormal known s ∧ Follows known env s ∧
      (∀ env' : Environment,
        let s' := ofEnvironmentKnowing known env'
        (env'.commentMarker = env.commentMarker → s'.commentMarker = s.commentMarker) ∧
        (env'.logLevel = env.logLevel → s'.logLevel = s.logLevel) ∧
        (env'.sourceEncoding = env.sourceEncoding → s'.sourceEncoding = s.sourceEncoding)) ∧
      ofEnvironmentKnowing known s.asEnvironment = s ∧
      ∀ source n line, 1 ≤ n → (lines source.toList)[n - 1]? = some line →
        (∃ c ∈ line, isBlank c = false) →
        ((∀ t, (n, t) ∉ Source.clean s.commentMarker source) ↔
          s.commentMarker.toList <+: trim line) := by
  intro s
  have hnormal : IsNormal known s := isNormal_ofEnvironmentKnowing hknown env
  refine ⟨read_of_known known env, hnormal, follows_ofEnvironmentKnowing known env,
    fun env' => ⟨?_, ?_, ?_⟩,
    hnormal.ofEnvironmentKnowing_asEnvironment,
    fun source n line hn hline hblank => Source.not_mem_clean_iff hn hline hblank⟩
  · intro hmarker
    show ((env'.commentMarker.bind markerOf?).getD _) = _
    rw [hmarker]
    rfl
  · intro hlevel
    show ((env'.logLevel.bind levelOf?).getD _).name = _
    rw [hlevel]
    rfl
  · intro hencoding
    show ((env'.sourceEncoding.bind (encodingOf? known)).getD _) = _
    rw [hencoding]
    rfl

/-- Blanks around a marker, a level with a letter whose capital is the one that is meant, and an
encoding that nobody knows. -/
theorem ofEnvironment_normal_form_of_odd_values :
    let env : Environment := ⟨some "\u2003; \t", some "\u0131nfo", some "no-such"⟩
    let s := ofEnvironmentKnowing Encoding.isKnown env
    Encoding.isKnown Encoding.defaultName = true ∧
      s = ⟨";", "INFO", "utf-8"⟩ ∧ read Codecs.builtin.isKnown env = .ok s ∧
      IsNormal Encoding.isKnown s ∧
      ofEnvironmentKnowing Encoding.isKnown s.asEnvironment = s := by
  intro env s
  have hknown : Encoding.isKnown Encoding.defaultName = true := by decide +kernel
  obtain ⟨hread, hnormal, _, _, hback, _⟩ := ofEnvironment_normal_form hknown env
  exact ⟨hknown, by decide +kernel, hread, hnormal, hback⟩

end Settings

end HackFrontEnd
