import HackFrontEnd.Proofs.CommandLine.Request
import Mathlib.Data.List.TakeWhile

/-!
# Lawful hosts

What a run relies on in the host it is on. Reading arguments and showing texts is no work of the
tool, so nothing is supposed about it but these laws, and what is said of runs is said of runs on
every lawful host. How codecs decode, where files are and what keeps a stream from taking a text is
left open altogether.

* `Host.Lawful`: the laws;
* `Host.lawful_ofView`, `Host.lawful_standard`: the hosts of this library are lawful.
-/

namespace HackFrontEnd

/-! ## Characters and what they stand for -/

namespace Encoding

lemma isHalf_iff {n : Nat} : isHalf n = true ↔ 0xD800 ≤ n ∧ n < 0xE000 := by
  rw [isHalf, Bool.and_eq_true, decide_eq_true_eq, decide_eq_true_eq]

/-- A character stands for itself or, from the last plane, for a half. -/
lemma codePoint_cases (e : Encoding) (c : Char) :
    e.codePoint c = c.toNat ∨ 0x100000 ≤ c.toNat ∧ isHalf (e.codePoint c) = true := by
  rw [codePoint]
  split
  · rename_i h
    have hhalf : isHalf (c.toNat - 0x100000) = true := (Bool.and_eq_true_iff.mp h).2
    have hrange := isHalf_iff.mp hhalf
    exact .inr ⟨by omega, hhalf⟩
  · exact .inl rfl

/-- What a character stands for is a code point. -/
lemma codePoint_lt (e : Encoding) (c : Char) : e.codePoint c < 0x110000 := by
  rcases e.codePoint_cases c with h | ⟨_, hhalf⟩
  · exact h ▸ Text.toNat_lt c
  · exact Nat.lt_trans (isHalf_iff.mp hhalf).2 (by decide)

/-- Below the last plane, characters stand for themselves. -/
lemma codePoint_of_lt (e : Encoding) {c : Char} (h : c.toNat < 0x100000) :
    e.codePoint c = c.toNat := by
  rcases e.codePoint_cases c with hsame | ⟨hle, _⟩
  · exact hsame
  · omega

/-- A text without halves can be encoded. -/
lemma halvesFault?_eq_none {codePoint : Char → Nat} {cs : List Char}
    (h : ∀ c ∈ cs, isHalf (codePoint c) = false) : halvesFault? codePoint cs = none := by
  have hdrop : (cs.map codePoint).dropWhile (!isHalf ·) = [] := by
    rw [List.dropWhile_eq_nil_iff]
    intro n hn
    obtain ⟨c, hc, rfl⟩ := List.mem_map.mp hn
    rw [h c hc]
    rfl
  rw [halvesFault?]
  simp only [hdrop]

/-- No character is half of a pair. -/
lemma isHalf_toNat (c : Char) : isHalf c.toNat = false := by
  rw [← Bool.not_eq_true, isHalf_iff]
  rcases c.valid with h | h
  · intro hhalf
    exact absurd h (Nat.not_lt.mpr hhalf.1)
  · intro hhalf
    exact absurd hhalf.2 (Nat.not_lt.mpr h.1)

/-- Only under escapes do characters stand for something else. -/
lemma codePoint_of_ne {e : Encoding} (h : e ≠ rawEscapes) (c : Char) :
    e.codePoint c = c.toNat := by
  rw [codePoint, decide_eq_false h, Bool.false_and, if_neg Bool.false_ne_true]

end Encoding

namespace CommandLine.ListTool

/-! ## Laws -/

/-- The laws of a host. The first five are about arguments: what they ask for has been checked, and
all that is checked of a request is whether it is valid. The others say that texts which hold no
control sequence are shown as they are, and that characters stand for code points, those of ASCII
for themselves. -/
structure Host.Lawful (host : Host) : Prop where
  /-- A valid request is made by its arguments. -/
  settle_arguments (r : Request) (h : r.Valid host.look) : host.settle r.arguments = .ok r
  /-- Only valid requests are made. -/
  valid_of_settle {args : List String} {r : Request} (h : host.settle args = .ok r) :
    r.Valid host.look
  /-- The arguments of a request that is not valid are refused. -/
  settle_of_not_valid (r : Request) (hpaths : r.NamesPaths) (h : ¬r.Valid host.look) :
    ∃ o, host.settle r.arguments = .error o ∧ o.ending = .exit .invalidArguments ∧ o.stdout = ""
  /-- Without a request no file is written, and the run exits. Only an argument that the system
  cannot take for a path may keep it from that. -/
  settle_eq_error {args : List String} {o : Outcome} (h : host.settle args = .error o) :
    o.written = none ∧ (o.ending = .exit .success ∨ o.ending = .exit .invalidArguments ∨
      ∃ arg ∈ args, Text.holdsNull arg = true)
  /-- The option for a verbose run asks for nothing else. -/
  settle_verbose (args : List String) :
    host.settle ("-v" :: args) = (host.settle args).map fun r => { r with verbose := true }
  /-- The output stream leaves out control sequences at most. -/
  print_eq {text shown : String} (h : host.print text = .ok shown)
    (hescape : Text.ControlSequence.escape ∉ text.toList) : shown = text
  /-- So does the error stream. -/
  report_eq {text : String} (hescape : Text.ControlSequence.escape ∉ text.toList) :
    host.report text = text
  codePoint_lt (c : Char) : host.codePoint c < 0x110000
  codePoint_ascii {c : Char} (h : c.toNat < 0x80) : host.codePoint c = c.toNat

/-! ## The hosts of this library -/

namespace Host

variable {look : File.View}

/-- What the output stream shows of a text lacks its control sequences. -/
lemma print_ofView {codePoint : Char → Nat} {text shown : String}
    (h : (ofView look codePoint).print text = .ok shown) : shown = Text.plain text := by
  simp only [ofView] at h
  split at h
  · contradiction
  · exact (Except.ok.inj h).symm

/-- A text of characters that stand for themselves is shown. -/
lemma print_ofView_of_literal {codePoint : Char → Nat} {text : String}
    (h : ∀ c ∈ text.toList, codePoint c = c.toNat) :
    (ofView look codePoint).print text = .ok (Text.plain text) := by
  have hnone : Encoding.halvesFault? codePoint text.toList = none :=
    Encoding.halvesFault?_eq_none fun c hc => h c hc ▸ Encoding.isHalf_toNat c
  simp only [ofView, hnone]

/-- A host on given files is lawful if its characters stand for code points. -/
theorem lawful_ofView (look : File.View) {codePoint : Char → Nat}
    (hlt : ∀ c, codePoint c < 0x110000) (hascii : ∀ c, c.toNat < 0x80 → codePoint c = c.toNat) :
    (ofView look codePoint).Lawful where
  settle_arguments _ h := ListTool.settle_arguments h
  valid_of_settle h := ListTool.valid_of_settle h
  settle_of_not_valid _ hpaths h := by
    obtain ⟨f, hrefused⟩ := ListTool.settle_of_not_valid hpaths h
    exact ⟨tool.refuse f, hrefused, rfl, rfl⟩
  settle_eq_error h := by
    rcases ListTool.settle_eq_error h with ⟨f, rfl⟩ | ⟨notice, rfl⟩ | ⟨f, rfl, harg⟩
    · exact ⟨rfl, .inr (.inl rfl)⟩
    · cases notice <;> exact ⟨rfl, .inl rfl⟩
    · exact ⟨rfl, .inr (.inr harg)⟩
  settle_verbose := ListTool.settle_verbose look
  print_eq h hescape := (print_ofView h).trans (Text.plain_of_not_mem hescape)
  report_eq := Text.plain_of_not_mem
  codePoint_lt := hlt
  codePoint_ascii := hascii _

/-- The standard host is lawful in every environment. -/
theorem lawful_standard (look : File.View) (env : Environment) : (standard look env).Lawful := by
  rw [standard, Encoding.codePointUnder]
  split
  · rename_i e _
    exact lawful_ofView look e.codePoint_lt fun _ h => e.codePoint_of_lt (by omega)
  · exact lawful_ofView look Text.toNat_lt fun _ _ => rfl

/-- Under every encoding but one, the characters of the standard host stand for themselves. -/
lemma codePoint_standard {env : Environment} {name : String} {e : Encoding}
    (hname : (Settings.ofEnvironmentKnowing Encoding.isKnown env).sourceEncoding = name)
    (h : Encoding.ofName name = .ok e) (he : e ≠ .rawEscapes) (c : Char) :
    (standard look env).codePoint c = c.toNat := by
  show Encoding.codePointUnder _ c = c.toNat
  rw [hname, Encoding.codePointUnder, h]
  exact Encoding.codePoint_of_ne he c

end Host

end CommandLine.ListTool

end HackFrontEnd
