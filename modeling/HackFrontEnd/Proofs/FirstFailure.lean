import Mathlib.Tactic.Lemma

/-!
# The first failure

Steps that may fail, one after the other. The first that fails settles the outcome, and those after
it are not taken:

* `bind_eq_ok_iff`, `bind_eq_error_iff`: two steps;
* `forM_eq_ok_iff`, `forM_eq_error`: a check of every member of a list;
* `mapM_eq_ok_iff`, `mapM_eq_error_iff`: a result for every member of a list.
-/

namespace HackFrontEnd

variable {α β ε : Type} {e : ε}

/-- Two steps succeed if the first one does, and the second one with its result. -/
lemma bind_eq_ok_iff {x : Except ε α} {f : α → Except ε β} {b : β} :
    (x >>= f) = .ok b ↔ ∃ a, x = .ok a ∧ f a = .ok b := by
  cases x with
  | error e =>
    constructor
    · intro h
      cases h
    · rintro ⟨_, h, _⟩
      cases h
  | ok a =>
    constructor
    · exact fun h => ⟨a, rfl, h⟩
    · rintro ⟨_, ha, h⟩
      exact Except.ok.inj ha ▸ h

/-- Two steps fail where the first one does, or where the second one does after it. -/
lemma bind_eq_error_iff {x : Except ε α} {f : α → Except ε β} :
    (x >>= f) = .error e ↔ x = .error e ∨ ∃ a, x = .ok a ∧ f a = .error e := by
  cases x with
  | error e' =>
    constructor
    · intro h
      exact .inl (congrArg Except.error (Except.error.inj h))
    · rintro (h | ⟨_, h, _⟩)
      · exact congrArg Except.error (Except.error.inj h)
      · cases h
  | ok a =>
    constructor
    · exact fun h => .inr ⟨a, rfl, h⟩
    · rintro (h | ⟨_, ha, h⟩)
      · cases h
      · exact Except.ok.inj ha ▸ h

/-! ## Checks -/

/-- All members pass. -/
theorem forM_eq_ok_iff {f : α → Except ε Unit} {l : List α} :
    l.forM f = .ok () ↔ ∀ x ∈ l, f x = .ok () := by
  induction l with
  | nil => exact ⟨fun _ x hx => absurd hx List.not_mem_nil, fun _ => rfl⟩
  | cons x l ih =>
    rw [show (x :: l).forM f = (f x >>= fun _ => l.forM f) from rfl, bind_eq_ok_iff,
      List.forall_mem_cons, ih]
    exact ⟨fun ⟨_, hx, hl⟩ => ⟨hx, hl⟩, fun ⟨hx, hl⟩ => ⟨(), hx, hl⟩⟩

/-- A failure is that of a member. -/
theorem forM_eq_error {f : α → Except ε Unit} {l : List α} (h : l.forM f = .error e) :
    ∃ x ∈ l, f x = .error e := by
  induction l with
  | nil => cases h
  | cons x l ih =>
    rw [show (x :: l).forM f = (f x >>= fun _ => l.forM f) from rfl,
      bind_eq_error_iff] at h
    rcases h with hx | ⟨_, _, hl⟩
    · exact ⟨x, List.mem_cons_self, hx⟩
    · obtain ⟨y, hy, hfail⟩ := ih hl
      exact ⟨y, List.mem_cons_of_mem x hy, hfail⟩

/-- Members that pass may be left out. -/
theorem forM_filter {f : α → Except ε Unit} {p : α → Bool}
    (h : ∀ x, p x = false → f x = .ok ()) (l : List α) : (l.filter p).forM f = l.forM f := by
  induction l with
  | nil => rfl
  | cons x l ih =>
    rw [show (x :: l).forM f = (f x >>= fun _ => l.forM f) from rfl, ← ih, List.filter_cons]
    cases hx : p x with
    | true => rfl
    | false =>
      rw [h x hx]
      rfl

/-! ## Results -/

/-- Every member has a result, and these are the results in order. -/
theorem mapM_eq_ok_iff {f : α → Except ε β} {l : List α} {results : List β} :
    l.mapM f = .ok results ↔ l.map f = results.map .ok := by
  induction l generalizing results with
  | nil =>
    rw [List.mapM_nil, List.map_nil]
    constructor
    · intro h
      rw [← Except.ok.inj h, List.map_nil]
    · intro h
      rw [List.map_eq_nil_iff.mp h.symm]
      rfl
  | cons x l ih =>
    rw [List.mapM_cons, bind_eq_ok_iff]
    constructor
    · rintro ⟨y, hx, hrest⟩
      obtain ⟨ys, hl, hresults⟩ := bind_eq_ok_iff.mp hrest
      rw [← Except.ok.inj hresults, List.map_cons, List.map_cons, hx, ih.mp hl]
    · intro h
      obtain ⟨y, ys, rfl, hx, hl⟩ := List.map_eq_cons_iff.mp h.symm
      exact ⟨y, hx.symm, bind_eq_ok_iff.mpr ⟨ys, ih.mpr hl.symm, rfl⟩⟩

/-- The failure is that of the first member without a result. -/
theorem mapM_eq_error_iff {f : α → Except ε β} {l : List α} :
    l.mapM f = .error e ↔
      ∃ before x after, l = before ++ x :: after ∧ (∀ y ∈ before, ∃ b, f y = .ok b) ∧
        f x = .error e := by
  induction l with
  | nil =>
    constructor
    · intro h
      cases h
    · rintro ⟨before, x, after, hnil, _⟩
      exact absurd hnil.symm (List.append_ne_nil_of_right_ne_nil before (List.cons_ne_nil x after))
  | cons x l ih =>
    rw [List.mapM_cons, bind_eq_error_iff]
    constructor
    · rintro (hx | ⟨y, hx, hrest⟩)
      · exact ⟨[], x, l, rfl, fun y hy => absurd hy List.not_mem_nil, hx⟩
      · rcases bind_eq_error_iff.mp hrest with hl | ⟨ys, _, hpure⟩
        · obtain ⟨before, x', after, rfl, hbefore, hx'⟩ := ih.mp hl
          exact ⟨x :: before, x', after, rfl, List.forall_mem_cons.mpr ⟨⟨y, hx⟩, hbefore⟩, hx'⟩
        · cases hpure
    · rintro ⟨before, x', after, hsplit, hbefore, hx'⟩
      cases before with
      | nil =>
        rw [List.nil_append, List.cons.injEq] at hsplit
        exact .inl (hsplit.1 ▸ hx')
      | cons y before =>
        rw [List.cons_append, List.cons.injEq] at hsplit
        obtain ⟨⟨b, hb⟩, hbefore⟩ := List.forall_mem_cons.mp hbefore
        refine .inr ⟨b, hsplit.1 ▸ hb, ?_⟩
        exact bind_eq_error_iff.mpr (.inl (ih.mpr ⟨before, x', after, hsplit.2, hbefore, hx'⟩))

end HackFrontEnd
