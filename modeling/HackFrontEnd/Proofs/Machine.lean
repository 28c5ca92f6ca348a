import Mathlib.Data.List.Induction
import Mathlib.Tactic.Lemma

/-!
# Machines

A machine answers one input after the other, and goes from state to state as it does. Its *history*
lists the inputs of a run with their answers.

* `Runs.invariant`: what ties the first state to the empty history, and is kept by every step, ties
  the state after any run to the history of that run.
-/

namespace HackFrontEnd.Machine

variable {σ ι α : Type}

/-- The state after a list of inputs. -/
def after (run : σ → List ι → List (α × σ)) (s : σ) (inputs : List ι) : σ :=
  ((run s inputs).map Prod.snd).getLastD s

/-- The inputs of a run with their answers. -/
def history (run : σ → List ι → List (α × σ)) (s : σ) (inputs : List ι) : List (ι × α) :=
  inputs.zip ((run s inputs).map Prod.fst)

lemma history_nil (run : σ → List ι → List (α × σ)) (s : σ) : history run s [] = [] :=
  List.zip_nil_left

/-- A run lists the answers to one step after the other, each with the state after it. -/
structure Runs (perform : σ → ι → α × σ) (run : σ → List ι → List (α × σ)) : Prop where
  nil (s : σ) : run s [] = []
  cons (s : σ) (input : ι) (inputs : List ι) :
    run s (input :: inputs) = perform s input :: run (perform s input).2 inputs

namespace Runs

variable {perform : σ → ι → α × σ} {run : σ → List ι → List (α × σ)}

lemma after_nil (h : Runs perform run) (s : σ) : after run s [] = s := by
  rw [after, h.nil, List.map_nil, List.getLastD_nil]

/-- The first step leads to the state in which the rest of the run begins. -/
lemma after_cons (h : Runs perform run) (s : σ) (input : ι) (inputs : List ι) :
    after run s (input :: inputs) = after run (perform s input).2 inputs := by
  rw [after, h.cons, List.map_cons, List.getLastD_cons, after]

/-- The history of a run starts with its first step. -/
lemma history_cons (h : Runs perform run) (s : σ) (input : ι) (inputs : List ι) :
    history run s (input :: inputs) =
      (input, (perform s input).1) :: history run (perform s input).2 inputs := by
  rw [history, h.cons, List.map_cons, List.zip_cons_cons, history]

/-- The last step is taken in the state after all others. -/
lemma after_snoc (h : Runs perform run) (s : σ) (inputs : List ι) (input : ι) :
    after run s (inputs ++ [input]) = (perform (after run s inputs) input).2 := by
  induction inputs generalizing s with
  | nil => rw [List.nil_append, h.after_cons, h.after_nil, h.after_nil]
  | cons first inputs ih => rw [List.cons_append, h.after_cons, h.after_cons, ih]

/-- The last step extends the history of the steps before it. -/
lemma history_snoc (h : Runs perform run) (s : σ) (inputs : List ι) (input : ι) :
    history run s (inputs ++ [input]) =
      history run s inputs ++ [(input, (perform (after run s inputs) input).1)] := by
  induction inputs generalizing s with
  | nil =>
    rw [List.nil_append, h.history_cons, history_nil, history_nil, h.after_nil,
      List.nil_append]
  | cons first inputs ih =>
    rw [List.cons_append, h.history_cons, h.history_cons, h.after_cons, ih, List.cons_append]

/-- What ties the first state to the empty history, and is kept by every step, ties the state after
any run to its history. -/
theorem invariant (h : Runs perform run) {P : List (ι × α) → σ → Prop} {s : σ} (start : P [] s)
    (step : ∀ past t input, P past t →
      P (past ++ [(input, (perform t input).1)]) (perform t input).2) (inputs : List ι) :
    P (history run s inputs) (after run s inputs) := by
  -- from the end of the run, since the last step is the one that extends the history
  induction inputs using List.reverseRecOn with
  | nil =>
    rw [history_nil, h.after_nil]
    exact start
  | append_singleton inputs input ih =>
    rw [h.history_snoc, h.after_snoc]
    exact step _ _ input ih

end Runs

end HackFrontEnd.Machine
