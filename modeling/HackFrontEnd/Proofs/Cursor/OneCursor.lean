import HackFrontEnd.Proofs.Cursor.History

/-!
# One cursor under all walks

However the instructions of a source are consumed, it is one cursor that goes over them:

* `Alike.run`: it does not matter which of the walks that were started takes a step;
* `FollowsFrom.perform_next_eq_advance`: while there is something to come, a step of a walk is a
  step of the cursor;
* `perform_drain_eq_advanceAll`: walking to the end is going on for as long as there is more;
* `history_filter_not_observes`: questions about the cursor change nothing;
* `FollowsFrom.perform_seen`: what was handed out can be asked for at any time.

A walk that finished is the delicate case: it stops whatever is to come, and only the invariant that
nothing was to come when it finished makes it like the others.
-/

namespace HackFrontEnd.Cursor

/-! ## Steps that differ in their walks -/

/-- The number of walks that a step starts. -/
def Step.starts : Step → Nat
  | .walk => 1
  | _ => 0

/-- Two steps are the same, or steps of two walks among those that were started. -/
inductive SameButWalk (started : Nat) : Step → Step → Prop
  | same (step : Step) : SameButWalk started step step
  | next {walk walk' : Nat} (h : walk < started) (h' : walk' < started) :
      SameButWalk started (.next walk) (.next walk')

/-- Two lists of steps, to be taken where a number of walks were started, differ at most in which
walks take a step. -/
inductive SameButWalks : Nat → List Step → List Step → Prop
  | nil {started : Nat} : SameButWalks started [] []
  | cons {started : Nat} {step step' : Step} {steps steps' : List Step}
      (head : SameButWalk started step step')
      (tail : SameButWalks (started + step.starts) steps steps') :
      SameButWalks started (step :: steps) (step' :: steps')

/-- Whether a step only asks about the cursor. -/
def Step.observes : Step → Bool
  | .hasMore | .kind | .arg1 | .arg2 | .current | .remaining => true
  | _ => false

namespace Session

/-- What a run shows: its answers, each with the cursor after it. -/
def shown (s : Session) (steps : List Step) : List (Answer × Cursor) :=
  (s.run steps).map fun (answer, t) => (answer, t.cursor)

lemma shown_cons (s : Session) (step : Step) (steps : List Step) :
    s.shown (step :: steps) =
      ((s.perform step).1, (s.perform step).2.cursor) :: (s.perform step).2.shown steps := rfl

/-- Two sessions differ at most in which of their walks have finished. -/
structure Alike (s t : Session) : Prop where
  cursor : s.cursor = t.cursor
  handedOut : s.handedOut = t.handedOut
  started : s.walks.length = t.walks.length

lemma Alike.symm {s t : Session} (h : Alike s t) : Alike t s :=
  ⟨h.cursor.symm, h.handedOut.symm, h.started.symm⟩

lemma Alike.trans {s t u : Session} (h : Alike s t) (h' : Alike t u) : Alike s u :=
  ⟨h.cursor.trans h'.cursor, h.handedOut.trans h'.handedOut, h.started.trans h'.started⟩

/-- While there is more, going on leaves fewer instructions to come. -/
lemma remaining_advance_lt {s : Session} (hmore : (s.perform .hasMore).1 = .flag true) :
    (s.perform .advance).2.cursor.remaining < s.cursor.remaining := by
  rw [hasMore_answer, Answer.flag.injEq, decide_eq_true_iff] at hmore
  obtain ⟨i, rest, hp⟩ := List.exists_cons_of_length_pos hmore
  rw [perform_advance_cons hp]
  show rest.length < s.cursor.pending.length
  rw [hp, List.length_cons]
  omega

/-- The answers to going on for as long as there is more, and the session after that. -/
def advanceAll (s : Session) : List Answer × Session :=
  if (s.perform .hasMore).1 = .flag true then
    let t := (s.perform .advance).2
    ((s.perform .advance).1 :: t.advanceAll.1, t.advanceAll.2)
  else ([], s)
termination_by s.cursor.remaining
decreasing_by exact remaining_advance_lt ‹_›

lemma advanceAll_of_more {s : Session} (hmore : (s.perform .hasMore).1 = .flag true) :
    s.advanceAll =
      ((s.perform .advance).1 :: (s.perform .advance).2.advanceAll.1,
        (s.perform .advance).2.advanceAll.2) := by
  rw [advanceAll, if_pos hmore]

variable {all : List Instruction} {past past' : History} {s t : Session}

/-! ## Which walk takes a step -/

/-- Only the step that starts a walk changes the number of walks. -/
lemma length_walks_perform (s : Session) (step : Step) :
    (s.perform step).2.walks.length = s.walks.length + step.starts := by
  cases step with
  | advance =>
    cases hp : s.cursor.pending with
    | nil => rw [perform_advance_nil hp]; rfl
    | cons i rest => rw [perform_advance_cons hp]; rfl
  | next walk =>
    by_cases hw : s.walks[walk]? = some .active
    · cases hp : s.cursor.pending with
      | nil => rw [perform_next_nil hw hp]; exact List.length_set
      | cons i rest => rw [perform_next_cons hw hp]; rfl
    · rw [perform_next_idle hw]; rfl
  | walk => exact List.length_append
  | hasMore | kind | arg1 | arg2 | current | remaining | drain | seen => rfl

/-- While there is something to come, a step of any walk is a step of the cursor. -/
theorem FollowsFrom.perform_next_eq_advance (h : FollowsFrom all past s) {walk : Nat}
    (hw : walk < s.walks.length) (hp : s.cursor.pending ≠ []) :
    s.perform (.next walk) = s.perform .advance := by
  have hactive : s.walks[walk]? = some .active := by
    rw [List.getElem?_eq_getElem hw]
    cases hwalk : s.walks[walk] with
    | active => rfl
    | finished => exact absurd (h.pending_of_finished (hwalk ▸ List.getElem_mem hw)) hp
  obtain ⟨i, rest, hcons⟩ := List.exists_cons_of_ne_nil hp
  rw [perform_next_cons hactive hcons, perform_advance_cons hcons]

/-- At the end every walk stops, and at most is finished by that. -/
lemma perform_next_of_nil (hp : s.cursor.pending = []) (walk : Nat) :
    (s.perform (.next walk)).1 = .stopped ∧ Alike s (s.perform (.next walk)).2 := by
  by_cases hw : s.walks[walk]? = some .active
  · rw [perform_next_nil hw hp]
    exact ⟨rfl, rfl, rfl, List.length_set.symm⟩
  · rw [perform_next_idle hw]
    exact ⟨rfl, rfl, rfl, rfl⟩

/-- In sessions alike, a step that is not one of a walk does the same. -/
lemma Alike.perform_same (h : Alike s t) {step : Step} (hstep : ∀ walk, step ≠ .next walk) :
    (s.perform step).1 = (t.perform step).1 ∧ Alike (s.perform step).2 (t.perform step).2 := by
  obtain ⟨⟨filename, pending, current⟩, walks, handedOut⟩ := s
  obtain ⟨cursor', walks', handedOut'⟩ := t
  obtain ⟨rfl, rfl, hstarted⟩ := h
  cases step with
  | advance => cases pending <;> exact ⟨rfl, rfl, rfl, hstarted⟩
  | next walk => exact absurd rfl (hstep walk)
  | walk =>
    refine ⟨congrArg Answer.started hstarted, rfl, rfl, ?_⟩
    show (walks ++ [Walk.active]).length = (walks' ++ [Walk.active]).length
    rw [List.length_append, List.length_append, hstarted]
  | hasMore | kind | arg1 | arg2 | current | remaining | drain | seen =>
    exact ⟨rfl, rfl, rfl, hstarted⟩

/-- In sessions alike, it does not matter which of the walks that were started takes a step. -/
lemma Alike.perform_next (h : Alike s t) (hs : FollowsFrom all past s)
    (ht : FollowsFrom all past' t) {walk walk' : Nat} (hw : walk < s.walks.length)
    (hw' : walk' < s.walks.length) :
    (s.perform (.next walk)).1 = (t.perform (.next walk')).1 ∧
      Alike (s.perform (.next walk)).2 (t.perform (.next walk')).2 := by
  by_cases hp : s.cursor.pending = []
  · have hp' : t.cursor.pending = [] := h.cursor ▸ hp
    obtain ⟨hstopped, halike⟩ := perform_next_of_nil hp walk
    obtain ⟨hstopped', halike'⟩ := perform_next_of_nil hp' walk'
    exact ⟨hstopped.trans hstopped'.symm, (halike.symm.trans h).trans halike'⟩
  · have hp' : t.cursor.pending ≠ [] := h.cursor ▸ hp
    rw [hs.perform_next_eq_advance hw hp, ht.perform_next_eq_advance (h.started ▸ hw') hp']
    exact h.perform_same fun _ => Step.noConfusion

/-- In sessions alike, two steps that differ at most in the walk have the same answer and leave
sessions alike. -/
lemma Alike.perform (h : Alike s t) (hs : FollowsFrom all past s) (ht : FollowsFrom all past' t)
    {step step' : Step} (hstep : SameButWalk s.walks.length step step') :
    (s.perform step).1 = (t.perform step').1 ∧ Alike (s.perform step).2 (t.perform step').2 := by
  cases hstep with
  | next hw hw' => exact h.perform_next hs ht hw hw'
  | same =>
    by_cases hnext : ∃ walk, step = .next walk
    · obtain ⟨walk, rfl⟩ := hnext
      by_cases hw : walk < s.walks.length
      · exact h.perform_next hs ht hw hw
      · -- the walk was started in neither session
        have hidle : s.walks[walk]? ≠ some .active := by
          rw [List.getElem?_eq_none (Nat.not_lt.mp hw)]
          exact nofun
        have hidle' : t.walks[walk]? ≠ some .active := by
          rw [List.getElem?_eq_none (h.started ▸ Nat.not_lt.mp hw)]
          exact nofun
        rw [perform_next_idle hidle, perform_next_idle hidle']
        exact ⟨rfl, h⟩
    · exact h.perform_same fun walk heq => hnext ⟨walk, heq⟩

/-- Runs that differ in which walks take a step show the same. -/
theorem Alike.shown (h : Alike s t) (hs : FollowsFrom all past s) (ht : FollowsFrom all past' t)
    {steps steps' : List Step} (hsteps : SameButWalks s.walks.length steps steps') :
    s.shown steps = t.shown steps' := by
  -- both sessions go on, each with a history of its own
  induction steps generalizing s t past past' steps' with
  | nil =>
    cases hsteps
    rfl
  | cons step steps ih =>
    cases hsteps with
    | @cons _ _ step' _ steps' hstep hrest =>
      obtain ⟨hanswer, halike⟩ := h.perform hs ht hstep
      rw [← length_walks_perform] at hrest
      rw [shown_cons, shown_cons, hanswer, halike.cursor,
        ih halike (hs.effect (perform_effect s step)) (ht.effect (perform_effect t step')) hrest]

/-! ## Walking to the end -/

/-- Handing out twice is handing out once. -/
lemma handOut_handOut (s : Session) (is js : List Instruction) (c d : Cursor) :
    (s.handOut is c).handOut js d = s.handOut (is ++ js) d := by
  simp [handOut, List.append_assoc]

/-- Going on for as long as there is more hands out what walking to the end does, and leaves the
same behind. -/
theorem advanceAll_eq (s : Session) :
    s.advanceAll = (s.cursor.pending.map .instruction, (s.perform .drain).2) := by
  -- by what is still to come: each step of the cursor takes one instruction from it
  induction hp : s.cursor.pending generalizing s with
  | nil =>
    have hend : (s.perform .hasMore).1 ≠ .flag true := by
      simp [hasMore_answer, Cursor.remaining, hp]
    rw [advanceAll, if_neg hend, perform_drain_nil hp]
    rfl
  | cons i rest ih =>
    have hmore : (s.perform .hasMore).1 = .flag true := by
      simp [hasMore_answer, Cursor.remaining, hp]
    have hpending : (s.perform .advance).2.cursor.pending = rest := by
      rw [perform_advance_cons hp]
      rfl
    have hnext : s.cursor.next? =
        some (i, { s.cursor with pending := rest, current := some i }) := by
      rw [Cursor.next?, hp]
    have hdrain : ((s.perform .advance).2.perform .drain).2 = (s.perform .drain).2 := by
      rw [perform_advance_cons hp]
      show (s.handOut [i] _).handOut _ _ = s.handOut s.cursor.drain.1 s.cursor.drain.2
      rw [handOut_handOut, Cursor.drain_of_next?_eq_some hnext]
      rfl
    have hanswer : (s.perform .advance).1 = .instruction i := by rw [perform_advance_cons hp]
    rw [advanceAll_of_more hmore, ih _ hpending, hdrain, hanswer, List.map_cons]

/-! ## Questions about the cursor -/

/-- A question about the cursor changes nothing. -/
lemma perform_of_observes {step : Step} (h : step.observes = true) (s : Session) :
    (s.perform step).2 = s := by
  cases step with
  | hasMore | kind | arg1 | arg2 | current | remaining => rfl
  | advance | walk | next | drain | seen => contradiction

/-- Leaving out questions about the cursor changes nothing after them. -/
lemma after_filter_not_observes (s : Session) (steps : List Step) :
    s.after (steps.filter (!·.observes)) = s.after steps := by
  induction steps generalizing s with
  | nil => rfl
  | cons step steps ih =>
    rw [after_cons, ← ih]
    by_cases hstep : step.observes = true
    · rw [List.filter_cons_of_neg (by simp [hstep]), perform_of_observes hstep]
    · rw [List.filter_cons_of_pos (by simp [hstep]), after_cons]

/-- Leaving out questions about the cursor leaves the answers to all other steps as they are. -/
theorem history_filter_not_observes (s : Session) (steps : List Step) :
    s.history (steps.filter (!·.observes)) =
      (s.history steps).filter fun (step, _) => !step.observes := by
  induction steps generalizing s with
  | nil => rfl
  | cons step steps ih =>
    rw [history_cons]
    by_cases hstep : step.observes = true
    · rw [List.filter_cons_of_neg (by simp [hstep]), List.filter_cons_of_neg (by simp [hstep]),
        perform_of_observes hstep, ih]
    · rw [List.filter_cons_of_pos (by simp [hstep]), List.filter_cons_of_pos (by simp [hstep]),
        history_cons, ih]

/-! ## What was handed out -/

/-- What was handed out can be asked for at any time, and is the instruction of the source in that
place. -/
lemma FollowsFrom.perform_seen (h : FollowsFrom all past s) {k : Nat}
    (hk : k < past.handedOut.length) :
    ∃ i, all[k]? = some i ∧ past.handedOut[k]? = some i ∧
      (s.perform (.seen k)).1 = .detail i := by
  have hsome : past.handedOut[k]? = some past.handedOut[k] := List.getElem?_eq_getElem hk
  refine ⟨past.handedOut[k], ?_, hsome, ?_⟩
  · rw [← h.split, List.getElem?_append_left hk, hsome]
  · rw [Session.perform, h.handedOut, hsome]
    rfl

/-! ## All ways to go over the instructions -/

/-- All ways to go over the instructions of a source share one cursor, and nobody is disturbed by
questions about it. It does not matter which walk takes a step; while there is something to come, a
step of a walk is a step of the cursor; walking to the end is going on for as long as there is more;
questions about the cursor may be put in or left out anywhere; and an instruction that was handed
out, which alone settles its kind and its operands, is at any time the one in the same place of the
source. -/
theorem walks_share_one_cursor (marker filename source : String) (steps : List Step) :
    let start := ofSource marker filename source
    let past := start.history steps
    let s := start.after steps
    let all := (Source.clean marker source).map fun (line, text) =>
      (⟨text, line, filename⟩ : Instruction)
    (∀ steps', SameButWalks 0 steps steps' → start.shown steps = start.shown steps') ∧
      (∀ walk < s.walks.length, 0 < s.cursor.remaining →
        ∀ rest, s.run (.next walk :: rest) = s.run (.advance :: rest)) ∧
      ((s.perform .drain).1 = .instructions s.cursor.pending ∧
        s.advanceAll = (s.cursor.pending.map .instruction, (s.perform .drain).2)) ∧
      (∀ steps', steps.filter (!·.observes) = steps'.filter (!·.observes) →
        (past.filter fun (step, _) => !step.observes) =
            (start.history steps').filter (fun (step, _) => !step.observes) ∧
          s = start.after steps') ∧
      ∀ k < past.handedOut.length, ∃ i, all[k]? = some i ∧ past.handedOut[k]? = some i ∧
        (s.perform (.seen k)).1 = .detail i := by
  intro start past s all
  have hstart := followsFrom_ofSource marker filename source
  have h : FollowsFrom all past s := followsFrom_after hstart steps
  refine ⟨fun steps' hsteps => ?_, fun walk hw hpos rest => ?_,
    ⟨drain_answer s, advanceAll_eq s⟩, fun steps' hsteps => ⟨?_, ?_⟩,
    fun k hk => h.perform_seen hk⟩
  · have halike : Alike start start := ⟨rfl, rfl, rfl⟩
    exact halike.shown hstart hstart hsteps
  · have hp : s.cursor.pending ≠ [] := List.ne_nil_of_length_pos hpos
    rw [run, run, h.perform_next_eq_advance hw hp]
  · show (start.history steps).filter _ = _
    rw [← history_filter_not_observes, hsteps, history_filter_not_observes]
  · show start.after steps = _
    rw [← after_filter_not_observes, hsteps, after_filter_not_observes]

end Session

end HackFrontEnd.Cursor
