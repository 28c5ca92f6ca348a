import HackFrontEnd.Proofs.SymbolTable.Replay
import HackFrontEnd.Proofs.Text.Numeral
import Mathlib.Data.List.Basic
import Mathlib.Logic.Function.Basic

/-!
# The log of a table

Every addition to a table logs one event, and the events alone tell all there is to know about the
addresses of the table:

* `Change.record_inj`: a record can be read back as the event that was logged;
* `change_cases`, `trail_snoc`: the events of additions, each settled by what was there before it;
* `addressAfter_trail`: the last event about a name tells its address;
* `countP_redefines_trail`: a name is redefined as often as its address changes;
* `replayAll_trail`: whoever follows the events, and checks each against those before it, arrives at
  the addresses of the table;
* `Workspace.log_accounts_for_additions`: all of this for every table at every point of every run.
-/

namespace HackFrontEnd

open Text

/-! ## Events and their records -/

namespace Change

/-- The name that the event is about. -/
def name : Change → String
  | added name _ | redefined name _ _ => name

/-- The address that the name has from then on. -/
def address : Change → Int
  | added _ address => address
  | redefined _ _ new => new

/-- Whether another address is replaced. -/
def redefines : Change → Bool
  | added .. => false
  | redefined .. => true

lemma toList_message_added (name : String) (a : Int) :
    (added name a).record.message.toList =
      ("Adding symbol '".toList ++ (name.toList ++ "' =".toList)) ++
        ' ' :: (Decimal.ofInt a).toList := by
  simp [record, String.toList_append]

lemma toList_message_redefined (name : String) (old new : Int) :
    (redefined name old new).record.message.toList =
      (("Redefining symbol '".toList ++ (name.toList ++ "':".toList)) ++
        ' ' :: (Decimal.ofInt old).toList ++ " ->".toList) ++
          ' ' :: (Decimal.ofInt new).toList := by
  simp [record, String.toList_append]

/-- The record tells the event, however the name is spelled: the addresses stand at the end, where
no part of the name can be taken for them. -/
theorem record_inj {c c' : Change} (h : c.record = c'.record) : c = c' := by
  -- The two kinds of message differ in their first letters. Within one kind, what is taken off
  -- first are the addresses at the end.
  have hmessage : c.record.message.toList = c'.record.message.toList := by rw [h]
  cases c with
  | added name a =>
    cases c' with
    | added name' a' =>
      rw [toList_message_added, toList_message_added] at hmessage
      obtain ⟨hbefore, rfl⟩ := Decimal.eq_of_append_ofInt_eq (by decide) (by decide) hmessage
      have hname := List.append_cancel_right (List.append_cancel_left hbefore)
      rw [String.toList_inj.mp hname]
    | redefined name' old new =>
      rw [toList_message_added, toList_message_redefined] at hmessage
      simp at hmessage
  | redefined name old new =>
    cases c' with
    | added name' a' =>
      rw [toList_message_added, toList_message_redefined] at hmessage
      simp at hmessage
    | redefined name' old' new' =>
      rw [toList_message_redefined, toList_message_redefined] at hmessage
      obtain ⟨hold, rfl⟩ := Decimal.eq_of_append_ofInt_eq (by decide) (by decide) hmessage
      obtain ⟨hbefore, rfl⟩ := Decimal.eq_of_append_ofInt_eq (by decide) (by decide)
        (List.append_cancel_right hold)
      have hname := List.append_cancel_right (List.append_cancel_left hbefore)
      rw [String.toList_inj.mp hname]

end Change

namespace SymbolTable

variable {t : SymbolTable} {own : List (String × Int)} {name : String} {a : Int}

/-! ## The events of additions -/

/-- An addition replaces another address of the name, or else adds one. -/
theorem change_cases (t : SymbolTable) (name : String) (a : Int) :
    (t.change name a = .added name a ∧ (t.address? name = none ∨ t.address? name = some a)) ∨
      ∃ old, t.change name a = .redefined name old a ∧ t.address? name = some old ∧ old ≠ a := by
  unfold change
  cases t.address? name with
  | none => exact .inl ⟨rfl, .inl rfl⟩
  | some old =>
    by_cases hold : old = a
    · exact .inl ⟨if_pos hold, .inr (congrArg some hold)⟩
    · exact .inr ⟨old, if_neg hold, rfl, hold⟩

/-- A name is added exactly if it had no address or has had this one already. -/
lemma change_eq_added_iff :
    t.change name a = .added name a ↔ t.address? name = none ∨ t.address? name = some a := by
  rcases change_cases t name a with ⟨h, hhad⟩ | ⟨old, h, hhad, hne⟩
  · exact iff_of_true h hhad
  · rw [h, hhad]
    simp [hne]

/-- A name is redefined exactly if it had another address. -/
lemma change_eq_redefined_iff {old : Int} :
    t.change name a = .redefined name old a ↔ t.address? name = some old ∧ old ≠ a := by
  -- an addition that adds its name is at odds with any other address before it
  rcases change_cases t name a with ⟨h, hhad⟩ | ⟨old', h, hhad, hne⟩
  · have hnot : ¬(t.address? name = some old ∧ old ≠ a) := by
      rintro ⟨hold, hne⟩
      rw [hold] at hhad
      rcases hhad with hnone | hsame
      · contradiction
      · exact hne (Option.some.inj hsame)
    rw [h]
    simpa using hnot
  · rw [h, hhad]
    have hsame : old' = old → old ≠ a := fun heq => heq ▸ hne
    simpa using hsame

lemma name_change (t : SymbolTable) (name : String) (a : Int) : (t.change name a).name = name := by
  rcases change_cases t name a with ⟨h, _⟩ | ⟨old, h, _⟩ <;> rw [h] <;> rfl

lemma address_change (t : SymbolTable) (name : String) (a : Int) :
    (t.change name a).address = a := by
  rcases change_cases t name a with ⟨h, _⟩ | ⟨old, h, _⟩ <;> rw [h] <;> rfl

/-- The events of additions to a table, in the order in which they are made. -/
def changes (t : SymbolTable) : List (String × Int) → List Change
  | [] => []
  | (name, address) :: entries => t.change name address :: (t.add name address).changes entries

lemma changes_append (t : SymbolTable) (entries entries' : List (String × Int)) :
    t.changes (entries ++ entries') = t.changes entries ++ (t.addAll entries).changes entries' := by
  induction entries generalizing t with
  | nil => rfl
  | cons entry entries ih =>
    rw [List.cons_append, changes, changes, ih, List.cons_append]
    rfl

/-- The events of additions to a fresh table. -/
def trail (own : List (String × Int)) : List Change :=
  fresh.changes own

lemma trail_append (own entries : List (String × Int)) :
    trail (own ++ entries) = trail own ++ (ofAdditions own).changes entries :=
  changes_append fresh own entries

/-- The last addition adds one event, by the table of those before it. -/
lemma trail_snoc (own : List (String × Int)) (name : String) (a : Int) :
    trail (own ++ [(name, a)]) = trail own ++ [(ofAdditions own).change name a] :=
  trail_append own [(name, a)]

/-- The name and the address that an event is about. -/
def entryOf (c : Change) : String × Int :=
  (c.name, c.address)

/-- A trail tells the additions that it is of. -/
theorem map_entryOf_trail (own : List (String × Int)) : (trail own).map entryOf = own := by
  induction own using List.reverseRecOn with
  | nil => rfl
  | append_singleton own entry ih =>
    rw [trail_snoc, List.map_append, ih, List.map_singleton, entryOf, name_change, address_change]

lemma length_trail (own : List (String × Int)) : (trail own).length = own.length := by
  rw [← List.length_map (f := entryOf), map_entryOf_trail]

/-! ## What the events tell -/

/-- The address of a name by the last event about it, or its reserved one if there is none. -/
def addressAfter (events : List Change) (name : String) : Option Int :=
  ((events.filter (·.name == name)).getLast?.map Change.address).or (reservedSymbols.lookup name)

lemma addressAfter_snoc (events : List Change) (c : Change) (name : String) :
    addressAfter (events ++ [c]) name =
      if c.name = name then some c.address else addressAfter events name := by
  unfold addressAfter
  by_cases hname : c.name = name <;> simp [List.filter_append, hname]

/-- The last event about a name tells the address that the name has in the table. -/
theorem addressAfter_trail (own : List (String × Int)) (name : String) :
    addressAfter (trail own) name = (ofAdditions own).address? name := by
  induction own using List.reverseRecOn with
  | nil => rfl
  | append_singleton own entry ih =>
    rw [trail_snoc, addressAfter_snoc, name_change, address_change, ih, ofAdditions_snoc,
      address?_add]
    simp only [eq_comm]

/-- The addresses that a name has one after the other: its reserved one, and those it is given. -/
def addressesOf (own : List (String × Int)) (name : String) : List Int :=
  (reservedSymbols.lookup name).toList ++ (own.filter (·.1 == name)).map Prod.snd

/-- How often the next number of a list is another one. -/
def turns (numbers : List Int) : Nat :=
  (numbers.zip numbers.tail).countP fun (m, n) => m != n

/-- One more number is one more turn, unless it is the first one or the same as the last. -/
lemma turns_snoc (numbers : List Int) (n : Int) :
    turns (numbers ++ [n]) =
      turns numbers + if numbers.getLast? = none ∨ numbers.getLast? = some n then 0 else 1 := by
  cases numbers with
  | nil => rfl
  | cons m numbers =>
    -- the turns of a list are those of its tail, and one more if its first two numbers differ
    induction numbers generalizing m with
    | nil => by_cases hmn : m = n <;> simp [turns, hmn]
    | cons k numbers ih =>
      have hcons : ∀ numbers, turns (m :: k :: numbers) =
          (if m = k then 0 else 1) + turns (k :: numbers) := by
        intro numbers
        by_cases hmk : m = k <;> simp [turns, hmk, Nat.add_comm]
      rw [List.cons_append, List.cons_append, hcons, hcons, ← List.cons_append, ih,
        List.getLast?_cons_cons, Nat.add_assoc]

lemma addressesOf_snoc (own : List (String × Int)) (name other : String) (a : Int) :
    addressesOf (own ++ [(name, a)]) other =
      addressesOf own other ++ if name = other then [a] else [] := by
  unfold addressesOf
  by_cases hname : name = other <;> simp [List.filter_append, hname]

/-- A name has the last of the addresses that it has one after the other. -/
lemma getLast?_addressesOf (own : List (String × Int)) (name : String) :
    (addressesOf own name).getLast? = (ofAdditions own).address? name := by
  induction own using List.reverseRecOn with
  | nil =>
    show ((reservedSymbols.lookup name).toList ++ []).getLast? = reservedSymbols.lookup name
    cases reservedSymbols.lookup name <;> rfl
  | append_singleton own entry ih =>
    obtain ⟨n, a⟩ := entry
    rw [addressesOf_snoc, ofAdditions_snoc, address?_add]
    by_cases hname : name = n
    · rw [if_pos hname.symm, if_pos hname, List.getLast?_concat]
    · rw [if_neg (Ne.symm hname), if_neg hname, List.append_nil, ih]

/-- An event redefines its name exactly if it is a turn in the addresses of the name. -/
lemma redefines_change (own : List (String × Int)) (name : String) (a : Int) :
    turns (addressesOf own name ++ [a]) =
      turns (addressesOf own name) +
        if ((ofAdditions own).change name a).redefines then 1 else 0 := by
  rw [turns_snoc, getLast?_addressesOf]
  rcases change_cases (ofAdditions own) name a with ⟨h, hold⟩ | ⟨old, h, hold, hne⟩
  · rw [h, if_pos hold]
    rfl
  · have hnot : ¬((ofAdditions own).address? name = none ∨
        (ofAdditions own).address? name = some a) := by
      rw [hold]
      simp [hne]
    rw [h, if_neg hnot]
    rfl

/-- A name is redefined as often as its address changes. -/
theorem countP_redefines_trail (own : List (String × Int)) (name : String) :
    (trail own).countP (fun c => c.name == name && c.redefines) = turns (addressesOf own name) := by
  induction own using List.reverseRecOn with
  | nil =>
    show 0 = turns ((reservedSymbols.lookup name).toList ++ [])
    cases reservedSymbols.lookup name <;> rfl
  | append_singleton own entry ih =>
    obtain ⟨n, a⟩ := entry
    rw [trail_snoc, List.countP_append, ih, List.countP_singleton, name_change, addressesOf_snoc]
    by_cases hname : n = name
    · subst hname
      rw [if_pos rfl, redefines_change]
      simp
    · simp [hname]

/-! ## Following the events -/

/-- The addresses after an event, unless the event is at odds with those before it. -/
def replay? (addresses : String → Option Int) : Change → Option (String → Option Int)
  | .added name a =>
    if addresses name = none ∨ addresses name = some a then
      some (Function.update addresses name (some a))
    else none
  | .redefined name old new =>
    if addresses name = some old ∧ old ≠ new then
      some (Function.update addresses name (some new))
    else none

/-- The addresses after some events, from the reserved ones on, unless an event is at odds with
those before it. -/
def replayAll? (events : List Change) : Option (String → Option Int) :=
  events.foldlM replay? (reservedSymbols.lookup ·)

lemma address?_add_eq_update (t : SymbolTable) (name : String) (a : Int) :
    (t.add name a).address? = Function.update t.address? name (some a) := by
  funext other
  rw [address?_add, Function.update_apply]

/-- The event of an addition agrees with the table, and leads to the addresses after it. -/
lemma replay?_change (t : SymbolTable) (name : String) (a : Int) :
    replay? t.address? (t.change name a) = some (t.add name a).address? := by
  rw [address?_add_eq_update]
  rcases change_cases t name a with ⟨h, hold⟩ | ⟨old, h, hold⟩
  · rw [h, replay?, if_pos hold]
  · rw [h, replay?, if_pos hold]

/-- The events of additions are never at odds with one another, and lead to the addresses that the
additions make. -/
theorem replayAll?_trail (own : List (String × Int)) :
    replayAll? (trail own) = some (ofAdditions own).address? := by
  unfold replayAll?
  induction own using List.reverseRecOn with
  | nil => rfl
  | append_singleton own entry ih =>
    rw [trail_snoc, List.foldlM_append, ih, ofAdditions_snoc, ← replay?_change]
    simp

/-! ## Accounts of a table -/

/-- Each event of a trail is what its addition means for the table that the additions before it
made, and the events before it are the trail of those. -/
lemma change_of_trail_eq {past future : List Change} {c : Change}
    (h : trail own = past ++ c :: future) :
    past = trail (own.take past.length) ∧
      c = (ofAdditions (own.take past.length)).change c.name c.address := by
  -- the additions are told by their events, so a split of the trail is a split of the additions
  have hown : own = past.map entryOf ++ entryOf c :: future.map entryOf := by
    rw [← map_entryOf_trail own, h, List.map_append, List.map_cons]
  have htake : own.take past.length = past.map entryOf := by
    rw [hown, List.take_left' (List.length_map _)]
  have hsplit : trail own = trail (past.map entryOf) ++
      ((ofAdditions (past.map entryOf)).change c.name c.address ::
        ((ofAdditions (past.map entryOf)).add c.name c.address).changes (future.map entryOf)) := by
    rw [hown, trail_append]
    rfl
  have hlength : past.length = (trail (past.map entryOf)).length := by
    rw [length_trail, List.length_map]
  rw [h] at hsplit
  obtain ⟨hpast, hcons⟩ := List.append_inj hsplit hlength
  rw [htake]
  exact ⟨hpast, (List.cons.inj hcons).1⟩

/-- What events have to tell to account for the additions to a table, in the order in which these
were made, and for the table that came of them. -/
structure AccountsFor (events : List Change) (own : List (String × Int)) (t : SymbolTable) :
    Prop where
  /-- There is one event for each addition, about its name and its address. -/
  map_entryOf : events.map entryOf = own
  /-- The name is added exactly if it had no address before, or had this one already. -/
  added_iff : ∀ past c future, events = past ++ c :: future →
    (c = .added c.name c.address ↔
      (ofAdditions (own.take past.length)).address? c.name = none ∨
        (ofAdditions (own.take past.length)).address? c.name = some c.address)
  /-- It is redefined exactly if it had another address, which is the one that the event before
  told, or else the reserved one. -/
  redefined_iff : ∀ past c future, events = past ++ c :: future → ∀ old,
    (c = .redefined c.name old c.address ↔
      addressAfter past c.name = some old ∧ old ≠ c.address)
  countP_redefines : ∀ name, events.countP (fun c => c.name == name && c.redefines) =
    turns (addressesOf own name)
  /-- Following the events from the reserved addresses on leads to those of the table. -/
  replayAll? : replayAll? events = some t.address?

theorem accountsFor_trail (own : List (String × Int)) :
    AccountsFor (trail own) own (ofAdditions own) where
  map_entryOf := map_entryOf_trail own
  added_iff := by
    intro past c future h
    obtain ⟨_, hc⟩ := change_of_trail_eq h
    rw [← change_eq_added_iff, ← hc]
  redefined_iff := by
    intro past c future h old
    obtain ⟨hpast, hc⟩ := change_of_trail_eq h
    rw [hpast, addressAfter_trail, ← change_eq_redefined_iff, ← hc]
  countP_redefines := countP_redefines_trail own
  replayAll? := replayAll?_trail own

/-! ## The log of a workspace -/

/-- The table that a request is about. -/
def Request.table? : Request → Option Nat
  | .create => none
  | .add table .. | .query table _ => some table

namespace Workspace

/-- What was logged by requests to a table. -/
def History.log (past : History) (table : Nat) : List LogRecord :=
  past.flatMap fun (request, reply) =>
    if request.table? = some table then reply.records else []

/-- A request appends what it logs to the log of its own table, and nothing to that of another. -/
lemma History.log_snoc (past : History) (request : Request) (reply : Reply) (table : Nat) :
    log (past ++ [(request, reply)]) table =
      past.log table ++ if request.table? = some table then reply.records else [] := by
  simp [log]

/-- Queries log nothing. -/
lemma records_answer (t : SymbolTable) (q : Query) : (t.answer q).records = [] := by
  cases q with
  | address name =>
    rw [answer_address]
    cases t.address? name <;> rfl
  | reservedAddress name =>
    rw [answer]
    cases reservedSymbols.lookup name <;> rfl
  | contains | isReserved | items | names | size | summary => rfl

/-- A request to a table logs the event of the addition that it makes, and nothing else. -/
lemma records_perform (w : Workspace) (request : Request) (table : Nat) :
    (if request.table? = some table then (w.perform request).1.records else []) =
      ((w.tableAt table).changes
        (request.addition? table (w.perform request).1).toList).map Change.record := by
  cases request with
  | create => rfl
  | add target name address =>
    rcases Nat.lt_or_ge target w.length with hlt | hle
    · rw [perform_add_of_lt hlt]
      simp only [Request.table?, Request.addition?, Option.some.injEq]
      by_cases heq : target = table
      · rw [if_pos heq, if_pos heq, heq]
        rfl
      · rw [if_neg heq, if_neg heq]
        rfl
    · rw [perform_add_of_le hle]
      exact ite_self []
  | query target q =>
    rw [perform]
    cases w[target]? with
    | none => exact ite_self []
    | some t =>
      simp only [records_answer, ite_self]
      rfl

/-- The log of a table is the trail of its additions, at every point of every run. -/
theorem log_after {w : Workspace} (h : Replays [] w) (requests : List Request) (table : Nat) :
    (w.history requests).log table =
      (trail ((w.history requests).additions table)).map Change.record := by
  -- the log alone is no invariant: which event a request logs depends on the table, so that the
  -- table replays its additions goes along
  have hinvariant : Replays (w.history requests) (w.after requests) ∧
      (w.history requests).log table =
        (trail ((w.history requests).additions table)).map Change.record := by
    refine runs.invariant (P := fun (past : History) w => Replays past w ∧
      past.log table = (trail (past.additions table)).map Change.record) ⟨h, rfl⟩ ?_ requests
    rintro (past : History) w request ⟨hreplays, hlog⟩
    refine ⟨hreplays.perform request, ?_⟩
    rw [History.log_snoc, hlog, records_perform, hreplays table, History.additions_snoc,
      trail_append, List.map_append]
  exact hinvariant.2

/-- The log of a table is a faithful account of it. Every addition logs one event, and whatever else
happens in a workspace, the records that are logged for a table are those of one list of events and
no other. These are one for each addition to the table, tell truly what its name had before,
redefine names as often as their addresses change, and lead from the reserved addresses to those of
the table when they are followed. -/
theorem log_accounts_for_additions (tables : Nat) (requests : List Request) :
    let start : Workspace := List.replicate tables fresh
    let past := start.history requests
    let w := start.after requests
    ∀ table,
      (table < w.length → ∀ name a, ∃ c : Change,
        (w.perform (.add table name a)).1.records = [c.record] ∧ entryOf c = (name, a)) ∧
      ∃ events : List Change,
        (∀ events' : List Change, events'.map Change.record = past.log table ↔ events' = events) ∧
          AccountsFor events (past.additions table) (w.tableAt table) := by
  intro start past w table
  have hstart : Replays [] start := replays_replicate tables
  have hlog : past.log table = (trail (past.additions table)).map Change.record :=
    log_after hstart requests table
  refine ⟨fun hlt name a => ⟨(w.tableAt table).change name a, ?_, ?_⟩,
    trail (past.additions table), fun events' => ?_, ?_⟩
  · rw [perform, tableAt_of_lt hlt]
    rfl
  · rw [entryOf, name_change, address_change]
  -- records can be read back, so no other events have the same ones
  · rw [hlog]
    exact (List.map_injective_iff.mpr fun _ _ => Change.record_inj).eq_iff
  · rw [replays_after hstart requests table]
    exact accountsFor_trail (past.additions table)

-- an address of zero is an address, and setting it again changes nothing
example : trail [("SP", 0), ("SP", -1), ("SP", 0), ("i", 0), ("i", 0)] =
    [.added "SP" 0, .redefined "SP" 0 (-1), .redefined "SP" (-1) 0, .added "i" 0,
      .added "i" 0] := by
  decide +kernel

end Workspace

end SymbolTable

end HackFrontEnd
