import HackFrontEnd.SymbolTable.Workspace
import HackFrontEnd.Proofs.Machine
import HackFrontEnd.Proofs.SymbolTable.Additions

/-!
# Tables side by side

Tables do not share anything. Whatever else happens in a workspace, a table is what its own
additions make of a fresh one:

* `tableAt_perform`: a request changes a table by what it adds to that table;
* `replays_after`: so the history of a workspace settles its tables;
* `LastWriteWins`: what the answers of one table say about the additions to it;
* `tables_replay_own_additions`: the two together, for every table at every point of every run.
-/

namespace HackFrontEnd.SymbolTable

/-! ## Histories of a workspace -/

/-- The entry that a request adds to a table, if it does and is not refused. -/
def Request.addition? (table : Nat) : Request → Reply → Option (String × Int)
  | .add target name address, .changed _ => if target = table then some (name, address) else none
  | _, _ => none

namespace Workspace

/-- The requests to a workspace, each with its reply, in the order in which they were made. -/
abbrev History := List (Request × Reply)

/-- The entries that were added to a table. -/
def History.additions (past : History) (table : Nat) : List (String × Int) :=
  past.filterMap fun (request, reply) => request.addition? table reply

lemma History.additions_snoc (past : History) (request : Request) (reply : Reply) (table : Nat) :
    additions (past ++ [(request, reply)]) table =
      past.additions table ++ (request.addition? table reply).toList := by
  rw [additions, List.filterMap_append, ← additions]
  cases hadds : request.addition? table reply <;> simp [hadds]

/-- The workspace after a list of requests. -/
def after (w : Workspace) (requests : List Request) : Workspace :=
  Machine.after run w requests

/-- The requests of a run with their replies. -/
def history (w : Workspace) (requests : List Request) : History :=
  Machine.history run w requests

lemma runs : Machine.Runs perform run :=
  ⟨fun _ => rfl, fun _ _ _ => rfl⟩

/-! ## The invariant -/

/-- The table with a number. One that is yet to be made counts as fresh, which it will be. -/
def tableAt (w : Workspace) (table : Nat) : SymbolTable :=
  w[table]?.getD fresh

lemma tableAt_of_lt {w : Workspace} {table : Nat} (h : table < w.length) :
    w[table]? = some (w.tableAt table) := by
  rw [tableAt, List.getElem?_eq_getElem h, Option.getD_some]

/-- A new table is fresh, and leaves the others as they are. -/
lemma tableAt_perform_create (w : Workspace) (table : Nat) :
    (w.perform .create).2.tableAt table = w.tableAt table := by
  show (w ++ [fresh])[table]?.getD fresh = w[table]?.getD fresh
  by_cases hlt : table < w.length
  · rw [List.getElem?_append_left hlt]
  -- a table that is not made counts as fresh, be it the next one or a later one
  · have hle : w.length ≤ table := Nat.not_lt.mp hlt
    rw [List.getElem?_append_right hle, List.getElem?_eq_none hle]
    cases table - w.length <;> rfl

lemma tableAt_set {w : Workspace} {target : Nat} (h : target < w.length) (t : SymbolTable)
    (table : Nat) :
    tableAt (w.set target t) table = if target = table then t else w.tableAt table := by
  unfold tableAt
  by_cases heq : target = table
  · subst heq
    rw [List.getElem?_set_self h, if_pos rfl, Option.getD_some]
  · rw [List.getElem?_set_ne heq, if_neg heq]

lemma perform_add_of_lt {w : Workspace} {target : Nat} (h : target < w.length) (name : String)
    (a : Int) :
    w.perform (.add target name a) =
      (.changed ((w.tableAt target).change name a),
        w.set target ((w.tableAt target).add name a)) := by
  rw [perform, tableAt_of_lt h]

lemma perform_add_of_le {w : Workspace} {target : Nat} (h : w.length ≤ target) (name : String)
    (a : Int) : w.perform (.add target name a) = (.noTable target, w) := by
  rw [perform, List.getElem?_eq_none h]

/-- A request changes a table by what it adds to that table, and in no other way. -/
theorem tableAt_perform (w : Workspace) (request : Request) (table : Nat) :
    (w.perform request).2.tableAt table =
      (w.tableAt table).addAll (request.addition? table (w.perform request).1).toList := by
  cases request with
  | create => exact tableAt_perform_create w table
  | add target name address =>
    rcases Nat.lt_or_ge target w.length with hlt | hle
    · rw [perform_add_of_lt hlt, tableAt_set hlt, Request.addition?]
      by_cases heq : target = table
      · rw [if_pos heq, if_pos heq, heq]
        rfl
      · rw [if_neg heq, if_neg heq]
        rfl
    · rw [perform_add_of_le hle]
      rfl
  | query target q =>
    rw [perform]
    cases w[target]? <;> rfl

/-- Every table is what its own additions make of a fresh one. -/
def Replays (past : History) (w : Workspace) : Prop :=
  ∀ table, w.tableAt table = ofAdditions (past.additions table)

/-- That tables replay their own additions is kept by every request. -/
lemma Replays.perform {past : History} {w : Workspace} (h : Replays past w) (request : Request) :
    Replays (past ++ [(request, (w.perform request).1)]) (w.perform request).2 := by
  intro table
  rw [tableAt_perform, h table, History.additions_snoc, ofAdditions_append]

/-- Before the first request there is nothing to replay, and all tables are fresh. -/
lemma replays_replicate (tables : Nat) : Replays [] (List.replicate tables fresh) := by
  intro table
  rw [tableAt, List.getElem?_replicate]
  split <;> rfl

/-- The tables replay their own additions at every point of every run. -/
theorem replays_after {w : Workspace} (h : Replays [] w) (requests : List Request) :
    Replays (w.history requests) (w.after requests) :=
  runs.invariant h (fun _ _ request ht => ht.perform request) requests

/-! ## The answers of a table -/

/-- What answers say of the additions to a table, in the order in which they were made. -/
structure LastWriteWins (own : List (String × Int)) (reply : Query → Reply) : Prop where
  /-- A name has the address that it was given last, or else its reserved one. -/
  address : ∀ name a, reply (.address name) = .address a ↔ lastAddress? own name = some a
  /-- A name that has neither is unknown. -/
  unknown : ∀ name, (∃ similar, reply (.address name) = .unknown ⟨name, similar⟩) ↔
    lastAddress? own name = none
  /-- The names held are those that have an address, by either test. -/
  contains : ∀ name, ∃ holds, reply (.contains name) = .membership holds holds ∧
    (holds = true ↔ ∃ a, reply (.address name) = .address a)
  /-- The reserved names come first, and the others in the order in which they first came. -/
  names : reply .names = .names (reservedNames ++ (givenNames own).eraseDups)
  nodup : (reservedNames ++ (givenNames own).eraseDups).Nodup
  /-- The names, and the entries, are as many as the reserved and the other distinct names. -/
  size : reply .size = .count (23 + (givenNames own).toFinset.card)
  length_names : (reservedNames ++ (givenNames own).eraseDups).length =
    23 + (givenNames own).toFinset.card
  items : ∃ entries, reply .items = .items entries ∧
    entries.length = 23 + (givenNames own).toFinset.card
  /-- What is reserved stays so. -/
  isReserved : ∀ name, reply (.isReserved name) = .flag (decide (name ∈ reservedNames))
  reservedAddress : ∀ name, reply (.reservedAddress name) =
    (reservedSymbols.lookup name).elim (.notReserved name) .address

lemma answer_address (t : SymbolTable) (name : String) :
    t.answer (.address name) =
      (t.address? name).elim (.unknown ⟨name, Text.closeMatches name t.names⟩) .address := by
  rw [answer, SymbolTable.address]
  cases t.address? name <;> rfl

/-- A table answers for the additions that were made to it. -/
theorem lastWriteWins_ofAdditions (own : List (String × Int)) :
    LastWriteWins own (ofAdditions own).answer where
  address := by
    intro name a
    rw [answer_address, address?_ofAdditions]
    cases lastAddress? own name <;> simp
  unknown := by
    intro name
    rw [answer_address, address?_ofAdditions]
    cases lastAddress? own name <;> simp
  contains := by
    intro name
    refine ⟨(ofAdditions own).contains name, ?_, ?_⟩
    · rw [answer]
      congr 1
      rw [Bool.eq_iff_iff, decide_eq_true_iff, contains_iff_mem]
    · rw [contains_iff_mem, ← address?_isSome_iff, answer_address]
      cases (ofAdditions own).address? name <;> simp
  names := congrArg Reply.names (names_ofAdditions own)
  nodup := names_ofAdditions own ▸ (ofAdditions own).names_nodup
  size := congrArg Reply.count (size_ofAdditions own)
  length_names := by
    rw [← names_ofAdditions, SymbolTable.length_names, size_ofAdditions]
  items := ⟨_, rfl, by rw [length_items, size_ofAdditions]⟩
  isReserved := by
    intro name
    rw [answer, Bool.eq_iff_iff.mpr ((isReserved_iff_mem name).trans decide_eq_true_iff.symm)]
  reservedAddress := by
    intro name
    rw [answer]
    cases reservedSymbols.lookup name <;> rfl

/-! ## Tables do not share anything -/

/-- Each table of a workspace is a map of its own over the reserved names, in which the last
addition counts. However many tables there are, and whatever requests were made to them in whichever
order, a table replies as a fresh one does after its own additions alone. Queries change nothing,
and an addition changes one table. -/
theorem tables_replay_own_additions (tables : Nat) (requests : List Request) :
    let start : Workspace := List.replicate tables fresh
    let past := start.history requests
    let w := start.after requests
    ∀ table : Fin w.length,
      let own := past.additions table
      (∀ q, w.perform (.query table q) = ((ofAdditions own).answer q, w)) ∧
      (∀ name address, w.perform (.add table name address) =
        (.changed ((ofAdditions own).change name address),
          w.set table (ofAdditions (own ++ [(name, address)])))) ∧
      LastWriteWins own fun q => (w.perform (.query table q)).1 := by
  intro start past w table own
  have hreplays : Replays past w := replays_after (replays_replicate tables) requests
  have htable : w[table.val]? = some (ofAdditions own) := by
    rw [tableAt_of_lt table.isLt, hreplays table]
  have hquery : ∀ q, w.perform (.query table q) = ((ofAdditions own).answer q, w) := by
    intro q
    rw [perform, htable]
  refine ⟨hquery, fun name address => ?_, ?_⟩
  · rw [perform, htable, ofAdditions_snoc]
  · simp only [hquery]
    exact lastWriteWins_ofAdditions own

end Workspace

end HackFrontEnd.SymbolTable
