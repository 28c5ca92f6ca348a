import HackFrontEnd.SymbolTable.Basic

/-!
# Workspaces of symbol tables

Several tables side by side. A workspace carries out requests on any of them in any order; each
table is numbered by its place.
-/

namespace HackFrontEnd.SymbolTable

/-- Tables in the order in which they were made. -/
abbrev Workspace := List SymbolTable

/-- What a table can be asked for. -/
inductive Query
  | contains (name : String)
  | address (name : String)
  | isReserved (name : String)
  | items
  | names
  | size
  | summary
  /-- The address that a name has in every fresh table. -/
  | reservedAddress (name : String)
deriving DecidableEq, Repr

/-- What a workspace can be asked for. -/
inductive Request
  /-- Make a table. However one is asked for, it is a fresh one. -/
  | create
  | add (table : Nat) (name : String) (address : Int)
  | query (table : Nat) (q : Query)
deriving DecidableEq, Repr

/-- What a workspace answers. -/
inductive Reply
  /-- The number of a table that was made. -/
  | created (table : Nat)
  | changed (c : Change)
  /-- Whether the table holds a name, by its test and by membership. -/
  | membership (test member : Bool)
  | address (a : Int)
  | unknown (u : UnknownSymbol)
  | flag (holds : Bool)
  | items (entries : List (String × Int))
  | names (ns : List String)
  | count (n : Nat)
  | text (s : String)
  /-- The name is not reserved. -/
  | notReserved (name : String)
  /-- There is no table with this number. -/
  | noTable (table : Nat)
deriving DecidableEq, Repr

/-- What is logged with a reply. -/
def Reply.records : Reply → List LogRecord
  | .changed c => [c.record]
  | _ => []

/-- The answer of a table to a query. -/
def answer (t : SymbolTable) : Query → Reply
  | .contains name => .membership (t.contains name) (name ∈ t)
  | .address name =>
    match t.address name with
    | .ok a => .address a
    | .error u => .unknown u
  | .isReserved name => .flag (isReserved name)
  | .items => .items t.items
  | .names => .names t.names
  | .size => .count t.size
  | .summary => .text t.summary
  | .reservedAddress name =>
    match reservedSymbols.lookup name with
    | some a => .address a
    | none => .notReserved name

namespace Workspace

/-- A workspace of one fresh table. -/
def single : Workspace := [fresh]

/-- The reply to a request, and the workspace after it. -/
def perform (w : Workspace) : Request → Reply × Workspace
  | .create => (.created w.length, w ++ [fresh])
  | .add table name address =>
    match w[table]? with
    | some t => (.changed (t.change name address), w.set table (t.add name address))
    | none => (.noTable table, w)
  | .query table q =>
    match w[table]? with
    | some t => (t.answer q, w)
    | none => (.noTable table, w)

/-- The replies to a list of requests, each with the workspace after it. -/
def run (w : Workspace) : List Request → List (Reply × Workspace)
  | [] => []
  | r :: rs =>
    let (reply, w) := w.perform r
    (reply, w) :: run w rs

end Workspace

end HackFrontEnd.SymbolTable
