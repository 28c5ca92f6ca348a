import HackFrontEnd.Diagnostic
import HackFrontEnd.Log
import HackFrontEnd.Text.Similarity

/-!
# Symbol tables

Addresses by name. A table starts with the reserved names of the machine's memory map, keeps names
in the order in which they first came, and gives a name the address it was given last. Reserved
names are not protected.

- `address?_add`: after an addition the name has the new address and no other name has changed.
- `names_add`: an addition puts a new name at the end, and leaves a known name where it is.
-/

namespace HackFrontEnd

/-- The reserved names and their addresses. -/
def reservedSymbols : List (String × Int) :=
  [("SP", 0), ("LCL", 1), ("ARG", 2), ("THIS", 3), ("THAT", 4)] ++
    (List.range 16).map (fun n => ("R" ++ Text.Decimal.ofNat n, (n : Int))) ++
    [("SCREEN", 16384), ("KBD", 24576)]

/-- A look-up of a name that the table does not hold, and the names like it. -/
structure UnknownSymbol where
  symbol : String
  similar : List String := []
deriving DecidableEq, Repr

/-- The failed look-up in words. -/
def UnknownSymbol.message (u : UnknownSymbol) : String :=
  let suggested := u.similar.take Text.maxSuggestions
  let hint := if suggested.isEmpty then "" else " (did you mean " ++ quotedNames suggested ++ "?)"
  "undefined symbol '" ++ u.symbol ++ "'" ++ hint

/-- What an addition did to a table. -/
inductive Change
  /-- The name had no address, or had this one already. -/
  | added (name : String) (address : Int)
  /-- The name had another address. -/
  | redefined (name : String) (old new : Int)
deriving DecidableEq, Repr

/-- The record of a change. -/
def Change.record : Change → LogRecord
  | added name address =>
    ⟨.debug, "Adding symbol '" ++ name ++ "' = " ++ Text.Decimal.ofInt address⟩
  | redefined name old new =>
    ⟨.debug, "Redefining symbol '" ++ name ++ "': " ++ Text.Decimal.ofInt old ++ " -> " ++
      Text.Decimal.ofInt new⟩

/-- The entries with an address put in place of the name's old one, or at the end. -/
def putEntry (name : String) (address : Int) : List (String × Int) → List (String × Int)
  | [] => [(name, address)]
  | (n, a) :: rest =>
    if n = name then (n, address) :: rest else (n, a) :: putEntry name address rest

theorem map_fst_putEntry (name : String) (address : Int) (entries : List (String × Int)) :
    (putEntry name address entries).map Prod.fst =
      if name ∈ entries.map Prod.fst then entries.map Prod.fst
      else entries.map Prod.fst ++ [name] := by
  induction entries with
  | nil => simp [putEntry]
  | cons e rest ih =>
    obtain ⟨n, a⟩ := e
    by_cases h : n = name
    · simp [putEntry, h]
    · simp only [putEntry, h, if_false, List.map_cons, ih, List.mem_cons, Ne.symm h, false_or]
      split <;> simp

theorem lookup_putEntry (name other : String) (address : Int) (entries : List (String × Int)) :
    (putEntry name address entries).lookup other =
      if other = name then some address else entries.lookup other := by
  induction entries with
  | nil =>
    rw [putEntry, List.lookup_cons]
    by_cases h : other = name <;> simp [h, beq_eq_false_iff_ne.mpr]
  | cons e rest ih =>
    obtain ⟨n, a⟩ := e
    by_cases hn : n = name
    · subst hn
      rw [putEntry, if_pos rfl, List.lookup_cons, List.lookup_cons]
      by_cases ho : other = n <;> simp [ho, beq_eq_false_iff_ne.mpr]
    · rw [putEntry, if_neg hn, List.lookup_cons, List.lookup_cons, ih]
      by_cases ho : other = n
      · subst ho
        simp [hn]
      · simp [beq_eq_false_iff_ne.mpr ho]

/-- Addresses by name, in the order in which the names first came. -/
structure SymbolTable where
  entries : List (String × Int)
  names_nodup : (entries.map Prod.fst).Nodup

namespace SymbolTable

/-- A table of the reserved names. -/
def fresh : SymbolTable :=
  ⟨reservedSymbols, by decide +kernel⟩

/-- The names in the order in which they first came. -/
def names (t : SymbolTable) : List String :=
  t.entries.map Prod.fst

/-- The number of names. -/
def size (t : SymbolTable) : Nat :=
  t.entries.length

/-- The address of a name. -/
def address? (t : SymbolTable) (name : String) : Option Int :=
  t.entries.lookup name

/-- Whether the table holds a name. -/
def contains (t : SymbolTable) (name : String) : Bool :=
  t.names.contains name

instance : Membership String SymbolTable where
  mem t name := name ∈ t.names

instance (t : SymbolTable) (name : String) : Decidable (name ∈ t) :=
  inferInstanceAs (Decidable (name ∈ t.names))

/-- Whether a name is reserved, in any table. -/
def isReserved (name : String) : Bool :=
  (reservedSymbols.map Prod.fst).contains name

/-- The table with an address for a name, which replaces an earlier one. -/
def add (t : SymbolTable) (name : String) (address : Int) : SymbolTable where
  entries := putEntry name address t.entries
  names_nodup := by
    rw [map_fst_putEntry]
    split
    · exact t.names_nodup
    · rename_i h
      exact List.nodup_append.mpr
        ⟨t.names_nodup, by simp, fun a ha b hb => by
          rintro rfl
          exact h (List.mem_singleton.mp hb ▸ ha)⟩

/-- What giving a name an address means for the table. -/
def change (t : SymbolTable) (name : String) (address : Int) : Change :=
  match t.address? name with
  | some old => if old = address then .added name address else .redefined name old address
  | none => .added name address

/-- The address of a name, or the names like it. -/
def address (t : SymbolTable) (name : String) : Except UnknownSymbol Int :=
  match t.address? name with
  | some a => .ok a
  | none => .error ⟨name, Text.closeMatches name t.names⟩

/-- Entries by address, and those with one address by name. -/
def entryLE (e f : String × Int) : Bool :=
  e.2 < f.2 || (e.2 = f.2 && e.1 ≤ f.1)

/-- The entries by address and then by name. -/
def items (t : SymbolTable) : List (String × Int) :=
  t.entries.mergeSort entryLE

/-- The table in a few words. -/
def summary (t : SymbolTable) : String :=
  "SymbolTable(" ++ Text.Decimal.ofNat t.size ++ " symbols)"

/-! ## Laws -/

/-- After an addition the name has the new address, and no other name has changed. -/
theorem address?_add (t : SymbolTable) (name other : String) (address : Int) :
    (t.add name address).address? other =
      if other = name then some address else t.address? other :=
  lookup_putEntry name other address t.entries

/-- An addition puts a new name at the end, and leaves a known name where it is. -/
theorem names_add (t : SymbolTable) (name : String) (address : Int) :
    (t.add name address).names = if name ∈ t then t.names else t.names ++ [name] :=
  map_fst_putEntry name address t.entries

theorem contains_iff_mem (t : SymbolTable) (name : String) : t.contains name ↔ name ∈ t :=
  List.contains_iff_mem

end SymbolTable

end HackFrontEnd
