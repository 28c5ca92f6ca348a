import HackFrontEnd.SymbolTable.Basic
import Mathlib.Data.Finset.Card
import Mathlib.Data.List.Induction

/-!
# What additions make of a table

A table is settled by the additions that were made to it, from a fresh one on:

* `address?_ofAdditions`: a name has the address that it was given last, or else its reserved one;
* `names_ofAdditions`: the reserved names come first, and then the others in the order in which they
  were first given an address;
* `size_ofAdditions`: so the number of distinct names that are not reserved settles the size.
-/

namespace HackFrontEnd.SymbolTable

/-- The table after additions, made one after the other. -/
def addAll (t : SymbolTable) (entries : List (String × Int)) : SymbolTable :=
  entries.foldl (fun t (name, address) => t.add name address) t

/-- The table after additions to a fresh one. -/
def ofAdditions (own : List (String × Int)) : SymbolTable :=
  fresh.addAll own

/-- Later additions go on from the table that the earlier ones made. -/
lemma ofAdditions_append (own entries : List (String × Int)) :
    ofAdditions (own ++ entries) = (ofAdditions own).addAll entries :=
  List.foldl_append

lemma ofAdditions_snoc (own : List (String × Int)) (name : String) (address : Int) :
    ofAdditions (own ++ [(name, address)]) = (ofAdditions own).add name address :=
  ofAdditions_append own [(name, address)]

/-! ## Addresses -/

/-- The address that a name was given last, or else its reserved one. -/
def lastAddress? (own : List (String × Int)) (name : String) : Option Int :=
  (own.reverse.lookup name).or (reservedSymbols.lookup name)

/-- A name has the address that it was given last, or else its reserved one. -/
theorem address?_ofAdditions (own : List (String × Int)) (name : String) :
    (ofAdditions own).address? name = lastAddress? own name := by
  induction own using List.reverseRecOn with
  | nil => rfl
  | append_singleton own entry ih =>
    obtain ⟨n, a⟩ := entry
    -- the last addition is the first entry of the reversed list
    rw [ofAdditions_snoc, address?_add, ih, lastAddress?, lastAddress?, List.reverse_append,
      List.reverse_singleton, List.singleton_append, List.lookup_cons]
    by_cases hn : name = n <;> simp [hn, beq_eq_false_iff_ne.mpr]

/-- Exactly the names of a table have an address in it. -/
lemma address?_isSome_iff (t : SymbolTable) (name : String) :
    (t.address? name).isSome ↔ name ∈ t := by
  show _ ↔ name ∈ t.entries.map Prod.fst
  rw [address?, List.lookup_isSome_iff]
  simp

/-! ## Names -/

/-- The names that are reserved. -/
def reservedNames : List String :=
  reservedSymbols.map Prod.fst

/-- The given names that are not reserved, repetitions included. -/
def givenNames (own : List (String × Int)) : List String :=
  (own.map Prod.fst).filter (!isReserved ·)

lemma isReserved_iff_mem (name : String) : isReserved name = true ↔ name ∈ reservedNames :=
  List.contains_iff_mem

/-- An addition gives one more name, unless that name is reserved. -/
lemma givenNames_snoc (own : List (String × Int)) (name : String) (address : Int) :
    givenNames (own ++ [(name, address)]) =
      givenNames own ++ if name ∈ reservedNames then [] else [name] := by
  rw [givenNames, List.map_append, List.filter_append, ← givenNames]
  by_cases hname : name ∈ reservedNames
  · simp [hname, (isReserved_iff_mem name).mpr hname]
  · have hfree : isReserved name = false := by
      rw [← Bool.not_eq_true, isReserved_iff_mem]
      exact hname
    simp [hname, hfree]

/-- A name that comes again changes nothing about which names there are, and in which order they
first came. -/
lemma eraseDups_snoc (names : List String) (name : String) :
    (names ++ [name]).eraseDups =
      if name ∈ names then names.eraseDups else names.eraseDups ++ [name] := by
  rw [List.eraseDups_append]
  by_cases hname : name ∈ names
  · simp [List.removeAll, hname]
  · simp [List.removeAll, hname, List.eraseDups_cons]

/-- The reserved names come first, in the order of the memory map, and then each of the other names
where it was first given an address. -/
theorem names_ofAdditions (own : List (String × Int)) :
    (ofAdditions own).names = reservedNames ++ (givenNames own).eraseDups := by
  induction own using List.reverseRecOn with
  | nil => rfl
  | append_singleton own entry ih =>
    -- the last addition puts its name at the end, unless the table has it: by being reserved, or
    -- from an earlier addition
    obtain ⟨name, address⟩ := entry
    have hmem : name ∈ ofAdditions own ↔ name ∈ reservedNames ∨ name ∈ givenNames own := by
      show name ∈ (ofAdditions own).names ↔ _
      rw [ih, List.mem_append, List.mem_eraseDups]
    rw [ofAdditions_snoc, names_add, givenNames_snoc, ih]
    by_cases hreserved : name ∈ reservedNames
    · rw [if_pos (hmem.mpr (.inl hreserved)), if_pos hreserved, List.append_nil]
    · rw [if_neg hreserved, eraseDups_snoc]
      by_cases hgiven : name ∈ givenNames own
      · rw [if_pos (hmem.mpr (.inr hgiven)), if_pos hgiven]
      · have hnew : name ∉ ofAdditions own := by
          rw [hmem, not_or]
          exact ⟨hreserved, hgiven⟩
        rw [if_neg hnew, if_neg hgiven, List.append_assoc]

/-- A table holds the reserved names and those that were given an address. -/
lemma mem_ofAdditions_iff {own : List (String × Int)} {name : String} :
    name ∈ ofAdditions own ↔ name ∈ reservedNames ∨ name ∈ own.map Prod.fst := by
  show name ∈ (ofAdditions own).names ↔ _
  rw [names_ofAdditions, List.mem_append, List.mem_eraseDups, givenNames, List.mem_filter,
    Bool.not_eq_true', ← Bool.not_eq_true, isReserved_iff_mem]
  tauto

/-! ## Size -/

lemma length_names (t : SymbolTable) : t.names.length = t.size :=
  List.length_map _

lemma length_items (t : SymbolTable) : t.items.length = t.size :=
  List.length_mergeSort _

/-- The size is the number of reserved names and of the distinct others that were given an
address. -/
theorem size_ofAdditions (own : List (String × Int)) :
    (ofAdditions own).size = 23 + (givenNames own).toFinset.card := by
  have hnodup : (reservedNames ++ (givenNames own).eraseDups).Nodup := by
    rw [← names_ofAdditions]
    exact (ofAdditions own).names_nodup
  -- repetitions do not count in a set, so it has as many elements as the list has without them
  have hsame : (givenNames own).eraseDups.toFinset = (givenNames own).toFinset := by
    ext name
    rw [List.mem_toFinset, List.mem_toFinset, List.mem_eraseDups]
  rw [← length_names, names_ofAdditions, List.length_append, ← hsame,
    List.toFinset_card_of_nodup (List.nodup_append.mp hnodup).2.1]
  rfl

end HackFrontEnd.SymbolTable
