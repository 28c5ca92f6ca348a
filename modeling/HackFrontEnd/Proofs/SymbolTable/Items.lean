import HackFrontEnd.Proofs.SymbolTable.Additions
import Mathlib.Data.List.Sort
import Mathlib.Data.String.Basic

/-!
# The listing of a table

The items of a table are listed by address, and those with one address by name. Nothing but the
address that each name has settles this list:

* `pairwise_items`: it is in strict order;
* `mem_items_iff`, `count_names_items`: it has each name once, with the address that the name has;
* `items_eq_of_address?_eq`: so tables that give every name the same address have one list;
* `items_canonical`: whatever the additions were by which a table came about.
-/

namespace HackFrontEnd.SymbolTable

variable {t t' : SymbolTable} {name : String} {a : Int}

/-! ## The order of items -/

/-- The code points of a name. -/
def codePoints (name : String) : List Nat :=
  name.toList.map Char.toNat

/-- The item comes before the other one: by its address, and by the code points of its name, the
first different one deciding, if the two have one address. -/
def Precedes (e f : String × Int) : Prop :=
  e.2 < f.2 ∨ e.2 = f.2 ∧ codePoints e.1 < codePoints f.1

lemma map_toNat_lt_iff (cs ds : List Char) :
    cs.map Char.toNat < ds.map Char.toNat ↔ cs < ds := by
  induction cs generalizing ds with
  | nil => cases ds <;> simp
  | cons c cs ih =>
    cases ds with
    | nil => simp
    | cons d ds =>
      rw [List.map_cons, List.map_cons, List.cons_lt_cons_iff, List.cons_lt_cons_iff, ih,
        Char.toNat_inj]
      rfl

lemma codePoints_lt_iff {s s' : String} : codePoints s < codePoints s' ↔ s < s' :=
  (map_toNat_lt_iff s.toList s'.toList).trans String.lt_iff_toList_lt.symm

lemma Precedes.asymm {e f : String × Int} (h : Precedes e f) : ¬Precedes f e := by
  -- either the addresses decide, or they are equal and the names do
  rcases h with hlt | ⟨heq, hlt⟩
  · rintro (hgt | ⟨hge, _⟩)
    · exact absurd hlt (Int.not_lt.mpr hgt.le)
    · exact absurd hge hlt.ne'
  · rintro (hgt | ⟨_, hgt⟩)
    · exact absurd heq hgt.ne'
    · exact absurd hlt (lt_asymm hgt)

/-- An entry is not sorted behind another one that it precedes, or that it is. -/
lemma entryLE_iff {e f : String × Int} : entryLE e f = true ↔ Precedes e f ∨ e = f := by
  have hnames : e.1 ≤ f.1 ↔ codePoints e.1 < codePoints f.1 ∨ e.1 = f.1 := by
    rw [codePoints_lt_iff]
    exact le_iff_lt_or_eq
  simp only [entryLE, Precedes, Bool.or_eq_true, Bool.and_eq_true, decide_eq_true_eq, hnames,
    Prod.ext_iff]
  tauto

lemma entryLE_trans (e f g : String × Int) (hef : entryLE e f = true) (hfg : entryLE f g = true) :
    entryLE e g = true := by
  simp only [entryLE, Bool.or_eq_true, Bool.and_eq_true, decide_eq_true_eq] at hef hfg ⊢
  rcases hef with hlt | ⟨heq, hle⟩
  · rcases hfg with hlt' | ⟨heq', _⟩
    · exact .inl (hlt.trans hlt')
    · exact .inl (heq' ▸ hlt)
  · rcases hfg with hlt' | ⟨heq', hle'⟩
    · exact .inl (heq ▸ hlt')
    · exact .inr ⟨heq.trans heq', hle.trans hle'⟩

lemma entryLE_total (e f : String × Int) : (entryLE e f || entryLE f e) = true := by
  simp only [entryLE, Bool.or_eq_true, Bool.and_eq_true, decide_eq_true_eq]
  rcases lt_trichotomy e.2 f.2 with hlt | heq | hgt
  · exact .inl (.inl hlt)
  · exact (le_total e.1 f.1).imp (fun hle => .inr ⟨heq, hle⟩) fun hle => .inr ⟨heq.symm, hle⟩
  · exact .inr (.inl hgt)

/-! ## Which items there are -/

/-- No two entries have one name, so what the look-up finds is the only entry of its name. -/
lemma address?_eq_some_iff : t.address? name = some a ↔ (name, a) ∈ t.entries := by
  rw [address?, List.lookup_eq_some_iff]
  constructor
  · rintro ⟨before, behind, hentries, _⟩
    rw [hentries]
    simp
  · intro hmem
    obtain ⟨before, behind, hentries⟩ := List.mem_iff_append.mp hmem
    refine ⟨before, behind, hentries, fun e he => bne_iff_ne.mpr ?_⟩
    have hnodup := t.names_nodup
    rw [hentries, List.map_append, List.nodup_append] at hnodup
    exact (hnodup.2.2 e.1 (List.mem_map_of_mem he) name (by simp)).symm

/-- The items are the names with the addresses that they have. -/
theorem mem_items_iff : (name, a) ∈ t.items ↔ t.address? name = some a := by
  rw [items, List.mem_mergeSort, address?_eq_some_iff]

/-- A name of the table is listed once, and no other name is. -/
theorem count_names_items (t : SymbolTable) (name : String) :
    (t.items.map Prod.fst).count name = if name ∈ t then 1 else 0 := by
  -- sorting moves the names about, and a table has none of them twice
  have hperm : (t.items.map Prod.fst).Perm t.names := (List.mergeSort_perm _ _).map Prod.fst
  rw [hperm.count_eq]
  exact t.names_nodup.count

/-- The items are in strict order. -/
theorem pairwise_items (t : SymbolTable) : t.items.Pairwise Precedes := by
  have hordered := List.pairwise_mergeSort entryLE_trans entryLE_total t.entries
  have hnodup : t.items.Nodup := (List.mergeSort_perm _ _).nodup_iff.mpr t.names_nodup.of_map
  refine (hordered.and hnodup).imp ?_
  rintro e f ⟨hle, hne⟩
  exact (entryLE_iff.mp hle).resolve_right hne

/-! ## One listing for all histories -/

/-- Tables that give every name the same address have one list of items. -/
theorem items_eq_of_address?_eq (h : ∀ name, t'.address? name = t.address? name) :
    t'.items = t.items := by
  have hasymm : Std.Asymm Precedes := ⟨fun _ _ => Precedes.asymm⟩
  -- a list in strict order is settled by its members
  refine (pairwise_items t').eq_of_mem_iff (pairwise_items t) ?_
  rintro ⟨name, a⟩
  rw [mem_items_iff, mem_items_iff, h]

/-- Two names can be added in either order without a difference to the items. -/
lemma items_add_comm {name' : String} (hne : name ≠ name') (t : SymbolTable) (a a' : Int) :
    ((t.add name a).add name' a').items = ((t.add name' a').add name a).items := by
  refine items_eq_of_address?_eq fun other => ?_
  rw [address?_add, address?_add, address?_add, address?_add]
  by_cases hother : other = name
  · rw [if_neg (hother ▸ hne), if_pos hother, if_pos hother]
  · rw [if_neg hother, if_neg hother]

lemma names_add_add {name' : String} (hne : name ≠ name') (hname : name ∉ t) (hname' : name' ∉ t)
    (a a' : Int) : ((t.add name a).add name' a').names = t.names ++ [name, name'] := by
  have hfirst : (t.add name a).names = t.names ++ [name] := by
    rw [names_add, if_neg hname]
  have hnew : name' ∉ t.add name a := by
    show name' ∉ (t.add name a).names
    rw [hfirst, List.mem_append, List.mem_singleton, not_or]
    exact ⟨hname', hne.symm⟩
  rw [names_add, if_neg hnew, hfirst, List.append_assoc]
  rfl

lemma address_eq_ok_iff : t.address name = .ok a ↔ t.address? name = some a := by
  unfold address
  cases t.address? name <;> simp

/-- The items list the mapping of names to addresses and nothing else: in strict order, each name of
the table once and no other name, with the address that the table gives for it. Two tables with one
mapping have one list, even where the names came in another order. -/
theorem items_canonical (own : List (String × Int)) :
    (ofAdditions own).items.Pairwise Precedes ∧
    (∀ name a, (name, a) ∈ (ofAdditions own).items ↔ (ofAdditions own).address name = .ok a) ∧
    (∀ name, ((ofAdditions own).items.map Prod.fst).count name =
      if name ∈ ofAdditions own then 1 else 0) ∧
    (∀ own',
      (∀ name a, (ofAdditions own').address name = .ok a ↔ (ofAdditions own).address name = .ok a) →
      (ofAdditions own').items = (ofAdditions own).items) ∧
    ∀ name name' a a', name ≠ name' → name ∉ ofAdditions own → name' ∉ ofAdditions own →
      (ofAdditions (own ++ [(name, a), (name', a')])).items =
        (ofAdditions (own ++ [(name', a'), (name, a)])).items ∧
      (ofAdditions (own ++ [(name, a), (name', a')])).names ≠
        (ofAdditions (own ++ [(name', a'), (name, a)])).names := by
  refine ⟨pairwise_items _, fun name a => mem_items_iff.trans address_eq_ok_iff.symm,
    count_names_items _, fun own' hsame => ?_, fun name name' a a' hne hname hname' => ?_⟩
  · refine items_eq_of_address?_eq fun name => Option.ext fun a => ?_
    exact address_eq_ok_iff.symm.trans ((hsame name a).trans address_eq_ok_iff)
  · rw [ofAdditions_append, ofAdditions_append]
    refine ⟨items_add_comm hne _ a a', ?_⟩
    show (((ofAdditions own).add name a).add name' a').names ≠
      (((ofAdditions own).add name' a').add name a).names
    rw [names_add_add hne hname hname', names_add_add hne.symm hname' hname]
    intro hnames
    exact hne (List.cons.inj (List.append_cancel_left hnames)).1

/-- An address that was overwritten leaves no trace in the items, only in the order of names. -/
theorem items_canonical_overwritten :
    (∀ name a, (ofAdditions [("j", 3), ("i", 16), ("j", 17)]).address name = .ok a ↔
      (ofAdditions [("i", 16), ("j", 17)]).address name = .ok a) ∧
    (ofAdditions [("j", 3), ("i", 16), ("j", 17)]).items =
      (ofAdditions [("i", 16), ("j", 17)]).items ∧
    (ofAdditions [("j", 3), ("i", 16), ("j", 17)]).names ≠
      (ofAdditions [("i", 16), ("j", 17)]).names := by
  have hsame (name : String) (a : Int) :
      (ofAdditions [("j", 3), ("i", 16), ("j", 17)]).address name = .ok a ↔
        (ofAdditions [("i", 16), ("j", 17)]).address name = .ok a := by
    rw [address_eq_ok_iff, address_eq_ok_iff, address?_ofAdditions, address?_ofAdditions]
    simp only [lastAddress?, List.reverse_cons, List.reverse_nil, List.nil_append,
      List.cons_append, List.lookup_cons, List.lookup_nil]
    by_cases hj : name = "j" <;> simp [hj, beq_eq_false_iff_ne.mpr]
  exact ⟨hsame, (items_canonical [("i", 16), ("j", 17)]).2.2.2.1 _ hsame, by decide +kernel⟩

/-- Reserved names that share an address stay side by side, and an overwritten name moves. -/
example : (ofAdditions [("b", 1), ("a", 1), ("b", -2)]).items.take 4 =
    [("b", -2), ("R0", 0), ("SP", 0), ("LCL", 1)] := by
  cbv

end HackFrontEnd.SymbolTable
