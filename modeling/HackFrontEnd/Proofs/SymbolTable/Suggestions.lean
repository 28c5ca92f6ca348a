import HackFrontEnd.SymbolTable.Workspace
import HackFrontEnd.Proofs.SymbolTable.Additions
import HackFrontEnd.Proofs.Text.Similarity

/-!
# What is suggested for an unknown name

A look-up that fails suggests names of the table that are like the one looked up. Nothing but the
set of names in the table settles which ones, and in which order:

* `BestNames`: the first three names by likeness, and by text where that is equal;
* `bestNames_closeMatches`: the suggestions are these;
* `address_eq_of_mem_iff`: so tables that hold the same names fail with the same error;
* `suggestions_settled_by_names`: whatever the additions were by which a table came about.
-/

namespace HackFrontEnd.SymbolTable

open Text (Outranks likeness closeMatches)

/-- The best names of a table for a word that it does not hold. -/
structure BestNames (t : SymbolTable) (word : String) (similar : List String) : Prop where
  length_le : similar.length ≤ 3
  nodup : similar.Nodup
  mem : ∀ s ∈ similar, s ∈ t ∧ s ≠ word
  /-- They come first among all names at the threshold, in descending order of likeness and of
  text. -/
  first : ∃ ranked : List String, ranked.Pairwise (Outranks word) ∧
    (∀ s, s ∈ ranked ↔ s ∈ t ∧ 3 / 5 ≤ likeness word s) ∧ similar = ranked.take 3

/-- The close matches among the names of a table are its best names. -/
theorem bestNames_closeMatches (t : SymbolTable) {word : String} (h : word ∉ t) :
    BestNames t word (closeMatches word t.names) where
  length_le := by
    rw [Text.closeMatches_eq_take_ranked]
    exact List.length_take_le 3 _
  nodup := by
    rw [Text.closeMatches_eq_take_ranked]
    exact (Text.pairwise_ranked word t.names_nodup).nodup.sublist (List.take_sublist 3 _)
  mem := by
    intro s hs
    have hmem : s ∈ t := Text.mem_of_mem_closeMatches hs
    exact ⟨hmem, fun heq => h (heq ▸ hmem)⟩
  first := ⟨_, Text.pairwise_ranked word t.names_nodup, fun _ => Text.mem_ranked_iff,
    Text.closeMatches_eq_take_ranked word t.names⟩

lemma address_eq_error {t : SymbolTable} {word : String} (h : word ∉ t) :
    t.address word = .error ⟨word, closeMatches word t.names⟩ := by
  have hnone : t.address? word = none := by
    rwa [← Option.not_isSome_iff_eq_none, address?_isSome_iff]
  rw [address, hnone]

/-- The names of a table settle how a look-up fails. -/
theorem address_eq_of_mem_iff {t t' : SymbolTable} {word : String} (h : word ∉ t)
    (hsame : ∀ s, s ∈ t' ↔ s ∈ t) : t'.address word = t.address word := by
  have h' : word ∉ t' := mt (hsame word).mp h
  have hsimilar : closeMatches word t'.names = closeMatches word t.names :=
    Text.closeMatches_eq_of_mem_iff t'.names_nodup t.names_nodup hsame
  rw [address_eq_error h, address_eq_error h', hsimilar]

/-- The error quotes all names that it suggests. -/
lemma message_unknown {word : String} {similar : List String} (h : similar.length ≤ 3) :
    (⟨word, similar⟩ : UnknownSymbol).message =
      "undefined symbol '" ++ word ++ "'" ++
        if similar = [] then ""
        else " (did you mean " ++ ", ".intercalate (similar.map fun s => "'" ++ s ++ "'") ++
          "?)" := by
  have htake : similar.take Text.maxSuggestions = similar := List.take_of_length_le h
  unfold UnknownSymbol.message quotedNames
  rw [htake]
  simp only [List.isEmpty_iff]

/-- The look-up of a name that a table does not hold changes nothing, and it suggests the best three
names of the table, all of which its error quotes. Neither the order in which the names came nor
their addresses matter: any additions that leave the same names lead to the same error. -/
theorem suggestions_settled_by_names (own : List (String × Int)) (word : String)
    (h : word ∉ ofAdditions own) :
    ∃ similar,
      BestNames (ofAdditions own) word similar ∧
      (∀ (w : Workspace) (table : Nat), w[table]? = some (ofAdditions own) →
        w.perform (.query table (.address word)) = (.unknown ⟨word, similar⟩, w)) ∧
      (⟨word, similar⟩ : UnknownSymbol).message =
        "undefined symbol '" ++ word ++ "'" ++
          (if similar = [] then ""
          else " (did you mean " ++ ", ".intercalate (similar.map fun s => "'" ++ s ++ "'") ++
            "?)") ∧
      ∀ own', (∀ s, s ∈ ofAdditions own' ↔ s ∈ ofAdditions own) →
        (ofAdditions own').address word = .error ⟨word, similar⟩ := by
  have hbest := bestNames_closeMatches (ofAdditions own) h
  refine ⟨_, hbest, fun w table htable => ?_, message_unknown hbest.length_le, fun own' hsame => ?_⟩
  · rw [Workspace.perform, htable]
    show ((ofAdditions own).answer (.address word), w) = _
    rw [answer, address_eq_error h]
  · rw [address_eq_of_mem_iff h hsame, address_eq_error h]

/-- Four names are equally like the word. The greatest three of them are suggested, whichever came
first. -/
theorem suggestions_of_four_alike :
    "loop" ∉ ofAdditions [("loopD", 4), ("loopC", 3), ("loopB", 2), ("loopA", 1)] ∧
    (∀ s, s ∈ ofAdditions [("loopB", 0), ("loopD", -1), ("loopA", 0), ("loopC", 7), ("loopD", 5)] ↔
      s ∈ ofAdditions [("loopD", 4), ("loopC", 3), ("loopB", 2), ("loopA", 1)]) ∧
    (ofAdditions [("loopB", 0), ("loopD", -1), ("loopA", 0), ("loopC", 7), ("loopD", 5)]).address
      "loop" = .error ⟨"loop", ["loopD", "loopC", "loopB"]⟩ := by
  have habsent : "loop" ∉ ofAdditions [("loopD", 4), ("loopC", 3), ("loopB", 2), ("loopA", 1)] := by
    decide +kernel
  have hsame (s : String) :
      s ∈ ofAdditions [("loopB", 0), ("loopD", -1), ("loopA", 0), ("loopC", 7), ("loopD", 5)] ↔
        s ∈ ofAdditions [("loopD", 4), ("loopC", 3), ("loopB", 2), ("loopA", 1)] := by
    rw [mem_ofAdditions_iff, mem_ofAdditions_iff]
    simp only [List.map_cons, List.map_nil, List.mem_cons]
    tauto
  -- sorting cannot be evaluated here, but what it sorts can, and is in order already
  have hclose : (ofAdditions [("loopD", 4), ("loopC", 3), ("loopB", 2), ("loopA", 1)]).names.filter
      (Text.isClose "loop") = ["loopD", "loopC", "loopB", "loopA"] := by
    decide +kernel
  have hranked : ["loopD", "loopC", "loopB", "loopA"].Pairwise (Text.rankedLE "loop" · ·) := by
    decide +kernel
  have hsimilar : closeMatches "loop"
      (ofAdditions [("loopD", 4), ("loopC", 3), ("loopB", 2), ("loopA", 1)]).names =
        ["loopD", "loopC", "loopB"] := by
    rw [Text.closeMatches_eq_take_ranked, Text.ranked, hclose, List.mergeSort_of_pairwise hranked]
    rfl
  obtain ⟨similar, -, -, -, herror⟩ := suggestions_settled_by_names _ "loop" habsent
  have hown := herror _ fun _ => Iff.rfl
  rw [address_eq_error habsent, hsimilar] at hown
  exact ⟨habsent, hsame, (herror _ hsame).trans hown.symm⟩

end HackFrontEnd.SymbolTable
