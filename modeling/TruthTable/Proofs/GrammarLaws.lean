import TruthTable.Grammar

/-!
# Laws of the grammar

What holds of every derivation: more levels do no harm, an atom shows by its
first token whether it is a negation, and the variables of the proposition
stand in its phrase from left to right.
-/

namespace TruthTable

def Token.name? : Token → Option Char
  | .var name => some name
  | _ => none

namespace Derives

variable {r : Rule} {j k : Nat} {ts : List Token} {p : Proposition}

theorem mono (h : Derives r j ts p) (hjk : j ≤ k) : Derives r k ts p := by
  induction h generalizing k with
  | var name => exact .var name
  | constant b => exact .constant b
  | group _ ih =>
    obtain ⟨i, rfl⟩ := Nat.exists_eq_add_of_lt hjk
    exact .group (ih (Nat.le_add_right _ i))
  | ofTerm _ ih => exact .ofTerm (ih hjk)
  | neg _ ih =>
    obtain ⟨i, rfl⟩ := Nat.exists_eq_add_of_lt hjk
    exact .neg (ih (Nat.le_add_right _ i))
  | ofAtom _ ih => exact .ofAtom (ih hjk)
  | conj _ _ ihp ihq =>
    obtain ⟨i, rfl⟩ := Nat.exists_eq_add_of_lt hjk
    exact .conj (ihp hjk) (ihq (Nat.le_add_right _ i))
  | ofClause _ ih => exact .ofClause (ih hjk)
  | disj _ _ ihp ihq =>
    obtain ⟨i, rfl⟩ := Nat.exists_eq_add_of_lt hjk
    exact .disj (ihp hjk) (ihq (Nat.le_add_right _ i))

theorem filterMap_name? (h : Derives r k ts p) : ts.filterMap Token.name? = p.occurrences := by
  induction h with
  | var name => rfl
  | constant b => rfl
  | group _ ih =>
    rw [List.cons_append, List.filterMap_cons_none rfl, List.filterMap_append, ih,
      List.filterMap_cons_none rfl, List.filterMap_nil, List.append_nil]
  | ofTerm _ ih => exact ih
  | neg _ ih => rw [List.filterMap_cons_none rfl, ih, Proposition.occurrences]
  | ofAtom _ ih => exact ih
  | conj _ _ ihp ihq =>
    rw [List.filterMap_append, List.filterMap_cons_none rfl, ihp, ihq, Proposition.occurrences]
  | ofClause _ ih => exact ih
  | disj _ _ ihp ihq =>
    rw [List.filterMap_append, List.filterMap_cons_none rfl, ihp, ihq, Proposition.occurrences]

theorem var_mem {name : Char} (h : Derives r k ts p) (hn : name ∈ p.occurrences) :
    .var name ∈ ts := by
  rw [← h.filterMap_name?] at hn
  obtain ⟨t, ht, hname⟩ := List.mem_filterMap.1 hn
  cases t with
  | var c =>
    cases hname
    exact ht
  | _ => cases hname

theorem term_head (h : Derives .term k ts p) : ∃ t rest, ts = t :: rest ∧ t ≠ .neg := by
  cases h with
  | var name => exact ⟨_, _, rfl, by simp⟩
  | constant b => exact ⟨_, _, rfl, by simp⟩
  | group => exact ⟨_, _, rfl, by simp⟩

end Derives

end TruthTable
