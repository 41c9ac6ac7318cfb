import TruthTable.Proofs.AssignmentLaws
import TruthTable.Proofs.VariableLaws

/-!
# Assignments are finite maps

`setAll_canonical`: setting variables one after the other makes the map in which
the last pair for a variable counts, listed in the order of the variables. So an
assignment does not tell in which order it was made, and neither does its text.
-/

namespace TruthTable.Assignment

variable {a b : Assignment} {pairs : List (Char × Bool)} {c : Char} {value : Bool}

/-- The assignment is the map that the pairs make when they are set one after
the other. -/
structure IsMapOf (a : Assignment) (pairs : List (Char × Bool)) : Prop where
  get?_eq_some_iff (c : Char) (value : Bool) : a.get? c = some value ↔
    ∃ before after, pairs = before ++ (c, value) :: after ∧ c ∉ after.map Prod.fst
  get?_eq_none_iff (c : Char) : a.get? c = none ↔ c ∉ pairs.map Prod.fst
  pairwise_names : (a.entries.map Prod.fst).Pairwise (· < ·)
  mem_entries_iff (c : Char) (value : Bool) : (c, value) ∈ a.entries ↔ a.get? c = some value
  size_eq : a.size = (pairs.map Prod.fst).toFinset.card
  isEmpty_iff : a.isEmpty = true ↔ a.size = 0

theorem notMem_names_iff : c ∉ pairs.map Prod.fst ↔ ∀ p ∈ pairs, (c != p.1) = true := by
  simp only [List.mem_map, not_exists, not_and, bne_iff_ne, ne_eq, eq_comm (a := c)]

theorem lookup_reverse_eq_some_iff : pairs.reverse.lookup c = some value ↔
    ∃ before after, pairs = before ++ (c, value) :: after ∧ c ∉ after.map Prod.fst := by
  simp only [List.lookup_eq_some_iff, notMem_names_iff]
  constructor
  · rintro ⟨later, earlier, heq, hlater⟩
    refine ⟨earlier.reverse, later.reverse, ?_, fun p hp => hlater p (List.mem_reverse.1 hp)⟩
    rw [← List.reverse_reverse pairs, heq, List.reverse_append, List.reverse_cons,
      List.append_assoc, List.singleton_append]
  · rintro ⟨before, after, rfl, hafter⟩
    refine ⟨after.reverse, before.reverse, ?_, fun p hp => hafter p (List.mem_reverse.1 hp)⟩
    rw [List.reverse_append, List.reverse_cons, List.append_assoc, List.singleton_append]

theorem mem_map_fst_entries : c ∈ a.entries.map Prod.fst ↔ (a.get? c).isSome := by
  simp only [List.mem_map, Prod.exists, mem_entries, exists_and_right, exists_eq_right,
    Option.isSome_iff_exists]

theorem isMapOf_setAll (pairs : List (Char × Bool)) : (empty.setAll pairs).IsMapOf pairs := by
  have hget (c : Char) : (empty.setAll pairs).get? c = pairs.reverse.lookup c := by
    rw [get?_setAll, get?_empty, Option.or_none]
  refine ⟨fun c value => ?_, fun c => ?_, ?_, fun c value => mem_entries, ?_, ?_⟩
  · rw [hget, lookup_reverse_eq_some_iff]
  · rw [hget, ← isSome_lookup_reverse, Option.not_isSome_iff_eq_none]
  · exact List.pairwise_map.2 (empty.setAll pairs).ascending
  · rw [size, ← List.length_map Prod.fst]
    refine Variables.length_eq_card (empty.setAll pairs).nodup_names fun c => ?_
    rw [mem_map_fst_entries, hget, isSome_lookup_reverse, List.mem_toFinset]
  · exact List.isEmpty_iff_length_eq_zero

theorem eq_iff_get?_eq : a = b ↔ ∀ c, a.get? c = b.get? c := by
  constructor
  · rintro rfl c
    rfl
  · exact ext_get?

theorem toString_eq_iff : toString a = toString b ↔ a = b := by
  constructor
  · exact fun h => text_injective (String.ofList_injective h)
  · rintro rfl
    rfl

/-- Variables that are set one after the other, or given values all at once,
make one and the same map of the pairs, and two such assignments are equal, and
have equal texts, just when they give the same values. -/
theorem setAll_canonical (pairs others : List (Char × Bool)) :
    (empty.setAll pairs).IsMapOf pairs ∧ ofList pairs = empty.setAll pairs ∧
    (empty.setAll pairs = empty.setAll others ↔
      ∀ c, (empty.setAll pairs).get? c = (empty.setAll others).get? c) ∧
    (toString (empty.setAll pairs) = toString (empty.setAll others) ↔
      ∀ c, (empty.setAll pairs).get? c = (empty.setAll others).get? c) :=
  ⟨isMapOf_setAll pairs, rfl, eq_iff_get?_eq,
    toString_eq_iff.trans eq_iff_get?_eq⟩

end TruthTable.Assignment
