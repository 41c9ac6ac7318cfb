import Mathlib.Data.List.Induction
import TruthTable.Proofs.EvalLaws
import TruthTable.Proofs.PatternLaws

/-!
# Laws of models

The models of a proposition among the assignments of finitely many variables
stand for its meaning under all valuations, as long as its own variables are
among them: some valuation satisfies it if there is a model, and all do if
every assignment is one. Variables that do not occur only repeat the models.
-/

namespace TruthTable.Proposition

variable {p : Proposition} {names others : List Char} {a : Assignment} {c : Char}

/-- The assignments of the variables that satisfy the proposition, in the order
of their numbers. -/
def models (p : Proposition) (names : List Char) : List Assignment :=
  (Assignment.all names).filter p.accepts

theorem mem_models (h : names.Nodup) :
    a ∈ p.models names ↔ (∀ c, (a.get? c).isSome ↔ c ∈ names) ∧ p.accepts a = true := by
  rw [models, List.mem_filter, Assignment.mem_all_iff_isSome h]

theorem perm_models (hperm : names.Perm others) (h : names.Nodup) :
    (p.models names).Perm (p.models others) :=
  (Assignment.perm_all hperm h).filter _

theorem accepts_of_mem_all (h : names.Nodup) (hp : ∀ c ∈ p.occurrences, c ∈ names)
    (ha : a ∈ Assignment.all names) : p.accepts a = p.holds a.valuation :=
  accepts_of_eval (eval_eq_ok_of_isSome fun c hc =>
    (Assignment.isSome_get?_of_mem_all h ha).2 (hp c hc))

theorem exists_accepts_eq (h : names.Nodup) (hp : ∀ c ∈ p.occurrences, c ∈ names)
    (v : Char → Bool) : ∃ a ∈ Assignment.all names, p.accepts a = p.holds v := by
  obtain ⟨a, ha, hv⟩ := Assignment.exists_mem_all h v
  exact ⟨a, ha, accepts_of_eval (eval_eq_ok fun c hc => hv c (hp c hc))⟩

theorem isEmpty_models_iff (h : names.Nodup) (hp : ∀ c ∈ p.occurrences, c ∈ names) :
    (p.models names).isEmpty = false ↔ ∃ v, p.holds v = true := by
  rw [List.isEmpty_eq_false_iff_exists_mem]
  constructor
  · -- a model is a valuation when the variables it does not have get any value
    rintro ⟨a, ha⟩
    obtain ⟨hall, haccepts⟩ := List.mem_filter.1 ha
    exact ⟨a.valuation, (accepts_of_mem_all h hp hall).symm.trans haccepts⟩
  · rintro ⟨v, hv⟩
    obtain ⟨a, ha, hav⟩ := exists_accepts_eq h hp v
    exact ⟨a, List.mem_filter.2 ⟨ha, hav.trans hv⟩⟩

theorem length_models_eq_iff (h : names.Nodup) (hp : ∀ c ∈ p.occurrences, c ∈ names) :
    (p.models names).length = 2 ^ names.length ↔ ∀ v, p.holds v = true := by
  rw [models, ← Assignment.length_all, List.length_filter_eq_length_iff]
  constructor
  · intro hall v
    obtain ⟨a, ha, hav⟩ := exists_accepts_eq h hp v
    exact hav.symm.trans (hall a ha)
  · intro hall a ha
    exact (accepts_of_mem_all h hp ha).trans (hall _)

-- ---------------------------------------------------------------------------
-- Negation
-- ---------------------------------------------------------------------------

theorem accepts_neg (h : names.Nodup) (hp : ∀ c ∈ p.occurrences, c ∈ names)
    (ha : a ∈ Assignment.all names) : (neg p).accepts a = !p.accepts a := by
  rw [accepts_of_mem_all (p := neg p) h hp ha, accepts_of_mem_all h hp ha, holds]

theorem models_neg (h : names.Nodup) (hp : ∀ c ∈ p.occurrences, c ∈ names) :
    (neg p).models names = (Assignment.all names).filter fun a => a ∉ p.models names := by
  refine List.filter_congr fun a ha => ?_
  rw [accepts_neg h hp ha, models]
  simp [List.mem_filter, ha]

theorem length_models_add_neg (h : names.Nodup) (hp : ∀ c ∈ p.occurrences, c ∈ names) :
    (p.models names).length + ((neg p).models names).length = 2 ^ names.length := by
  have hneg : (neg p).models names = (Assignment.all names).filter fun a => !p.accepts a :=
    List.filter_congr fun a ha => accepts_neg h hp ha
  rw [hneg, models, ← List.length_eq_length_filter_add, Assignment.length_all]

-- ---------------------------------------------------------------------------
-- More variables than occur
-- ---------------------------------------------------------------------------

theorem accepts_set (hc : c ∉ p.occurrences) (a : Assignment) (value : Bool) :
    p.accepts (a.set c value) = p.accepts a := by
  refine accepts_congr fun d hd => ?_
  have hne : d ≠ c := by
    rintro rfl
    exact hc hd
  rw [Assignment.get?_set, if_neg hne]

theorem models_concat (hc : c ∉ p.occurrences) :
    p.models (names ++ [c]) =
      (p.models names).map (fun a => a.set c false) ++
        (p.models names).map fun a => a.set c true := by
  have haccepts (value : Bool) : (p.accepts ∘ fun a => a.set c value) = p.accepts :=
    funext fun a => accepts_set hc a value
  rw [models, Assignment.all_concat, List.filter_append, List.filter_map, List.filter_map,
    haccepts, haccepts]
  rfl

theorem length_models_append {extras : List Char} (h : ∀ c ∈ extras, c ∉ p.occurrences) :
    (p.models (names ++ extras)).length = 2 ^ extras.length * (p.models names).length := by
  induction extras using List.reverseRecOn with
  | nil => simp
  | append_singleton rest c ih =>
    obtain ⟨hrest, hc⟩ := List.forall_mem_append.1 h
    rw [← List.append_assoc, models_concat (hc c List.mem_cons_self), List.length_append,
      List.length_map, List.length_map, ih hrest, List.length_append, List.length_singleton,
      Nat.pow_succ', Nat.mul_assoc, Nat.two_mul]

end TruthTable.Proposition
