import TruthTable.Proofs.EnumerationLaws
import TruthTable.Proofs.ModelLaws

/-!
# Enumerations find exactly the satisfying assignments

`solutions_exact`: an enumeration that nothing halts examines every assignment
of its variables once and reports those that satisfy the proposition, in the
order of their numbers.
-/

namespace TruthTable

variable {e : Enumeration}

@[simp] theorem Solutions.length_assignments (s : Solutions) : s.assignments.length = s.count := by
  rw [assignments, Array.length_toList, count]

theorem Solutions.isSatisfiable_eq (s : Solutions) : s.isSatisfiable = (s.count != 0) := rfl

/-- The solutions are those of the enumeration, all of them and no others. -/
structure Enumeration.Solves (e : Enumeration) (s : Solutions) : Prop where
  names : s.names = e.names
  examined : s.examined = 2 ^ e.names.length
  assignments : s.assignments = e.proposition.models e.names

namespace Enumeration.Solves

variable {s : Solutions}

theorem count_eq (hs : e.Solves s) : s.count = (e.proposition.models e.names).length := by
  rw [← hs.assignments, s.length_assignments]

theorem isSatisfiable_iff (hs : e.Solves s) (h : e.Unhindered) :
    s.isSatisfiable = true ↔ ∃ v, e.proposition.holds v = true := by
  rw [← Proposition.isEmpty_models_iff h.nodup h.listed, ← hs.assignments,
    Solutions.isSatisfiable, Bool.not_eq_true', Solutions.isEmpty, Solutions.assignments,
    Array.isEmpty_toList]

theorem isTautology_iff (hs : e.Solves s) (h : e.Unhindered) :
    s.isTautology = true ↔ ∀ v, e.proposition.holds v = true := by
  rw [← Proposition.length_models_eq_iff h.nodup h.listed, ← hs.count_eq, ← hs.examined,
    Solutions.isTautology, beq_iff_eq]

end Enumeration.Solves

namespace Enumeration.Unhindered

theorem tryEmpty_ok (h : e.Unhindered) (hnames : e.names = []) :
    ∃ s t, e.tryEmpty.run {} = .ok s t ∧ e.Solves s := by
  -- without variables there is pattern 0 alone, and its assignment is empty
  have hask := e.run_checkCancelled 0 {}
  rw [h.goes 0 (Nat.two_pow_pos _), if_neg Bool.false_ne_true] at hask
  obtain ⟨b, hb⟩ := h.eval_ofNumber 0
  rw [hnames, Assignment.ofNumber_nil] at hb
  have hsat : e.isSatisfied.run (Sweep.ask {} e 0) = .ok b (Sweep.ask {} e 0) :=
    run_isSatisfied (by rwa [Sweep.current_ask])
  have hmodels : e.proposition.models [] = [Assignment.empty].filter fun _ => b := by
    simp [Proposition.models, Assignment.all, List.filter_cons, Proposition.accepts_of_eval hb]
  rw [Enumeration.tryEmpty, run_bind_of_ok hask, run_bind_of_ok hsat]
  cases b with
  | false =>
    refine ⟨_, _, rfl, hnames.symm, by rw [hnames]; rfl, ?_⟩
    rw [hnames, hmodels]
    simp [Solutions.assignments]
  | true =>
    refine ⟨_, _, rfl, hnames.symm, by rw [hnames]; rfl, ?_⟩
    rw [hnames, hmodels]
    simp [Solutions.assignments]

theorem tryAll_ok (h : e.Unhindered) : ∃ s t, e.tryAll.run {} = .ok s t ∧ e.Solves s := by
  let start : Sweep := { log := #[.searching e.count e.names] }
  have hcount := count_eq h.length_le
  have hpatterns : (0 : Pattern).toNat + e.count = 2 ^ e.names.length := by
    rw [hcount, UInt64.toNat_zero, Nat.zero_add]
  obtain ⟨t, ht, hswept⟩ := h.visitFrom_ok (s := start) e.count 0 (Nat.le_of_eq hpatterns)
    (fun j hj => h.goes j (hpatterns ▸ hj)) (Assignment.within_empty e.names)
  refine ⟨_, _, (run_bind_of_ok rfl).trans ((run_bind_of_ok ht).trans rfl), rfl, hcount, ?_⟩
  rw [Solutions.assignments, hswept.found, hcount, Proposition.models, Assignment.all,
    List.range_eq_range']
  rfl

theorem solutions_ok (h : e.Unhindered) : ∃ s, e.solutions = .ok s ∧ e.Solves s := by
  have hfits : ¬ e.limit < e.names.length := Nat.not_lt.2 h.length_le
  have hsweep : ∃ s t, e.sweep.run {} = .ok s t ∧ e.Solves s := by
    rw [sweep, if_neg hfits]
    split
    · next hempty => exact h.tryEmpty_ok (List.isEmpty_iff.1 hempty)
    · exact h.tryAll_ok
  obtain ⟨s, t, hrun, hs⟩ := hsweep
  refine ⟨s, ?_, hs⟩
  rw [Enumeration.solutions, Enumeration.run, hrun]

end Enumeration.Unhindered

theorem Enumeration.unhindered_of_names_eq {names : List Char}
    (hnames : e.names = Variables.ascending names)
    (hlisted : ∀ c ∈ e.proposition.occurrences, c ∈ names) (hlimit : e.names.length ≤ e.limit)
    (hgo : ∀ k : Pattern, k.toNat < 2 ^ e.names.length → e.stopsAt k = false) :
    e.Unhindered where
  nodup := hnames ▸ Variables.nodup_ascending names
  listed c hc := hnames ▸ Variables.mem_ascending.2 (hlisted c hc)
  length_le := hlimit
  goes := hgo

theorem unhindered_ofNames {p : Proposition} {names : List Char} {maxVariables : Nat}
    {cancel : Option (Pattern → Bool)} (hp : ∀ c ∈ p.occurrences, c ∈ names)
    (hlimit : (Variables.ascending names).length ≤ min maxVariables Pattern.maxVariables)
    (hcancel : ∀ stop ∈ cancel, ∀ k : Pattern,
      k.toNat < 2 ^ (Variables.ascending names).length → stop k = false) :
    { Enumeration.ofNames p names with maxVariables, cancel : Enumeration }.Unhindered := by
  refine Enumeration.unhindered_of_names_eq rfl hp hlimit fun k hk => ?_
  cases cancel with
  | none => rfl
  | some stop => exact hcancel stop rfl k hk

/-- An enumeration that is not cancelled, with all variables of the proposition
listed and not too many of them, returns exactly the satisfying assignments. -/
theorem solutions_exact (p : Proposition) (names : List Char) (maxVariables : Nat)
    (cancel : Option (Pattern → Bool)) (hp : ∀ c ∈ p.occurrences, c ∈ names)
    (hlimit : (Variables.ascending names).length ≤ min maxVariables Pattern.maxVariables)
    (hcancel : ∀ stop ∈ cancel, ∀ k : Pattern,
      k.toNat < 2 ^ (Variables.ascending names).length → stop k = false) :
    ∃ s, { Enumeration.ofNames p names with maxVariables, cancel : Enumeration }.solutions = .ok s ∧
      s.names.Pairwise (· < ·) ∧ (∀ c, c ∈ s.names ↔ c ∈ names) ∧
      s.examined = 2 ^ s.names.length ∧ s.assignments = p.models s.names ∧
      ∀ a ∈ s.assignments, ∀ c, (a.get? c).isSome ↔ c ∈ s.names := by
  have h := unhindered_ofNames hp hlimit hcancel
  obtain ⟨s, hs, hnames, hexamined, hassignments⟩ := h.solutions_ok
  refine ⟨s, hs, ?_⟩
  rw [hnames, hexamined, hassignments]
  refine ⟨Variables.pairwise_ascending names, fun c => Variables.mem_ascending, rfl, rfl, ?_⟩
  intro a ha c
  exact Assignment.isSome_get?_of_mem_all h.nodup (List.mem_filter.1 ha).1

/-- `x & y | ~x` with `z` listed besides, as many variables as allowed, and a
cancellation at the first number that is not a pattern any more. -/
theorem solutions_exact_three :
    ∃ s, { Enumeration.ofNames (.disj (.conj (.var 'x') (.var 'y')) (.neg (.var 'x')))
          ['z', 'x', 'y', 'x'] with
        maxVariables := 3, cancel := some fun k => k == 8 : Enumeration }.solutions = .ok s ∧
      s.examined = 2 ^ s.names.length ∧
      s.assignments =
        Proposition.models (.disj (.conj (.var 'x') (.var 'y')) (.neg (.var 'x'))) s.names := by
  have hp : ∀ c ∈ (Proposition.disj (.conj (.var 'x') (.var 'y')) (.neg (.var 'x'))).occurrences,
      c ∈ ['z', 'x', 'y', 'x'] := by simp [Proposition.occurrences]
  have hcancel : ∀ stop ∈ some fun k : Pattern => k == 8,
      ∀ k : Pattern, k.toNat < 8 → stop k = false := by
    rintro _ ⟨⟩ k hk
    refine beq_eq_false_iff_ne.2 ?_
    rintro rfl
    exact absurd hk (by decide)
  obtain ⟨s, hs, -, -, hexamined, hassignments, -⟩ :=
    solutions_exact _ ['z', 'x', 'y', 'x'] 3 _ hp (by decide) hcancel
  exact ⟨s, hs, hexamined, hassignments⟩

end TruthTable
