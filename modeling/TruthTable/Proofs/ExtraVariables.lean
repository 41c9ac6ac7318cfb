import TruthTable.Proofs.EnumerationExact

/-!
# Variables that do not occur

`extra_names_multiply`: listing more variables than a proposition has changes
nothing but how often its solutions come. Each variable more doubles them, and
which ones they are shows on the variables of the proposition.
-/

namespace TruthTable

def Assignment.restrict (a : Assignment) (names : List Char) : Assignment :=
  ⟨a.entries.filter fun e => e.1 ∈ names, a.ascending.filter _⟩

@[simp] theorem Assignment.get?_restrict (a : Assignment) (names : List Char) (c : Char) :
    (a.restrict names).get? c = if c ∈ names then a.get? c else none := by
  refine Option.ext fun value => ?_
  rw [← mem_entries]
  by_cases hc : c ∈ names <;> simp [restrict, hc, mem_entries]

namespace Proposition

variable {p : Proposition} {names : List Char} {a : Assignment}

def extras (p : Proposition) (names : List Char) : List Char :=
  (Variables.ascending names).filter fun c => c ∉ p.names

theorem mem_extras {c : Char} : c ∈ p.extras names ↔ c ∈ names ∧ c ∉ p.names := by
  simp [extras, Variables.mem_ascending]

theorem nodup_extras (p : Proposition) (names : List Char) : (p.extras names).Nodup :=
  (Variables.nodup_ascending names).filter _

theorem length_extras (p : Proposition) (names : List Char) :
    (p.extras names).length = (names.toFinset \ p.names.toFinset).card :=
  Variables.length_eq_card (p.nodup_extras names) (by simp [mem_extras])

theorem perm_append_extras (hp : ∀ c ∈ p.names, c ∈ names) :
    (Variables.ascending names).Perm (Variables.ascending p.names ++ p.extras names) := by
  have hdisjoint : (Variables.ascending p.names).Disjoint (p.extras names) := by
    intro c hc hextra
    exact (mem_extras.1 hextra).2 (Variables.mem_ascending.1 hc)
  refine Variables.perm_ascending_of_mem_iff ?_ fun c => ?_
  · exact (Variables.nodup_ascending p.names).append (p.nodup_extras names) hdisjoint
  · by_cases hc : c ∈ p.names <;> simp [mem_extras, Variables.mem_ascending, hc, hp]

theorem length_models_ascending (hp : ∀ c ∈ p.names, c ∈ names) :
    (p.models (Variables.ascending names)).length =
      2 ^ (p.extras names).length * (p.models (Variables.ascending p.names)).length := by
  have hextras : ∀ c ∈ p.extras names, c ∉ p.occurrences := by
    intro c hc
    exact mt mem_names.2 (mem_extras.1 hc).2
  have hperm := perm_models (p := p) (perm_append_extras hp) (Variables.nodup_ascending names)
  rw [hperm.length_eq, length_models_append hextras]

theorem mem_models_iff_restrict (hp : ∀ c ∈ p.names, c ∈ names)
    (ha : ∀ c, (a.get? c).isSome ↔ c ∈ names) :
    a ∈ p.models (Variables.ascending names) ↔
      a.restrict p.names ∈ p.models (Variables.ascending p.names) := by
  have haccepts : p.accepts (a.restrict p.names) = p.accepts a := by
    refine accepts_congr fun c hc => ?_
    rw [Assignment.get?_restrict, if_pos (mem_names.2 hc)]
  have hdomain (c : Char) : ((a.restrict p.names).get? c).isSome ↔ c ∈ p.names := by
    by_cases hc : c ∈ p.names <;> simp [hc, ha, hp]
  rw [mem_models (Variables.nodup_ascending _), mem_models (Variables.nodup_ascending _), haccepts]
  simp only [Variables.mem_ascending, ha, hdomain, implies_true, true_and]

end Proposition

/-- An enumeration over more variables than its proposition has comes to the
same verdict as the one over just these. It examines and finds all assignments
of the smaller one together with every choice of values for the others. -/
theorem extra_names_multiply (p : Proposition) (names : List Char)
    (maxVariables maxVariables' : Nat) (cancel cancel' : Option (Pattern → Bool))
    {e e' : Enumeration} {k : Nat}
    (he : e = { Enumeration.ofNames p names with maxVariables, cancel })
    (he' : e' = { Enumeration.ofProposition p with
      maxVariables := maxVariables', cancel := cancel' })
    (hp : ∀ c ∈ p.names, c ∈ names) (hk : k = (names.toFinset \ p.names.toFinset).card)
    (hlimit : e.names.length ≤ e.limit) (hlimit' : e'.names.length ≤ e'.limit)
    (hgo : ∀ j : Pattern, j.toNat < 2 ^ e.names.length → e.stopsAt j = false)
    (hgo' : ∀ j : Pattern, j.toNat < 2 ^ e'.names.length → e'.stopsAt j = false) :
    ∃ s s', e.solutions = .ok s ∧ e'.solutions = .ok s' ∧
      s.isSatisfiable = s'.isSatisfiable ∧ s.isTautology = s'.isTautology ∧
      s.examined = 2 ^ k * s'.examined ∧ s.count = 2 ^ k * s'.count ∧
      ∀ a : Assignment, (∀ c, (a.get? c).isSome ↔ c ∈ names) →
        (a ∈ s.assignments ↔ a.restrict p.names ∈ s'.assignments) := by
  have hnames : e.names = Variables.ascending names := by rw [he]; rfl
  have hnames' : e'.names = Variables.ascending p.names := by rw [he']; rfl
  have hprop : e.proposition = p := by rw [he]; rfl
  have hprop' : e'.proposition = p := by rw [he']; rfl
  have hfree := Enumeration.unhindered_of_names_eq hnames
    (by simpa [hprop, Proposition.mem_names] using hp) hlimit hgo
  have hfree' := Enumeration.unhindered_of_names_eq hnames'
    (by simp [hprop', Proposition.mem_names]) hlimit' hgo'
  obtain ⟨s, hs, hsolves⟩ := hfree.solutions_ok
  obtain ⟨s', hs', hsolves'⟩ := hfree'.solutions_ok
  have hlength : k = (p.extras names).length := hk.trans (p.length_extras names).symm
  refine ⟨s, s', hs, hs', ?_, ?_, ?_, ?_, fun a ha => ?_⟩
  · rw [Bool.eq_iff_iff, hsolves.isSatisfiable_iff hfree, hsolves'.isSatisfiable_iff hfree',
      hprop, hprop']
  · rw [Bool.eq_iff_iff, hsolves.isTautology_iff hfree, hsolves'.isTautology_iff hfree',
      hprop, hprop']
  · rw [hsolves.examined, hsolves'.examined, hnames, hnames', hlength, ← Nat.pow_add,
      (Proposition.perm_append_extras hp).length_eq, List.length_append, Nat.add_comm]
  · rw [hsolves.count_eq, hsolves'.count_eq, hprop, hprop', hnames, hnames', hlength,
      Proposition.length_models_ascending hp]
  · rw [hsolves.assignments, hsolves'.assignments, hprop, hprop', hnames, hnames']
    exact Proposition.mem_models_iff_restrict hp ha

theorem extra_names_multiply_two :
    ∃ s s',
      { Enumeration.ofNames (.disj (.var 'y') (.neg (.var 'x'))) ['z', 'x', 'w', 'y', 'z'] with
        maxVariables := 4 : Enumeration }.solutions = .ok s ∧
      { Enumeration.ofProposition (.disj (.var 'y') (.neg (.var 'x'))) with
        maxVariables := 2, cancel := some fun k => k == 4 : Enumeration }.solutions = .ok s' ∧
      s.isTautology = s'.isTautology ∧ s.examined = 2 ^ 2 * s'.examined ∧
      s.count = 2 ^ 2 * s'.count ∧
      (Assignment.ofList [('w', true), ('x', true), ('y', false), ('z', true)] ∈ s.assignments ↔
        Assignment.ofList [('x', true), ('y', false)] ∈ s'.assignments) := by
  have hgo' : ∀ j : Pattern, j.toNat < 4 → (j == 4) = false := by
    intro j hj
    refine beq_eq_false_iff_ne.2 ?_
    rintro rfl
    exact absurd hj (by decide)
  obtain ⟨s, s', hs, hs', -, htautology, hexamined, hcount, hmem⟩ :=
    extra_names_multiply (.disj (.var 'y') (.neg (.var 'x'))) ['z', 'x', 'w', 'y', 'z'] 4 2 none
      (some fun k => k == 4) rfl rfl (by simp [Proposition.mem_names, Proposition.occurrences])
      (k := 2) (by decide) (by decide) (by decide) (fun _ _ => rfl) hgo'
  refine ⟨s, s', hs, hs', htautology, hexamined, hcount, hmem _ fun c => ?_⟩
  rw [Assignment.isSome_get?_ofList]
  grind

end TruthTable
