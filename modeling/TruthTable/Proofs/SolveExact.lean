import TruthTable.Proofs.EnumerationExact
import TruthTable.Proofs.ParseExact
import TruthTable.Solving

/-!
# Solving is sound and complete

`solve_exact`: a text that does not parse is refused for that reason, one with
too many variables for that reason, and any other text is solved. Its solutions
tell whether some valuation and whether every valuation makes it true.
-/

namespace TruthTable

variable {text : String} {maxVariables : Nat} {parsed : Parsed}

theorem names_of_parse (h : parse text = .ok parsed) : parsed.names = parsed.root.names :=
  (parseWithin_eq_ok.1 h).2

theorem solve_of_parse (h : parse text = .ok parsed) :
    solve text maxVariables = (parsed.enumeration maxVariables).solutions.mapError .search := by
  rw [solve, h]

theorem length_names_enumeration (h : parse text = .ok parsed) (maxVariables : Nat) :
    (parsed.enumeration maxVariables).names.length = parsed.root.variableCount := by
  change (Variables.ascending parsed.names).length = _
  rw [names_of_parse h, parsed.root.length_ascending_names, parsed.root.variableCount_eq]

theorem unhindered_of_parse (h : parse text = .ok parsed)
    (hle : parsed.root.variableCount ≤ min maxVariables Pattern.maxVariables) :
    (parsed.enumeration maxVariables).Unhindered := by
  rw [← length_names_enumeration h maxVariables] at hle
  refine unhindered_ofNames (fun c hc => ?_) hle nofun
  rw [names_of_parse h]
  exact Proposition.mem_names.2 hc

theorem solve_of_lt (h : parse text = .ok parsed)
    (hlt : min maxVariables Pattern.maxVariables < parsed.root.variableCount) :
    solve text maxVariables = .error (.search (.tooManyVariables
      parsed.root.variableCount (min maxVariables Pattern.maxVariables))) := by
  rw [← length_names_enumeration h maxVariables] at hlt ⊢
  rw [solve_of_parse h, (parsed.enumeration maxVariables).solutions_of_limit_lt hlt]
  rfl

theorem solve_of_le (h : parse text = .ok parsed)
    (hle : parsed.root.variableCount ≤ min maxVariables Pattern.maxVariables) :
    ∃ s, solve text maxVariables = .ok s ∧ (parsed.enumeration maxVariables).Solves s := by
  obtain ⟨s, hs, hsolves⟩ := (unhindered_of_parse h hle).solutions_ok
  refine ⟨s, ?_, hsolves⟩
  rw [solve_of_parse h, hs]
  rfl

theorem solve_cases (text : String) (maxVariables : Nat) :
    (∃ cause, solve text maxVariables = .error (.parse cause)) ∨
    (∃ count limit, solve text maxVariables = .error (.search (.tooManyVariables count limit))) ∨
    ∃ s, solve text maxVariables = .ok s := by
  cases h : parse text with
  | error cause => exact .inl ⟨cause, by rw [solve, h]⟩
  | ok parsed =>
    rcases Nat.lt_or_ge (min maxVariables Pattern.maxVariables) parsed.root.variableCount with
      hlt | hle
    · exact .inr (.inl ⟨_, _, solve_of_lt h hlt⟩)
    · obtain ⟨s, hs, -⟩ := solve_of_le h hle
      exact .inr (.inr ⟨s, hs⟩)

/-- Solving is sound and complete. It fails for no other reasons than that the
text does not parse or that it has too many variables. -/
theorem solve_exact (text : String) (maxVariables : Nat) :
    (∀ cause, parse text = .error cause → solve text maxVariables = .error (.parse cause)) ∧
    (∀ parsed, parse text = .ok parsed →
      min maxVariables Pattern.maxVariables < parsed.root.variableCount →
      solve text maxVariables = .error (.search (.tooManyVariables
        parsed.root.variableCount (min maxVariables Pattern.maxVariables)))) ∧
    (∀ parsed, parse text = .ok parsed →
      parsed.root.variableCount ≤ min maxVariables Pattern.maxVariables →
      ∃ s, solve text maxVariables = .ok s ∧
        (s.isSatisfiable = true ↔ ∃ v, parsed.root.holds v = true) ∧
        (s.isTautology = true ↔ ∀ v, parsed.root.holds v = true) ∧
        s.examined = 2 ^ parsed.root.variableCount) ∧
    (∀ missing, solve text maxVariables ≠ .error (.search (.unassigned missing))) ∧
    ∀ step, solve text maxVariables ≠ .error (.search (.cancelled step)) := by
  refine ⟨?_, fun parsed h hlt => solve_of_lt h hlt, ?_, ?_, ?_⟩
  · intro cause h
    rw [solve, h]
  · intro parsed h hle
    obtain ⟨s, hs, hsolves⟩ := solve_of_le h hle
    have hfree := unhindered_of_parse h hle
    refine ⟨s, hs, hsolves.isSatisfiable_iff hfree, hsolves.isTautology_iff hfree, ?_⟩
    rw [hsolves.examined, length_names_enumeration h]
  · intro missing h
    rcases solve_cases text maxVariables with ⟨_, hs⟩ | ⟨_, _, hs⟩ | ⟨_, hs⟩ <;> simp [hs] at h
  · intro step h
    rcases solve_cases text maxVariables with ⟨_, hs⟩ | ⟨_, _, hs⟩ | ⟨_, hs⟩ <;> simp [hs] at h

theorem solve_exact_excludedMiddle :
    solve "p |" 1 = .error (.parse (.malformed .unexpectedEnd ⟨.endOfInput, 3⟩)) ∧
    solve "p | ~p" 0 = .error (.search (.tooManyVariables 1 0)) ∧
    ∃ s, solve "p | ~p" 1 = .ok s ∧ s.isTautology = true ∧ s.examined = 2 := by
  have hparse : parse "p | ~p" = .ok ⟨.disj (.var 'p') (.neg (.var 'p')), ['p']⟩ := rfl
  refine ⟨(solve_exact "p |" 1).1 _ rfl, (solve_exact "p | ~p" 0).2.1 _ hparse (by decide), ?_⟩
  obtain ⟨s, hs, -, htautology, hexamined⟩ := (solve_exact "p | ~p" 1).2.2.1 _ hparse (by decide)
  refine ⟨s, hs, htautology.2 fun v => ?_, hexamined⟩
  simp [Proposition.holds]

end TruthTable
