import TruthTable.Proofs.EvalLaws
import TruthTable.Proofs.VariableLaws

/-!
# Evaluation is complete and strict

`eval_exact`: under an assignment that has all variables of a proposition it
evaluates to its meaning, and no other variable matters. Under any other one
it fails at the first variable that is missing, whatever the values of the
others are.
-/

namespace TruthTable

namespace Proposition

variable {p : Proposition} {a : Assignment}

theorem eval_eq_error_of_names {before after : List Char} {x : Char}
    (hnames : p.names = before ++ x :: after) (hbefore : ∀ c ∈ before, (a.get? c).isSome)
    (hx : a.get? x = none) : p.eval a = .error ⟨x⟩ := by
  refine eval_eq_error ?_
  rw [← find?_names, List.find?_eq_some_iff_append]
  refine ⟨by simp [hx], before, after, hnames, fun c hc => ?_⟩
  simpa [Option.isSome_iff_ne_none] using hbefore c hc

/-- Evaluation is complete and strict: an assignment that has all variables
gives the meaning, variables that do not occur do not matter, and if any is
missing then the first one in the list is told. -/
theorem eval_exact (p : Proposition) (a : Assignment) :
    ((∀ c ∈ p.names, (a.get? c).isSome) → p.eval a = .ok (p.holds a.valuation)) ∧
    (∀ b : Assignment, (∀ c ∈ p.names, b.get? c = a.get? c) → p.eval b = p.eval a) ∧
    ((¬ ∀ c ∈ p.names, (a.get? c).isSome) →
      ∃ before x after, p.names = before ++ x :: after ∧ (∀ c ∈ before, (a.get? c).isSome) ∧
        a.get? x = none ∧ p.eval a = .error ⟨x⟩) := by
  refine ⟨fun h => ?_, fun b h => ?_, fun h => ?_⟩
  · exact eval_eq_ok_of_isSome fun c hc => h c (mem_names.2 hc)
  · exact eval_congr fun c hc => h c (mem_names.2 hc)
  · obtain ⟨c, hc, hmissing⟩ : ∃ c ∈ p.names, (a.get? c).isNone := by simpa using h
    cases hfind : p.names.find? fun c => (a.get? c).isNone with
    | none => exact absurd hmissing (List.find?_eq_none.1 hfind c hc)
    | some x =>
      obtain ⟨hx, before, after, hnames, hbefore⟩ := List.find?_eq_some_iff_append.1 hfind
      have hnone : a.get? x = none := Option.isNone_iff_eq_none.1 hx
      have hsome : ∀ c ∈ before, (a.get? c).isSome := by simpa using hbefore
      exact ⟨before, x, after, hnames, hsome, hnone, eval_eq_error_of_names hnames hsome hnone⟩

/-- The value of `p` decides `p | q`, and still the missing `q` is told. With a
value for `q` there is a result, which a value for `r` does not change. -/
theorem eval_exact_decided :
    (¬ ∀ c ∈ (disj (.var 'p') (.var 'q')).names,
        ((Assignment.ofList [('p', true)]).get? c).isSome) ∧
      (disj (.var 'p') (.var 'q')).eval (.ofList [('p', true)]) = .error ⟨'q'⟩ ∧
      (disj (.var 'p') (.var 'q')).eval (.ofList [('q', false), ('p', true)]) = .ok true ∧
      (disj (.var 'p') (.var 'q')).eval (.ofList [('q', false), ('r', true), ('p', true)]) =
        (disj (.var 'p') (.var 'q')).eval (.ofList [('q', false), ('p', true)]) := by
  have hnames : (disj (.var 'p') (.var 'q')).names = ['p', 'q'] := rfl
  have hmissing : ¬ ∀ c ∈ (disj (.var 'p') (.var 'q')).names,
      ((Assignment.ofList [('p', true)]).get? c).isSome := by
    simp [hnames, Assignment.ofList, Assignment.setAll]
  obtain ⟨-, -, hfails⟩ := eval_exact (.disj (.var 'p') (.var 'q')) (.ofList [('p', true)])
  obtain ⟨before, x, after, hsplit, -, hx, heval⟩ := hfails hmissing
  have hmem : x ∈ ['p', 'q'] := by simp [← hnames, hsplit]
  obtain ⟨hok, hcongr, -⟩ :=
    eval_exact (.disj (.var 'p') (.var 'q')) (.ofList [('q', false), ('p', true)])
  refine ⟨hmissing, ?_, hok ?_, hcongr _ ?_⟩
  · -- `p` has a value, so what is missing is `q`
    rcases List.mem_pair.1 hmem with rfl | rfl
    · exact absurd hx (by decide)
    · exact heval
  · simp [hnames, Assignment.ofList, Assignment.setAll]
  · simp [hnames, Assignment.ofList, Assignment.setAll]

end Proposition

end TruthTable
