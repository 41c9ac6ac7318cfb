import TruthTable.Proposition

/-!
# Laws of evaluation

The value of a proposition depends only on the values of its variables. An
assignment that has all of them evaluates it to its truth-functional meaning,
and any other one fails at the first variable that it does not have.
-/

namespace TruthTable

/-- The values that an assignment gives, and `false` for the variables that it
does not have. -/
def Assignment.valuation (a : Assignment) (c : Char) : Bool :=
  (a.get? c).getD false

namespace Proposition

variable {v : Char → Bool} {a b : Assignment} {p : Proposition}

def accepts (p : Proposition) (a : Assignment) : Bool :=
  match p.eval a with
  | .ok b => b
  | .error _ => false

theorem accepts_of_eval {b : Bool} (h : p.eval a = .ok b) : p.accepts a = b := by
  rw [accepts, h]

theorem eval_congr (h : ∀ c ∈ p.occurrences, a.get? c = b.get? c) : p.eval a = p.eval b := by
  induction p with
  | disj l r ihl ihr =>
    rw [eval, eval, ihl fun c hc => h c (List.mem_append_left _ hc),
      ihr fun c hc => h c (List.mem_append_right _ hc)]
  | conj l r ihl ihr =>
    rw [eval, eval, ihl fun c hc => h c (List.mem_append_left _ hc),
      ihr fun c hc => h c (List.mem_append_right _ hc)]
  | neg p ih => rw [eval, eval, ih h]
  | var name => rw [eval, eval, h name List.mem_cons_self]
  | constant b => rfl

theorem accepts_congr (h : ∀ c ∈ p.occurrences, a.get? c = b.get? c) :
    p.accepts a = p.accepts b := by
  rw [accepts, accepts, eval_congr h]

theorem eval_eq_ok (h : ∀ c ∈ p.occurrences, a.get? c = some (v c)) :
    p.eval a = .ok (p.holds v) := by
  induction p with
  | disj l r ihl ihr =>
    have hl := ihl fun c hc => h c (List.mem_append_left _ hc)
    have hr := ihr fun c hc => h c (List.mem_append_right _ hc)
    rw [eval, hl, hr]
    rfl
  | conj l r ihl ihr =>
    have hl := ihl fun c hc => h c (List.mem_append_left _ hc)
    have hr := ihr fun c hc => h c (List.mem_append_right _ hc)
    rw [eval, hl, hr]
    rfl
  | neg p ih =>
    rw [eval, ih h]
    rfl
  | var name =>
    rw [eval, h name List.mem_cons_self]
    rfl
  | constant b => rfl

theorem eval_eq_ok_of_isSome (h : ∀ c ∈ p.occurrences, (a.get? c).isSome) :
    p.eval a = .ok (p.holds a.valuation) := by
  refine eval_eq_ok fun c hc => ?_
  obtain ⟨value, hvalue⟩ := Option.isSome_iff_exists.1 (h c hc)
  rw [Assignment.valuation, hvalue, Option.getD_some]

theorem eval_eq_ok_of_find? (h : p.occurrences.find? (fun c => (a.get? c).isNone) = none) :
    p.eval a = .ok (p.holds a.valuation) := by
  refine eval_eq_ok_of_isSome fun c hc => ?_
  simpa [Option.isSome_iff_ne_none] using List.find?_eq_none.1 h c hc

/-- The operands are evaluated from left to right, each one whatever the ones
before it gave. -/
theorem eval_eq_error {x : Char}
    (h : p.occurrences.find? (fun c => (a.get? c).isNone) = some x) : p.eval a = .error ⟨x⟩ := by
  induction p with
  | disj l r ihl ihr =>
    rw [occurrences, List.find?_append] at h
    cases hl : l.occurrences.find? (fun c => (a.get? c).isNone) with
    | some y =>
      rw [hl, Option.some_or] at h
      cases h
      rw [eval, ihl hl]
      rfl
    | none =>
      rw [hl, Option.none_or] at h
      rw [eval, eval_eq_ok_of_find? hl, ihr h]
      rfl
  | conj l r ihl ihr =>
    rw [occurrences, List.find?_append] at h
    cases hl : l.occurrences.find? (fun c => (a.get? c).isNone) with
    | some y =>
      rw [hl, Option.some_or] at h
      cases h
      rw [eval, ihl hl]
      rfl
    | none =>
      rw [hl, Option.none_or] at h
      rw [eval, eval_eq_ok_of_find? hl, ihr h]
      rfl
  | neg p ih =>
    rw [eval, ih h]
    rfl
  | var name =>
    have hnone := List.find?_some h
    obtain rfl := List.mem_singleton.1 (List.mem_of_find?_eq_some h)
    rw [eval, Option.isNone_iff_eq_none.1 hnone]
    rfl
  | constant b => cases h

end Proposition

end TruthTable
