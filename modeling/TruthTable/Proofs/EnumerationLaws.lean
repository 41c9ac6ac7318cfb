import TruthTable.Enumeration
import TruthTable.Proofs.EvalLaws
import TruthTable.Proofs.PatternLaws
import TruthTable.Proofs.RunLaws
import TruthTable.Proofs.VariableLaws

/-!
# Steps of an enumeration

What each step does to a sweep. `Swept` says what the patterns of a range leave
behind when nothing halts the enumeration: the assignments of their numbers
that satisfy the proposition were found, in order, and the assignment at work
has values for the listed variables only. The latter is what makes the next
pattern overwrite all of it.
-/

namespace TruthTable

variable {e : Enumeration} {s t u : Sweep} {p : Pattern} {b : Bool}

namespace Enumeration

def stopsAt (e : Enumeration) (p : Pattern) : Bool :=
  e.cancel.any fun stop => stop p

/-- Nothing but a cancellation halts the enumeration. -/
structure Feasible (e : Enumeration) : Prop where
  nodup : e.names.Nodup
  listed : ∀ c ∈ e.proposition.occurrences, c ∈ e.names
  length_le : e.names.length ≤ e.limit

/-- Nothing halts the enumeration. -/
structure Unhindered (e : Enumeration) : Prop extends e.Feasible where
  goes : ∀ p : Pattern, p.toNat < 2 ^ e.names.length → e.stopsAt p = false

end Enumeration

namespace Sweep

def ask (s : Sweep) (e : Enumeration) (p : Pattern) : Sweep :=
  if e.cancel.isSome then { s with asked := s.asked.push p } else s

def write (s : Sweep) (e : Enumeration) (p : Pattern) : Sweep :=
  { s with current := p.assign e.names s.current }

def report (s : Sweep) (p : Pattern) : Sweep :=
  { s with found := s.found.push s.current, log := s.log.push (.satisfies p s.current) }

@[simp] theorem current_ask : (s.ask e p).current = s.current := by
  unfold ask
  split <;> rfl

@[simp] theorem found_ask : (s.ask e p).found = s.found := by
  unfold ask
  split <;> rfl

@[simp] theorem log_ask : (s.ask e p).log = s.log := by
  unfold ask
  split <;> rfl

@[simp] theorem current_write : (s.write e p).current = p.assign e.names s.current := rfl
@[simp] theorem found_write : (s.write e p).found = s.found := rfl
@[simp] theorem current_report : (s.report p).current = s.current := rfl
@[simp] theorem found_report : (s.report p).found = s.found.push s.current := rfl
@[simp] theorem log_write : (s.write e p).log = s.log := rfl
@[simp] theorem log_report : (s.report p).log = s.log.push (.satisfies p s.current) := rfl

end Sweep

namespace Enumeration

-- ---------------------------------------------------------------------------
-- Steps
-- ---------------------------------------------------------------------------

theorem run_checkCancelled (e : Enumeration) (p : Pattern) (s : Sweep) :
    (e.checkCancelled p).run s =
      if e.stopsAt p then .error (.cancelled p) (s.ask e p) else .ok () (s.ask e p) := by
  unfold checkCancelled stopsAt Sweep.ask
  cases e.cancel with
  | none => rfl
  | some stop =>
    simp only [run_modify_bind, Option.any_some]
    split <;> rfl

theorem run_isSatisfied (h : e.proposition.eval s.current = .ok b) :
    e.isSatisfied.run s = .ok b s := by
  rw [isSatisfied, run_get_bind, h]
  rfl

theorem run_visit (hstop : e.stopsAt p = false)
    (heval : e.proposition.eval (p.assign e.names s.current) = .ok b) :
    (e.visit p).run s =
      .ok () (if b then ((s.ask e p).write e p).report p else (s.ask e p).write e p) := by
  have hask := e.run_checkCancelled p s
  rw [hstop, if_neg Bool.false_ne_true] at hask
  have hsat : e.isSatisfied.run ((s.ask e p).write e p) = .ok b ((s.ask e p).write e p) :=
    run_isSatisfied (by simpa using heval)
  rw [visit, run_bind_of_ok hask, run_modify_bind]
  refine (run_bind_of_ok hsat).trans ?_
  cases b <;> rfl

theorem run_visit_of_stopsAt (h : e.stopsAt p = true) :
    (e.visit p).run s = .error (.cancelled p) (s.ask e p) := by
  have hask := e.run_checkCancelled p s
  rw [h, if_pos rfl] at hask
  exact run_bind_of_error hask

theorem run_isSatisfied_of_error {missing : Unassigned}
    (h : e.proposition.eval s.current = .error missing) :
    e.isSatisfied.run s = .error (.unassigned missing) s := by
  rw [isSatisfied, run_get_bind, h]
  rfl

theorem run_visit_of_unassigned {missing : Unassigned} (hstop : e.stopsAt p = false)
    (heval : e.proposition.eval (p.assign e.names s.current) = .error missing) :
    (e.visit p).run s = .error (.unassigned missing) ((s.ask e p).write e p) := by
  have hask := e.run_checkCancelled p s
  rw [hstop, if_neg Bool.false_ne_true] at hask
  have hsat : e.isSatisfied.run ((s.ask e p).write e p) =
      .error (.unassigned missing) ((s.ask e p).write e p) :=
    run_isSatisfied_of_error (by simpa using heval)
  rw [visit, run_bind_of_ok hask, run_modify_bind]
  exact run_bind_of_error hsat

theorem checkCancelled_ok (h : (e.checkCancelled p).run s = .ok () t) : t = s.ask e p := by
  rw [run_checkCancelled] at h
  split at h
  · cases h
  · cases h
    rfl

theorem isSatisfied_ok {b : Bool} (h : e.isSatisfied.run s = .ok b t) : t = s := by
  cases heval : e.proposition.eval s.current with
  | error missing =>
    rw [run_isSatisfied_of_error heval] at h
    cases h
  | ok b =>
    rw [run_isSatisfied heval] at h
    cases h
    rfl

theorem solutions_of_limit_lt (h : e.limit < e.names.length) :
    e.solutions = .error (.tooManyVariables e.names.length e.limit) := by
  rw [solutions, run, sweep, if_pos h]
  rfl

-- ---------------------------------------------------------------------------
-- How many patterns there are
-- ---------------------------------------------------------------------------

theorem length_le_maxVariables (h : e.names.length ≤ e.limit) :
    e.names.length ≤ Pattern.maxVariables :=
  Nat.le_trans h (Nat.min_le_right _ _)

theorem count_eq (h : e.names.length ≤ e.limit) : e.count = 2 ^ e.names.length :=
  Pattern.toNat_count (length_le_maxVariables h)

theorem two_pow_lt (h : e.names.length ≤ e.limit) : 2 ^ e.names.length < 2 ^ 64 :=
  Nat.pow_lt_pow_right (by decide) (Nat.lt_succ_of_le (length_le_maxVariables h))

end Enumeration

-- ---------------------------------------------------------------------------
-- Ranges of patterns
-- ---------------------------------------------------------------------------

structure Swept (e : Enumeration) (ks : List Nat) (s t : Sweep) : Prop where
  found : t.found.toList =
    s.found.toList ++ (ks.map (Assignment.ofNumber e.names)).filter e.proposition.accepts
  within : t.current.Within e.names

namespace Swept

theorem trans {ks ls : List Nat} (h : Swept e ks s t) (h' : Swept e ls t u) :
    Swept e (ks ++ ls) s u := by
  refine ⟨?_, h'.within⟩
  rw [h'.found, h.found, List.map_append, List.filter_append, List.append_assoc]

end Swept

namespace Enumeration.Feasible

theorem eval_ofNumber (h : e.Feasible) (k : Nat) :
    ∃ b, e.proposition.eval (.ofNumber e.names k) = .ok b := by
  refine ⟨_, Proposition.eval_eq_ok_of_isSome fun c hc => ?_⟩
  exact (Assignment.isSome_get?_ofNumber h.nodup k).2 (h.listed c hc)

theorem visit_ok (h : e.Feasible) (hgo : e.stopsAt p = false) (hs : s.current.Within e.names) :
    ∃ t, (e.visit p).run s = .ok () t ∧ Swept e [p.toNat] s t := by
  -- nothing of the pattern before is left
  have hassign : p.assign e.names s.current = .ofNumber e.names p.toNat :=
    p.assign_eq_ofNumber (Nat.le_succ_of_le (length_le_maxVariables h.length_le)) hs
  obtain ⟨b, hb⟩ := h.eval_ofNumber p.toNat
  refine ⟨_, Enumeration.run_visit hgo (by rw [hassign, hb]), ?_⟩
  have haccepts := Proposition.accepts_of_eval hb
  have hwithin := Assignment.within_ofNumber e.names p.toNat
  cases b with
  | false =>
    refine ⟨?_, ?_⟩
    · simp [haccepts]
    · simpa [hassign] using hwithin
  | true =>
    refine ⟨?_, ?_⟩
    · simp [hassign, haccepts]
    · simpa [hassign] using hwithin

theorem visitFrom_ok (h : e.Feasible) (left : Nat) (p : Pattern)
    (hp : p.toNat + left ≤ 2 ^ e.names.length)
    (hgo : ∀ j : Pattern, j.toNat < p.toNat + left → e.stopsAt j = false)
    (hs : s.current.Within e.names) :
    ∃ t, (e.visitFrom left p).run s = .ok () t ∧ Swept e (List.range' p.toNat left) s t := by
  -- `Within` is all that the visits hand on to the next pattern
  induction left generalizing p s with
  | zero => exact ⟨s, rfl, by simp, hs⟩
  | succ left ih =>
    obtain ⟨t, ht, hst⟩ := h.visit_ok (hgo p (by omega)) hs
    -- the word of the next pattern does not wrap around
    have hlt := two_pow_lt h.length_le
    have hnext : (p + 1).toNat = p.toNat + 1 := Pattern.toNat_add_one (by omega)
    obtain ⟨u, hu, htu⟩ := ih (p + 1) (by omega) (fun j hj => hgo j (by omega)) hst.within
    rw [hnext] at htu
    exact ⟨u, (run_bind_of_ok ht).trans hu, hst.trans htu⟩

end Enumeration.Feasible

end TruthTable
