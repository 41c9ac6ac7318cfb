import TruthTable.Proofs.EnumerationExact

/-!
# How an enumeration ends

`outcome_exact`: too many variables come before everything else, then the
cancellation of the first pattern, then a variable that is not listed, then
the cancellation of a later pattern. The cancellation is asked at the patterns
from the first to the one that halts the enumeration, at each one once.
-/

namespace TruthTable

variable {e : Enumeration} {s t : Sweep} {p k : Pattern} {halt : Halt}

namespace Sweep

def steps (s : Sweep) : List Nat :=
  s.asked.toList.map UInt64.toNat

theorem steps_ask (h : e.cancel.isSome) : (s.ask e p).steps = s.steps ++ [p.toNat] := by
  simp [steps, ask, h]

theorem write_of_names_nil (h : e.names = []) : s.write e p = s := by
  rw [write, h]
  rfl

@[simp] theorem steps_write : (s.write e p).steps = s.steps := rfl
@[simp] theorem steps_report : (s.report p).steps = s.steps := rfl

def begin (e : Enumeration) : Sweep :=
  if e.names.isEmpty then {} else { log := #[.searching e.count e.names] }

@[simp] theorem current_begin (e : Enumeration) : (begin e).current = .empty := by
  unfold begin
  split <;> rfl

theorem within_begin (e : Enumeration) : (begin e).current.Within e.names := by
  rw [current_begin]
  exact Assignment.within_empty e.names

@[simp] theorem steps_begin (e : Enumeration) : (begin e).steps = [] := by
  unfold begin
  split <;> rfl

end Sweep

namespace Enumeration

-- ---------------------------------------------------------------------------
-- What is asked
-- ---------------------------------------------------------------------------

theorem steps_visit (e : Enumeration) (p : Pattern) (s : Sweep) :
    match (e.visit p).run s with
    | .ok _ t | .error _ t => t.steps = (s.ask e p).steps := by
  cases hstop : e.stopsAt p with
  | true => rw [run_visit_of_stopsAt hstop]
  | false =>
    cases heval : e.proposition.eval (p.assign e.names s.current) with
    | error missing =>
      rw [run_visit_of_unassigned hstop heval]
      exact Sweep.steps_write
    | ok b =>
      rw [run_visit hstop heval]
      cases b <;> rfl

theorem steps_of_visit_ok (h : (e.visit p).run s = .ok () t) : t.steps = (s.ask e p).steps := by
  have hsteps := e.steps_visit p s
  rwa [h] at hsteps

theorem steps_of_visit_error (h : (e.visit p).run s = .error halt t) :
    t.steps = (s.ask e p).steps := by
  have hsteps := e.steps_visit p s
  rwa [h] at hsteps

theorem visitFrom_add (e : Enumeration) (i j : Nat) (p : Pattern) :
    e.visitFrom (i + j) p = e.visitFrom i p >>= fun _ => e.visitFrom j (p + .ofNat i) := by
  induction i generalizing p with
  | zero => simp [visitFrom]
  | succ i ih =>
    have hnext : p + 1 + UInt64.ofNat i = p + .ofNat (i + 1) := by
      rw [UInt64.ofNat_add, UInt64.add_assoc, UInt64.add_comm 1]
      rfl
    rw [Nat.succ_add, visitFrom, visitFrom, bind_assoc]
    exact congrArg _ (funext fun _ => (ih (p + 1)).trans (by rw [hnext]))

theorem steps_visitFrom (hc : e.cancel.isSome) {left : Nat} (hp : p.toNat + left < 2 ^ 64)
    (h : (e.visitFrom left p).run s = .ok () t) :
    t.steps = s.steps ++ List.range' p.toNat left := by
  induction left generalizing p s with
  | zero =>
    cases h
    rw [List.range'_zero, List.append_nil]
  | succ left ih =>
    obtain ⟨_, u, hvisit, h⟩ := bind_ok.1 h
    have hnext : (p + 1).toNat = p.toNat + 1 := Pattern.toNat_add_one (by omega)
    rw [ih (by omega) h, steps_of_visit_ok hvisit, Sweep.steps_ask hc, hnext, List.append_assoc]
    rfl

-- ---------------------------------------------------------------------------
-- Runs
-- ---------------------------------------------------------------------------

/-- Without variables the only pattern writes nothing, so trying the empty
assignment halts where visiting that pattern does. -/
theorem run_tryEmpty_of_visit_error (hnames : e.names = [])
    (h : (e.visit 0).run s = .error halt t) : e.tryEmpty.run s = .error halt t := by
  have hask := e.run_checkCancelled 0 s
  cases hstop : e.stopsAt 0 with
  | true =>
    rw [run_visit_of_stopsAt hstop] at h
    rw [hstop, if_pos rfl] at hask
    cases h
    exact run_bind_of_error hask
  | false =>
    rw [hstop, if_neg Bool.false_ne_true] at hask
    cases heval : e.proposition.eval (Pattern.assign e.names 0 s.current) with
    | error missing =>
      rw [run_visit_of_unassigned hstop heval, Sweep.write_of_names_nil hnames] at h
      rw [hnames] at heval
      have hsat : e.isSatisfied.run (s.ask e 0) = .error (.unassigned missing) (s.ask e 0) :=
        run_isSatisfied_of_error (by rwa [Sweep.current_ask])
      cases h
      exact (run_bind_of_ok hask).trans (run_bind_of_error hsat)
    | ok b =>
      rw [run_visit hstop heval] at h
      cases h

theorem asked_of_limit_lt (h : e.limit < e.names.length) : e.asked = [] := by
  rw [asked, run, sweep, if_pos h]
  rfl

theorem run_of_solutions_ok {found : Solutions} (h : e.solutions = .ok found) :
    ∃ t, e.run = .ok found t := by
  unfold solutions at h
  split at h
  · next t hrun =>
    cases h
    exact ⟨t, hrun⟩
  · cases h

theorem run_of_visitFrom_error (hle : e.names.length ≤ e.limit)
    (h : (e.visitFrom (2 ^ e.names.length) 0).run (.begin e) = .error halt t) :
    e.run = .error halt t := by
  rw [run, sweep, if_neg (Nat.not_lt.2 hle)]
  split
  · next hempty =>
    have hnames : e.names = [] := List.isEmpty_iff.1 hempty
    rw [Sweep.begin, if_pos hempty, hnames, List.length_nil, Nat.pow_zero] at h
    refine run_tryEmpty_of_visit_error hnames ?_
    cases hvisit : (e.visit 0).run {} with
    | ok _ u =>
      rw [visitFrom, run_bind_of_ok hvisit] at h
      cases h
    | error halt' u => rwa [visitFrom, run_bind_of_error hvisit] at h
  · next hsome =>
    rw [Sweep.begin, if_neg hsome, ← count_eq hle] at h
    rw [tryAll]
    exact (run_bind_of_ok rfl).trans (run_bind_of_error h)

theorem run_of_visit_error (hle : e.names.length ≤ e.limit) (hk : k.toNat < 2 ^ e.names.length)
    (hbefore : (e.visitFrom k.toNat 0).run (.begin e) = .ok () s)
    (hvisit : (e.visit k).run s = .error halt t) : e.run = .error halt t := by
  refine run_of_visitFrom_error hle ?_
  obtain ⟨j, hj⟩ : ∃ j, 2 ^ e.names.length = k.toNat + (j + 1) :=
    ⟨2 ^ e.names.length - k.toNat - 1, by omega⟩
  rw [hj, visitFrom_add, run_bind_of_ok hbefore, UInt64.zero_add, UInt64.ofNat_toNat, visitFrom]
  exact run_bind_of_error hvisit

/-- Up to the visit that halts it, the enumeration has asked at every pattern. -/
theorem halts_at (hc : e.cancel.isSome) (hle : e.names.length ≤ e.limit)
    (hk : k.toNat < 2 ^ e.names.length)
    (hbefore : (e.visitFrom k.toNat 0).run (.begin e) = .ok () s)
    (hvisit : (e.visit k).run s = .error halt t) :
    e.solutions = .error halt ∧ e.asked.map UInt64.toNat = List.range (k.toNat + 1) := by
  have hlt := two_pow_lt hle
  have hrun := run_of_visit_error hle hk hbefore hvisit
  have hsteps : t.steps = List.range (k.toNat + 1) := by
    rw [steps_of_visit_error hvisit, Sweep.steps_ask hc,
      steps_visitFrom hc (by rw [UInt64.toNat_zero]; omega) hbefore, Sweep.steps_begin,
      UInt64.toNat_zero, List.nil_append, ← List.range_eq_range', List.range_succ]
  rw [solutions, asked, hrun]
  exact ⟨rfl, hsteps⟩

theorem asked_of_run_ok {found : Solutions} (hc : e.cancel.isSome)
    (hle : e.names.length ≤ e.limit) (h : e.run = .ok found t) :
    e.asked.map UInt64.toNat = List.range (2 ^ e.names.length) := by
  have hlt := two_pow_lt hle
  have hsteps : t.steps = List.range (2 ^ e.names.length) := by
    rw [run, sweep, if_neg (Nat.not_lt.2 hle)] at h
    split at h
    · next hempty =>
      obtain ⟨_, u, hask, hrest⟩ := bind_ok.1 h
      obtain ⟨b, v, hsat, hend⟩ := bind_ok.1 hrest
      obtain rfl := checkCancelled_ok hask
      obtain rfl := isSatisfied_ok hsat
      have hsteps : (Sweep.ask {} e 0).steps = List.range (2 ^ e.names.length) := by
        rw [Sweep.steps_ask hc, List.isEmpty_iff.1 hempty]
        rfl
      cases b with
      | false =>
        cases hend
        exact hsteps
      | true =>
        cases hend
        exact hsteps
    · next hsome =>
      obtain ⟨_, u, htell, hrest⟩ := bind_ok.1 h
      obtain ⟨_, v, hvisits, hend⟩ := bind_ok.1 hrest
      cases htell
      cases hend
      rw [count_eq hle] at hvisits
      have hsteps := steps_visitFrom hc (by rwa [UInt64.toNat_zero, Nat.zero_add]) hvisits
      rw [UInt64.toNat_zero, ← List.range_eq_range'] at hsteps
      exact hsteps
  rw [asked, h]
  exact hsteps

end Enumeration

-- ---------------------------------------------------------------------------
-- Outcomes
-- ---------------------------------------------------------------------------

theorem eval_first_pattern (hnodup : e.names.Nodup) (hle : e.names.length ≤ e.limit) {x : Char}
    (hx : e.proposition.occurrences.find? (fun c => decide (c ∉ e.names)) = some x) :
    e.proposition.eval (Pattern.assign e.names 0 .empty) = .error ⟨x⟩ := by
  have hlength : e.names.length ≤ 64 :=
    Nat.le_succ_of_le (Nat.le_trans hle (Nat.min_le_right _ _))
  rw [Pattern.assign_eq_ofNumber 0 hlength (Assignment.within_empty e.names), UInt64.toNat_zero]
  refine Proposition.eval_eq_error ?_
  rw [← hx]
  congr
  funext c
  by_cases hc : c ∈ e.names
  · simp [hc, (Assignment.isSome_get?_ofNumber (c := c) hnodup 0).2 hc]
  · simp [hc, Assignment.within_ofNumber e.names 0 c hc]

theorem Enumeration.solutions_of_unlisted (hnodup : e.names.Nodup)
    (hle : e.names.length ≤ e.limit) (hgo : e.stopsAt 0 = false) {x : Char}
    (hx : e.proposition.occurrences.find? (fun c => decide (c ∉ e.names)) = some x) :
    e.solutions = .error (.unassigned ⟨x⟩) := by
  have heval := eval_first_pattern hnodup hle hx
  rw [← Sweep.current_begin e] at heval
  rw [solutions, run_of_visit_error hle (Nat.two_pow_pos _) rfl
    (run_visit_of_unassigned hgo heval)]

theorem Enumeration.Feasible.visitFrom_begin_ok (h : e.Feasible)
    (hk : k.toNat ≤ 2 ^ e.names.length)
    (hgo : ∀ j : Pattern, j.toNat < k.toNat → e.stopsAt j = false) :
    ∃ s, (e.visitFrom k.toNat 0).run (.begin e) = .ok () s := by
  obtain ⟨s, hs, -⟩ := h.visitFrom_ok k.toNat 0 (by rwa [UInt64.toNat_zero, Nat.zero_add])
    (by rwa [UInt64.toNat_zero, Nat.zero_add]) (Sweep.within_begin e)
  exact ⟨s, hs⟩

theorem Enumeration.visit_ne_error (hle : e.names.length ≤ e.limit) {found : Solutions}
    (h : e.solutions = .ok found) (hk : k.toNat < 2 ^ e.names.length)
    (hbefore : (e.visitFrom k.toNat 0).run (.begin e) = .ok () s) :
    (e.visit k).run s ≠ .error halt t := by
  intro hvisit
  rw [solutions, run_of_visit_error hle hk hbefore hvisit] at h
  cases h

theorem Enumeration.unhindered_of_solutions_ok (hnodup : e.names.Nodup) {found : Solutions}
    (h : e.solutions = .ok found) : e.Unhindered := by
  have hle : e.names.length ≤ e.limit := by
    by_contra hlt
    rw [e.solutions_of_limit_lt (Nat.not_le.1 hlt)] at h
    cases h
  have hstart : e.stopsAt 0 = false := by
    by_contra hstop
    exact visit_ne_error hle h (Nat.two_pow_pos _) rfl
      (run_visit_of_stopsAt (eq_true_of_ne_false hstop))
  have hlisted : ∀ c ∈ e.proposition.occurrences, c ∈ e.names := by
    cases hx : e.proposition.occurrences.find? fun c => decide (c ∉ e.names) with
    | some x =>
      rw [solutions_of_unlisted hnodup hle hstart hx] at h
      cases h
    | none => simpa using List.find?_eq_none.1 hx
  have hfeasible : e.Feasible := ⟨hnodup, hlisted, hle⟩
  refine ⟨hfeasible, fun k hk => ?_⟩
  -- the first pattern to stop at would be come to, and would halt the run
  generalize hn : k.toNat = n at hk
  induction n using Nat.strongRecOn generalizing k with
  | ind n ih =>
    subst hn
    obtain ⟨s, hs⟩ := hfeasible.visitFrom_begin_ok (Nat.le_of_lt hk)
      fun j hj => ih j.toNat hj j rfl (Nat.lt_trans hj hk)
    by_contra hstop
    exact visit_ne_error hle h hk hs (run_visit_of_stopsAt (eq_true_of_ne_false hstop))

theorem Enumeration.solves_of_solutions_ok (hnodup : e.names.Nodup) {found : Solutions}
    (h : e.solutions = .ok found) : e.Solves found := by
  obtain ⟨s, hs, hsolves⟩ := (unhindered_of_solutions_ok hnodup h).solutions_ok
  obtain rfl : s = found := Except.ok.inj (hs.symm.trans h)
  exact hsolves

theorem Enumeration.solutions_cases (hnodup : e.names.Nodup) (hgo : ∀ k, e.stopsAt k = false) :
    (e.limit < e.names.length ∧
      e.solutions = .error (.tooManyVariables e.names.length e.limit)) ∨
    (∃ x, e.names.length ≤ e.limit ∧
      e.proposition.occurrences.find? (fun c => decide (c ∉ e.names)) = some x ∧
      e.solutions = .error (.unassigned ⟨x⟩)) ∨
    ∃ s, e.Unhindered ∧ e.solutions = .ok s ∧ e.Solves s := by
  rcases Nat.lt_or_ge e.limit e.names.length with hlt | hle
  · exact .inl ⟨hlt, e.solutions_of_limit_lt hlt⟩
  · cases hx : e.proposition.occurrences.find? fun c => decide (c ∉ e.names) with
    | some x => exact .inr (.inl ⟨x, hle, rfl, solutions_of_unlisted hnodup hle (hgo 0) hx⟩)
    | none =>
      have hfree : e.Unhindered :=
        ⟨⟨hnodup, by simpa using List.find?_eq_none.1 hx, hle⟩, fun k _ => hgo k⟩
      obtain ⟨s, hs, hsolves⟩ := hfree.solutions_ok
      exact .inr (.inr ⟨s, hfree, hs, hsolves⟩)

/-- The outcome of an enumeration that can be cancelled, and the patterns at
which the cancellation is asked. -/
theorem outcome_exact (q : Proposition) (names : List Char) (maxVariables : Nat)
    (stop : Pattern → Bool) {e : Enumeration} {n limit : Nat}
    (he : e = { Enumeration.ofNames q names with maxVariables, cancel := some stop })
    (hn : n = names.toFinset.card) (hlimit : limit = min maxVariables Pattern.maxVariables) :
    (limit < n → e.solutions = .error (.tooManyVariables n limit) ∧ e.asked = []) ∧
    (n ≤ limit →
      (stop 0 = true → e.solutions = .error (.cancelled 0) ∧ e.asked.map UInt64.toNat = [0]) ∧
      (stop 0 = false →
        (∀ x, q.occurrences.find? (fun c => decide (c ∉ names)) = some x →
          e.solutions = .error (.unassigned ⟨x⟩) ∧ e.asked.map UInt64.toNat = [0]) ∧
        ((∀ c ∈ q.occurrences, c ∈ names) →
          (∀ k : Pattern, k.toNat < 2 ^ n → stop k = true → (∀ j < k, stop j = false) →
            e.solutions = .error (.cancelled k) ∧
              e.asked.map UInt64.toNat = List.range (k.toNat + 1)) ∧
          ((∀ k : Pattern, k.toNat < 2 ^ n → stop k = false) →
            (∃ s, e.solutions = .ok s) ∧ e.asked.map UInt64.toNat = List.range (2 ^ n))))) := by
  obtain rfl : n = e.names.length := by rw [hn, he, ← Variables.length_ascending]; rfl
  obtain rfl : limit = e.limit := by rw [hlimit, he]; rfl
  have hc : e.cancel.isSome := by rw [he]; rfl
  have hstop (k : Pattern) : e.stopsAt k = stop k := by rw [he]; rfl
  have hq : e.proposition = q := by rw [he]; rfl
  have hnodup : e.names.Nodup := by rw [he]; exact Variables.nodup_ascending names
  have hmem (c : Char) : c ∈ e.names ↔ c ∈ names := by rw [he]; exact Variables.mem_ascending
  refine ⟨fun hlt => ⟨e.solutions_of_limit_lt hlt, e.asked_of_limit_lt hlt⟩, fun hle => ⟨?_, ?_⟩⟩
  · intro h0
    exact Enumeration.halts_at hc hle (Nat.two_pow_pos _) rfl
      (Enumeration.run_visit_of_stopsAt ((hstop 0).trans h0))
  · intro h0
    have hfeasible (hlisted : ∀ c ∈ q.occurrences, c ∈ names) : e.Feasible :=
      ⟨hnodup, by simpa only [hq, hmem] using hlisted, hle⟩
    refine ⟨fun x hx => ?_, fun hlisted => ⟨fun k hk hkstop hleast => ?_, fun hgo => ?_⟩⟩
    · refine Enumeration.halts_at hc hle (Nat.two_pow_pos _) rfl
        (Enumeration.run_visit_of_unassigned ((hstop 0).trans h0) ?_)
      rw [Sweep.current_begin]
      exact eval_first_pattern hnodup hle (by simpa only [hq, hmem] using hx)
    · obtain ⟨s, hs, -⟩ := (hfeasible hlisted).visitFrom_ok (s := .begin e) k.toNat 0
        (by rw [UInt64.toNat_zero]; omega)
        (fun j hj => (hstop j).trans (hleast j (by simpa [UInt64.lt_iff_toNat_lt] using hj)))
        (by simpa using Assignment.within_empty e.names)
      exact Enumeration.halts_at hc hle hk hs
        (Enumeration.run_visit_of_stopsAt ((hstop k).trans hkstop))
    · have hfree : e.Unhindered := ⟨hfeasible hlisted, fun k hk => (hstop k).trans (hgo k hk)⟩
      obtain ⟨s, hs, -⟩ := hfree.solutions_ok
      obtain ⟨t, hrun⟩ := Enumeration.run_of_solutions_ok hs
      exact ⟨⟨s, hs⟩, Enumeration.asked_of_run_ok hc hle hrun⟩

theorem outcome_exact_two :
    (∃ e : Enumeration, e = { Enumeration.ofNames (.conj (.var 'p') (.var 'q')) ['q', 'p', 'q'] with
        maxVariables := 2, cancel := some fun k => 2 ≤ k } ∧
      e.solutions = .error (.cancelled 2) ∧ e.asked.map UInt64.toNat = [0, 1, 2]) ∧
    ∃ e : Enumeration, e = { Enumeration.ofNames (.conj (.var 'p') (.var 'q')) ['p'] with
        maxVariables := 2, cancel := some fun k => 2 ≤ k } ∧
      e.solutions = .error (.unassigned ⟨'q'⟩) ∧ e.asked.map UInt64.toNat = [0] := by
  constructor
  · obtain ⟨-, hfits⟩ := outcome_exact (.conj (.var 'p') (.var 'q')) ['q', 'p', 'q'] 2
      (fun k => 2 ≤ k) rfl rfl rfl
    have hlisted := ((hfits (by decide)).2 (by decide)).2 (by simp [Proposition.occurrences])
    exact ⟨_, rfl, hlisted.1 2 (by decide) (by decide) (by simp)⟩
  · obtain ⟨-, hfits⟩ := outcome_exact (.conj (.var 'p') (.var 'q')) ['p'] 2 (fun k => 2 ≤ k)
      rfl rfl rfl
    exact ⟨_, rfl, ((hfits (by decide)).2 (by decide)).1 'q' (by decide)⟩

end TruthTable
