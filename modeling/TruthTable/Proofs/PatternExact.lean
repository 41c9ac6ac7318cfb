import TruthTable.Proofs.OutcomeExact

/-!
# Patterns and assignments correspond one to one

`patterns_one_to_one`: as long as there are not too many variables, the words
that number the assignments do not overflow, and their patterns stand for all
assignments of the variables, each for another one. So an enumeration that comes
to its end has examined every assignment once.
-/

namespace TruthTable

variable {e : Enumeration} {names : List Char} {a : Assignment} {p : Pattern} {s t : Sweep}
variable {c : Char} {j : Nat}

-- ---------------------------------------------------------------------------
-- The assignments of patterns
-- ---------------------------------------------------------------------------

namespace Pattern

theorem lt_count_iff (h : names.length ≤ maxVariables) :
    p < count names.length ↔ p.toNat < 2 ^ names.length := by
  rw [UInt64.lt_iff_toNat_lt, toNat_count h]

theorem assign_empty (h : names.length ≤ maxVariables) (p : Pattern) :
    p.assign names .empty = .ofNumber names p.toNat :=
  p.assign_eq_ofNumber (Nat.le_succ_of_le h) (Assignment.within_empty names)

theorem get?_assign_empty (hnodup : names.Nodup) (h : names.length ≤ maxVariables)
    (hj : names[j]? = some c) (p : Pattern) :
    (p.assign names .empty).get? c = some (p &&& (1 <<< j.toUInt64) != 0) := by
  obtain ⟨hlt, -⟩ := List.getElem?_eq_some_iff.1 hj
  have hbit := p.bit_eq_testBit (Nat.lt_succ_of_lt (Nat.lt_of_lt_of_le hlt h))
  rw [assign_empty h, Assignment.get?_ofNumber hnodup hj, ← hbit, bit]

theorem injOn_assign (hnodup : names.Nodup) (h : names.length ≤ maxVariables) :
    Set.InjOn (fun p : Pattern => p.assign names .empty) {p | p < count names.length} := by
  intro p hp r hr heq
  simp only [assign_empty h] at heq
  exact UInt64.toNat_inj.1
    (Assignment.eq_of_ofNumber_eq hnodup ((lt_count_iff h).1 hp) ((lt_count_iff h).1 hr) heq)

theorem surjOn_assign (hnodup : names.Nodup) (h : names.length ≤ maxVariables) :
    Set.SurjOn (fun p : Pattern => p.assign names .empty) {p | p < count names.length}
      {a | ∀ c, (a.get? c).isSome ↔ c ∈ names} := by
  intro a ha
  obtain ⟨k, hk, rfl⟩ := Assignment.mem_all.1 ((Assignment.mem_all_iff_isSome hnodup).2 ha)
  have hpow : 2 ^ names.length < UInt64.size :=
    Nat.pow_lt_pow_right (by decide) (Nat.lt_succ_of_le h)
  have htoNat : (UInt64.ofNat k).toNat = k := UInt64.toNat_ofNat_of_lt' (Nat.lt_trans hk hpow)
  refine ⟨.ofNat k, (lt_count_iff h).2 (by rwa [htoNat]), ?_⟩
  simp only [assign_empty h, htoNat]

theorem bijOn_assign (hnodup : names.Nodup) (h : names.length ≤ maxVariables) :
    Set.BijOn (fun p : Pattern => p.assign names .empty) {p | p < count names.length}
      {a | ∀ c, (a.get? c).isSome ↔ c ∈ names} := by
  refine ⟨fun p _ c => ?_, injOn_assign hnodup h, surjOn_assign hnodup h⟩
  simp only [assign_empty h, Assignment.isSome_get?_ofNumber hnodup]

end Pattern

-- ---------------------------------------------------------------------------
-- What a run examines
-- ---------------------------------------------------------------------------

namespace Enumeration

/-- The assignment under which the proposition is evaluated at a pattern, unless
the enumeration is halted before. -/
def examined? (e : Enumeration) (p : Pattern) : Option Assignment :=
  match (e.visitFrom p.toNat 0 >>= fun _ => e.checkCancelled p).run (.begin e) with
  | .ok _ s => some (p.assign e.names s.current)
  | .error .. => none

theorem current_of_visit_ok (h : (e.visit p).run s = .ok () t) :
    t.current = p.assign e.names s.current := by
  cases hstop : e.stopsAt p with
  | true =>
    rw [run_visit_of_stopsAt hstop] at h
    cases h
  | false =>
    cases heval : e.proposition.eval (p.assign e.names s.current) with
    | error missing =>
      rw [run_visit_of_unassigned hstop heval] at h
      cases h
    | ok b =>
      rw [run_visit hstop heval] at h
      cases h
      cases b <;> simp

theorem within_of_visit_ok (hle : e.names.length ≤ e.limit) (hs : s.current.Within e.names)
    (h : (e.visit p).run s = .ok () t) : t.current.Within e.names := by
  rw [current_of_visit_ok h,
    p.assign_eq_ofNumber (Nat.le_succ_of_le (length_le_maxVariables hle)) hs]
  exact Assignment.within_ofNumber e.names p.toNat

theorem within_of_visitFrom_ok (hle : e.names.length ≤ e.limit) {left : Nat}
    (hs : s.current.Within e.names) (h : (e.visitFrom left p).run s = .ok () t) :
    t.current.Within e.names := by
  induction left generalizing p s with
  | zero =>
    cases h
    exact hs
  | succ left ih =>
    obtain ⟨_, u, hvisit, h⟩ := bind_ok.1 h
    exact ih (within_of_visit_ok hle hs hvisit) h

/-- Whatever the patterns before have left behind, a pattern is examined with
its own assignment. -/
theorem eq_assign_of_examined? (hle : e.names.length ≤ e.limit) (h : e.examined? p = some a) :
    a = p.assign e.names .empty := by
  have hmax := length_le_maxVariables hle
  unfold examined? at h
  split at h
  · next t hrun =>
    obtain ⟨_, s, hvisits, hcheck⟩ := bind_ok.1 hrun
    obtain rfl := checkCancelled_ok hcheck
    have hwithin := within_of_visitFrom_ok hle (Sweep.within_begin e) hvisits
    rw [Option.some_inj, Sweep.current_ask,
      p.assign_eq_ofNumber (Nat.le_succ_of_le hmax) hwithin] at h
    rw [← h, Pattern.assign_empty hmax]
  · cases h

theorem Unhindered.isSome_examined? (h : e.Unhindered) (hp : p.toNat < 2 ^ e.names.length) :
    (e.examined? p).isSome := by
  obtain ⟨s, hs⟩ := h.visitFrom_begin_ok (Nat.le_of_lt hp)
    fun k hk => h.goes k (Nat.lt_trans hk hp)
  have hask := e.run_checkCancelled p s
  rw [h.goes p hp, if_neg Bool.false_ne_true] at hask
  rw [examined?, run_bind_of_ok hs, hask]
  rfl

theorem Unhindered.existsUnique_examined? (h : e.Unhindered)
    (ha : ∀ c, (a.get? c).isSome ↔ c ∈ e.names) :
    ∃! p : Pattern, p < Pattern.count e.names.length ∧ e.examined? p = some a := by
  have hmax := length_le_maxVariables h.length_le
  obtain ⟨p, hp, rfl⟩ := Pattern.surjOn_assign h.nodup hmax ha
  refine ⟨p, ⟨hp, ?_⟩, fun r ⟨hr, hexamined⟩ => ?_⟩
  · obtain ⟨b, hb⟩ := Option.isSome_iff_exists.1
      (h.isSome_examined? ((Pattern.lt_count_iff hmax).1 hp))
    rw [hb, eq_assign_of_examined? h.length_le hb]
  · exact Pattern.injOn_assign h.nodup hmax hr hp
      (eq_assign_of_examined? h.length_le hexamined).symm

theorem Unhindered.mem_assignments_iff (h : e.Unhindered) {found : Solutions}
    (hfound : e.Solves found) : a ∈ found.assignments ↔
      e.proposition.accepts a = true ∧
        ∃ p, p < Pattern.count e.names.length ∧ e.examined? p = some a := by
  have hmax := length_le_maxVariables h.length_le
  rw [hfound.assignments, Proposition.mem_models h.nodup, and_comm]
  refine and_congr_right fun _ => ⟨fun ha => (h.existsUnique_examined? ha).exists, ?_⟩
  rintro ⟨p, hp, hexamined⟩
  rw [eq_assign_of_examined? h.length_le hexamined]
  exact (Pattern.bijOn_assign h.nodup hmax).mapsTo hp

theorem Solves.nodup_assignments {found : Solutions} (hfound : e.Solves found)
    (hnodup : e.names.Nodup) : found.assignments.Nodup := by
  rw [hfound.assignments]
  exact (Assignment.nodup_all hnodup).filter _

end Enumeration

/-- An enumeration that is not refused for its number of variables has at most
63 of them, so none of its words overflows, and its patterns stand for all
assignments of the variables, one each. What it examines at a pattern is the
assignment of that pattern. If all variables of the proposition are listed and
nothing cancels it, it comes to its end, has then examined each assignment once
and returns those of them that satisfy the proposition, none twice. -/
theorem patterns_one_to_one (q : Proposition) (names : List Char) (maxVariables : Nat)
    (cancel : Option (Pattern → Bool)) {e : Enumeration} {n : Nat}
    (he : e = { Enumeration.ofNames q names with maxVariables, cancel })
    (hn : n = names.toFinset.card)
    (hfits : ∀ count limit, e.solutions ≠ .error (.tooManyVariables count limit)) :
    n ≤ 63 ∧ e.names.length = n ∧ e.names.Pairwise (· < ·) ∧ (Pattern.count n).toNat = 2 ^ n ∧
    (∀ j < n, ((1 : UInt64) <<< j.toUInt64).toNat = 2 ^ j) ∧
    (∀ (p : Pattern) (j : Nat) (c : Char), e.names[j]? = some c →
      (Pattern.assign e.names p .empty).get? c = some (p &&& (1 <<< j.toUInt64) != 0)) ∧
    Set.BijOn (fun p => Pattern.assign e.names p .empty) {p | p < Pattern.count n}
      {a | ∀ c, (a.get? c).isSome ↔ c ∈ names} ∧
    (∀ p a, e.examined? p = some a → a = Pattern.assign e.names p .empty) ∧
    ((∀ c ∈ q.occurrences, c ∈ names) →
      (∀ stop ∈ cancel, ∀ p : Pattern, p.toNat < 2 ^ n → stop p = false) →
      ∃ s, e.solutions = .ok s) ∧
    ∀ s, e.solutions = .ok s →
      (∀ a : Assignment, (∀ c, (a.get? c).isSome ↔ c ∈ names) →
        ∃! p, p < Pattern.count n ∧ e.examined? p = some a) ∧
      (∀ a, a ∈ s.assignments ↔
        q.accepts a = true ∧ ∃ p, p < Pattern.count n ∧ e.examined? p = some a) ∧
      s.assignments.Nodup := by
  obtain rfl : n = e.names.length := by rw [hn, he, ← Variables.length_ascending]; rfl
  have hnodup : e.names.Nodup := by rw [he]; exact Variables.nodup_ascending names
  have hmem (c : Char) : c ∈ e.names ↔ c ∈ names := by rw [he]; exact Variables.mem_ascending
  have hq : e.proposition = q := by rw [he]; rfl
  have hle : e.names.length ≤ e.limit := by
    by_contra hlt
    exact hfits _ _ (e.solutions_of_limit_lt (Nat.not_le.1 hlt))
  have hmax := Enumeration.length_le_maxVariables hle
  have hbij := Pattern.bijOn_assign hnodup hmax
  simp only [hmem] at hbij
  refine ⟨hmax, rfl, ?_, Pattern.toNat_count hmax, fun j hj => ?_, fun p j c hj => ?_, hbij,
    fun p a ha => ?_, fun hlisted hgo => ?_, fun s hs => ?_⟩
  · rw [he]
    exact Variables.pairwise_ascending names
  · exact Pattern.toNat_one_shiftLeft (Nat.lt_succ_of_lt (Nat.lt_of_lt_of_le hj hmax))
  · exact p.get?_assign_empty hnodup hmax hj
  · exact Enumeration.eq_assign_of_examined? hle ha
  · subst he
    obtain ⟨s, hs, -⟩ := (unhindered_ofNames hlisted hle hgo).solutions_ok
    exact ⟨s, hs⟩
  · have hfree := Enumeration.unhindered_of_solutions_ok hnodup hs
    have hsolves := Enumeration.solves_of_solutions_ok hnodup hs
    refine ⟨fun a ha => hfree.existsUnique_examined? ?_, fun a => ?_,
      hsolves.nodup_assignments hnodup⟩
    · simpa only [hmem] using ha
    · rw [← hq]
      exact hfree.mem_assignments_iff hsolves

/-- As many variables as there can be, and two variables of which one is listed
twice and whose second pattern has the value `true` for the smaller one. -/
theorem patterns_one_to_one_most :
    (∃ e : Enumeration, e = { Enumeration.ofNames (.constant true)
          ((List.range 63).map fun i => Char.ofNat (192 + i)) with
        maxVariables := UInt64.size - 1, cancel := some fun _ => true } ∧
      (Pattern.count 63).toNat = 2 ^ 63 ∧
      Set.BijOn (fun p => Pattern.assign e.names p .empty) {p | p < Pattern.count 63}
        {a | ∀ c, (a.get? c).isSome ↔ c ∈ (List.range 63).map fun i => Char.ofNat (192 + i)}) ∧
    ∃ e : Enumeration, e = { Enumeration.ofNames (.conj (.var 'b') (.neg (.var 'a')))
          ['b', 'a', 'b'] with maxVariables := 1000, cancel := none } ∧
      (∃ s, e.solutions = .ok s ∧ s.assignments.Nodup) ∧
      ∃! p, p < Pattern.count 2 ∧ e.examined? p = some (.ofList [('b', false), ('a', true)]) := by
  constructor
  · have hrun : ({ Enumeration.ofNames (.constant true)
          ((List.range 63).map fun i => Char.ofNat (192 + i)) with
        maxVariables := UInt64.size - 1, cancel := some fun _ => true } : Enumeration).solutions =
        .error (.cancelled 0) := by decide +kernel
    obtain ⟨-, -, -, hcount, -, -, hbij, -⟩ := patterns_one_to_one (.constant true)
      ((List.range 63).map fun i => Char.ofNat (192 + i)) (UInt64.size - 1) (some fun _ => true)
      (n := 63) rfl (by decide +kernel) fun _ _ h => nomatch hrun.symm.trans h
    exact ⟨_, rfl, hcount, hbij⟩
  · have hrun : ({ Enumeration.ofNames (.conj (.var 'b') (.neg (.var 'a')))
          ['b', 'a', 'b'] with maxVariables := 1000, cancel := none } : Enumeration).solutions =
        .ok ⟨['a', 'b'], #[.ofList [('b', true), ('a', false)]], 4⟩ := by decide +kernel
    obtain ⟨-, -, -, -, -, -, -, -, -, hok⟩ := patterns_one_to_one
      (.conj (.var 'b') (.neg (.var 'a'))) ['b', 'a', 'b'] 1000 none
      (n := 2) rfl (by decide) fun _ _ h => nomatch hrun.symm.trans h
    obtain ⟨honce, -, hnodup⟩ := hok _ hrun
    refine ⟨_, rfl, ⟨_, hrun, hnodup⟩, honce _ fun c => ?_⟩
    rw [Assignment.isSome_get?_ofList]
    simp only [List.map_cons, List.map_nil, List.mem_cons, List.not_mem_nil, or_false]
    tauto

end TruthTable
