import TruthTable.Proofs.PatternExact
import TruthTable.Proofs.SolveExact

/-!
# The log tells what was found

`log_tells_solutions`: between the announcement of the search and its summary
the log has one record for each solution, in the same order and with the same
assignment. `Tells` is what the visits of some patterns add, to the log and to
what was found alike.
-/

namespace TruthTable

variable {e : Enumeration} {s t u : Sweep} {p : Pattern} {ps qs : List Pattern}
variable {found : Solutions}

-- ---------------------------------------------------------------------------
-- Visits
-- ---------------------------------------------------------------------------

/-- At the patterns `ps`, and nowhere else, the assignment of the pattern was
told and kept. -/
structure Tells (e : Enumeration) (ps : List Pattern) (s t : Sweep) : Prop where
  log : t.log.toList = s.log.toList ++ ps.map fun p => .satisfies p (p.assign e.names .empty)
  found : t.found.toList = s.found.toList ++ ps.map fun p => p.assign e.names .empty

namespace Tells

theorem nil (hlog : t.log = s.log) (hfound : t.found = s.found) : Tells e [] s t := by
  constructor
  · rw [hlog, List.map_nil, List.append_nil]
  · rw [hfound, List.map_nil, List.append_nil]

theorem trans (h : Tells e ps s t) (h' : Tells e qs t u) : Tells e (ps ++ qs) s u := by
  constructor
  · rw [h'.log, h.log, List.map_append, List.append_assoc]
  · rw [h'.found, h.found, List.map_append, List.append_assoc]

end Tells

namespace Enumeration

theorem visit_tells (hle : e.names.length ≤ e.limit) (hs : s.current.Within e.names)
    (h : (e.visit p).run s = .ok () t) : ∃ ps, ps.Sublist [p] ∧ Tells e ps s t := by
  have hmax := length_le_maxVariables hle
  have hassign : p.assign e.names s.current = p.assign e.names .empty := by
    rw [p.assign_eq_ofNumber (Nat.le_succ_of_le hmax) hs, Pattern.assign_empty hmax]
  cases hstop : e.stopsAt p with
  | true =>
    rw [run_visit_of_stopsAt hstop] at h
    cases h
  | false =>
    cases heval : e.proposition.eval (p.assign e.names s.current) with
    | error missing =>
      rw [run_visit_of_unassigned hstop heval] at h
      cases h
    | ok b =>
      rw [run_visit hstop heval] at h
      cases b with
      | false =>
        cases h
        exact ⟨[], List.nil_sublist _, .nil (by simp) (by simp)⟩
      | true =>
        cases h
        exact ⟨[p], List.Sublist.refl _, by simp [hassign], by simp [hassign]⟩

theorem visitFrom_tells (hle : e.names.length ≤ e.limit) {left : Nat}
    (hp : p.toNat + left ≤ 2 ^ e.names.length) (hs : s.current.Within e.names)
    (h : (e.visitFrom left p).run s = .ok () t) :
    ∃ ps : List Pattern, (ps.map UInt64.toNat).Sublist (List.range' p.toNat left) ∧
      Tells e ps s t := by
  induction left generalizing p s with
  | zero =>
    cases h
    exact ⟨[], List.nil_sublist _, .nil rfl rfl⟩
  | succ left ih =>
    obtain ⟨_, u, hvisit, hrest⟩ := bind_ok.1 h
    have hlt := two_pow_lt hle
    have hnext : (p + 1).toNat = p.toNat + 1 := Pattern.toNat_add_one (by omega)
    obtain ⟨ps, hps, hfirst⟩ := visit_tells hle hs hvisit
    obtain ⟨qs, hqs, hlater⟩ := ih (by omega) (within_of_visit_ok hle hs hvisit) hrest
    refine ⟨ps ++ qs, ?_, hfirst.trans hlater⟩
    rw [hnext] at hqs
    rw [List.map_append, List.range'_succ]
    exact (hps.map UInt64.toNat).append hqs

-- ---------------------------------------------------------------------------
-- Runs
-- ---------------------------------------------------------------------------

theorem log_of_limit_lt (h : e.limit < e.names.length) : e.log = [] := by
  rw [log, run, sweep, if_pos h]
  rfl

theorem length_le_of_solutions_ok (h : e.solutions = .ok found) :
    e.names.length ≤ e.limit := by
  by_contra hlt
  rw [e.solutions_of_limit_lt (Nat.not_le.1 hlt)] at h
  cases h

theorem log_of_names_nil (hnames : e.names = []) (h : e.solutions = .ok found) : e.log = [] := by
  obtain ⟨t, hrun⟩ := run_of_solutions_ok h
  have hlog : t.log = #[] := by
    rw [run, sweep, if_neg (by simp [hnames]), if_pos (List.isEmpty_iff.2 hnames)] at hrun
    obtain ⟨_, u, hask, hrest⟩ := bind_ok.1 hrun
    obtain ⟨b, v, hsat, hend⟩ := bind_ok.1 hrest
    obtain rfl := checkCancelled_ok hask
    obtain rfl := isSatisfied_ok hsat
    cases b with
    | false =>
      cases hend
      exact Sweep.log_ask
    | true =>
      cases hend
      exact Sweep.log_ask
  rw [log, hrun]
  exact congrArg Array.toList hlog

theorem log_of_solutions_ok (hnames : e.names ≠ []) (h : e.solutions = .ok found) :
    ∃ ps : List Pattern, (ps.map UInt64.toNat).Sublist (List.range (2 ^ e.names.length)) ∧
      found.assignments = ps.map (fun p => p.assign e.names .empty) ∧
      e.log = .searching (2 ^ e.names.length) e.names ::
        (ps.map (fun p => .satisfies p (p.assign e.names .empty)) ++
          [.finished found.count (2 ^ e.names.length)]) := by
  have hle := length_le_of_solutions_ok h
  obtain ⟨t, hrun⟩ := run_of_solutions_ok h
  have hsweep := hrun
  rw [run, sweep, if_neg (Nat.not_lt.2 hle), if_neg (by simpa using hnames)] at hsweep
  obtain ⟨_, u, htell, hrest⟩ := bind_ok.1 hsweep
  obtain ⟨_, v, hvisits, hend⟩ := bind_ok.1 hrest
  cases htell
  cases hend
  rw [count_eq hle] at hvisits
  obtain ⟨ps, hps, htells⟩ := visitFrom_tells hle (by rw [UInt64.toNat_zero, Nat.zero_add])
    (Assignment.within_empty e.names) hvisits
  rw [UInt64.toNat_zero, ← List.range_eq_range'] at hps
  refine ⟨ps, hps, htells.found, ?_⟩
  rw [log, hrun]
  simp [htells.log, count_eq hle, Solutions.count]

end Enumeration

-- ---------------------------------------------------------------------------
-- Texts
-- ---------------------------------------------------------------------------

/-- The patterns, in ascending order, are those of the assignments: bit `j` is
the value of the variable at position `j`. -/
structure Numbers (names : List Char) (ps : List Pattern) (as : List Assignment) : Prop where
  ascending : ps.Pairwise (· < ·)
  toNat_lt : ∀ p ∈ ps, p.toNat < 2 ^ names.length
  decodes : List.Forall₂ (fun p a => (∀ c, (a.get? c).isSome ↔ c ∈ names) ∧
    ∀ j c, names[j]? = some c → a.get? c = some (p.toNat.testBit j)) ps as

theorem numbers_of_sublist {names : List Char} (hnodup : names.Nodup)
    (hmax : names.length ≤ Pattern.maxVariables)
    (hps : (ps.map UInt64.toNat).Sublist (List.range (2 ^ names.length))) :
    Numbers names ps (ps.map fun p => p.assign names .empty) where
  ascending := by
    have hlt : (ps.map UInt64.toNat).Pairwise (· < ·) := List.pairwise_lt_range.sublist hps
    simpa only [List.pairwise_map, ← UInt64.lt_iff_toNat_lt] using hlt
  toNat_lt p hp := List.mem_range.1 (hps.subset (List.mem_map_of_mem hp))
  decodes := by
    refine List.forall₂_map_right_iff.2 (List.forall₂_same.2 fun p _ => ?_)
    rw [Pattern.assign_empty hmax]
    exact ⟨fun c => Assignment.isSome_get?_ofNumber hnodup p.toNat,
      fun j c hj => Assignment.get?_ofNumber hnodup hj p.toNat⟩

def searchRecords (ps : List Pattern) (s : Solutions) : List Record :=
  .searching s.examined s.names ::
    (List.zipWith .satisfies ps s.assignments ++ [.finished s.count s.examined])

theorem levels_searchRecords (h : ps.length = found.count) :
    (searchRecords ps found).map Record.level =
      "DEBUG" :: (List.replicate found.count "TRACE" ++ ["DEBUG"]) := by
  have htrace : (List.zipWith Record.satisfies ps found.assignments).map Record.level =
      List.replicate found.count "TRACE" := by
    have hlength : (ps.zip found.assignments).length = found.count := by simp [h]
    rw [List.map_zipWith, ← List.map_uncurry_zip_eq_zipWith, ← hlength]
    exact (List.map_congr_left fun _ _ => rfl).trans List.map_const'
  rw [searchRecords, List.map_cons, List.map_append, htrace]
  rfl

theorem Enumeration.Solves.log_eq (hsolves : e.Solves found) (hfree : e.Unhindered)
    (hnames : e.names ≠ []) (h : e.solutions = .ok found) :
    ∃ ps, e.log = searchRecords ps found ∧ Numbers found.names ps found.assignments := by
  obtain ⟨ps, hps, hassignments, hlog⟩ := log_of_solutions_ok hnames h
  have hnumbers := numbers_of_sublist hfree.nodup (length_le_maxVariables hfree.length_le) hps
  rw [← hassignments, ← hsolves.names] at hnumbers
  refine ⟨ps, ?_, hnumbers⟩
  rw [hlog, searchRecords, hsolves.examined, hsolves.names, hassignments, List.zipWith_map_right,
    List.zipWith_self]

section
variable {text : String} {maxVariables : Nat} {parsed : Parsed}

theorem solveLog_of_parse (h : parse text = .ok parsed) :
    solveLog text maxVariables =
      (pushBacks defaultLevels text.toList).map .pushBack ++
        (parsed.enumeration maxVariables).log := by
  rw [solveLog, h]

theorem log_enumeration_eq_nil (h : parse text = .ok parsed)
    (hnone : min maxVariables Pattern.maxVariables < parsed.root.variableCount ∨
      parsed.root.variableCount = 0) : (parsed.enumeration maxVariables).log = [] := by
  have hlength := length_names_enumeration h maxVariables
  rcases hnone with hlt | hzero
  · exact Enumeration.log_of_limit_lt (hlength.symm ▸ hlt)
  · obtain ⟨s, hs, -⟩ := (unhindered_of_parse h (hzero ▸ Nat.zero_le _)).solutions_ok
    exact Enumeration.log_of_names_nil (List.length_eq_zero_iff.1 (hlength.trans hzero)) hs

end

end TruthTable
