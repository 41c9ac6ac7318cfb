import TruthTable.Proofs.EnumerationExact
import TruthTable.Proofs.ParseExact
import TruthTable.Proofs.RenderLaws

/-!
# Composing texts

`texts_compose`: texts that parse can be put into parentheses and joined by the
connectives, which takes two levels more, and each part is parsed as it was
alone. The solutions of a negated text are the assignments that do not solve
the text.
-/

namespace TruthTable

open Proposition

variable {levels : Nat} {text other : List Char} {p q : Proposition}

-- ---------------------------------------------------------------------------
-- Phrases in parentheses
-- ---------------------------------------------------------------------------

theorem derives_neg_enclose (h : Derives .sentence levels (tokens text) p) :
    Derives .sentence (levels + 2) (tokens ('~' :: enclose true text)) (.neg p) := by
  rw [tokens_cons tokens_neg]
  exact (Derives.neg (.ofTerm h.enclose)).toSentence

theorem derives_conj_enclose (hp : Derives .sentence levels (tokens text) p)
    (hq : Derives .sentence levels (tokens other) q) :
    Derives .sentence (levels + 2) (tokens (enclose true text ++ '&' :: enclose true other))
      (.conj p q) := by
  have hop : tokens ['&'] = [.conj] := by decide +kernel
  rw [tokens_append, tokens_cons hop]
  -- the left operand stands on the level of the whole, the right one below it
  have hleft : Derives .atom (levels + 2) (tokens (enclose true text)) p :=
    .ofTerm (hp.enclose.mono (Nat.le_succ _))
  exact (Derives.conj hleft (hq.enclose.toClause (by simp))).toSentence

theorem derives_disj_enclose (hp : Derives .sentence levels (tokens text) p)
    (hq : Derives .sentence levels (tokens other) q) :
    Derives .sentence (levels + 2) (tokens (enclose true text ++ '|' :: enclose true other))
      (.disj p q) := by
  have hop : tokens ['|'] = [.disj] := by decide +kernel
  rw [tokens_append, tokens_cons hop]
  have hleft : Derives .clause (levels + 2) (tokens (enclose true text)) p :=
    (hp.enclose.mono (Nat.le_succ _)).toClause (by simp)
  exact .disj hleft hq.enclose.toSentence

-- ---------------------------------------------------------------------------
-- Negated enumerations
-- ---------------------------------------------------------------------------

theorem Enumeration.Solves.neg {e e' : Enumeration} {s s' : Solutions} (hs : e.Solves s)
    (hs' : e'.Solves s') (h : e.Unhindered) (h' : e'.Unhindered) (hnames : e'.names = e.names)
    (hneg : e'.proposition = .neg e.proposition) :
    s'.assignments = (Assignment.all e.names).filter (fun a => a ∉ s.assignments) ∧
      s.count + s'.count = 2 ^ e.names.length ∧
      (s.isTautology = true ↔ s'.isSatisfiable = false) := by
  refine ⟨?_, ?_, ?_⟩
  · rw [hs.assignments, hs'.assignments, hneg, hnames, models_neg h.nodup h.listed]
  · rw [hs.count_eq, hs'.count_eq, hneg, hnames, length_models_add_neg h.nodup h.listed]
  · rw [hs.isTautology_iff h, ← Bool.not_eq_true, hs'.isSatisfiable_iff h', hneg]
    simp [holds]

/-- Texts compose. In parentheses they are operands of the connectives two
levels deeper. A negated text has the solutions that the text does not have. -/
theorem texts_compose (levels : Nat) (text other : String) (left right : Parsed)
    (hleft : parseWithin levels text.toList = .ok left)
    (hright : parseWithin levels other.toList = .ok right) :
    parseWithin (levels + 2) ("~(" ++ text ++ ")").toList =
      .ok ⟨.neg left.root, left.names⟩ ∧
    parseWithin (levels + 2) ("(" ++ text ++ ")&(" ++ other ++ ")").toList =
      .ok ⟨.conj left.root right.root,
        left.names ++ right.names.filter fun c => c ∉ left.names⟩ ∧
    parseWithin (levels + 2) ("(" ++ text ++ ")|(" ++ other ++ ")").toList =
      .ok ⟨.disj left.root right.root,
        left.names ++ right.names.filter fun c => c ∉ left.names⟩ ∧
    ∀ maxVariables maxVariables' : Nat,
      left.names.length ≤ min maxVariables Pattern.maxVariables →
      left.names.length ≤ min maxVariables' Pattern.maxVariables →
      ∃ s s', { Enumeration.ofProposition left.root with maxVariables }.solutions = .ok s ∧
        { Enumeration.ofProposition (.neg left.root) with
          maxVariables := maxVariables' }.solutions = .ok s' ∧
        s'.assignments =
          (Assignment.all left.ascendingNames).filter (fun a => a ∉ s.assignments) ∧
        s.count + s'.count = 2 ^ left.names.length ∧
        (s.isTautology = true ↔ s'.isSatisfiable = false) := by
  obtain ⟨p, names⟩ := left
  obtain ⟨q, others⟩ := right
  obtain ⟨hp, rfl⟩ := parseWithin_eq_ok.1 hleft
  obtain ⟨hq, rfl⟩ := parseWithin_eq_ok.1 hright
  refine ⟨?_, ?_, ?_, fun maxVariables maxVariables' hle hle' => ?_⟩
  · refine parseWithin_eq_ok.2 ⟨?_, rfl⟩
    have h := derives_neg_enclose hp
    simpa [enclose] using h
  · refine parseWithin_eq_ok.2 ⟨?_, (addNames_names p q).symm⟩
    have h := derives_conj_enclose hp hq
    simpa [enclose] using h
  · refine parseWithin_eq_ok.2 ⟨?_, (addNames_names p q).symm⟩
    have h := derives_disj_enclose hp hq
    simpa [enclose] using h
  · have hlisted : ∀ c ∈ p.occurrences, c ∈ p.names := fun c => mem_names.2
    rw [← p.length_ascending_names] at hle hle' ⊢
    have hfree : { Enumeration.ofProposition p with maxVariables : Enumeration }.Unhindered :=
      unhindered_ofNames hlisted hle nofun
    have hfree' : { Enumeration.ofProposition (.neg p) with
        maxVariables := maxVariables' : Enumeration }.Unhindered :=
      unhindered_ofNames hlisted hle' nofun
    obtain ⟨s, hs, hsolves⟩ := hfree.solutions_ok
    obtain ⟨s', hs', hsolves'⟩ := hfree'.solutions_ok
    exact ⟨s, s', hs, hs', hsolves.neg hsolves' hfree hfree' rfl rfl⟩

theorem texts_compose_two :
    parseWithin 2 "p | q".toList = .ok ⟨.disj (.var 'p') (.var 'q'), ['p', 'q']⟩ ∧
    parseWithin 2 " q&(a) ".toList = .ok ⟨.conj (.var 'q') (.var 'a'), ['q', 'a']⟩ ∧
    parseWithin 4 ("(" ++ "p | q" ++ ")&(" ++ " q&(a) " ++ ")").toList =
      .ok ⟨.conj (.disj (.var 'p') (.var 'q')) (.conj (.var 'q') (.var 'a')), ['p', 'q', 'a']⟩ ∧
    ∃ s s',
      { Enumeration.ofProposition (.disj (.var 'p') (.var 'q')) with
        maxVariables := 2 : Enumeration }.solutions = .ok s ∧
      { Enumeration.ofProposition (.neg (.disj (.var 'p') (.var 'q'))) with
        maxVariables := 64 : Enumeration }.solutions = .ok s' ∧
      s'.assignments = (Assignment.all ['p', 'q']).filter (fun a => a ∉ s.assignments) ∧
      s.count + s'.count = 4 := by
  have hleft : parseWithin 2 "p | q".toList =
      .ok ⟨.disj (.var 'p') (.var 'q'), ['p', 'q']⟩ := by decide +kernel
  have hright : parseWithin 2 " q&(a) ".toList =
      .ok ⟨.conj (.var 'q') (.var 'a'), ['q', 'a']⟩ := by decide +kernel
  obtain ⟨-, hconj, -, hsearch⟩ := texts_compose 2 _ _ _ _ hleft hright
  obtain ⟨s, s', hs, hs', hassignments, hcount, -⟩ := hsearch 2 64 (by decide) (by decide)
  exact ⟨hleft, hright, hconj, s, s', hs, hs', hassignments, hcount⟩

end TruthTable
