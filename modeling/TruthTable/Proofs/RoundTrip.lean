import TruthTable.Proofs.LimitLaws
import TruthTable.Proofs.ParseExact
import TruthTable.Proofs.RenderLaws
import TruthTable.Solving

/-!
# Rendering and parsing back

`parses_render_iff`: the rendered text of a proposition parses back to it just
when the text can have its variables and the limit allows its nesting. Where
only the limit stands in the way, the text is nested too deeply.

`rendered_parses_same`: the rendered text of what a text parses to is parsed
within the same limit, to the same proposition and variables, however the text
was written. Solving cannot tell the two apart.
-/

namespace TruthTable

variable {levels : Nat} {p : Proposition}

theorem toList_toString (p : Proposition) : (toString p).toList = p.render :=
  String.toList_ofList

theorem derives_render_iff :
    Derives .sentence levels (tokens p.render) p ↔
      (∀ c ∈ p.occurrences, IsVariable c) ∧ p.nesting ≤ levels := by
  constructor
  · intro h
    refine ⟨h.isVariable, ?_⟩
    exact Nat.le_trans (Nat.le_add_left _ _) h.nesting_le
  · rintro ⟨hv, hle⟩
    exact (Proposition.rendersWell hv).toSentence.mono hle

theorem parseWithin_render (hv : ∀ c ∈ p.occurrences, IsVariable c) (hle : p.nesting ≤ levels) :
    parseWithin levels p.render = .ok ⟨p, p.names⟩ :=
  parseWithin_eq_ok.2 ⟨derives_render_iff.2 ⟨hv, hle⟩, rfl⟩

theorem tooDeep_of_lt_nesting (hv : ∀ c ∈ p.occurrences, IsVariable c) (hlt : levels < p.nesting) :
    ∃ found, parseWithin levels p.render = .error (.malformed .tooDeep found) := by
  rcases parseWithin_of_le (Nat.le_of_lt hlt) p.render with h | h
  · exact h
  · -- otherwise the text would parse, and its nesting would be allowed
    rw [parseWithin_render hv (Nat.le_refl _)] at h
    have hle := (derives_render_iff.1 (parseWithin_eq_ok.1 h).1).2
    omega

theorem parses_render_iff (levels : Nat) (p : Proposition) :
    ((∃ names, parseWithin levels (toString p).toList = .ok ⟨p, names⟩) ↔
      (∀ c ∈ p.occurrences, IsVariable c) ∧ p.nesting ≤ levels) ∧
    ((∀ c ∈ p.occurrences, IsVariable c) → levels < p.nesting →
      ∃ found, parseWithin levels (toString p).toList = .error (.malformed .tooDeep found)) := by
  rw [toList_toString]
  refine ⟨⟨?_, ?_⟩, tooDeep_of_lt_nesting⟩
  · rintro ⟨names, h⟩
    exact derives_render_iff.1 (parseWithin_eq_ok.1 h).1
  · rintro ⟨hv, hle⟩
    exact ⟨p.names, parseWithin_render hv hle⟩

theorem parses_render_iff_two :
    (∃ names, parseWithin 2 (toString
        (Proposition.conj (.disj (.var 'p') (.var 'q')) (.neg (.var 'r')))).toList =
      .ok ⟨.conj (.disj (.var 'p') (.var 'q')) (.neg (.var 'r')), names⟩) ∧
    ∃ found, parseWithin 1 (toString
        (Proposition.conj (.disj (.var 'p') (.var 'q')) (.neg (.var 'r')))).toList =
      .error (.malformed .tooDeep found) := by
  have hv : ∀ c ∈ (Proposition.conj (.disj (.var 'p') (.var 'q')) (.neg (.var 'r'))).occurrences,
      IsVariable c := by
    intro c hc
    simp only [Proposition.occurrences, List.cons_append, List.nil_append, List.mem_cons,
      List.not_mem_nil, or_false] at hc
    rcases hc with rfl | rfl | rfl <;> decide +kernel
  exact ⟨(parses_render_iff 2 _).1.2 ⟨hv, by decide⟩, (parses_render_iff 1 _).2 hv (by decide)⟩

-- ---------------------------------------------------------------------------
-- Rendering what was parsed
-- ---------------------------------------------------------------------------

theorem parseWithin_render_of_ok {levels : Nat} {text : List Char} {parsed : Parsed}
    (h : parseWithin levels text = .ok parsed) :
    parseWithin levels parsed.root.render = .ok parsed := by
  obtain ⟨root, names⟩ := parsed
  obtain ⟨hroot, rfl⟩ := parseWithin_eq_ok.1 h
  -- the text has the variables, and no text for the proposition is nested less deeply
  refine parseWithin_render hroot.isVariable ?_
  exact Nat.le_trans (Nat.le_add_left _ _) hroot.nesting_le

/-- A text can be replaced by the rendered text of its proposition. It parses
within the same limit to the same, and is rendered and solved as before. -/
theorem rendered_parses_same (levels : Nat) (text : String) (parsed : Parsed)
    (h : parseWithin levels text.toList = .ok parsed) :
    (∃ again, parseWithin levels (toString parsed.root).toList = .ok again ∧
      again.root = parsed.root ∧ again.names = parsed.names ∧
      toString again.root = toString parsed.root) ∧
    ∀ maxVariables, (∃ q, parse text = .ok q) →
      solve (toString parsed.root) maxVariables = solve text maxVariables := by
  constructor
  · refine ⟨parsed, ?_, rfl, rfl, rfl⟩
    rw [toList_toString]
    exact parseWithin_render_of_ok h
  · rintro maxVariables ⟨q, hq⟩
    obtain rfl := parseWithin_ok_unique h hq
    have hrender : parse (toString parsed.root) = .ok parsed := by
      rw [parse, toList_toString]
      exact parseWithin_render_of_ok hq
    rw [solve, solve, hrender, hq]

theorem rendered_parses_same_three :
    parseWithin 3 "(p)|((q))".toList = .ok ⟨.disj (.var 'p') (.var 'q'), ['p', 'q']⟩ ∧
    (∃ again, parseWithin 3 "p | q".toList = .ok again ∧ again.names = ['p', 'q']) ∧
    solve "p | q" 2 = solve "(p)|((q))" 2 := by
  have hparse : parseWithin 3 "(p)|((q))".toList =
      .ok ⟨.disj (.var 'p') (.var 'q'), ['p', 'q']⟩ := by decide +kernel
  have htext : toString (Proposition.disj (.var 'p') (.var 'q')) = "p | q" := rfl
  obtain ⟨⟨again, hagain, -, hnames, -⟩, hsolve⟩ := rendered_parses_same 3 _ _ hparse
  rw [htext] at hagain
  have hsame := hsolve 2 ⟨_, parseWithin_ok_mono hparse (by decide)⟩
  rw [htext] at hsame
  exact ⟨hparse, ⟨again, hagain, hnames⟩, hsame⟩

end TruthTable
