import TruthTable.Proofs.EnumerationExact

/-!
# Laws of verdicts

`Verdict.TrueOf` says of which propositions a verdict is true, and the verdict
on all solutions of an enumeration is true of its proposition. The text of a
verdict tells it from all others.
-/

namespace TruthTable

variable {p : Proposition} {s : Solutions} {e : Enumeration}

-- ---------------------------------------------------------------------------
-- Satisfying assignments
-- ---------------------------------------------------------------------------

namespace Proposition

def satisfying (p : Proposition) : List Assignment :=
  p.models (Variables.ascending p.names)

theorem mem_ascending_names (p : Proposition) :
    ∀ c ∈ p.occurrences, c ∈ Variables.ascending p.names :=
  fun _ hc => Variables.mem_ascending.2 (mem_names.2 hc)

theorem two_pow_variableCount (p : Proposition) :
    2 ^ (Variables.ascending p.names).length = 2 ^ p.variableCount := by
  rw [p.length_ascending_names, p.variableCount_eq]

theorem length_satisfying_pos_iff (p : Proposition) :
    0 < p.satisfying.length ↔ ∃ v, p.holds v = true := by
  rw [← isEmpty_models_iff (Variables.nodup_ascending p.names) p.mem_ascending_names,
    List.length_pos_iff, List.isEmpty_eq_false_iff]
  rfl

theorem length_satisfying_lt_iff (p : Proposition) :
    p.satisfying.length < 2 ^ p.variableCount ↔ ∃ v, p.holds v = false := by
  have hle : p.satisfying.length ≤ 2 ^ p.variableCount := by
    rw [← two_pow_variableCount, ← Assignment.length_all]
    exact List.length_filter_le ..
  have hall := length_models_eq_iff (Variables.nodup_ascending p.names) p.mem_ascending_names
  rw [two_pow_variableCount] at hall
  rw [Nat.lt_iff_le_and_ne, and_iff_right hle, ne_eq, satisfying, hall]
  simp

theorem nodup_satisfying_texts (p : Proposition) :
    (p.satisfying.map (toString : Assignment → String)).Nodup := by
  have hall := Assignment.nodup_all (Variables.nodup_ascending p.names)
  refine (hall.filter p.accepts).map fun a b hab => ?_
  exact Assignment.text_injective (String.ofList_injective hab)

end Proposition

-- ---------------------------------------------------------------------------
-- True verdicts
-- ---------------------------------------------------------------------------

/-- What the verdict says of the proposition is so. -/
inductive Verdict.TrueOf (p : Proposition) : Verdict → Prop
  | tautology (hall : ∀ v, p.holds v = true) : TrueOf p .tautology
  | satisfiable (hsome : ∃ v, p.holds v = true) (hother : ∃ v, p.holds v = false) :
      TrueOf p (.satisfiable p.satisfying.length (2 ^ p.variableCount))
  | unsatisfiable (hnone : ∀ v, p.holds v = false) : TrueOf p .unsatisfiable

theorem Enumeration.Solves.trueOf (hs : e.Solves s) (h : e.Unhindered)
    (hnames : e.names = Variables.ascending e.proposition.names) :
    s.verdict.TrueOf e.proposition := by
  have hcount : s.count = e.proposition.satisfying.length := by
    rw [Proposition.satisfying, ← hnames, hs.count_eq]
  have hexamined : s.examined = 2 ^ e.proposition.variableCount := by
    rw [hs.examined, hnames, Proposition.two_pow_variableCount]
  have htautology := hs.isTautology_iff h
  have hsatisfiable := hs.isSatisfiable_iff h
  unfold Solutions.verdict
  split
  · next ht => exact .tautology (htautology.1 ht)
  · next ht =>
    split
    · next hsat =>
      rw [hcount, hexamined]
      refine .satisfiable (hsatisfiable.1 hsat) ?_
      simpa using mt htautology.2 ht
    · next hsat =>
      refine .unsatisfiable ?_
      simpa using mt hsatisfiable.2 hsat

-- ---------------------------------------------------------------------------
-- Texts
-- ---------------------------------------------------------------------------

theorem toDigits_append_inj {m n : Nat} {c d : Char} {cs ds : List Char}
    (hc : c.isDigit = false) (hd : d.isDigit = false)
    (h : Nat.toDigits 10 m ++ c :: cs = Nat.toDigits 10 n ++ d :: ds) :
    m = n ∧ c :: cs = d :: ds := by
  have htake (k : Nat) {e : Char} (es : List Char) (he : e.isDigit = false) :
      (Nat.toDigits 10 k ++ e :: es).takeWhile Char.isDigit = Nat.toDigits 10 k := by
    rw [List.takeWhile_append_of_pos fun _ => Nat.isDigit_of_mem_toDigits (by decide) (by decide)]
    simp [he]
  have hdigits : Nat.toDigits 10 m = Nat.toDigits 10 n := by
    rw [← htake m cs hc, h, htake n ds hd]
  refine ⟨?_, List.append_cancel_left (hdigits ▸ h)⟩
  rw [← Nat.ofDigitChars_ten_toDigits (n := m), hdigits, Nat.ofDigitChars_ten_toDigits]

namespace Verdict

@[simp] theorem text_tautology : tautology.text = "tautology" := rfl

@[simp] theorem text_satisfiable (count examined : Nat) :
    (satisfiable count examined).text =
      "satisfiable (" ++ toString count ++ " of " ++ toString examined ++ ")" := rfl

@[simp] theorem text_unsatisfiable : unsatisfiable.text = "unsatisfiable" := rfl

theorem toList_text_satisfiable (count examined : Nat) :
    (satisfiable count examined).text.toList =
      "satisfiable (".toList ++ (Nat.toDigits 10 count ++
        ' ' :: ("of ".toList ++ (Nat.toDigits 10 examined ++ [')']))) := by
  simp

theorem text_injective : Function.Injective Verdict.text := by
  intro v w h
  have hlist := congrArg String.toList h
  cases v <;> cases w
  case satisfiable.satisfiable count examined count' examined' =>
    rw [toList_text_satisfiable, toList_text_satisfiable] at hlist
    obtain ⟨rfl, hrest⟩ := toDigits_append_inj rfl rfl (List.append_cancel_left hlist)
    obtain ⟨rfl, -⟩ := toDigits_append_inj rfl rfl
      (List.append_cancel_left (List.cons.inj hrest).2)
    rfl
  -- the others differ in their first letters
  all_goals first | rfl | simp at hlist

end Verdict

end TruthTable
