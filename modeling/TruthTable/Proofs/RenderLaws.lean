import TruthTable.Proofs.GrammarLaws
import TruthTable.Proofs.TokenLaws
import TruthTable.Proposition

/-!
# Laws of rendering

The rendered text of a proposition derives it, nested as deeply as `nesting`
says, and no phrase for the proposition is nested less deeply. Both rest on one
correspondence: a proposition goes without parentheses where a rule asks for no
tighter binding than it has.
-/

namespace TruthTable

def IsVariable (c : Char) : Prop :=
  Unicode.isWhiteSpace c = false ∧ Unicode.isAlphabetic c = true ∧ c ≠ 'T' ∧ c ≠ 'F'

instance (c : Char) : Decidable (IsVariable c) :=
  inferInstanceAs (Decidable (_ ∧ _))

-- ---------------------------------------------------------------------------
-- Tokens of a text
-- ---------------------------------------------------------------------------

theorem isVariable_of_mem_tokens {text : List Char} {name : Char} (h : .var name ∈ tokens text) :
    IsVariable name := by
  obtain ⟨c, hc, hvar⟩ := List.mem_map.1 h
  obtain ⟨rfl, ha, hT, hF⟩ := Token.ofChar_eq_iff.1 hvar
  have hblank := (List.mem_filter.1 hc).2
  exact ⟨by simpa using hblank, ha, hT, hF⟩

theorem Derives.isVariable {r : Rule} {k : Nat} {text : List Char} {p : Proposition}
    (h : Derives r k (tokens text) p) : ∀ c ∈ p.occurrences, IsVariable c :=
  fun _ hc => isVariable_of_mem_tokens (h.var_mem hc)

theorem tokens_append (text rest : List Char) :
    tokens (text ++ rest) = tokens text ++ tokens rest := by
  simp [tokens]

theorem tokens_cons {c : Char} {t : Token} (h : tokens [c] = [t]) (text : List Char) :
    tokens (c :: text) = t :: tokens text := by
  rw [← List.singleton_append, tokens_append, h, List.singleton_append]

theorem tokens_variable {c : Char} (h : IsVariable c) : tokens [c] = [.var c] := by
  obtain ⟨hblank, ha, hT, hF⟩ := h
  have hvar : Token.ofChar c = .var c := Token.ofChar_eq_iff.2 ⟨rfl, ha, hT, hF⟩
  simp [tokens, hblank, hvar]

theorem tokens_disj : tokens [' ', '|', ' '] = [.disj] := by decide +kernel
theorem tokens_conj : tokens [' ', '&', ' '] = [.conj] := by decide +kernel
theorem tokens_neg : tokens ['~'] = [.neg] := by decide +kernel
theorem tokens_lparen : tokens ['('] = [.lparen] := by decide +kernel
theorem tokens_rparen : tokens [')'] = [.rparen] := by decide +kernel

theorem tokens_enclose (text : List Char) :
    tokens (Proposition.enclose true text) = .lparen :: tokens text ++ [.rparen] := by
  change tokens ('(' :: (text ++ [')'])) = .lparen :: (tokens text ++ [.rparen])
  rw [tokens_cons tokens_lparen, tokens_append, tokens_rparen]

theorem tokens_constant (b : Bool) : tokens (Proposition.constant b).render = [.constant b] := by
  cases b <;> decide +kernel

-- ---------------------------------------------------------------------------
-- Rules and precedence
-- ---------------------------------------------------------------------------

/-- How tightly a proposition has to bind to be a phrase of the rule without
parentheses. -/
def Rule.least : Rule → Nat
  | .sentence => 0
  | .clause => 1
  | .atom | .term => 2

def Proposition.rule : Proposition → Rule
  | .disj .. => .sentence
  | .conj .. => .clause
  | .neg _ => .atom
  | .var _ | .constant _ => .term

namespace Proposition

theorem isLooser_mono {p : Proposition} {i j : Nat} (hij : i ≤ j) :
    (p.isLooser i).toNat ≤ (p.isLooser j).toNat := by
  unfold isLooser
  by_cases hi : p.precedence < i
  · simp [hi, Nat.lt_of_lt_of_le hi hij]
  · simp [hi]

end Proposition

namespace Derives

variable {r : Rule} {k : Nat} {ts : List Token} {p : Proposition}

theorem toAtom (h : Derives r k ts p) (hr : r = .atom ∨ r = .term) : Derives .atom k ts p := by
  rcases hr with rfl | rfl
  · exact h
  · exact .ofTerm h

theorem toClause (h : Derives r k ts p) (hr : r ≠ .sentence) : Derives .clause k ts p := by
  cases r with
  | sentence => exact absurd rfl hr
  | clause => exact h
  | atom => exact .ofAtom h
  | term => exact .ofAtom (.ofTerm h)

theorem toSentence (h : Derives r k ts p) : Derives .sentence k ts p := by
  cases r with
  | sentence => exact h
  | clause => exact .ofClause h
  | atom => exact .ofClause (.ofAtom h)
  | term => exact .ofClause (.ofAtom (.ofTerm h))

theorem enclose {text : List Char} (h : Derives .sentence k (tokens text) p) :
    Derives .term (k + 1) (tokens (Proposition.enclose true text)) p := by
  rw [tokens_enclose]
  exact .group h

/-- No phrase is nested less deeply than the rendering of its proposition. A
phrase for a proposition that binds too loosely for the rule has parentheses
around it, which take a level of their own. -/
theorem nesting_le (h : Derives r k ts p) : (p.isLooser r.least).toNat + p.nesting ≤ k := by
  -- the hypothesis for a part says how it binds, so the parentheses are counted
  induction h with
  | var name => exact Nat.zero_le _
  | constant b => exact Nat.zero_le _
  | @group k _ p _ ih =>
    have hsentence : p.nesting ≤ k := Nat.le_trans (Nat.le_add_left _ _) ih
    have hparens := (p.isLooser Rule.term.least).toNat_le
    omega
  | ofTerm _ ih => exact ih
  | @neg k _ p _ ih =>
    change 0 + (1 + (p.isLooser 2).toNat + p.nesting) ≤ k + 1
    simp only [Rule.least] at ih
    omega
  | @ofAtom k _ p _ ih =>
    have hloose := p.isLooser_mono (i := Rule.clause.least) (j := Rule.atom.least) (by decide)
    omega
  | @conj k _ _ p q _ _ ihp ihq =>
    change 0 + max ((p.isLooser 2).toNat + p.nesting)
      (1 + (q.isLooser 1).toNat + q.nesting) ≤ k + 1
    simp only [Rule.least] at ihp ihq
    omega
  | @ofClause k _ p _ ih =>
    have hloose := p.isLooser_mono (i := Rule.sentence.least) (j := Rule.clause.least) (by decide)
    omega
  | @disj k _ _ p q _ _ ihp ihq =>
    change 0 + max ((p.isLooser 1).toNat + p.nesting)
      (1 + (q.isLooser 0).toNat + q.nesting) ≤ k + 1
    simp only [Rule.least] at ihp ihq
    omega

end Derives

-- ---------------------------------------------------------------------------
-- What a rendering derives
-- ---------------------------------------------------------------------------

def Proposition.RendersWell (p : Proposition) : Prop :=
  Derives p.rule p.nesting (tokens p.render) p

namespace Proposition

namespace RendersWell

variable {p : Proposition} {r : Rule} {i : Nat}

theorem group (h : p.RendersWell) :
    Derives .term (p.nesting + 1) (tokens (enclose true p.render)) p :=
  h.toSentence.enclose

theorem enclosed (h : p.RendersWell)
    (hbare : p.isLooser i = false → Derives r p.nesting (tokens p.render) p)
    (hterm : ∀ {k ts}, Derives .term k ts p → Derives r k ts p) :
    Derives r ((p.isLooser i).toNat + p.nesting) (tokens (enclose (p.isLooser i) p.render)) p := by
  cases hl : p.isLooser i with
  | false =>
    rw [Bool.toNat_false, Nat.zero_add]
    exact hbare hl
  | true =>
    rw [Bool.toNat_true, Nat.add_comm]
    exact hterm h.group

theorem atom (h : p.RendersWell) :
    Derives .atom ((p.isLooser 2).toNat + p.nesting)
      (tokens (enclose (p.isLooser 2) p.render)) p := by
  refine h.enclosed (fun hl => h.toAtom ?_) .ofTerm
  cases p with
  | disj | conj => cases hl
  | neg => exact .inl rfl
  | var | constant => exact .inr rfl

theorem clause (h : p.RendersWell) :
    Derives .clause ((p.isLooser 1).toNat + p.nesting)
      (tokens (enclose (p.isLooser 1) p.render)) p := by
  refine h.enclosed (fun hl => h.toClause ?_) fun ht => ht.toClause (by simp)
  cases p with
  | disj => cases hl
  | _ => simp [Proposition.rule]

theorem sentence (h : p.RendersWell) :
    Derives .sentence ((p.isLooser 0).toNat + p.nesting)
      (tokens (enclose (p.isLooser 0) p.render)) p :=
  h.enclosed (fun _ => h.toSentence) Derives.toSentence

end RendersWell

theorem rendersWell {p : Proposition} (hv : ∀ c ∈ p.occurrences, IsVariable c) :
    p.RendersWell := by
  induction p with
  | disj l r ihl ihr =>
    have hl := (ihl fun c hc => hv c (List.mem_append_left _ hc)).clause
    have hr := (ihr fun c hc => hv c (List.mem_append_right _ hc)).sentence
    obtain ⟨k, hk⟩ : ∃ k, (disj l r).nesting = k + 1 :=
      ⟨(disj l r).nesting - 1, by rw [nesting]; omega⟩
    rw [nesting] at hk
    rw [RendersWell, rule, nesting, hk, render, tokens_append, tokens_append, tokens_disj,
      List.append_assoc]
    exact .disj (hl.mono (by omega)) (hr.mono (by omega))
  | conj l r ihl ihr =>
    have hl := (ihl fun c hc => hv c (List.mem_append_left _ hc)).atom
    have hr := (ihr fun c hc => hv c (List.mem_append_right _ hc)).clause
    obtain ⟨k, hk⟩ : ∃ k, (conj l r).nesting = k + 1 :=
      ⟨(conj l r).nesting - 1, by rw [nesting]; omega⟩
    rw [nesting] at hk
    rw [RendersWell, rule, nesting, hk, render, tokens_append, tokens_append, tokens_conj,
      List.append_assoc]
    exact .conj (hl.mono (by omega)) (hr.mono (by omega))
  | neg p ih =>
    have hp := Derives.neg (ih hv).atom
    rw [RendersWell, rule, nesting, render, tokens_cons tokens_neg, Nat.add_assoc, Nat.add_comm]
    exact hp
  | var name =>
    have hname := tokens_variable (hv name List.mem_cons_self)
    rw [RendersWell, render, hname]
    exact .var name
  | constant b =>
    rw [RendersWell, tokens_constant]
    exact .constant b

end Proposition

end TruthTable
