import TruthTable.Proofs.RoundTrip

/-!
# Bounds on phrases

What the phrases for a proposition have in common. All have a token for each
leaf, each connective and each parenthesis, so they differ in their parentheses
only, and `rendered_fewest`: the rendered text has the fewest. The levels of a
phrase bound the height of its proposition, `parsed_shallow`, but not one for
one, because what stands left of `&` or `|` takes no level.
-/

namespace TruthTable

namespace Proposition

variable {p : Proposition}

def size : Proposition → Nat
  | disj l r | conj l r => l.size + r.size + 1
  | neg p => p.size + 1
  | var _ | constant _ => 1

/-- The number of pairs of parentheses in the rendered text. -/
def groups : Proposition → Nat
  | disj l r =>
    (l.isLooser 1).toNat + l.groups + ((r.isLooser 0).toNat + r.groups)
  | conj l r =>
    (l.isLooser 2).toNat + l.groups + ((r.isLooser 1).toNat + r.groups)
  | neg p => (p.isLooser 2).toNat + p.groups
  | var _ | constant _ => 0

theorem count_enclose (parens : Bool) (text : List Char) :
    (enclose parens text).count '(' = parens.toNat + text.count '(' := by
  cases parens with
  | false => simp [enclose]
  | true => simp [enclose, Nat.add_comm]

theorem count_render (hv : '(' ∉ p.occurrences) : p.render.count '(' = p.groups := by
  induction p with
  | disj l r ihl ihr =>
    simp only [occurrences, List.mem_append, not_or] at hv
    simp [render, groups, count_enclose, ihl hv.1, ihr hv.2]
  | conj l r ihl ihr =>
    simp only [occurrences, List.mem_append, not_or] at hv
    simp [render, groups, count_enclose, ihl hv.1, ihr hv.2]
  | neg p ih => simp [render, groups, count_enclose, ih hv]
  | var name =>
    have hname : name ≠ '(' := by simpa [occurrences, eq_comm] using hv
    simp [render, groups, hname]
  | constant b => cases b <;> simp [render, groups]

end Proposition

-- ---------------------------------------------------------------------------
-- Tokens and parentheses
-- ---------------------------------------------------------------------------

theorem count_lparen_group (ts : List Token) :
    (Token.lparen :: ts ++ [Token.rparen]).count .lparen = ts.count .lparen + 1 := by
  simp

theorem count_lparen_operator {op : Token} (h : op ≠ .lparen) (ts us : List Token) :
    (ts ++ op :: us).count .lparen = ts.count .lparen + us.count .lparen := by
  rw [List.count_append, List.count_cons_of_ne h]

namespace Derives

variable {r : Rule} {k : Nat} {ts : List Token} {p : Proposition}

theorem length_eq (h : Derives r k ts p) : ts.length = p.size + 2 * ts.count .lparen := by
  induction h with
  | var name => simp [Proposition.size]
  | constant b => simp [Proposition.size]
  | @group k ts p _ ih =>
    have hlength : (Token.lparen :: ts ++ [Token.rparen]).length = ts.length + 2 := by simp
    rw [count_lparen_group, hlength]
    omega
  | ofTerm _ ih => exact ih
  | @neg k ts p _ ih =>
    rw [List.count_cons_of_ne (by simp), List.length_cons, Proposition.size]
    omega
  | ofAtom _ ih => exact ih
  | @conj k ts us p q _ _ ihp ihq =>
    rw [count_lparen_operator (by simp), List.length_append, List.length_cons, Proposition.size]
    omega
  | ofClause _ ih => exact ih
  | @disj k ts us p q _ _ ihp ihq =>
    rw [count_lparen_operator (by simp), List.length_append, List.length_cons, Proposition.size]
    omega

/-- Every pair of parentheses that is rendered is forced: where a rule asks for
a tighter binding than the proposition has, each of its phrases is a group. -/
theorem groups_le (h : Derives r k ts p) :
    (p.isLooser r.least).toNat + p.groups ≤ ts.count .lparen := by
  induction h with
  | var name => exact Nat.zero_le _
  | constant b => exact Nat.zero_le _
  | @group k ts p _ ih =>
    -- the group is there, whether the rule asks for it or not
    have hparens := (p.isLooser Rule.term.least).toNat_le
    rw [count_lparen_group]
    omega
  | ofTerm _ ih => exact ih
  | @neg k ts p _ ih =>
    change 0 + ((p.isLooser 2).toNat + p.groups) ≤ _
    simp only [Rule.least] at ih
    rw [List.count_cons_of_ne (by simp)]
    omega
  | @ofAtom k _ p _ ih =>
    have hloose := p.isLooser_mono (i := Rule.clause.least) (j := Rule.atom.least) (by decide)
    omega
  | @conj k ts us p q _ _ ihp ihq =>
    change 0 + ((p.isLooser 2).toNat + p.groups + ((q.isLooser 1).toNat + q.groups)) ≤ _
    simp only [Rule.least] at ihp ihq
    rw [count_lparen_operator (by simp)]
    omega
  | @ofClause k _ p _ ih =>
    have hloose := p.isLooser_mono (i := Rule.sentence.least) (j := Rule.clause.least) (by decide)
    omega
  | @disj k ts us p q _ _ ihp ihq =>
    change 0 + ((p.isLooser 1).toNat + p.groups + ((q.isLooser 0).toNat + q.groups)) ≤ _
    simp only [Rule.least] at ihp ihq
    rw [count_lparen_operator (by simp)]
    omega

-- ---------------------------------------------------------------------------
-- Height
-- ---------------------------------------------------------------------------

/-- On a path there is room for a `|` and a `&` at each level, and for one more
`~`. A rule that asks for a tighter binding has no room for the looser
connectives, and without levels there is room for none. -/
theorem height_le (h : Derives r k ts p) :
    p.height = 0 ∨ (0 < k ∧ p.height + r.least ≤ 2 * k + 1) := by
  induction h with
  | var name => exact .inl rfl
  | constant b => exact .inl rfl
  | group _ ih =>
    simp only [Rule.least] at ih ⊢
    omega
  | ofTerm _ ih => exact ih
  | neg _ ih =>
    simp only [Rule.least, Proposition.height] at ih ⊢
    omega
  | ofAtom _ ih =>
    simp only [Rule.least] at ih ⊢
    omega
  | conj _ _ ihp ihq =>
    simp only [Rule.least, Proposition.height] at ihp ihq ⊢
    omega
  | ofClause _ ih =>
    simp only [Rule.least] at ih ⊢
    omega
  | disj _ _ ihp ihq =>
    simp only [Rule.least, Proposition.height] at ihp ihq ⊢
    omega

end Derives

-- ---------------------------------------------------------------------------
-- Texts
-- ---------------------------------------------------------------------------

variable {levels : Nat} {text : List Char} {p : Proposition}

theorem IsVariable.ne_lparen {c : Char} (h : IsVariable c) : c ≠ '(' := by
  rintro rfl
  exact absurd h.2.1 (by decide +kernel)

theorem count_lparen_render_le (h : Derives .sentence levels (tokens text) p) :
    (tokens p.render).count .lparen ≤ (tokens text).count .lparen := by
  have hv : '(' ∉ p.occurrences := fun hmem => (h.isVariable _ hmem).ne_lparen rfl
  calc (tokens p.render).count .lparen
    _ = p.groups := by rw [count_lparen_tokens, Proposition.count_render hv]
    _ ≤ (tokens text).count .lparen := Nat.le_trans (Nat.le_add_left _ _) h.groups_le

/-- The rendered text has the fewest parentheses, and the fewest characters that
are not white space, of all texts for its proposition. -/
theorem rendered_fewest (levels : Nat) (text : String) (parsed : Parsed)
    (h : parseWithin levels text.toList = .ok parsed) :
    (toString parsed.root).toList.count '(' ≤ text.toList.count '(' ∧
    (toString parsed.root).toList.countP (fun c => !Unicode.isWhiteSpace c) ≤
      text.toList.countP fun c => !Unicode.isWhiteSpace c := by
  obtain ⟨hp, -⟩ := parseWithin_eq_ok.1 h
  have hcount := count_lparen_render_le hp
  rw [toList_toString]
  constructor
  · rwa [count_lparen_tokens, count_lparen_tokens] at hcount
  · -- the rendered text is a phrase for the same proposition
    have hrender := (Proposition.rendersWell hp.isVariable).length_eq
    have htext := hp.length_eq
    rw [← length_tokens, ← length_tokens]
    omega

theorem rendered_fewest_one :
    parseWithin 6 "((p) & (q | ~(r)))".toList =
      .ok ⟨.conj (.var 'p') (.disj (.var 'q') (.neg (.var 'r'))), ['p', 'q', 'r']⟩ ∧
    "p & (q | ~r)".toList.count '(' ≤ "((p) & (q | ~(r)))".toList.count '(' ∧
    "p & (q | ~r)".toList.countP (fun c => !Unicode.isWhiteSpace c) ≤
      "((p) & (q | ~(r)))".toList.countP fun c => !Unicode.isWhiteSpace c := by
  have hparse : parseWithin 6 "((p) & (q | ~(r)))".toList =
      .ok ⟨.conj (.var 'p') (.disj (.var 'q') (.neg (.var 'r'))), ['p', 'q', 'r']⟩ := by
    decide +kernel
  have htext : toString (Proposition.conj (.var 'p') (.disj (.var 'q') (.neg (.var 'r')))) =
      "p & (q | ~r)" := rfl
  have hfewest := rendered_fewest 6 _ _ hparse
  rw [htext] at hfewest
  exact ⟨hparse, hfewest⟩

/-- A limit on the nesting of a text is a limit on the height of what it
parses to. -/
theorem parsed_shallow (levels : Nat) (text : List Char) (parsed : Parsed)
    (h : parseWithin levels text = .ok parsed) :
    parsed.root.height ≤ 2 * levels + 1 ∧ (levels = 0 → parsed.root.height = 0) := by
  obtain ⟨hp, -⟩ := parseWithin_eq_ok.1 h
  have hheight := hp.height_le
  simp only [Rule.least] at hheight
  constructor
  · omega
  · intro hlevels
    omega

theorem parsed_shallow_one :
    parseWithin 1 ['~', 'p', '&', 'q', '|', 'r'] =
      .ok ⟨.disj (.conj (.neg (.var 'p')) (.var 'q')) (.var 'r'), ['p', 'q', 'r']⟩ ∧
    (Proposition.disj (.conj (.neg (.var 'p')) (.var 'q')) (.var 'r')).height ≤ 2 * 1 + 1 ∧
    parseWithin 0 ['p'] = .ok ⟨.var 'p', ['p']⟩ ∧ (Proposition.var 'p').height = 0 := by
  have hone : parseWithin 1 ['~', 'p', '&', 'q', '|', 'r'] =
      .ok ⟨.disj (.conj (.neg (.var 'p')) (.var 'q')) (.var 'r'), ['p', 'q', 'r']⟩ := by
    decide +kernel
  have hnone : parseWithin 0 ['p'] = .ok ⟨.var 'p', ['p']⟩ := by decide +kernel
  exact ⟨hone, (parsed_shallow 1 _ _ hone).1, hnone, (parsed_shallow 0 _ _ hnone).2 rfl⟩

end TruthTable
