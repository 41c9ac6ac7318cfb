import TruthTable.Proofs.StreamLaws

/-!
# Positions

Each symbol stands at the position of its character. So positions ascend along
a text, and a position tells a lexeme from all the others.
-/

namespace TruthTable

variable {n j k : Nat} {text : List Char} {l m : Lexeme} {before after : List Lexeme}

-- ---------------------------------------------------------------------------
-- Texts in parts
-- ---------------------------------------------------------------------------

theorem lexemesFrom_append (n : Nat) (text rest : List Char) :
    lexemesFrom n (text ++ rest) = symbolsFrom n text ++ lexemesFrom (n + text.length) rest := by
  induction text generalizing n with
  | nil => rfl
  | cons c text ih =>
    simp only [List.cons_append, lexemesFrom, symbolsFrom_cons, ih, List.length_cons, Nat.add_assoc,
      Nat.add_comm 1]
    split <;> rfl

theorem symbolsFrom_split (h : symbolsFrom n text = before ++ l :: after) :
    ∃ front c behind, text = front ++ c :: behind ∧ Unicode.isWhiteSpace c = false ∧
      symbolsFrom n front = before ∧ l = ⟨.ofChar c, n + front.length⟩ := by
  induction text generalizing n before with
  | nil => simp at h
  | cons c text ih =>
    cases hc : Unicode.isWhiteSpace c with
    | true =>
      simp only [symbolsFrom_cons, hc, if_true] at h
      obtain ⟨front, d, behind, rfl, hd, hfront, rfl⟩ := ih h
      refine ⟨c :: front, d, behind, rfl, hd, by simpa [symbolsFrom_cons, hc] using hfront, ?_⟩
      rw [List.length_cons, Nat.add_right_comm, Nat.add_assoc]
    | false =>
      simp only [symbolsFrom_cons, hc, Bool.false_eq_true, if_false] at h
      cases before with
      | nil =>
        cases h
        exact ⟨[], c, text, rfl, hc, rfl, rfl⟩
      | cons m before =>
        obtain ⟨rfl, hrest⟩ := List.cons.inj h
        obtain ⟨front, d, behind, rfl, hd, hfront, rfl⟩ := ih hrest
        refine ⟨c :: front, d, behind, rfl, hd, by simpa [symbolsFrom_cons, hc] using hfront, ?_⟩
        rw [List.length_cons, Nat.add_right_comm, Nat.add_assoc]

-- ---------------------------------------------------------------------------
-- Symbols and characters
-- ---------------------------------------------------------------------------

theorem mem_symbolsFrom (h : l ∈ symbolsFrom n text) :
    ∃ i c, l.position = n + i ∧ text[i]? = some c ∧ l.token = .ofChar c := by
  obtain ⟨before, after, hsplit⟩ := List.append_of_mem h
  obtain ⟨front, c, behind, rfl, -, -, rfl⟩ := symbolsFrom_split hsplit
  exact ⟨front.length, c, rfl, by simp, rfl⟩

theorem mem_symbols (h : l ∈ symbols text) :
    ∃ c, text[l.position]? = some c ∧ l.token = .ofChar c := by
  obtain ⟨i, c, hi, hc, hl⟩ := mem_symbolsFrom h
  rw [Nat.zero_add] at hi
  exact ⟨c, hi ▸ hc, hl⟩

theorem position_lt_length (h : l ∈ symbols text) : l.position < text.length := by
  obtain ⟨c, hc, -⟩ := mem_symbols h
  exact (List.getElem?_eq_some_iff.1 hc).1

-- ---------------------------------------------------------------------------
-- Positions ascend
-- ---------------------------------------------------------------------------

theorem pairwise_position_symbolsFrom (n : Nat) (text : List Char) :
    (symbolsFrom n text).Pairwise fun l m => l.position < m.position := by
  induction text generalizing n with
  | nil => exact .nil
  | cons c rest ih =>
    rw [symbolsFrom_cons]
    split
    · exact ih (n + 1)
    · refine List.pairwise_cons.2 ⟨fun m hm => ?_, ih (n + 1)⟩
      obtain ⟨i, d, hi, -⟩ := mem_symbolsFrom hm
      simp only [hi]
      omega

theorem pairwise_position_lexemes (text : List Char) :
    (lexemes text).Pairwise fun l m => l.position < m.position := by
  rw [lexemes_eq]
  refine List.pairwise_append.2
    ⟨pairwise_position_symbolsFrom 0 text, List.pairwise_singleton .., ?_⟩
  intro l hl m hm
  cases List.mem_singleton.1 hm
  exact position_lt_length hl

theorem index_eq_of_position_eq (hj : (lexemes text)[j]? = some l)
    (hk : (lexemes text)[k]? = some m) (h : l.position = m.position) : j = k := by
  have hlt := List.pairwise_iff_getElem.1 (pairwise_position_lexemes text)
  obtain ⟨hj', rfl⟩ := List.getElem?_eq_some_iff.1 hj
  obtain ⟨hk', rfl⟩ := List.getElem?_eq_some_iff.1 hk
  rcases Nat.lt_trichotomy j k with hjk | hjk | hkj
  · exact absurd h (Nat.ne_of_lt (hlt j k hj' hk' hjk))
  · exact hjk
  · exact absurd h (Nat.ne_of_gt (hlt k j hk' hj' hkj))

-- ---------------------------------------------------------------------------
-- A text up to a lexeme
-- ---------------------------------------------------------------------------

theorem symbols_of_lexemes (h : lexemes text = before ++ l :: after) :
    (∃ rest, symbols text = before ++ l :: rest) ∨
      (symbols text = before ∧ l = ⟨.endOfInput, text.length⟩) := by
  rw [lexemes_eq] at h
  rcases List.eq_nil_or_concat after with rfl | ⟨rest, m, rfl⟩
  · obtain ⟨hbefore, hl⟩ := List.append_inj' h rfl
    exact .inr ⟨hbefore, (List.cons.inj hl).1.symm⟩
  · rw [List.concat_eq_append, ← List.cons_append, ← List.append_assoc] at h
    exact .inl ⟨rest, (List.append_inj' h rfl).1⟩

theorem at_position_iff (h : lexemes text = before ++ l :: after) :
    (lexemes text)[j]? = some m ∧ l.position = m.position ↔ j = before.length ∧ m = l := by
  have hl : (lexemes text)[before.length]? = some l := by simp [h]
  constructor
  · rintro ⟨hm, hposition⟩
    cases index_eq_of_position_eq hm hl hposition.symm
    exact ⟨rfl, Option.some.inj (hm.symm.trans hl)⟩
  · rintro ⟨rfl, rfl⟩
    exact ⟨hl, rfl⟩

theorem mem_symbols_of_lexemes (h : lexemes text = before ++ l :: after)
    (hl : l.token ≠ .endOfInput) : l ∈ symbols text := by
  rcases symbols_of_lexemes h with ⟨rest, hsymbols⟩ | ⟨-, rfl⟩
  · rw [hsymbols]
    exact List.mem_append_right before List.mem_cons_self
  · exact absurd rfl hl

theorem endOfInput_notMem_tokens (text : List Char) : .endOfInput ∉ tokens text := by
  intro h
  obtain ⟨c, -, hc⟩ := List.mem_map.1 h
  exact Token.ofChar_ne_endOfInput c hc

theorem tokens_of_lexemes_end (h : lexemes text = before ++ l :: after)
    (hl : l.token = .endOfInput) :
    before.map Lexeme.token = tokens text ∧ l.position = text.length := by
  rcases symbols_of_lexemes h with ⟨rest, hsymbols⟩ | ⟨hbefore, rfl⟩
  · have hmem : l ∈ symbols text := by simp [hsymbols]
    exact absurd hl (token_ne_endOfInput hmem)
  · exact ⟨hbefore ▸ map_token_symbols text, rfl⟩

theorem take_tokens (h : lexemes text = before ++ l :: after) :
    (tokens text).take before.length = before.map Lexeme.token := by
  rw [← map_token_symbols, ← List.map_take]
  rcases symbols_of_lexemes h with ⟨rest, hl⟩ | ⟨rfl, -⟩
  · rw [hl, List.take_left]
  · rw [List.take_length]

theorem take_tokens_succ (h : lexemes text = before ++ l :: after) (hl : l.token ≠ .endOfInput) :
    (tokens text).take (before.length + 1) = before.map Lexeme.token ++ [l.token] := by
  rw [← map_token_symbols, ← List.map_take]
  rcases symbols_of_lexemes h with ⟨rest, hsymbols⟩ | ⟨-, rfl⟩
  · rw [hsymbols, List.append_cons, List.take_left' (by simp), List.map_append]
    rfl
  · exact absurd rfl hl

end TruthTable
