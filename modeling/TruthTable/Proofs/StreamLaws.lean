import TruthTable.Token.Stream

/-!
# What a stream will read

A stream that is given back only what it read last is a list of lexemes which
gets shorter from the front. `Ahead` names that list and the position of the
end behind it, which is read as often as one asks for more.
-/

namespace TruthTable

-- ---------------------------------------------------------------------------
-- Symbols
-- ---------------------------------------------------------------------------

theorem lexemesFrom_ne_nil (n : Nat) (text : List Char) : lexemesFrom n text ≠ [] := by
  induction text generalizing n with
  | nil => simp [lexemesFrom]
  | cons c rest ih =>
    rw [lexemesFrom]
    split
    · exact ih (n + 1)
    · simp

def symbolsFrom (n : Nat) (text : List Char) : List Lexeme :=
  (lexemesFrom n text).dropLast

def symbols (text : List Char) : List Lexeme :=
  symbolsFrom 0 text

@[simp] theorem symbolsFrom_nil (n : Nat) : symbolsFrom n [] = [] := rfl

theorem symbolsFrom_cons (n : Nat) (c : Char) (rest : List Char) :
    symbolsFrom n (c :: rest) =
      if Unicode.isWhiteSpace c then symbolsFrom (n + 1) rest
      else ⟨.ofChar c, n⟩ :: symbolsFrom (n + 1) rest := by
  rw [symbolsFrom, lexemesFrom]
  split
  · rfl
  · exact List.dropLast_cons_of_ne_nil (lexemesFrom_ne_nil (n + 1) rest)

theorem lexemesFrom_eq (n : Nat) (text : List Char) :
    lexemesFrom n text = symbolsFrom n text ++ [⟨.endOfInput, n + text.length⟩] := by
  induction text generalizing n with
  | nil => rfl
  | cons c rest ih =>
    simp only [lexemesFrom, symbolsFrom_cons, ih, List.length_cons, Nat.add_assoc, Nat.add_comm 1]
    split <;> rfl

theorem lexemes_eq (text : List Char) :
    lexemes text = symbols text ++ [⟨.endOfInput, text.length⟩] := by
  rw [lexemes, lexemesFrom_eq, Nat.zero_add]
  rfl

theorem map_token_symbolsFrom (n : Nat) (text : List Char) :
    (symbolsFrom n text).map Lexeme.token = tokens text := by
  have h := map_token_lexemesFrom n text
  rw [lexemesFrom_eq, List.map_append] at h
  exact List.append_cancel_right h

theorem map_token_symbols (text : List Char) : (symbols text).map Lexeme.token = tokens text :=
  map_token_symbolsFrom 0 text

theorem token_ne_endOfInput {n : Nat} {text : List Char} {l : Lexeme}
    (h : l ∈ symbolsFrom n text) : l.token ≠ .endOfInput := by
  have hm : l.token ∈ tokens text := map_token_symbolsFrom n text ▸ List.mem_map_of_mem h
  obtain ⟨c, -, hc⟩ := List.mem_map.1 hm
  exact hc ▸ Token.ofChar_ne_endOfInput c

theorem symbolsFrom_eq_match (n : Nat) (text : List Char) :
    symbolsFrom n text =
      match text.dropWhile Unicode.isWhiteSpace with
      | [] => []
      | c :: rest =>
        let position := n + (text.takeWhile Unicode.isWhiteSpace).length
        ⟨.ofChar c, position⟩ :: symbolsFrom (position + 1) rest := by
  induction text generalizing n with
  | nil => rfl
  | cons c rest ih =>
    cases h : Unicode.isWhiteSpace c with
    | true =>
      simp only [symbolsFrom_cons, h, if_true, List.dropWhile_cons_of_pos,
        List.takeWhile_cons_of_pos, List.length_cons, ih (n + 1), Nat.add_assoc, Nat.add_comm 1]
    | false => simp [symbolsFrom_cons, h]

-- ---------------------------------------------------------------------------
-- Reading and giving back
-- ---------------------------------------------------------------------------

namespace TokenStream

inductive Ahead (s : TokenStream) : List Lexeme → Nat → Prop
  | unread (hp : s.pending = none) :
      Ahead s (symbolsFrom s.cursor s.unread) (s.cursor + s.unread.length)
  | pending {l : Lexeme} (hp : s.pending = some l) (hl : l.token ≠ .endOfInput) :
      Ahead s (l :: symbolsFrom s.cursor s.unread) (s.cursor + s.unread.length)
  | atEnd (hp : s.pending = some ⟨.endOfInput, s.cursor + s.unread.length⟩)
      (hu : symbolsFrom s.cursor s.unread = []) : Ahead s [] (s.cursor + s.unread.length)

variable {s : TokenStream} {ls : List Lexeme} {l : Lexeme} {n : Nat}

theorem ahead_ofList (text : List Char) : (ofList text).Ahead (symbols text) text.length := by
  have h : (ofList text).Ahead (symbolsFrom 0 text) (0 + text.length) := .unread rfl
  rwa [Nat.zero_add] at h

theorem Ahead.ne_endOfInput (h : s.Ahead ls n) (hl : l ∈ ls) : l.token ≠ .endOfInput := by
  cases h with
  | unread => exact token_ne_endOfInput hl
  | pending _ hk =>
    rcases List.mem_cons.1 hl with rfl | hl
    · exact hk
    · exact token_ne_endOfInput hl
  | atEnd => simp at hl

theorem ahead_scan (hp : s.pending = none) :
    s.scan.1 = (symbolsFrom s.cursor s.unread).headD ⟨.endOfInput, s.cursor + s.unread.length⟩ ∧
      s.scan.2.Ahead (symbolsFrom s.cursor s.unread).tail (s.cursor + s.unread.length) := by
  have hlen := congrArg List.length
    (List.takeWhile_append_dropWhile (p := Unicode.isWhiteSpace) (l := s.unread))
  rw [List.length_append] at hlen
  have hnext : s.scan.2.Ahead _ _ := .unread (by unfold scan; split <;> exact hp)
  cases hd : s.unread.dropWhile Unicode.isWhiteSpace with
  | nil =>
    simp only [hd, List.length_nil, Nat.add_zero] at hlen
    simp only [scan, hd, hlen] at hnext ⊢
    rw [symbolsFrom_eq_match s.cursor, hd]
    exact ⟨rfl, hnext⟩
  | cons c rest =>
    simp only [hd, List.length_cons] at hlen
    simp only [scan, hd] at hnext ⊢
    rw [symbolsFrom_eq_match s.cursor, hd]
    refine ⟨rfl, ?_⟩
    rw [← hlen, ← Nat.add_assoc, Nat.add_comm rest.length, ← Nat.add_assoc]
    exact hnext

theorem Ahead.next (h : s.Ahead ls n) :
    s.next.1 = ls.headD ⟨.endOfInput, n⟩ ∧ s.next.2.Ahead ls.tail n := by
  cases h with
  | unread hp =>
    rw [TokenStream.next, hp]
    exact ahead_scan hp
  | pending hp hl =>
    rw [TokenStream.next, hp]
    exact ⟨rfl, .unread (s := { s with position := _, pending := none }) rfl⟩
  | atEnd hp hu =>
    rw [TokenStream.next, hp]
    refine ⟨rfl, ?_⟩
    rw [List.tail_nil, ← hu]
    exact .unread (s := { s with position := _, pending := none }) rfl

theorem Ahead.pushBack (h : s.Ahead ls n) : (s.next.2.pushBack s.next.1.token).Ahead ls n := by
  obtain ⟨hl, ht⟩ := h.next
  have hb : (s.next.2.pushBack s.next.1.token).pending = some s.next.1 := by
    simp only [TokenStream.pushBack, position_next]
  generalize ha : ls.tail = rest at ht
  cases ht with
  | unread =>
    cases ls with
    | nil => exact .atEnd (hb.trans (congrArg some hl)) ha.symm
    | cons l rest =>
      cases ha
      exact .pending (hb.trans (congrArg some hl)) (h.ne_endOfInput List.mem_cons_self)
  | pending hp => exact absurd (hp.symm.trans s.pending_next) (by simp)
  | atEnd hp => exact absurd (hp.symm.trans s.pending_next) (by simp)

-- ---------------------------------------------------------------------------
-- Reading to the end
-- ---------------------------------------------------------------------------

theorem next?_of_ended (h : s.ended = true) : s.next? = (none, s) := by
  rw [next?, if_pos h]

theorem next?_of_not_ended (h : s.ended = false) :
    s.next? = (some s.next.1,
      if s.next.1.token = .endOfInput then s.next.2.close else s.next.2) := by
  rw [next?, if_neg (by simp [h])]

theorem drain_of_ended (h : s.ended = true) : s.drain = ([], s) := by
  rw [drain]
  split
  · next ht =>
    rw [next?_of_ended h] at ht
    cases ht
    rfl
  · next ht =>
    rw [next?_of_ended h] at ht
    cases ht

theorem drain_of_not_ended (h : s.ended = false) :
    s.drain.1 = s.next.1 ::
      (if s.next.1.token = .endOfInput then s.next.2.close else s.next.2).drain.1 := by
  rw [drain]
  split
  · next ht =>
    rw [next?_of_not_ended h] at ht
    cases ht
  · next ht =>
    rw [next?_of_not_ended h] at ht
    cases ht
    rfl

theorem Ahead.drain (h : s.Ahead ls n) (he : s.ended = false) :
    s.drain.1 = ls ++ [⟨.endOfInput, n⟩] := by
  induction ls generalizing s with
  | nil =>
    rw [drain_of_not_ended he, h.next.1, List.headD_nil, if_pos rfl, drain_of_ended rfl]
    rfl
  | cons l ls ih =>
    have hl := h.ne_endOfInput List.mem_cons_self
    rw [drain_of_not_ended he, h.next.1, List.headD_cons, if_neg hl,
      ih h.next.2 (by rw [ended_next, he])]
    rfl

theorem drain_ofList (text : List Char) : (ofList text).drain.1 = lexemes text := by
  rw [lexemes_eq]
  exact (ahead_ofList text).drain rfl

end TokenStream

end TruthTable
