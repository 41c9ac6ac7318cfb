import TruthTable.Proofs.CursorExact
import TruthTable.Proofs.TokenLaws

/-!
# Reading a text token by token

`scan_one_to_one`: one call of `next?` after the other returns a token for each
character that is not white space, in order and at the position of the
character, then the end behind the whole text, once, and then nothing any more.
-/

namespace TruthTable

/-- The characters of a text that are not white space, each with its position. -/
def marks (text : List Char) : List (Char × Nat) :=
  text.zipIdx.filter fun v => !Unicode.isWhiteSpace v.1

variable {text : List Char} {s : TokenStream} {k : Nat}

-- ---------------------------------------------------------------------------
-- Lexemes and characters
-- ---------------------------------------------------------------------------

theorem symbolsFrom_eq_map (n : Nat) (text : List Char) :
    symbolsFrom n text =
      ((text.zipIdx n).filter fun v => !Unicode.isWhiteSpace v.1).map
        fun v => ⟨.ofChar v.1, v.2⟩ := by
  induction text generalizing n with
  | nil => rfl
  | cons c text ih => cases h : Unicode.isWhiteSpace c <;> simp [symbolsFrom_cons, h, ih]

theorem symbols_eq_map_marks (text : List Char) :
    symbols text = (marks text).map fun v => ⟨.ofChar v.1, v.2⟩ :=
  symbolsFrom_eq_map 0 text

theorem length_symbols (text : List Char) : (symbols text).length = (marks text).length := by
  rw [symbols_eq_map_marks, List.length_map]

theorem lexemeAt_of_marks {c : Char} {i : Nat} (h : (marks text)[k]? = some (c, i)) :
    lexemeAt text k = ⟨.ofChar c, i⟩ := by
  have hk : (symbols text)[k]? = some ⟨.ofChar c, i⟩ := by simp [symbols_eq_map_marks, h]
  simp [← headD_drop_symbols, List.headD_eq_head?_getD, hk]

theorem lexemeAt_length_marks (text : List Char) :
    lexemeAt text (marks text).length = ⟨.endOfInput, text.length⟩ := by
  rw [← headD_drop_symbols, ← length_symbols, List.drop_length]
  rfl

theorem lexemes_eq_map_range (text : List Char) :
    lexemes text = (List.range ((marks text).length + 1)).map (lexemeAt text) := by
  have hlength : (lexemes text).length = (marks text).length + 1 := by
    simp [lexemes_eq, length_symbols]
  refine List.ext_getElem (by simp [hlength]) fun k hk _ => ?_
  simp [lexemeAt, hk]

-- ---------------------------------------------------------------------------
-- Calls
-- ---------------------------------------------------------------------------

namespace TokenStream

def afterCalls (s : TokenStream) : Nat → TokenStream
  | 0 => s
  | k + 1 => (s.afterCalls k).next?.2

/-- What a call of `next?` shows: the token that it returns, and the position
that the stream tells then. -/
def shown (s : TokenStream) : Option Token × Nat :=
  (s.next?.1.map Lexeme.token, s.next?.2.position)

theorem At.shown (h : s.At text k) (he : s.ended = false) :
    s.shown = (some (lexemeAt text k).token, (lexemeAt text k).position) := by
  have hposition : (if s.next.1.token = .endOfInput then s.next.2.close else s.next.2).position =
      s.next.1.position := by
    rw [← position_next]
    split <;> rfl
  rw [TokenStream.shown, next?_of_not_ended he, hposition, h.next.1]
  rfl

theorem at_afterCalls (hk : k ≤ (marks text).length) :
    ((ofList text).afterCalls k).At text k ∧ ((ofList text).afterCalls k).ended = false := by
  induction k with
  | zero => exact ⟨at_ofList text, rfl⟩
  | succ k ih =>
    obtain ⟨hat, he⟩ := ih (Nat.le_of_succ_le hk)
    have hmark : (marks text)[k]? = some ((marks text)[k].1, (marks text)[k].2) :=
      List.getElem?_eq_getElem hk
    have htoken : ((ofList text).afterCalls k).next.1.token ≠ .endOfInput := by
      rw [hat.next.1, lexemeAt_of_marks hmark]
      exact Token.ofChar_ne_endOfInput _
    rw [afterCalls, next?_of_not_ended he, if_neg htoken, ended_next]
    exact ⟨hat.next.2, he⟩

theorem ended_afterCalls (hk : (marks text).length < k) :
    ((ofList text).afterCalls k).ended = true := by
  induction k with
  | zero => omega
  | succ k ih =>
    rcases Nat.lt_or_eq_of_le (Nat.le_of_lt_succ hk) with hlt | rfl
    · rw [afterCalls, next?_of_ended (ih hlt)]
      exact ih hlt
    · obtain ⟨hat, he⟩ := at_afterCalls (Nat.le_refl (marks text).length)
      have htoken : ((ofList text).afterCalls (marks text).length).next.1.token = .endOfInput := by
        rw [hat.next.1, lexemeAt_length_marks]
      rw [afterCalls, next?_of_not_ended he, if_pos htoken]
      rfl

end TokenStream

open TokenStream

/-- Tokens and characters correspond one to one. Each call returns the token of
the next character and tells its position, until one returns the end. The
tokens that are read to the end are what these calls return. -/
theorem scan_one_to_one (text : List Char) :
    (∀ k c i, (marks text)[k]? = some (c, i) →
      ∃ t, t.StandsFor c ∧ ((ofList text).afterCalls k).shown = (some t, i)) ∧
    ((ofList text).afterCalls (marks text).length).shown = (some .endOfInput, text.length) ∧
    (∀ k, (marks text).length < k → ((ofList text).afterCalls k).next?.1 = none) ∧
    (ofList text).drain.1.map (fun l => (some l.token, l.position)) =
      (List.range ((marks text).length + 1)).map fun k => ((ofList text).afterCalls k).shown := by
  refine ⟨fun k c i hmark => ?_, ?_, fun k hk => ?_, ?_⟩
  · obtain ⟨hk, -⟩ := List.getElem?_eq_some_iff.1 hmark
    obtain ⟨hat, he⟩ := at_afterCalls (Nat.le_of_lt hk)
    refine ⟨.ofChar c, Token.standsFor_ofChar c, ?_⟩
    rw [hat.shown he, lexemeAt_of_marks hmark]
  · obtain ⟨hat, he⟩ := at_afterCalls (Nat.le_refl (marks text).length)
    rw [hat.shown he, lexemeAt_length_marks]
  · rw [next?_of_ended (ended_afterCalls hk)]
  · rw [drain_ofList, lexemes_eq_map_range, List.map_map]
    refine List.map_congr_left fun k hk => ?_
    obtain ⟨hat, he⟩ := at_afterCalls (Nat.le_of_lt_succ (List.mem_range.1 hk))
    exact (hat.shown he).symm

theorem scan_one_to_one_two :
    marks [' ', 'é', '\u3000', '#', ' '] = [('é', 1), ('#', 3)] ∧
    (∃ t, t.StandsFor 'é' ∧
      ((ofList [' ', 'é', '\u3000', '#', ' ']).afterCalls 0).shown = (some t, 1)) ∧
    ((ofList [' ', 'é', '\u3000', '#', ' ']).afterCalls 2).shown = (some .endOfInput, 5) ∧
    ((ofList [' ', 'é', '\u3000', '#', ' ']).afterCalls 3).next?.1 = none := by
  have hmarks : marks [' ', 'é', '\u3000', '#', ' '] = [('é', 1), ('#', 3)] := by
    decide +kernel
  obtain ⟨hmark, hend, hover, -⟩ := scan_one_to_one [' ', 'é', '\u3000', '#', ' ']
  rw [hmarks] at hmark hend hover
  exact ⟨hmarks, hmark 0 'é' 1 rfl, hend, hover 3 (by decide)⟩

end TruthTable
