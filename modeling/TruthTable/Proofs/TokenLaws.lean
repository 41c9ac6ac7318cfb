import TruthTable.Token.Stream

/-!
# Laws of tokens

`ofChar_eq_iff`: which token a character is, told for each kind of token without
regard to the order in which the kinds are tried. So what can be counted among
the tokens of a text can be counted among its characters.
-/

namespace TruthTable

variable {c : Char} {t : Token}

/-- What it says of a character that it is the token. -/
def Token.StandsFor : Token → Char → Prop
  | .lparen, c => c = '('
  | .rparen, c => c = ')'
  | .constant true, c => c = 'T'
  | .constant false, c => c = 'F'
  | .conj, c => c = '&'
  | .disj, c => c = '|'
  | .neg, c => c = '~'
  | .var name, c => c = name ∧ Unicode.isAlphabetic c = true ∧ c ≠ 'T' ∧ c ≠ 'F'
  | .endOfInput, _ => False
  | .unknown d, c => c = d ∧ Unicode.isAlphabetic c = false ∧ c ∉ ['(', ')', '&', '|', '~']

namespace Token

theorem standsFor_ofChar (c : Char) : (ofChar c).StandsFor c := by
  unfold ofChar
  repeat' split
  all_goals simp_all [StandsFor]

theorem ofChar_eq_iff : ofChar c = t ↔ t.StandsFor c := by
  constructor
  · rintro rfl
    exact standsFor_ofChar c
  · intro h
    cases t with
    | constant b =>
      cases b with
      | false =>
        cases h
        rfl
      | true =>
        cases h
        rfl
    | var name =>
      obtain ⟨rfl, ha, hT, hF⟩ := h
      simp [ofChar, ha, hT, hF]
    | unknown d =>
      obtain ⟨rfl, ha, hd⟩ := h
      have hT : c ≠ 'T' := by
        rintro rfl
        exact absurd ha (by decide +kernel)
      have hF : c ≠ 'F' := by
        rintro rfl
        exact absurd ha (by decide +kernel)
      simp_all [ofChar]
    | endOfInput => exact h.elim
    | _ =>
      -- none of these characters is alphabetic, which is tried before them
      cases h
      decide +kernel

end Token

-- ---------------------------------------------------------------------------
-- Counting
-- ---------------------------------------------------------------------------

theorem length_tokens (text : List Char) :
    (tokens text).length = text.countP fun c => !Unicode.isWhiteSpace c := by
  rw [tokens, List.length_map, List.countP_eq_length_filter]

theorem count_lparen_tokens (text : List Char) : (tokens text).count .lparen = text.count '(' := by
  have hblank : Unicode.isWhiteSpace '(' = false := by decide +kernel
  rw [tokens, List.count_eq_countP, List.countP_map, List.countP_filter, List.count_eq_countP]
  refine List.countP_congr fun c _ => ?_
  simp only [Function.comp_apply, Bool.and_eq_true, beq_iff_eq, Token.ofChar_eq_iff]
  constructor
  · exact fun h => h.1
  · rintro rfl
    exact ⟨rfl, by rw [hblank]; rfl⟩

end TruthTable
