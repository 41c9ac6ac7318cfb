import TruthTable.Proofs.Completion

/-!
# What an error points at

Unless a text is nested too deeply, its error points at the first token that
does not continue a sentence. The kind of the error is that of this token, and
at the end of the text it depends on the token before the end.
-/

namespace TruthTable

def Token.isOperator : Token → Bool
  | .neg | .conj | .disj => true
  | _ => false

def Token.endsOperand : Token → Bool
  | .var _ | .constant _ | .rparen => true
  | _ => false

/-- The error is about the lexeme `l`, which comes behind `k` others. -/
structure PointsAt (levels : Nat) (text : List Char) (e : ParseError) (k : Nat) (l : Lexeme) :
    Prop where
  /-- It is the only lexeme at the position of the error. -/
  position : ∀ j m,
    (lexemes text)[j]? = some m ∧ e.position? = some m.position ↔ j = k ∧ m = l
  /-- What comes before it can be continued to a sentence. -/
  begins : ∃ rest p, Derives .sentence levels ((tokens text).take k ++ tokens rest) p
  /-- Together with it, it cannot. -/
  misfit : l.token ≠ .endOfInput →
    ∀ n us p, ¬ Derives .sentence n ((tokens text).take (k + 1) ++ us) p
  incomplete : l.token = .endOfInput → ∀ n p, ¬ Derives .sentence n ((tokens text).take k) p
  unrecognized : ∀ c i, e = .unrecognized c i ↔ l.token = .unknown c ∧ i = l.position
  character : ∀ c, l.token = .unknown c → text[l.position]? = some c
  unexpectedToken : ∀ m, e = .malformed .unexpectedToken m ↔
    m = l ∧ l.token ≠ .endOfInput ∧ ∀ c, l.token ≠ .unknown c
  unexpectedEnd : ∀ m, e = .malformed .unexpectedEnd m ↔
    m = l ∧ l.token = .endOfInput ∧ ∀ t ∈ (tokens text).getLast?, t.isOperator
  missingClosingParenthesis : ∀ m, e = .malformed .missingClosingParenthesis m ↔
    m = l ∧ l.token = .endOfInput ∧ ∃ t ∈ (tokens text).getLast?, t = .lparen ∨ t.endsOperand
  endPosition : l.token = .endOfInput → l.position = text.length

namespace Outline

variable {levels i : Nat} {o : Outline} {l m : Lexeme} {t : Token} {ts : List Token} {c : Char}

-- ---------------------------------------------------------------------------
-- Errors at a misplaced lexeme
-- ---------------------------------------------------------------------------

theorem faultAtEnd_ne_unexpectedToken (o : Outline) : o.faultAtEnd ≠ .unexpectedToken := by
  unfold faultAtEnd
  split <;> simp

theorem position?_misplaced (o : Outline) (l : Lexeme) :
    (o.misplaced l).position? = some l.position := by
  obtain ⟨tok, i⟩ := l
  cases tok <;> rfl

theorem misplaced_eq_unrecognized_iff :
    o.misplaced l = .unrecognized c i ↔ l.token = .unknown c ∧ i = l.position := by
  obtain ⟨tok, j⟩ := l
  cases tok <;> simp [misplaced, ParseError.unexpected, eq_comm]

theorem misplaced_eq_unexpectedToken_iff :
    o.misplaced l = .malformed .unexpectedToken m ↔
      m = l ∧ l.token ≠ .endOfInput ∧ ∀ c, l.token ≠ .unknown c := by
  have hend := o.faultAtEnd_ne_unexpectedToken
  obtain ⟨tok, j⟩ := l
  cases tok <;> simp [misplaced, ParseError.unexpected, hend.symm, eq_comm]

theorem misplaced_eq_malformed_iff {fault : Fault} (hfault : fault ≠ .unexpectedToken) :
    o.misplaced l = .malformed fault m ↔
      m = l ∧ l.token = .endOfInput ∧ o.faultAtEnd = fault := by
  obtain ⟨tok, j⟩ := l
  cases tok <;> simp [misplaced, ParseError.unexpected, hfault, eq_comm, and_comm]

-- ---------------------------------------------------------------------------
-- The token before the end
-- ---------------------------------------------------------------------------

theorem last_start_pushAll (ts : List Token) : (start.pushAll ts).last = ts.getLast? := by
  rw [last_pushAll]
  exact Option.or_none

theorem faultAtEnd_eq_unexpectedEnd_iff :
    o.faultAtEnd = .unexpectedEnd ↔ ∀ t ∈ o.last, t.isOperator := by
  obtain ⟨last, scopes⟩ := o
  cases last with
  | none => simp [faultAtEnd]
  | some t => cases t <;> simp [faultAtEnd, Token.isOperator]

theorem faultAtEnd_eq_missing_iff :
    o.faultAtEnd = .missingClosingParenthesis ↔ ∃ t ∈ o.last, t.isOperator = false := by
  obtain ⟨last, scopes⟩ := o
  cases last with
  | none => simp [faultAtEnd]
  | some t => cases t <;> simp [faultAtEnd, Token.isOperator]

theorem isOperator_eq_false_iff (h : o.continues t = true) (hend : t ≠ .endOfInput) :
    t.isOperator = false ↔ t = .lparen ∨ t.endsOperand = true := by
  cases t with
  | unknown c => cases h
  | endOfInput => exact absurd rfl hend
  | lparen => exact iff_of_true rfl (.inl rfl)
  | var | constant | rparen => exact iff_of_true rfl (.inr rfl)
  | neg | conj | disj =>
    refine iff_of_false (by simp [Token.isOperator]) ?_
    rintro (ht | ht) <;> cases ht

theorem isOperator_getLast? (h : o.Admits levels ts) (hend : .endOfInput ∉ ts)
    (ht : t ∈ ts.getLast?) : t.isOperator = false ↔ t = .lparen ∨ t.endsOperand = true := by
  obtain ⟨us, rfl⟩ := List.getLast?_eq_some_iff.1 ht
  refine isOperator_eq_false_iff (admits_append.1 h).2.1.1 ?_
  rintro rfl
  exact hend (by simp)

end Outline

open Outline in
/-- An error points at the first token that cannot continue a sentence and is
classified by it, unless the text is nested too deeply. -/
theorem error_pointsAt {levels : Nat} {text : List Char} {e : ParseError}
    (h : parseWithin levels text = .error e) (hdeep : e.fault? ≠ some .tooDeep) :
    ∃ k l, PointsAt levels text e k l := by
  obtain ⟨before, l, after, hsplit, hbefore, hl⟩ :=
    firstFault?_eq_some_iff.1 (parseWithin_eq_error_iff.1 h)
  obtain ⟨hmisfit, rfl⟩ : (behind before).continues l.token = false ∧
      e = (behind before).misplaced l := by
    rcases fault?_cases hl with hmisfit | ⟨-, -, -, rfl⟩
    · exact hmisfit
    · exact absurd rfl hdeep
  refine ⟨before.length, l, ?_⟩
  have htake := take_tokens hsplit
  have hlast := last_start_pushAll (before.map Lexeme.token)
  constructor
  case position =>
    intro j m
    rw [position?_misplaced, Option.some_inj]
    exact at_position_iff hsplit
  case begins => exact admits_take_iff.1 (htake ▸ hbefore)
  case misfit =>
    intro hend n us p
    rw [take_tokens_succ hsplit hend, List.append_assoc]
    exact not_derives_of_not_continues hmisfit
  case incomplete =>
    intro hend n p
    rw [htake]
    exact not_derives_of_not_continues_end (hend ▸ hmisfit)
  case unrecognized => exact fun c i => misplaced_eq_unrecognized_iff
  case character =>
    intro c hc
    obtain ⟨d, hd, htoken⟩ := mem_symbols (mem_symbols_of_lexemes hsplit (by simp [hc]))
    rw [hd, (Token.ofChar_eq_iff.1 (htoken.symm.trans hc)).1]
  case unexpectedToken => exact fun m => misplaced_eq_unexpectedToken_iff
  case unexpectedEnd =>
    intro m
    rw [misplaced_eq_malformed_iff (by simp)]
    refine and_congr_right fun _ => and_congr_right fun hend => ?_
    rw [faultAtEnd_eq_unexpectedEnd_iff, hlast, (tokens_of_lexemes_end hsplit hend).1]
  case missingClosingParenthesis =>
    intro m
    rw [misplaced_eq_malformed_iff (by simp)]
    refine and_congr_right fun _ => and_congr_right fun hend => ?_
    obtain ⟨htokens, -⟩ := tokens_of_lexemes_end hsplit hend
    rw [faultAtEnd_eq_missing_iff, hlast, htokens]
    rw [htokens] at hbefore
    refine exists_congr fun t => and_congr_right fun ht => ?_
    exact isOperator_getLast? hbefore (endOfInput_notMem_tokens text) ht
  case endPosition => exact fun hend => (tokens_of_lexemes_end hsplit hend).2

/-- A misplaced token, a character without a meaning, and an end too soon. -/
theorem error_pointsAt_three :
    (∃ k l, PointsAt 2 ['(', 'p', '&', ')'] (.malformed .unexpectedToken ⟨.rparen, 3⟩) k l) ∧
    (∃ k l, PointsAt 0 ['p', ' ', '#', ')'] (.unrecognized '#' 2) k l) ∧
    ∃ k l, PointsAt 2 ['(', 'p', ' '] (.malformed .missingClosingParenthesis ⟨.endOfInput, 3⟩) k l :=
  ⟨error_pointsAt (by decide +kernel) (by simp [ParseError.fault?]),
    error_pointsAt (by decide +kernel) (by simp [ParseError.fault?]),
    error_pointsAt (by decide +kernel) (by simp [ParseError.fault?])⟩

end TruthTable
