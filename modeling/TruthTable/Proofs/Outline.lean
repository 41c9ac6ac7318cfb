import TruthTable.Parsing.Error
import TruthTable.Token.Stream

/-!
# Outlines

Read from left to right, each token of a text either continues what stands
before it or is at fault. To tell which, it is enough to know the last token
and which operands and groups are still open there. `Outline` holds both, and
`firstFault?` is the fault of the first lexeme that has one.
-/

namespace TruthTable

/-- What is one level deeper than the phrase it belongs to: what stands to the
right of an operator, or between parentheses. -/
inductive Scope
  | neg
  | conj
  | disj
  | group
  deriving DecidableEq

def Token.scope? : Token → Option Scope
  | .neg => some .neg
  | .conj => some .conj
  | .disj => some .disj
  | .lparen => some .group
  | _ => none

/-- Whether a scope cannot have a token in it and ends in front of it. An
operand ends at each operator that binds looser than its own, a parenthesis
that closes ends every operand, and so does the end of the text. -/
def Scope.endsAt : Scope → Token → Bool
  | .neg, .conj | .neg, .disj | .neg, .rparen | .neg, .endOfInput => true
  | .conj, .disj | .conj, .rparen | .conj, .endOfInput => true
  | .disj, .rparen | .disj, .endOfInput => true
  | _, _ => false

structure Outline where
  last : Option Token
  /-- The open scopes, the innermost first. -/
  scopes : List Scope
  deriving DecidableEq

namespace Outline

def start : Outline :=
  ⟨none, []⟩

def around (o : Outline) (t : Token) : List Scope :=
  o.scopes.dropWhile (·.endsAt t)

/-- The outline behind one more token. A closing parenthesis ends its group. -/
def push (o : Outline) (t : Token) : Outline where
  last := some t
  scopes :=
    match t with
    | .rparen => (o.around t).tail
    | _ => t.scope?.toList ++ o.around t

def pushAll (o : Outline) (ts : List Token) : Outline :=
  ts.foldl push o

abbrev behind (ls : List Lexeme) : Outline :=
  start.pushAll (ls.map Lexeme.token)

def expectsOperand (o : Outline) : Bool :=
  o.last.all fun t => t.scope?.isSome

def continues (o : Outline) : Token → Bool
  | .var _ | .constant _ | .neg | .lparen => o.expectsOperand
  | .conj | .disj => !o.expectsOperand
  | .rparen => !o.expectsOperand && o.scopes.contains .group
  | .endOfInput => !o.expectsOperand && !o.scopes.contains .group
  | .unknown _ => false

/-- What is wrong where a text must not end. -/
def faultAtEnd (o : Outline) : Fault :=
  match o.last with
  | none | some .neg | some .conj | some .disj => .unexpectedEnd
  | some _ => .missingClosingParenthesis

/-- The error for a lexeme that does not continue a sentence. -/
def misplaced (o : Outline) (l : Lexeme) : ParseError :=
  match l.token with
  | .endOfInput => .malformed o.faultAtEnd l
  | _ => .unexpected l

/-- The error at the lexeme that comes next, if there is one. -/
def fault? (limit : Nat) (o : Outline) (l : Lexeme) : Option ParseError :=
  if !o.continues l.token then some (o.misplaced l)
  else if l.token.scope?.isSome && decide (limit ≤ (o.around l.token).length) then
    some (.malformed .tooDeep l)
  else none

def firstFault? (limit : Nat) (o : Outline) : List Lexeme → Option ParseError
  | [] => none
  | l :: ls => (o.fault? limit l).or (firstFault? limit (o.push l.token) ls)

def Allows (limit : Nat) (o : Outline) (t : Token) : Prop :=
  o.continues t = true ∧ (t.scope?.isSome → (o.around t).length < limit)

/-- None of the tokens is at fault. -/
def Admits (limit : Nat) (o : Outline) : List Token → Prop
  | [] => True
  | t :: ts => o.Allows limit t ∧ Admits limit (o.push t) ts

variable {limit : Nat} {o : Outline} {t : Token} {ts us : List Token} {l m : Lexeme}
variable {ls : List Lexeme} {e : ParseError}

-- ---------------------------------------------------------------------------
-- Tokens one after the other
-- ---------------------------------------------------------------------------

@[simp] theorem pushAll_nil (o : Outline) : o.pushAll [] = o := rfl

@[simp] theorem pushAll_cons (o : Outline) (t : Token) (ts : List Token) :
    o.pushAll (t :: ts) = (o.push t).pushAll ts := rfl

theorem pushAll_append (o : Outline) (ts us : List Token) :
    o.pushAll (ts ++ us) = (o.pushAll ts).pushAll us :=
  List.foldl_append

theorem last_pushAll (o : Outline) (ts : List Token) :
    (o.pushAll ts).last = ts.getLast?.or o.last := by
  induction ts generalizing o with
  | nil => rfl
  | cons t ts ih =>
    rw [pushAll_cons, ih, List.getLast?_cons]
    cases ts.getLast? <;> rfl

@[simp] theorem admits_nil (limit : Nat) (o : Outline) : o.Admits limit [] := trivial

@[simp] theorem admits_cons :
    o.Admits limit (t :: ts) ↔ o.Allows limit t ∧ (o.push t).Admits limit ts := Iff.rfl

theorem allows_of_scope?_eq_none (h : o.continues t = true) (ht : t.scope? = none) :
    o.Allows limit t :=
  ⟨h, by simp [ht]⟩

theorem Allows.mono {limit' : Nat} (h : o.Allows limit t) (hle : limit ≤ limit') :
    o.Allows limit' t :=
  ⟨h.1, fun hs => Nat.lt_of_lt_of_le (h.2 hs) hle⟩

theorem Admits.mono {limit' : Nat} (h : o.Admits limit ts) (hle : limit ≤ limit') :
    o.Admits limit' ts := by
  induction ts generalizing o with
  | nil => trivial
  | cons t ts ih => exact ⟨h.1.mono hle, ih h.2⟩

theorem admits_append :
    o.Admits limit (ts ++ us) ↔ o.Admits limit ts ∧ (o.pushAll ts).Admits limit us := by
  induction ts generalizing o with
  | nil => simp
  | cons t ts ih => simp only [List.cons_append, admits_cons, pushAll_cons, ih, and_assoc]

theorem admits_iff_forall :
    o.Admits limit (ls.map Lexeme.token) ↔
      ∀ before l after, ls = before ++ l :: after →
        (o.pushAll (before.map Lexeme.token)).Allows limit l.token := by
  constructor
  · rintro h before l after rfl
    rw [List.map_append, List.map_cons] at h
    exact (admits_append.1 h).2.1
  · intro h
    induction ls generalizing o with
    | nil => trivial
    | cons l ls ih =>
      refine ⟨h [] l ls rfl, ih fun before m after hls => ?_⟩
      exact h (l :: before) m after (congrArg (l :: ·) hls)

-- ---------------------------------------------------------------------------
-- Faults
-- ---------------------------------------------------------------------------

theorem fault?_of_not_continues (h : o.continues l.token = false) :
    o.fault? limit l = some (o.misplaced l) := by
  rw [fault?, h]
  rfl

theorem fault?_of_le (h : o.continues l.token = true) (hs : l.token.scope?.isSome)
    (hle : limit ≤ (o.around l.token).length) :
    o.fault? limit l = some (.malformed .tooDeep l) := by
  simp [fault?, h, hs, hle]

theorem fault?_eq_none_iff : o.fault? limit l = none ↔ o.Allows limit l.token := by
  unfold fault? Allows
  cases o.continues l.token <;> simp

theorem fault?_cases (h : o.fault? limit l = some e) :
    (o.continues l.token = false ∧ e = o.misplaced l) ∨
    (o.continues l.token = true ∧ l.token.scope?.isSome ∧
      limit ≤ (o.around l.token).length ∧ e = .malformed .tooDeep l) := by
  cases hc : o.continues l.token with
  | false =>
    rw [fault?_of_not_continues hc] at h
    exact .inl ⟨rfl, (Option.some.inj h).symm⟩
  | true =>
    simp only [fault?, hc, Bool.not_true, Bool.false_eq_true, if_false] at h
    split at h
    · next hdeep =>
      obtain ⟨hs, hle⟩ := Bool.and_eq_true_iff.1 hdeep
      exact .inr ⟨rfl, hs, of_decide_eq_true hle, (Option.some.inj h).symm⟩
    · cases h

theorem fault?_misplaced_ne (o : Outline) (l : Lexeme) :
    (o.misplaced l).fault? ≠ some .tooDeep := by
  obtain ⟨tok, i⟩ := l
  cases tok with
  | endOfInput =>
    change some o.faultAtEnd ≠ _
    unfold faultAtEnd
    split <;> simp
  | _ => simp [misplaced, ParseError.unexpected, ParseError.fault?]

theorem fault?_eq_tooDeep_iff :
    o.fault? limit l = some (.malformed .tooDeep m) ↔
      m = l ∧ o.continues l.token = true ∧ l.token.scope?.isSome ∧
        limit ≤ (o.around l.token).length := by
  constructor
  · intro h
    rcases fault?_cases h with ⟨-, he⟩ | ⟨hcont, hs, hle, he⟩
    · exact absurd (congrArg ParseError.fault? he).symm (o.fault?_misplaced_ne l)
    · cases he
      exact ⟨rfl, hcont, hs, hle⟩
  · rintro ⟨rfl, hcont, hs, hle⟩
    exact fault?_of_le hcont hs hle

theorem firstFault?_cons_of_fault? (h : o.fault? limit l = some e) (ls : List Lexeme) :
    o.firstFault? limit (l :: ls) = some e := by
  rw [firstFault?, h, Option.some_or]

theorem firstFault?_cons_of_allows (h : o.Allows limit l.token) (ls : List Lexeme) :
    o.firstFault? limit (l :: ls) = (o.push l.token).firstFault? limit ls := by
  rw [firstFault?, fault?_eq_none_iff.2 h, Option.none_or]

theorem firstFault?_append (h : o.Admits limit (ls.map Lexeme.token)) (ms : List Lexeme) :
    o.firstFault? limit (ls ++ ms) =
      (o.pushAll (ls.map Lexeme.token)).firstFault? limit ms := by
  induction ls generalizing o with
  | nil => rfl
  | cons l ls ih =>
    obtain ⟨hl, hls⟩ := h
    rw [List.cons_append, firstFault?_cons_of_allows hl, ih hls]
    rfl

theorem firstFault?_eq_none_iff :
    o.firstFault? limit ls = none ↔ o.Admits limit (ls.map Lexeme.token) := by
  induction ls generalizing o with
  | nil => simp [firstFault?]
  | cons l ls ih =>
    rw [firstFault?, Option.or_eq_none_iff, fault?_eq_none_iff, ih]
    rfl

theorem firstFault?_eq_some_iff :
    o.firstFault? limit ls = some e ↔
      ∃ before l after, ls = before ++ l :: after ∧ o.Admits limit (before.map Lexeme.token) ∧
        (o.pushAll (before.map Lexeme.token)).fault? limit l = some e := by
  constructor
  · intro h
    induction ls generalizing o with
    | nil => cases h
    | cons l ls ih =>
      cases hl : o.fault? limit l with
      | some e' =>
        rw [firstFault?_cons_of_fault? hl] at h
        exact ⟨[], l, ls, rfl, trivial, hl.trans h⟩
      | none =>
        have hallows := fault?_eq_none_iff.1 hl
        rw [firstFault?_cons_of_allows hallows] at h
        obtain ⟨before, m, after, rfl, hbefore, hm⟩ := ih h
        exact ⟨l :: before, m, after, rfl, ⟨hallows, hbefore⟩, hm⟩
  · rintro ⟨before, l, after, rfl, hbefore, hl⟩
    rw [firstFault?_append hbefore]
    exact firstFault?_cons_of_fault? hl after

end Outline

end TruthTable
