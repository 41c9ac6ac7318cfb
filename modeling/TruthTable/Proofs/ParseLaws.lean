import TruthTable.Parsing
import TruthTable.Proofs.RunLaws
import TruthTable.Proofs.StreamLaws

/-!
# Steps of reading

What each step of reading does to a session. A rule looks at one token. It
either advances over it or gives it back, and then all that was ahead is ahead
again.
-/

namespace TruthTable

open ParseM

variable {s t : Session} {ls rest : List Lexeme} {l : Lexeme} {n levels : Nat} {r : Rule}
variable {o : Option Proposition}

namespace Session

def advance (s : Session) : Session :=
  { s with stream := s.stream.next.2 }

def giveBack (s : Session) (r : Rule) : Session :=
  { s with
    stream := s.stream.next.2.pushBack s.stream.next.1.token
    returned := s.returned.push ⟨r, s.stream.next.1.token, s.stream.next.2⟩ }

def below (s : Session) : Session :=
  { s with depth := s.depth + 1 }

def above (s : Session) : Session :=
  { s with depth := s.depth - 1 }

@[simp] theorem names_advance (s : Session) : s.advance.names = s.names := rfl
@[simp] theorem names_giveBack (s : Session) (r : Rule) : (s.giveBack r).names = s.names := rfl

theorem ahead_advance (h : s.stream.Ahead ls n) : s.advance.stream.Ahead ls.tail n := h.next.2

theorem ahead_giveBack (h : s.stream.Ahead ls n) : (s.giveBack r).stream.Ahead ls n := h.pushBack

end Session

open Session

-- ---------------------------------------------------------------------------
-- Tokens
-- ---------------------------------------------------------------------------

theorem run_next (h : s.stream.Ahead ls n) :
    next.run s = .ok (ls.headD ⟨.endOfInput, n⟩) s.advance :=
  congrArg (EStateM.Result.ok · s.advance) h.next.1

theorem run_next_bind {α : Type} {f : Lexeme → ParseM α} (s : Session) :
    (next >>= f).run s = (f s.stream.next.1).run s.advance :=
  rfl

theorem run_pushBack (h : s.stream.Ahead ls n) :
    (pushBack r (ls.headD ⟨.endOfInput, n⟩).token).run s.advance = .ok () (s.giveBack r) := by
  rw [← h.next.1]
  rfl

-- ---------------------------------------------------------------------------
-- Levels
-- ---------------------------------------------------------------------------

theorem run_deeper {α : Type} (m : ParseM α) (s : Session) :
    (deeper m).run s =
      match m.run s.below with
      | .ok a t => .ok a t.above
      | .error e t => .error e t.above := by
  change (tryFinally m _).run s.below = _
  simp only [tryFinally, tryFinally', Functor.map, EStateM.map, EStateM.run]
  cases m s.below <;> rfl

theorem run_descend (h : (r.read (Rule.descend levels)).run s.below = .ok o t) :
    (Rule.descend (levels + 1) l r).run s = .ok o t.above := by
  rw [Rule.descend, run_deeper, h]

theorem descend_ok (h : (Rule.descend levels l r).run s = .ok o t) :
    ∃ k u, levels = k + 1 ∧ (r.read (Rule.descend k)).run s.below = .ok o u ∧ t = u.above := by
  cases levels with
  | zero => cases h
  | succ k =>
    rw [Rule.descend, run_deeper] at h
    cases hr : (r.read (Rule.descend k)).run s.below with
    | ok a u =>
      rw [hr] at h
      cases h
      exact ⟨k, u, rfl, hr, rfl⟩
    | error e u =>
      rw [hr] at h
      cases h

theorem descend_error {e : ParseError} (h : (Rule.descend levels l r).run s = .error e t) :
    (levels = 0 ∧ e = .malformed .tooDeep l) ∨
    ∃ k u, levels = k + 1 ∧ (r.read (Rule.descend k)).run s.below = .error e u := by
  cases levels with
  | zero =>
    cases h
    exact .inl ⟨rfl, rfl⟩
  | succ k =>
    rw [Rule.descend, run_deeper] at h
    cases hr : (r.read (Rule.descend k)).run s.below with
    | ok a u =>
      rw [hr] at h
      cases h
    | error e u =>
      rw [hr] at h
      cases h
      exact .inr ⟨k, u, rfl, hr⟩

-- ---------------------------------------------------------------------------
-- Rules
-- ---------------------------------------------------------------------------

namespace Rule

variable {D : Descent}

/-- What a group does once its interior was read. -/
def closeGroup (interior : Option Proposition) : ParseM (Option Proposition) := do
  let closing ← next
  match interior, closing.token with
  | some p, .rparen => pure (some p)
  | _, .endOfInput => throw (.malformed .missingClosingParenthesis closing)
  | _, _ => throw (.unexpected closing)

def continueClause (D : Descent) (left : Option Proposition) : ParseM (Option Proposition) := do
  let l ← next
  match left, l.token with
  | some p, .conj =>
    let q ← operand D l .clause
    pure (some (.conj p q))
  | _, _ =>
    pushBack .clause l.token
    pure left

/-- What a sentence does with its right operand. -/
def joinSentence (left : Option Proposition) (l : Lexeme) (q : Proposition) :
    ParseM (Option Proposition) :=
  match left with
  | some p => pure (some (.disj p q))
  | none => do throw (.unexpected { l with position := ← position })

def continueSentence (D : Descent) (left : Option Proposition) : ParseM (Option Proposition) := do
  let l ← next
  match l.token with
  | .disj => operand D l .sentence >>= joinSentence left l
  | .rparen | .endOfInput =>
    pushBack .sentence l.token
    pure left
  | _ => throw (.unexpected l)

/-- A rule does not go on at `rest`. -/
def StopsAt : Rule → List Lexeme → Prop
  | .sentence, rest => ∀ l ∈ rest.head?, l.token = .rparen
  | .clause, rest => ∀ l ∈ rest.head?, l.token ≠ .conj
  | .atom, _ | .term, _ => True

theorem run_readClause {left : Option Proposition} (h : (readAtom D).run s = .ok left t) :
    (readClause D).run s = (continueClause D left).run t :=
  run_bind_of_ok h

theorem readClause_ok (h : (readClause D).run s = .ok o t) :
    ∃ left u, (readAtom D).run s = .ok left u ∧ (continueClause D left).run u = .ok o t :=
  bind_ok.1 h

theorem run_readSentence {left : Option Proposition} (h : (readClause D).run s = .ok left t) :
    (readSentence D).run s = (continueSentence D left).run t :=
  run_bind_of_ok h

theorem readSentence_ok (h : (readSentence D).run s = .ok o t) :
    ∃ left u, (readClause D).run s = .ok left u ∧ (continueSentence D left).run u = .ok o t :=
  bind_ok.1 h

theorem operand_ok {p : Proposition} (h : (operand D l r).run s = .ok p t) :
    (D l r).run s = .ok (some p) t := by
  obtain ⟨o, u, hd, h⟩ := bind_ok.1 h
  cases o with
  | none =>
    obtain ⟨_, _, -, h⟩ := bind_ok.1 h
    cases h
  | some q =>
    cases h
    exact hd

theorem run_operand {p : Proposition} (h : (D l r).run s = .ok (some p) t) :
    (operand D l r).run s = .ok p t :=
  run_bind_of_ok h

theorem operand_error {e : ParseError} (h : (operand D l r).run s = .error e t) :
    (D l r).run s = .error e t ∨
      ∃ u, (D l r).run s = .ok none u ∧ e = .malformed .unexpectedEnd u.stream.next.1 := by
  rcases bind_error h with h | ⟨o, u, hd, h⟩
  · exact .inl h
  · cases o with
    | none =>
      cases h
      exact .inr ⟨u, hd, rfl⟩
    | some p => cases h

theorem run_readTerm :
    s.stream.Ahead ls n →
    (readTerm D).run s =
      match ls with
      | [] => .ok none (s.giveBack .term)
      | ⟨.var name, _⟩ :: _ =>
        .ok (some (.var name)) { s.advance with names := Variables.appendNew s.names name }
      | ⟨.constant b, _⟩ :: _ => .ok (some (.constant b)) s.advance
      | ⟨.lparen, i⟩ :: _ => (D ⟨.lparen, i⟩ .sentence >>= closeGroup).run s.advance
      | l :: _ => .error (.unexpected l) s.advance := by
  intro hs
  rw [readTerm, run_bind_of_ok (run_next hs)]
  cases ls with
  | nil => exact run_bind_of_ok (run_pushBack hs)
  | cons l rest =>
    have hl := hs.ne_endOfInput List.mem_cons_self
    obtain ⟨tok, i⟩ := l
    cases tok with
    | endOfInput => exact absurd rfl hl
    | _ => rfl

theorem run_closeGroup {interior : Option Proposition} :
    s.stream.Ahead ls n →
    (closeGroup interior).run s =
      match interior, ls with
      | some p, ⟨.rparen, _⟩ :: _ => .ok (some p) s.advance
      | _, [] => .error (.malformed .missingClosingParenthesis ⟨.endOfInput, n⟩) s.advance
      | _, l :: _ => .error (.unexpected l) s.advance := by
  intro hs
  rw [closeGroup, run_bind_of_ok (run_next hs)]
  cases ls with
  | nil => cases interior <;> rfl
  | cons l rest =>
    have hl := hs.ne_endOfInput List.mem_cons_self
    obtain ⟨tok, i⟩ := l
    cases tok with
    | endOfInput => exact absurd rfl hl
    | _ => cases interior <;> rfl

theorem closeGroup_ok {interior : Option Proposition} (hs : s.stream.Ahead ls n)
    (h : (closeGroup interior).run s = .ok o t) :
    ∃ p i rest, interior = some p ∧ ls = ⟨.rparen, i⟩ :: rest ∧ o = some p ∧ t = s.advance := by
  rw [run_closeGroup hs] at h
  cases ls with
  | nil => cases interior <;> cases h
  | cons l rest =>
    obtain ⟨tok, i⟩ := l
    cases interior with
    | none => cases h
    | some p =>
      cases tok with
      | rparen =>
        cases h
        exact ⟨p, i, rest, rfl, rfl, rfl, rfl⟩
      | _ => cases h

theorem run_readAtom :
    s.stream.Ahead ls n →
    (readAtom D).run s =
      match ls with
      | ⟨.neg, i⟩ :: _ =>
        (operand D ⟨.neg, i⟩ .atom >>= fun p => pure (some (.neg p))).run s.advance
      | _ => (readTerm D).run (s.giveBack .atom) := by
  intro hs
  have hb := run_pushBack (r := .atom) hs
  rw [readAtom, run_bind_of_ok (run_next hs)]
  cases ls with
  | nil => exact run_bind_of_ok hb
  | cons l rest =>
    obtain ⟨tok, i⟩ := l
    cases tok with
    | neg => rfl
    | _ => exact run_bind_of_ok hb

theorem readAtom_ok (hs : s.stream.Ahead ls n) (h : (readAtom D).run s = .ok o t) :
    (∃ i rest p, ls = ⟨.neg, i⟩ :: rest ∧ o = some (.neg p) ∧
      (D ⟨.neg, i⟩ .atom).run s.advance = .ok (some p) t) ∨
    (readTerm D).run (s.giveBack .atom) = .ok o t := by
  rw [run_readAtom hs] at h
  cases ls with
  | nil => exact .inr h
  | cons l rest =>
    obtain ⟨tok, i⟩ := l
    cases tok with
    | neg =>
      obtain ⟨p, u, hd, h⟩ := bind_ok.1 h
      cases h
      exact .inl ⟨i, rest, p, rfl, rfl, operand_ok hd⟩
    | _ => exact .inr h

theorem run_readAtom_of_ne_neg (hs : s.stream.Ahead (l :: rest) n) (hl : l.token ≠ .neg) :
    (readAtom D).run s = (readTerm D).run (s.giveBack .atom) := by
  rw [run_readAtom hs]
  obtain ⟨tok, i⟩ := l
  cases tok with
  | neg => exact absurd rfl hl
  | _ => rfl

theorem run_continueClause {left : Option Proposition} :
    s.stream.Ahead ls n →
    (continueClause D left).run s =
      match left, ls with
      | some p, ⟨.conj, i⟩ :: _ =>
        (operand D ⟨.conj, i⟩ .clause >>= fun q => pure (some (.conj p q))).run s.advance
      | _, _ => .ok left (s.giveBack .clause) := by
  intro hs
  have hb := run_pushBack (r := .clause) hs
  rw [continueClause, run_bind_of_ok (run_next hs)]
  cases left with
  | none => exact run_bind_of_ok hb
  | some p =>
    cases ls with
    | nil => exact run_bind_of_ok hb
    | cons l rest =>
      obtain ⟨tok, i⟩ := l
      cases tok with
      | conj => rfl
      | _ => exact run_bind_of_ok hb

theorem continueClause_ok {left : Option Proposition} (hs : s.stream.Ahead ls n)
    (h : (continueClause D left).run s = .ok o t) :
    (∃ p i rest q, left = some p ∧ ls = ⟨.conj, i⟩ :: rest ∧ o = some (.conj p q) ∧
      (D ⟨.conj, i⟩ .clause).run s.advance = .ok (some q) t) ∨
    (o = left ∧ t = s.giveBack .clause ∧ (left.isSome → Rule.clause.StopsAt ls)) := by
  rw [run_continueClause hs] at h
  cases left with
  | none =>
    cases h
    exact .inr ⟨rfl, rfl, by simp [StopsAt]⟩
  | some p =>
    cases ls with
    | nil =>
      cases h
      exact .inr ⟨rfl, rfl, by simp [StopsAt]⟩
    | cons l rest =>
      obtain ⟨tok, i⟩ := l
      cases tok with
      | conj =>
        obtain ⟨q, u, hd, h⟩ := bind_ok.1 h
        cases h
        exact .inl ⟨p, i, rest, q, rfl, rfl, rfl, operand_ok hd⟩
      | _ =>
        cases h
        exact .inr ⟨rfl, rfl, fun _ => by simp [StopsAt]⟩

theorem run_continueClause_of_stopsAt {left : Option Proposition} (hs : s.stream.Ahead ls n)
    (hstop : Rule.clause.StopsAt ls) :
    (continueClause D left).run s = .ok left (s.giveBack .clause) := by
  rw [run_continueClause hs]
  cases left with
  | none => rfl
  | some p =>
    cases ls with
    | nil => rfl
    | cons l rest =>
      obtain ⟨tok, i⟩ := l
      cases tok with
      | conj => exact absurd rfl (hstop _ rfl)
      | _ => rfl

theorem run_continueSentence {left : Option Proposition} :
    s.stream.Ahead ls n →
    (continueSentence D left).run s =
      match ls with
      | [] => .ok left (s.giveBack .sentence)
      | ⟨.disj, i⟩ :: _ =>
        (operand D ⟨.disj, i⟩ .sentence >>= joinSentence left ⟨.disj, i⟩).run s.advance
      | ⟨.rparen, _⟩ :: _ => .ok left (s.giveBack .sentence)
      | l :: _ => .error (.unexpected l) s.advance := by
  intro hs
  have hb := run_pushBack (r := .sentence) hs
  rw [continueSentence, run_bind_of_ok (run_next hs)]
  cases ls with
  | nil => exact run_bind_of_ok hb
  | cons l rest =>
    have hl := hs.ne_endOfInput List.mem_cons_self
    obtain ⟨tok, i⟩ := l
    cases tok with
    | endOfInput => exact absurd rfl hl
    | rparen => exact run_bind_of_ok hb
    | _ => rfl

theorem continueSentence_ok {left : Option Proposition} (hs : s.stream.Ahead ls n)
    (h : (continueSentence D left).run s = .ok o t) :
    (∃ p i rest q, left = some p ∧ ls = ⟨.disj, i⟩ :: rest ∧ o = some (.disj p q) ∧
      (D ⟨.disj, i⟩ .sentence).run s.advance = .ok (some q) t) ∨
    (o = left ∧ t = s.giveBack .sentence ∧ Rule.sentence.StopsAt ls) := by
  rw [run_continueSentence hs] at h
  cases ls with
  | nil =>
    cases h
    exact .inr ⟨rfl, rfl, by simp [StopsAt]⟩
  | cons l rest =>
    obtain ⟨tok, i⟩ := l
    cases tok with
    | disj =>
      obtain ⟨q, u, hd, h⟩ := bind_ok.1 h
      cases left with
      | none => cases h
      | some p =>
        cases h
        exact .inl ⟨p, i, rest, q, rfl, rfl, rfl, operand_ok hd⟩
    | rparen =>
      cases h
      exact .inr ⟨rfl, rfl, by simp [StopsAt]⟩
    | _ => cases h

theorem run_continueSentence_of_stopsAt {left : Option Proposition} (hs : s.stream.Ahead ls n)
    (hstop : Rule.sentence.StopsAt ls) :
    (continueSentence D left).run s = .ok left (s.giveBack .sentence) := by
  rw [run_continueSentence hs]
  cases ls with
  | nil => rfl
  | cons l rest =>
    obtain ⟨tok, i⟩ := l
    cases hstop _ rfl
    rfl

end Rule

end TruthTable
