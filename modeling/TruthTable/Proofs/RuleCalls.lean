import TruthTable.Proofs.ParseExact
import TruthTable.Proofs.SessionLaws

/-!
# Calls of rules

Which rules are called while a text is read, and in which session each of them
starts. A rule hands its own session on to the rule that its phrase begins with,
and asks its descent for what lies one level deeper. That this is all a rule
does is told by `read_congr` and `read_error_of_uses`: how it runs depends on
its descent where it asks and nowhere else, and an error there is its own.
-/

namespace TruthTable

open ParseM Session

variable {levels k : Nat} {text : List Char} {r q : Rule} {s t : Session} {l : Lexeme}
variable {D D' : Descent}

-- ---------------------------------------------------------------------------
-- Calls
-- ---------------------------------------------------------------------------

namespace Rule

/-- A rule begins with another one, on the same level. -/
inductive HandsOn : Rule → Session → Rule → Session → Prop
  | clause (s : Session) : HandsOn .sentence s .clause s
  | atom (s : Session) : HandsOn .clause s .atom s
  | term {s : Session} (h : s.stream.next.1.token ≠ .neg) : HandsOn .atom s .term (s.giveBack .atom)

/-- A rule asks its descent for a phrase, after the token that opens it. -/
inductive Asks (D : Descent) : Rule → Session → Lexeme → Rule → Session → Prop
  | neg {s : Session} (h : s.stream.next.1.token = .neg) :
      Asks D .atom s s.stream.next.1 .atom s.advance
  | group {s : Session} (h : s.stream.next.1.token = .lparen) :
      Asks D .term s s.stream.next.1 .sentence s.advance
  | conj {s t : Session} {p : Proposition} (hleft : (readAtom D).run s = .ok (some p) t)
      (h : t.stream.next.1.token = .conj) :
      Asks D .clause s t.stream.next.1 .clause t.advance
  | disj {s t : Session} {left : Option Proposition} (hleft : (readClause D).run s = .ok left t)
      (h : t.stream.next.1.token = .disj) :
      Asks D .sentence s t.stream.next.1 .sentence t.advance

/-- The rule asks, or one that it has handed on to. -/
inductive Uses (D : Descent) : Rule → Session → Lexeme → Rule → Session → Prop
  | asks {r q : Rule} {s t : Session} {l : Lexeme} : r.Asks D s l q t → Uses D r s l q t
  | handedOn {r r' q : Rule} {s s' t : Session} {l : Lexeme} :
      r.HandsOn s r' s' → Uses D r' s' l q t → Uses D r s l q t

end Rule

/-- The rule is called with `k` levels left, in the session `s`. -/
inductive Entered (levels : Nat) (text : List Char) : Nat → Rule → Session → Prop
  | whole : Entered levels text levels .sentence (.ofList text)
  | handedOn {k : Nat} {r q : Rule} {s t : Session} :
      Entered levels text k r s → r.HandsOn s q t → Entered levels text k q t
  | asked {k : Nat} {r q : Rule} {s t : Session} {l : Lexeme} :
      Entered levels text (k + 1) r s → r.Asks (Rule.descend (k + 1)) s l q t →
        Entered levels text k q t.below

-- ---------------------------------------------------------------------------
-- Only what is asked matters
-- ---------------------------------------------------------------------------

namespace Rule

theorem operand_congr (h : (D l r).run s = (D' l r).run s) :
    (operand D l r).run s = (operand D' l r).run s :=
  run_bind_congr h

theorem readTerm_congr
    (h : ∀ {l q t}, Rule.term.Uses D s l q t → (D l q).run t = (D' l q).run t) :
    (readTerm D).run s = (readTerm D').run s := by
  rw [readTerm, readTerm, run_next_bind, run_next_bind]
  cases hl : s.stream.next.1.token with
  | lparen => exact run_bind_congr (h (.asks (.group hl)))
  | _ => rfl

theorem run_readAtom_of_handsOn (hl : s.stream.next.1.token ≠ .neg) :
    (readAtom D).run s = (readTerm D).run (s.giveBack .atom) := by
  rw [readAtom, run_next_bind, giveBack]
  cases htok : s.stream.next.1.token with
  | neg => exact absurd htok hl
  | _ => rfl

theorem readAtom_congr
    (h : ∀ {l q t}, Rule.atom.Uses D s l q t → (D l q).run t = (D' l q).run t) :
    (readAtom D).run s = (readAtom D').run s := by
  by_cases hl : s.stream.next.1.token = .neg
  · rw [readAtom, readAtom, run_next_bind, run_next_bind, hl]
    exact run_bind_congr (operand_congr (h (.asks (.neg hl))))
  · rw [run_readAtom_of_handsOn hl, run_readAtom_of_handsOn hl]
    exact readTerm_congr fun huses => h (.handedOn (.term hl) huses)

theorem readClause_congr
    (h : ∀ {l q t}, Rule.clause.Uses D s l q t → (D l q).run t = (D' l q).run t) :
    (readClause D).run s = (readClause D').run s := by
  have hatom := readAtom_congr fun huses => h (.handedOn (.atom s) huses)
  refine (run_bind_congr_right fun left t hleft => ?_).trans (run_bind_congr hatom)
  rw [run_next_bind, run_next_bind]
  cases left with
  | none => rfl
  | some p =>
    cases hl : t.stream.next.1.token with
    | conj => exact run_bind_congr (operand_congr (h (.asks (.conj hleft hl))))
    | _ => rfl

theorem readSentence_congr
    (h : ∀ {l q t}, Rule.sentence.Uses D s l q t → (D l q).run t = (D' l q).run t) :
    (readSentence D).run s = (readSentence D').run s := by
  have hclause := readClause_congr fun huses => h (.handedOn (.clause s) huses)
  refine (run_bind_congr_right fun left t hleft => ?_).trans (run_bind_congr hclause)
  rw [run_next_bind, run_next_bind]
  cases hl : t.stream.next.1.token with
  | disj => exact run_bind_congr (operand_congr (h (.asks (.disj hleft hl))))
  | _ => rfl

/-- Descents that do the same wherever the rule uses them are the same to it. -/
theorem read_congr (h : ∀ {l q t}, r.Uses D s l q t → (D l q).run t = (D' l q).run t) :
    (r.read D).run s = (r.read D').run s := by
  cases r with
  | sentence => exact readSentence_congr h
  | clause => exact readClause_congr h
  | atom => exact readAtom_congr h
  | term => exact readTerm_congr h

theorem Asks.read_error {e : ParseError} {u : Session} (h : r.Asks D s l q t)
    (he : (D l q).run t = .error e u) : (r.read D).run s = .error e u := by
  cases h with
  | neg hl =>
    refine (run_next_bind s).trans ?_
    rw [hl]
    exact run_bind_of_error (run_bind_of_error he)
  | group hl =>
    refine (run_next_bind s).trans ?_
    rw [hl]
    exact run_bind_of_error he
  | conj hleft hl =>
    refine (run_bind_of_ok hleft).trans ((run_next_bind _).trans ?_)
    rw [hl]
    exact run_bind_of_error (run_bind_of_error he)
  | disj hleft hl =>
    refine (run_bind_of_ok hleft).trans ((run_next_bind _).trans ?_)
    rw [hl]
    exact run_bind_of_error (run_bind_of_error he)

theorem HandsOn.read_error {e : ParseError} {u : Session} (h : r.HandsOn s q t)
    (he : (q.read D).run t = .error e u) : (r.read D).run s = .error e u := by
  cases h with
  | clause => exact run_bind_of_error he
  | atom => exact run_bind_of_error he
  | term hl => exact (run_readAtom_of_handsOn hl).trans he

theorem read_error_of_uses {e : ParseError} {u : Session} (h : r.Uses D s l q t)
    (he : (D l q).run t = .error e u) : (r.read D).run s = .error e u := by
  induction h with
  | asks hasks => exact hasks.read_error he
  | handedOn hhands _ ih => exact hhands.read_error (ih he)

end Rule

-- ---------------------------------------------------------------------------
-- Where rules are entered
-- ---------------------------------------------------------------------------

namespace Rule

theorem HandsOn.steps (h : r.HandsOn s q t) : Steps s t := by
  cases h with
  | clause | atom => exact .refl
  | term => exact .single (.giveBack s .atom)

theorem Asks.steps (hD : ∀ l r, Stepwise (D l r)) (h : r.Asks D s l q t) :
    ∃ u, Steps s u ∧ u.stream.next.1 = l ∧ l.token ≠ .endOfInput ∧ t = u.advance := by
  cases h with
  | neg hl => exact ⟨s, .refl, rfl, by simp [hl], rfl⟩
  | group hl => exact ⟨s, .refl, rfl, by simp [hl], rfl⟩
  | @conj s u p hleft hl =>
    have hsteps := Stepwise.readAtom hD s
    rw [after_of_ok hleft] at hsteps
    exact ⟨u, hsteps, rfl, by simp [hl], rfl⟩
  | @disj s u left hleft hl =>
    have hsteps := Stepwise.readClause hD s
    rw [after_of_ok hleft] at hsteps
    exact ⟨u, hsteps, rfl, by simp [hl], rfl⟩

end Rule

namespace Entered

theorem depth_add (h : Entered levels text k r s) : s.depth + k = levels := by
  induction h with
  | whole => exact Nat.zero_add levels
  | handedOn _ hhands ih => rw [hhands.steps.depth_eq, ih]
  | @asked k r q s t l _ hasks ih =>
    obtain ⟨u, hu, -, -, rfl⟩ := hasks.steps (Stepwise.descend (k + 1))
    rw [← ih, ← hu.depth_eq]
    change u.depth + 1 + k = _
    omega

/-- What holds at the start, and is kept by steps and on the way down, holds
wherever a rule is called. -/
theorem keeps {P : Session → Prop} (hstart : P (.ofList text))
    (hstep : ∀ {s t}, Step s t → P s → P t) (hbelow : ∀ {s}, P s → P s.below)
    (h : Entered levels text k r s) : P s := by
  induction h with
  | whole => exact hstart
  | handedOn _ hhands ih => exact hhands.steps.keeps hstep ih
  | @asked k _ _ _ _ _ _ hasks ih =>
    obtain ⟨u, hu, -, -, rfl⟩ := hasks.steps (Stepwise.descend (k + 1))
    exact hbelow (hstep (.advance u) (hu.keeps hstep ih))

theorem ended (h : Entered levels text k r s) : s.stream.ended = false :=
  h.keeps (P := fun s => s.stream.ended = false) rfl Step.ended id

theorem at_lexeme (h : Entered levels text k r s) : ∃ i, s.stream.At text i :=
  h.keeps (P := fun s => ∃ i, s.stream.At text i) ⟨0, TokenStream.at_ofList text⟩
    Step.at_lexeme id

end Entered

end TruthTable
