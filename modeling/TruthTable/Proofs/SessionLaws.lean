import Mathlib.Logic.Relation
import TruthTable.Proofs.CursorExact
import TruthTable.Proofs.ParseLaws

/-!
# Steps of a session

Reading takes three kinds of steps: over a token, to a token that is given back
at once, and to a variable that is registered. `steps_read`: however a rule ends,
by an error as well, the session it leaves behind is reached by such steps. So
what each step keeps is kept by every rule.
-/

namespace TruthTable

open ParseM

variable {α β : Type} {m : ParseM α} {f : α → ParseM β} {s t u : Session}

-- ---------------------------------------------------------------------------
-- The session left behind
-- ---------------------------------------------------------------------------

namespace Session

/-- The session in which `m` ends, by a result or by an error. -/
def after (s : Session) (m : ParseM α) : Session :=
  match m.run s with
  | .ok _ t | .error _ t => t

theorem after_of_ok {a : α} (h : m.run s = .ok a t) : s.after m = t := by
  rw [after, h]

theorem after_of_error {e : ParseError} (h : m.run s = .error e t) : s.after m = t := by
  rw [after, h]

theorem after_bind_of_ok {a : α} (h : m.run s = .ok a t) : s.after (m >>= f) = t.after (f a) := by
  rw [after, run_bind_of_ok h]
  rfl

theorem after_bind_of_error {e : ParseError} (h : m.run s = .error e t) :
    s.after (m >>= f) = t :=
  after_of_error (run_bind_of_error h)

theorem after_deeper (m : ParseM α) (s : Session) :
    s.after (deeper m) = (s.below.after m).above := by
  unfold after
  rw [run_deeper]
  cases m.run s.below <;> rfl

-- ---------------------------------------------------------------------------
-- Steps
-- ---------------------------------------------------------------------------

inductive Step : Session → Session → Prop
  | advance (s : Session) : Step s s.advance
  | giveBack (s : Session) (r : Rule) : Step s (s.giveBack r)
  | register (s : Session) (name : Char) :
      Step s { s with names := Variables.appendNew s.names name }

abbrev Steps : Session → Session → Prop :=
  Relation.ReflTransGen Step

theorem Steps.keeps {P : Session → Prop} (hP : ∀ {s t}, Step s t → P s → P t) (h : Steps s t)
    (hs : P s) : P t := by
  induction h with
  | refl => exact hs
  | tail _ hstep ih => exact hP hstep ih

theorem Step.above (h : Step s t) : Step s.above t.above := by
  cases h with
  | advance => exact .advance s.above
  | giveBack r => exact .giveBack s.above r
  | register name => exact .register s.above name

theorem Steps.of_below (h : Steps s.below t) : Steps s t.above :=
  Relation.ReflTransGen.lift above (fun _ _ => Step.above) _ _ h

end Session

open Session

/-- However `m` ends, it has taken steps. -/
def Stepwise (m : ParseM α) : Prop :=
  ∀ s, Steps s (s.after m)

namespace Stepwise

theorem pure (a : α) : Stepwise (Pure.pure a) :=
  fun _ => .refl

theorem throw (e : ParseError) : Stepwise (α := α) (throw e) :=
  fun _ => .refl

theorem bind (hm : Stepwise m) (hf : ∀ a, Stepwise (f a)) : Stepwise (m >>= f) := by
  intro s
  have hs := hm s
  cases h : m.run s with
  | ok a t =>
    rw [after_of_ok h] at hs
    rw [after_bind_of_ok h]
    exact hs.trans (hf a t)
  | error e t =>
    rw [after_of_error h] at hs
    rwa [after_bind_of_error h]

theorem next : Stepwise next :=
  fun s => .single (.advance s)

theorem register (name : Char) : Stepwise (register name) :=
  fun s => .single (.register s name)

theorem position : Stepwise position :=
  fun _ => .refl

theorem deeper (hm : Stepwise m) : Stepwise (deeper m) := by
  intro s
  rw [after_deeper]
  exact (hm s.below).of_below

/-- Giving a token back is no step of its own. It makes one together with the
reading of the token. -/
theorem peek {f : Lexeme → ParseM α}
    (hf : ∀ l, Stepwise (f l) ∨
      ∃ r g, f l = (pushBack r l.token >>= fun _ => g) ∧ Stepwise g) :
    Stepwise (ParseM.next >>= f) := by
  intro s
  change Steps s (s.advance.after (f s.stream.next.1))
  rcases hf s.stream.next.1 with hstep | ⟨r, g, heq, hg⟩
  · exact .head (.advance s) (hstep s.advance)
  · rw [heq]
    exact .head (.giveBack s r) (hg (s.giveBack r))

theorem closeGroup (interior : Option Proposition) : Stepwise (Rule.closeGroup interior) := by
  refine bind next fun l => ?_
  obtain ⟨tok, i⟩ := l
  cases interior <;> cases tok <;> first | exact pure _ | exact throw _

section
variable {D : Descent} (hD : ∀ l r, Stepwise (D l r))
include hD

theorem operand (l : Lexeme) (r : Rule) : Stepwise (r.operand D l) := by
  refine bind (hD l r) fun o => ?_
  cases o with
  | none => exact bind next fun l => throw _
  | some p => exact pure p

theorem readTerm : Stepwise (Rule.readTerm D) := by
  refine peek fun l => ?_
  obtain ⟨tok, i⟩ := l
  cases tok with
  | var name => exact .inl (bind (register name) fun _ => pure _)
  | constant b => exact .inl (pure _)
  | lparen => exact .inl (bind (hD _ _) fun interior => closeGroup interior)
  | endOfInput => exact .inr ⟨.term, _, rfl, pure none⟩
  | _ => exact .inl (throw _)

theorem readAtom : Stepwise (Rule.readAtom D) := by
  refine peek fun l => ?_
  obtain ⟨tok, i⟩ := l
  cases tok with
  | neg => exact .inl (bind (operand hD _ _) fun _ => pure _)
  | _ => exact .inr ⟨.atom, _, rfl, readTerm hD⟩

theorem readClause : Stepwise (Rule.readClause D) := by
  refine bind (readAtom hD) fun left => peek fun l => ?_
  obtain ⟨tok, i⟩ := l
  cases left with
  | none => exact .inr ⟨.clause, _, rfl, pure _⟩
  | some p =>
    cases tok with
    | conj => exact .inl (bind (operand hD _ _) fun _ => pure _)
    | _ => exact .inr ⟨.clause, _, rfl, pure _⟩

theorem readSentence : Stepwise (Rule.readSentence D) := by
  refine bind (readClause hD) fun left => peek fun l => ?_
  obtain ⟨tok, i⟩ := l
  cases tok with
  | disj =>
    refine .inl (bind (operand hD _ _) fun q => ?_)
    cases left with
    | none => exact bind position fun _ => throw _
    | some p => exact pure _
  | rparen | endOfInput => exact .inr ⟨.sentence, _, rfl, pure _⟩
  | _ => exact .inl (throw _)

theorem read (r : Rule) : Stepwise (r.read D) := by
  cases r with
  | sentence => exact readSentence hD
  | clause => exact readClause hD
  | atom => exact readAtom hD
  | term => exact readTerm hD

end

theorem descend (levels : Nat) (l : Lexeme) (r : Rule) : Stepwise (Rule.descend levels l r) := by
  induction levels generalizing l r with
  | zero => exact throw _
  | succ levels ih => exact deeper (read ih r)

theorem readWhole (levels : Nat) : Stepwise (readWhole levels) := by
  refine bind (read (descend levels) .sentence) fun root => bind next fun l => ?_
  obtain ⟨tok, i⟩ := l
  cases root <;> cases tok <;> first | exact pure _ | exact throw _

end Stepwise

theorem steps_read (levels : Nat) (r : Rule) (s : Session) :
    Steps s (s.after (r.read (Rule.descend levels))) :=
  Stepwise.read (Stepwise.descend levels) r s

-- ---------------------------------------------------------------------------
-- What steps keep
-- ---------------------------------------------------------------------------

namespace Session

theorem Steps.depth_eq (h : Steps s t) : t.depth = s.depth := by
  refine h.keeps (P := fun t => t.depth = s.depth) (fun hstep heq => ?_) rfl
  cases hstep <;> exact heq

theorem Step.ended (h : Step s t) (hs : s.stream.ended = false) : t.stream.ended = false := by
  cases h with
  | advance | giveBack => exact (TokenStream.ended_next _).trans hs
  | register => exact hs

theorem Step.at_lexeme {text : List Char} (h : Step s t) (hs : ∃ i, s.stream.At text i) :
    ∃ i, t.stream.At text i := by
  obtain ⟨i, hi⟩ := hs
  cases h with
  | advance => exact ⟨i + 1, hi.next.2⟩
  | giveBack => exact ⟨i, ahead_giveBack hi⟩
  | register => exact ⟨i, hi⟩

end Session

end TruthTable
