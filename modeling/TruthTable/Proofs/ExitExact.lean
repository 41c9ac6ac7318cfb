import TruthTable.Proofs.OutlineExact
import TruthTable.Proofs.RuleCalls

/-!
# Where rules leave off

`called_rule_leavesOff`: whatever rule is called while a text is read, one that
finds nothing has left everything as it was, and one that finds a phrase knows
what may stand behind it. So there are tokens that a rule never meets: no `|`
behind a missing clause, and behind a sentence nothing but a closing parenthesis
and the end.
-/

namespace TruthTable

open ParseM Session

variable {levels k n : Nat} {text : List Char} {r : Rule} {s t : Session} {ls : List Lexeme}
variable {o : Option Proposition} {p : Proposition}

/-- How the rule leaves off, when it is called in the session `s` with `k` levels
left, and what it does not meet on the way. -/
structure Rule.LeavesOff (r : Rule) (k : Nat) (s : Session) : Prop where
  /-- Nothing was taken, and there is nothing to take. -/
  nothing {t : Session} : (r.read (Rule.descend k)).run s = .ok none t →
    t.stream.drain.1 = s.stream.drain.1 ∧ t.stream.next.1.token = .endOfInput
  sentence {p : Proposition} {t : Session} : r = .sentence →
    (r.read (Rule.descend k)).run s = .ok (some p) t →
    t.stream.next.1.token = .rparen ∨ t.stream.next.1.token = .endOfInput
  clause {p : Proposition} {t : Session} : r = .clause →
    (r.read (Rule.descend k)).run s = .ok (some p) t → t.stream.next.1.token ≠ .conj
  /-- A missing clause has no `|` behind it. -/
  left {t : Session} : r = .sentence →
    (Rule.readClause (Rule.descend k)).run s = .ok none t → t.stream.next.1.token ≠ .disj
  /-- Behind the interior of a group is its parenthesis, or the end. -/
  closing {interior : Option Proposition} {t : Session} : r = .term →
    s.stream.next.1.token = .lparen →
    (Rule.descend k s.stream.next.1 .sentence).run s.advance = .ok interior t →
    (interior.isSome ∧ t.stream.next.1.token = .rparen) ∨ t.stream.next.1.token = .endOfInput

theorem leaves_nothing (hs : s.stream.Ahead ls n) (he : s.stream.ended = false)
    (h : (r.read (Rule.descend k)).run s = .ok none t) :
    t.stream.drain.1 = s.stream.drain.1 ∧ t.stream.next.1.token = .endOfInput := by
  have hsteps := steps_read k r s
  rw [after_of_ok h] at hsteps
  cases read_finds (grounded_descend k) r hs h with
  | nothing hls ht _ =>
    subst hls
    rw [ht.drain (hsteps.keeps Step.ended he), hs.drain he, ht.next.1]
    exact ⟨rfl, rfl⟩

theorem leaves_sentence (hs : s.stream.Ahead ls n)
    (h : (Rule.sentence.read (Rule.descend k)).run s = .ok o t) :
    (o.isSome ∧ t.stream.next.1.token = .rparen) ∨ t.stream.next.1.token = .endOfInput := by
  cases read_finds (grounded_descend k) .sentence hs h with
  | nothing _ ht _ =>
    right
    rw [ht.next.1]
    rfl
  | phrase taken rest _ _ ht _ =>
    have hstop := read_stops (grounded_descend k) (descend_stops k) .sentence hs h ht
    rw [ht.next.1]
    cases rest with
    | nil => exact .inr rfl
    | cons l rest => exact .inl ⟨rfl, hstop l rfl⟩

theorem leaves_clause (hs : s.stream.Ahead ls n)
    (h : (Rule.clause.read (Rule.descend k)).run s = .ok (some p) t) :
    t.stream.next.1.token ≠ .conj := by
  obtain ⟨rest, ht⟩ := (read_finds (grounded_descend k) .clause hs h).ahead
  have hstop := read_stops (grounded_descend k) (descend_stops k) .clause hs h ht
  rw [ht.next.1]
  cases rest with
  | nil => simp
  | cons l rest => exact hstop l rfl

theorem leaves_interior {l : Lexeme} (hs : s.stream.Ahead ls n)
    (h : (Rule.descend k l .sentence).run s = .ok o t) :
    (o.isSome ∧ t.stream.next.1.token = .rparen) ∨ t.stream.next.1.token = .endOfInput := by
  obtain ⟨_, u, rfl, hread, rfl⟩ := descend_ok h
  exact leaves_sentence (s := s.below) (t := u) hs hread

/-- Every call of a rule leaves off as it should. So where a sentence was read,
and more than the end is left, there was one and a stray parenthesis is next. -/
theorem called_rule_leavesOff (h : Entered levels text k r s) :
    r.LeavesOff k s ∧
      ∀ {root t}, (Rule.sentence.read (Rule.descend levels)).run (.ofList text) = .ok root t →
        t.stream.next.1.token ≠ .endOfInput → root.isSome ∧ t.stream.next.1.token = .rparen := by
  obtain ⟨i, hs⟩ := h.at_lexeme
  refine ⟨?_, ?_⟩
  · constructor
    case nothing => exact leaves_nothing hs h.ended
    case sentence =>
      rintro p t rfl hread
      exact (leaves_sentence hs hread).imp_left And.right
    case clause =>
      rintro p t rfl hread
      exact leaves_clause hs hread
    case left =>
      intro t _ hleft
      rw [(leaves_nothing (r := .clause) hs h.ended hleft).2]
      simp
    case closing =>
      intro interior t _ _ hinterior
      exact leaves_interior (ahead_advance hs) hinterior
  · intro root t hread hend
    exact (leaves_sentence (ahead_ofList text) hread).resolve_right hend

theorem called_rule_leavesOff_neg :
    Entered 1 ['~', 'p', ')'] 0 .atom (Session.ofList ['~', 'p', ')']).advance.below ∧
      Rule.atom.LeavesOff 0 (Session.ofList ['~', 'p', ')']).advance.below ∧
      ∃ t, (Rule.sentence.read (Rule.descend 1)).run (.ofList ['~', 'p', ')']) =
          .ok (some (.neg (.var 'p'))) t ∧
        t.stream.next.1.token = .rparen := by
  have hcall : Entered 1 ['~', 'p', ')'] 0 .atom (Session.ofList ['~', 'p', ')']).advance.below :=
    .asked (.handedOn (.handedOn .whole (.clause _)) (.atom _)) (.neg (by decide +kernel))
  obtain ⟨hexit, hwhole⟩ := called_rule_leavesOff hcall
  have hsymbols : symbols ['~', 'p', ')'] =
      [⟨.neg, 0⟩, ⟨.var 'p', 1⟩] ++ [⟨.rparen, 2⟩] := by decide +kernel
  have hs := ahead_ofList ['~', 'p', ')']
  rw [hsymbols] at hs
  have hp : Derives .sentence 1 [.neg, .var 'p'] (.neg (.var 'p')) :=
    .ofClause (.ofAtom (.neg (.ofTerm (.var 'p'))))
  obtain ⟨t, ht, hrest⟩ := reads_of_derives hp rfl (by simp [Rule.StopsAt]) hs
  refine ⟨hcall, hexit, t, ht, (hwhole ht ?_).2⟩
  rw [hrest.next.1]
  simp

end TruthTable
