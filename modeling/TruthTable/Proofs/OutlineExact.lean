import TruthTable.Proofs.OutlineLaws
import TruthTable.Proofs.ParseExact

/-!
# The parser fails at the first fault

`parseWithin_eq_error_iff`: the error of the parser is that of the first lexeme
at fault, so it depends on nothing behind this lexeme. A rule can fail at its
own tokens, at the first token behind its phrase, or further down; each time
the outline before that token is known, for what was read so far is derived.
-/

namespace TruthTable

open ParseM Session

-- ---------------------------------------------------------------------------
-- Where a phrase ends
-- ---------------------------------------------------------------------------

theorem TokenStream.Ahead.unique {s : TokenStream} {ls ms : List Lexeme} {m n : Nat}
    (h : s.Ahead ls n) (h' : s.Ahead ms m) : ls = ms := by
  cases h with
  | unread hp =>
    cases h' with
    | unread => rfl
    | pending hp' => cases hp.symm.trans hp'
    | atEnd hp' => cases hp.symm.trans hp'
  | pending hp hl =>
    cases h' with
    | unread hp' => cases hp.symm.trans hp'
    | pending hp' =>
      cases hp.symm.trans hp'
      rfl
    | atEnd hp' =>
      cases hp.symm.trans hp'
      exact absurd rfl hl
  | atEnd hp hu =>
    cases h' with
    | unread hp' => cases hp.symm.trans hp'
    | pending hp' hl' =>
      cases hp.symm.trans hp'
      exact absurd rfl hl'
    | atEnd => rfl

theorem Found.ahead {r : Rule} {k n : Nat} {s t : Session} {ls : List Lexeme}
    {o : Option Proposition} (h : Found r k s t ls n o) : ∃ rest, t.stream.Ahead rest n := by
  cases h with
  | nothing _ ht _ => exact ⟨[], ht⟩
  | phrase _ rest _ _ ht _ => exact ⟨rest, ht⟩

def Stops (m : ParseM (Option Proposition)) (r : Rule) : Prop :=
  ∀ {s t : Session} {ls rest : List Lexeme} {j n : Nat} {p : Proposition},
    s.stream.Ahead ls n → m.run s = .ok (some p) t → t.stream.Ahead rest j → r.StopsAt rest

section
variable {D : Descent} {levels : Nat}

theorem readClause_stops (hG : Grounded D levels) (hD : ∀ l, Stops (D l .clause) .clause) :
    Stops (Rule.readClause D) .clause := by
  intro s t ls rest j n p hs h ht
  obtain ⟨left, u, ha, h⟩ := Rule.readClause_ok h
  obtain ⟨behind, hu⟩ := (readAtom_finds hG hs ha).ahead
  rcases Rule.continueClause_ok hu h with ⟨_, i, _, q, -, rfl, -, hd⟩ | ⟨rfl, rfl, hstop⟩
  · exact hD _ (ahead_advance hu) hd ht
  · rw [ht.unique (ahead_giveBack hu)]
    exact hstop rfl

theorem readSentence_stops (hG : Grounded D levels) (hD : ∀ l, Stops (D l .sentence) .sentence) :
    Stops (Rule.readSentence D) .sentence := by
  intro s t ls rest j n p hs h ht
  obtain ⟨left, u, ha, h⟩ := Rule.readSentence_ok h
  obtain ⟨behind, hu⟩ := (readClause_finds hG hs ha).ahead
  rcases Rule.continueSentence_ok hu h with ⟨_, i, _, q, -, rfl, -, hd⟩ | ⟨rfl, rfl, hstop⟩
  · exact hD _ (ahead_advance hu) hd ht
  · rw [ht.unique (ahead_giveBack hu)]
    exact hstop

theorem read_stops (hG : Grounded D levels) (hD : ∀ l r, Stops (D l r) r) (r : Rule) :
    Stops (r.read D) r := by
  cases r with
  | sentence => exact readSentence_stops hG (hD · _)
  | clause => exact readClause_stops hG (hD · _)
  | atom | term =>
    intro s t ls rest j n p _ _ _
    trivial

end

theorem descend_stops (levels : Nat) (l : Lexeme) (r : Rule) :
    Stops (Rule.descend levels l r) r := by
  induction levels generalizing l r with
  | zero =>
    intro s t ls rest j n p _ h
    obtain ⟨k, _, hk, -⟩ := descend_ok h
    cases hk
  | succ levels ih =>
    intro s t ls rest j n p hs h ht
    obtain ⟨k, u, hk, h, rfl⟩ := descend_ok h
    cases hk
    exact read_stops (grounded_descend levels) ih r (s := s.below) hs h ht

namespace Outline

variable {limit k n i : Nat} {o : Outline} {c : Scope} {r : Rule} {l : Lexeme}
variable {ls taken : List Lexeme} {s t : Session} {e : ParseError} {p : Proposition}

-- ---------------------------------------------------------------------------
-- Faults at the end
-- ---------------------------------------------------------------------------

theorem faultAtEnd_push {tok : Token} (h : tok.scope? = some c) (hc : c ≠ .group) :
    (o.push tok).faultAtEnd = .unexpectedEnd := by
  cases tok <;> cases h <;> first | rfl | exact absurd rfl hc

theorem faultAtEnd_of_completed (h : o.expectsOperand = false) :
    o.faultAtEnd = .missingClosingParenthesis := by
  obtain ⟨last, scopes⟩ := o
  cases last with
  | none => cases h
  | some tok => cases tok <;> first | rfl | cases h

theorem firstFault?_phrase (hp : Derives r k (taken.map Lexeme.token) p)
    (ho : o.expectsOperand = true) (hfit : r.Fits o.scopes) (hk : o.scopes.length + k = limit) :
    ∃ o', Completes r o o' ∧
      ∀ ls, o.firstFault? limit (taken ++ ls) = o'.firstFault? limit ls := by
  obtain ⟨hts, hdone⟩ := settles_of_derives hp ho hfit hk.le
  exact ⟨_, hdone, firstFault?_append hts⟩

-- ---------------------------------------------------------------------------
-- Where a rule fails there is a fault
-- ---------------------------------------------------------------------------

/-- The lexeme opens a scope where `k` levels are left. -/
structure Opens (limit k : Nat) (o : Outline) (l : Lexeme) (c : Scope) : Prop where
  scope : l.token.scope? = some c
  continues : o.continues l.token = true
  levels : (o.around l.token).length + k = limit

namespace Opens

theorem allows (h : Opens limit (k + 1) o l c) : o.Allows limit l.token := by
  refine ⟨h.continues, fun _ => ?_⟩
  have hk := h.levels
  omega

theorem fault?_eq (h : Opens limit 0 o l c) : o.fault? limit l = some (.malformed .tooDeep l) :=
  fault?_of_le h.continues (by simp [h.scope]) h.levels.ge

theorem length_push (h : Opens limit (k + 1) o l c) :
    (o.push l.token).scopes.length + k = limit := by
  have hk := h.levels
  rw [push_of_scope? h.scope, List.length_cons]
  omega

theorem fits_push (h : Opens limit k o l c) : c.rule.Fits (o.push l.token).scopes := by
  rw [push_of_scope? h.scope]
  exact c.fits_rule _

end Opens

def DescentFaults (limit k : Nat) : Prop :=
  ∀ {o : Outline} {l : Lexeme} {c : Scope} {s t : Session} {ls : List Lexeme} {n : Nat}
    {e : ParseError}, Opens limit k o l c → s.stream.Ahead ls n →
    (Rule.descend k l c.rule).run s = .error e t →
    o.firstFault? limit (l :: (ls ++ [⟨.endOfInput, n⟩])) = some e

/-- Where the rule fails, its error is that of the first lexeme at fault. -/
def RuleFaults (limit k : Nat) (r : Rule) : Prop :=
  ∀ {o : Outline} {s t : Session} {ls : List Lexeme} {n : Nat} {e : ParseError},
    o.expectsOperand = true → r.Fits o.scopes → o.scopes.length + k = limit →
    s.stream.Ahead ls n → (r.read (Rule.descend k)).run s = .error e t →
    o.firstFault? limit (ls ++ [⟨.endOfInput, n⟩]) = some e

theorem operand_faults (hD : DescentFaults limit k) (hl : Opens limit k o l c) (hc : c ≠ .group)
    (hs : s.stream.Ahead ls n)
    (h : (Rule.operand (Rule.descend k) l c.rule).run s = .error e t) :
    o.firstFault? limit (l :: (ls ++ [⟨.endOfInput, n⟩])) = some e := by
  rcases Rule.operand_error h with h | ⟨u, hd, rfl⟩
  · exact hD hl hs h
  · obtain ⟨j, rfl, hf⟩ := grounded_descend k hs hd
    cases hf with
    | nothing hls hu _ =>
      subst hls
      have hcont : (o.push l.token).continues .endOfInput = false := by
        simp [continues, hl.scope]
      rw [hu.next.1, firstFault?_cons_of_allows hl.allows, ← faultAtEnd_push hl.scope hc]
      exact firstFault?_cons_of_fault? (fault?_of_not_continues hcont) []

theorem closeGroup_faults {interior : Option Proposition} {u : Session}
    (hl : Opens limit k o ⟨.lparen, i⟩ .group) (hs : s.stream.Ahead ls n)
    (hd : (Rule.descend k ⟨.lparen, i⟩ .sentence).run s = .ok interior t)
    (h : (Rule.closeGroup interior).run t = .error e u) :
    o.firstFault? limit (⟨.lparen, i⟩ :: (ls ++ [⟨.endOfInput, n⟩])) = some e := by
  obtain ⟨j, rfl, hf⟩ := grounded_descend k hs hd
  rw [firstFault?_cons_of_allows hl.allows]
  cases hf with
  | nothing hls ht _ =>
    subst hls
    rw [Rule.run_closeGroup ht] at h
    cases h
    exact firstFault?_cons_of_fault? (fault?_of_not_continues rfl) []
  | phrase taken behind hls hp ht _ =>
    have hstop := descend_stops _ _ _ hs hd ht
    rw [Rule.run_closeGroup ht] at h
    cases behind with
    | nil =>
      cases h
      obtain ⟨o', hdone, hfault⟩ := firstFault?_phrase hp rfl hl.fits_push hl.length_push
      -- the group of the parenthesis is still open
      obtain ⟨inner, hscopes, -⟩ := hdone.scopes
      have hcont : o'.continues .endOfInput = false := by
        simp [continues, hscopes, push_of_scope? hl.scope]
      rw [hls, List.append_nil, hfault, ← faultAtEnd_of_completed hdone.expectsOperand]
      exact firstFault?_cons_of_fault? (fault?_of_not_continues hcont) []
    | cons m behind =>
      obtain ⟨tok, i⟩ := m
      cases hstop _ rfl
      cases h

theorem readTerm_faults (hD : DescentFaults limit k) (ho : o.expectsOperand = true)
    (hk : o.scopes.length + k = limit) (hs : s.stream.Ahead ls n)
    (hneg : ∀ l ∈ ls.head?, l.token ≠ .neg)
    (h : (Rule.readTerm (Rule.descend k)).run s = .error e t) :
    o.firstFault? limit (ls ++ [⟨.endOfInput, n⟩]) = some e := by
  rw [Rule.run_readTerm hs] at h
  cases ls with
  | nil => cases h
  | cons l rest =>
    have hend := hs.ne_endOfInput List.mem_cons_self
    obtain ⟨tok, i⟩ := l
    cases tok with
    | var | constant => cases h
    | neg => exact absurd rfl (hneg _ rfl)
    | endOfInput => exact absurd rfl hend
    | lparen =>
      have hl : Opens limit k o ⟨.lparen, i⟩ .group := ⟨rfl, ho, o.around_lparen.symm ▸ hk⟩
      rcases bind_error h with h | ⟨interior, u, hd, h⟩
      · exact hD hl (ahead_advance hs) h
      · exact closeGroup_faults hl (ahead_advance hs) hd h
    | rparen | conj | disj | unknown =>
      cases h
      exact firstFault?_cons_of_fault? (fault?_of_not_continues (by simp [continues, ho])) _

theorem readAtom_faults (hD : DescentFaults limit k) : RuleFaults limit k .atom := by
  intro o s t ls n e ho _ hk hs h
  change (Rule.readAtom (Rule.descend k)).run s = .error e t at h
  cases ls with
  | nil =>
    rw [Rule.run_readAtom hs] at h
    exact readTerm_faults hD ho hk (ahead_giveBack hs) (by simp) h
  | cons l rest =>
    by_cases hl : l.token = .neg
    · obtain ⟨tok, i⟩ := l
      cases hl
      rw [Rule.run_readAtom hs] at h
      have hopens : Opens limit k o ⟨.neg, i⟩ .neg := ⟨rfl, ho, o.around_neg.symm ▸ hk⟩
      rcases bind_error h with h | ⟨_, _, _, h⟩
      · exact operand_faults hD hopens (by simp) (ahead_advance hs) h
      · cases h
    · rw [Rule.run_readAtom_of_ne_neg hs hl] at h
      exact readTerm_faults hD ho hk (ahead_giveBack hs) (by simpa using hl) h

theorem readClause_faults (hD : DescentFaults limit k) : RuleFaults limit k .clause := by
  intro o s t ls n e ho hfit hk hs h
  rcases bind_error h with h | ⟨left, u, ha, h⟩
  · exact readAtom_faults hD ho (Rule.fits_atom _) hk hs h
  · change (Rule.continueClause (Rule.descend k) left).run u = .error e t at h
    cases readAtom_finds (grounded_descend k) hs ha with
    | nothing _ hu _ =>
      rw [Rule.run_continueClause hu] at h
      cases h
    | phrase first behind hls hp hu _ =>
      subst hls
      obtain ⟨o', hdone, hfault⟩ := firstFault?_phrase hp ho (Rule.fits_atom _) hk
      rw [Rule.run_continueClause hu] at h
      cases behind with
      | nil => cases h
      | cons m behind =>
        obtain ⟨tok, i⟩ := m
        cases tok with
        | conj =>
          have hopens : Opens limit k o' ⟨.conj, i⟩ .conj :=
            ⟨rfl, by simp [continues, hdone.expectsOperand],
              (hdone.around (hfit _ rfl)).symm ▸ hk⟩
          rw [List.append_assoc, hfault]
          rcases bind_error h with h | ⟨_, _, _, h⟩
          · exact operand_faults hD hopens (by simp) (ahead_advance hu) h
          · cases h
        | _ => cases h

theorem readSentence_faults (hD : DescentFaults limit k) : RuleFaults limit k .sentence := by
  intro o s t ls n e ho hfit hk hs h
  rcases bind_error h with h | ⟨left, u, hc, h⟩
  · exact readClause_faults hD ho hfit.clause hk hs h
  · change (Rule.continueSentence (Rule.descend k) left).run u = .error e t at h
    cases readClause_finds (grounded_descend k) hs hc with
    | nothing _ hu _ =>
      rw [Rule.run_continueSentence hu] at h
      cases h
    | phrase first behind hls hp hu _ =>
      have hstop := readClause_stops (grounded_descend k) (descend_stops k · _) hs hc hu
      subst hls
      obtain ⟨o', hdone, hfault⟩ := firstFault?_phrase hp ho hfit.clause hk
      rw [Rule.run_continueSentence hu] at h
      rw [List.append_assoc, hfault]
      cases behind with
      | nil => cases h
      | cons m behind =>
        have hend := hu.ne_endOfInput List.mem_cons_self
        obtain ⟨tok, i⟩ := m
        cases tok with
        | disj =>
          have hopens : Opens limit k o' ⟨.disj, i⟩ .disj :=
            ⟨rfl, by simp [continues, hdone.expectsOperand],
              (hdone.around (hfit _ rfl)).symm ▸ hk⟩
          rcases bind_error h with h | ⟨_, _, _, h⟩
          · exact operand_faults hD hopens (by simp) (ahead_advance hu) h
          · cases h
        | rparen => cases h
        | endOfInput => exact absurd rfl hend
        | conj => exact absurd rfl (hstop _ rfl)
        | var | constant | neg | lparen | unknown =>
          cases h
          exact firstFault?_cons_of_fault?
            (fault?_of_not_continues (by simp [continues, hdone.expectsOperand])) _

/-- A term alone would refuse the `~` that an atom may start with, but terms
are only read where their atoms are. -/
theorem read_faults (hD : DescentFaults limit k) (hr : r ≠ .term) : RuleFaults limit k r := by
  cases r with
  | sentence => exact readSentence_faults hD
  | clause => exact readClause_faults hD
  | atom => exact readAtom_faults hD
  | term => exact absurd rfl hr

theorem descend_faults (limit k : Nat) : DescentFaults limit k := by
  induction k with
  | zero =>
    intro o l c s t ls n e hl _ h
    cases h
    exact firstFault?_cons_of_fault? hl.fault?_eq _
  | succ k ih =>
    intro o l c s t ls n e hl hs h
    rcases descend_error h with ⟨hk, -⟩ | ⟨j, u, hk, h⟩
    · cases hk
    · cases hk
      rw [firstFault?_cons_of_allows hl.allows]
      exact read_faults ih c.rule_ne_term (by simp [hl.scope]) hl.fits_push hl.length_push
        (s := s.below) hs h

-- ---------------------------------------------------------------------------
-- Whole texts
-- ---------------------------------------------------------------------------

theorem readWhole_faults (hs : s.stream.Ahead ls n) (h : (readWhole k).run s = .error e t) :
    start.firstFault? k (ls ++ [⟨.endOfInput, n⟩]) = some e := by
  have hk : start.scopes.length + k = k := Nat.zero_add k
  rcases bind_error h with h | ⟨root, u, hroot, h⟩
  · exact readSentence_faults (descend_faults k k) rfl (Rule.fits_nil _) hk hs h
  · cases readSentence_finds (grounded_descend k) hs hroot with
    | nothing hls hu _ =>
      subst hls
      rw [run_bind_of_ok (run_next hu)] at h
      cases h
      rfl
    | phrase taken behind hls hp hu _ =>
      have hstop := readSentence_stops (grounded_descend k) (descend_stops k · _) hs hroot hu
      subst hls
      rw [run_bind_of_ok (run_next hu)] at h
      cases behind with
      | nil => cases h
      | cons m behind =>
        obtain ⟨tok, i⟩ := m
        cases hstop _ rfl
        cases h
        obtain ⟨o', hdone, hfault⟩ := firstFault?_phrase hp rfl (Rule.fits_nil _) hk
        rw [List.append_assoc, hfault]
        exact firstFault?_cons_of_fault?
          (fault?_of_not_continues (by simp [continues, hdone.group_notMem])) _

end Outline

section
variable {levels : Nat} {text : List Char} {e : ParseError} {parsed : Parsed}

theorem admits_of_parse (h : parseWithin levels text = .ok parsed) :
    Outline.start.Admits levels ((lexemes text).map Lexeme.token) := by
  obtain ⟨hp, -⟩ := parseWithin_eq_ok.1 h
  rw [lexemes, map_token_lexemesFrom]
  exact Outline.admits_of_derives hp (Nat.le_refl levels)

/-- The parser fails exactly at the first lexeme at fault, and with its error. -/
theorem parseWithin_eq_error_iff :
    parseWithin levels text = .error e ↔
      Outline.start.firstFault? levels (lexemes text) = some e := by
  have hfault {e : ParseError} (h : parseWithin levels text = .error e) :
      Outline.start.firstFault? levels (lexemes text) = some e := by
    unfold parseWithin at h
    split at h
    · cases h
    · next hread =>
      cases h
      rw [lexemes_eq]
      exact Outline.readWhole_faults (ahead_ofList text) hread
  constructor
  · exact hfault
  · intro h
    cases hparse : parseWithin levels text with
    | ok parsed =>
      rw [Outline.firstFault?_eq_none_iff.2 (admits_of_parse hparse)] at h
      cases h
    | error e' =>
      rw [hfault hparse] at h
      cases h
      rfl

theorem parseWithin_ok_iff_admits :
    (∃ parsed, parseWithin levels text = .ok parsed) ↔
      Outline.start.Admits levels ((lexemes text).map Lexeme.token) := by
  constructor
  · rintro ⟨parsed, h⟩
    exact admits_of_parse h
  · intro h
    cases hparse : parseWithin levels text with
    | ok parsed => exact ⟨parsed, rfl⟩
    | error e =>
      rw [parseWithin_eq_error_iff, Outline.firstFault?_eq_none_iff.2 h] at hparse
      cases hparse

end

end TruthTable
