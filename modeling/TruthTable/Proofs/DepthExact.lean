import TruthTable.Proofs.Completion
import TruthTable.Proofs.LimitLaws

/-!
# Where the nesting limit strikes

A text is nested too deeply at its first lexeme that opens a scope where as
many scopes are open as the limit allows. A lower limit finds such a lexeme
earlier and changes nothing else.
-/

namespace TruthTable

/-- Behind `before` the lexeme `l` opens a scope with `d` scopes open around
it. The text can be read up to there, and no lexeme before it stands as deep. -/
structure OpensAtDepth (d : Nat) (text : List Char) (before : List Lexeme) (l : Lexeme) :
    Prop where
  place : ∃ after, symbols text = before ++ l :: after
  opener : l.token = .neg ∨ l.token = .conj ∨ l.token = .disj ∨ l.token = .lparen
  depth : ((Outline.behind before).around l.token).length = d
  reached : ∀ earlier m later, before ++ [l] = earlier ++ m :: later →
    (Outline.behind earlier).continues m.token
  first : ∀ earlier m later, before = earlier ++ m :: later → m.token.scope?.isSome →
    ((Outline.behind earlier).around m.token).length < d

variable {d d' : Nat} {text : List Char} {before : List Lexeme} {l l' : Lexeme}

theorem Token.isSome_scope?_iff {t : Token} :
    t.scope?.isSome ↔ t = .neg ∨ t = .conj ∨ t = .disj ∨ t = .lparen := by
  cases t <;> simp [Token.scope?]

namespace Outline

variable {o : Outline} {ts : List Token}

-- ---------------------------------------------------------------------------
-- How many scopes are open
-- ---------------------------------------------------------------------------

theorem length_around_le (o : Outline) (t : Token) : (o.around t).length ≤ o.scopes.length :=
  (List.dropWhile_suffix _).length_le

theorem length_push_le (o : Outline) (t : Token) :
    (o.push t).scopes.length ≤ (o.around t).length + t.scope?.toList.length := by
  cases t <;> simp [push, Token.scope?]

theorem length_pushAll_le (o : Outline) (ts : List Token) :
    (o.pushAll ts).scopes.length ≤ o.scopes.length + ts.length := by
  induction ts generalizing o with
  | nil => exact Nat.le_refl _
  | cons t ts ih =>
    have hpush := o.length_push_le t
    have haround := o.length_around_le t
    have hone : t.scope?.toList.length ≤ 1 := by cases t.scope? <;> simp
    have hrest := ih (o.push t)
    rw [pushAll_cons, List.length_cons]
    omega

theorem length_behind_le (ls : List Lexeme) : (behind ls).scopes.length ≤ ls.length := by
  have h := start.length_pushAll_le (ls.map Lexeme.token)
  rwa [List.length_map, show start.scopes.length = 0 from rfl, Nat.zero_add] at h

theorem Admits.length_le (h : o.Admits d ts) (ho : o.scopes.length ≤ d) :
    (o.pushAll ts).scopes.length ≤ d := by
  induction ts generalizing o with
  | nil => exact ho
  | cons t ts ih =>
    refine ih h.2 ?_
    have hpush := o.length_push_le t
    have haround := o.length_around_le t
    have hdeep := h.1.2
    cases hs : t.scope? with
    | none =>
      rw [hs] at hpush
      exact hpush.trans (haround.trans ho)
    | some c =>
      rw [hs] at hpush hdeep
      exact hpush.trans (hdeep rfl)

end Outline

open Outline

-- ---------------------------------------------------------------------------
-- The lexeme that is too deep
-- ---------------------------------------------------------------------------

namespace OpensAtDepth

theorem split (h : OpensAtDepth d text before l) :
    ∃ after, lexemes text = before ++ l :: after := by
  obtain ⟨after, hsymbols⟩ := h.place
  exact ⟨_, by rw [lexemes_eq, hsymbols, List.append_assoc, List.cons_append]⟩

theorem continues (h : OpensAtDepth d text before l) : (behind before).continues l.token :=
  h.reached before l [] rfl

theorem admits (h : OpensAtDepth d text before l) :
    start.Admits d (before.map Lexeme.token) := by
  refine admits_iff_forall.2 fun earlier m later hm => ⟨?_, h.first earlier m later hm⟩
  exact h.reached earlier m (later ++ [l]) (by rw [hm, List.append_assoc, List.cons_append])

theorem levels (h : OpensAtDepth d text before l) :
    (∃ rest p, Derives .sentence (d + 1)
        ((tokens text).take (before.length + 1) ++ tokens rest) p) ∧
      ∀ us p, ¬ Derives .sentence d ((tokens text).take (before.length + 1) ++ us) p := by
  obtain ⟨after, hsplit⟩ := h.split
  have hs := Token.isSome_scope?_iff.2 h.opener
  have htake := take_tokens_succ hsplit fun hend => by simp [hend, Token.scope?] at hs
  constructor
  · refine admits_take_iff.1 ?_
    rw [htake]
    have hl : (behind before).Allows (d + 1) l.token :=
      ⟨h.continues, fun _ => Nat.lt_succ_of_le h.depth.le⟩
    exact admits_append.2 ⟨h.admits.mono (Nat.le_succ d), hl, trivial⟩
  · intro us p hp
    rw [htake] at hp
    have hl := (admits_append.1 (admits_append.1 (admits_append.1
      (admits_of_derives hp le_rfl)).1).1).2.1
    exact absurd h.depth (Nat.ne_of_lt (hl.2 hs))

end OpensAtDepth

theorem tooDeep_iff :
    parseWithin d text = .error (.malformed .tooDeep l) ↔
      ∃ before, OpensAtDepth d text before l := by
  rw [parseWithin_eq_error_iff, firstFault?_eq_some_iff]
  constructor
  · rintro ⟨before, m, after, hsplit, hbefore, hm⟩
    obtain ⟨rfl, hcont, hs, hle⟩ := fault?_eq_tooDeep_iff.1 hm
    have hopen : (behind before).scopes.length ≤ d := hbefore.length_le (Nat.zero_le d)
    have hdepth := Nat.le_antisymm ((length_around_le _ _).trans hopen) hle
    -- one more level would do for the text up to the lexeme
    have hreached : start.Admits (d + 1) ((before ++ [l]).map Lexeme.token) := by
      rw [List.map_append]
      exact admits_append.2 ⟨hbefore.mono (Nat.le_succ d),
        ⟨hcont, fun _ => Nat.lt_succ_of_le hdepth.le⟩, trivial⟩
    refine ⟨before, ?_, Token.isSome_scope?_iff.1 hs, hdepth, ?_, ?_⟩
    · rcases symbols_of_lexemes hsplit with hsymbols | ⟨-, rfl⟩
      · exact hsymbols
      · cases hs
    · exact fun earlier m later h => (admits_iff_forall.1 hreached earlier m later h).1
    · exact fun earlier m later h => (admits_iff_forall.1 hbefore earlier m later h).2
  · rintro ⟨before, h⟩
    obtain ⟨after, hsplit⟩ := h.split
    have hs := Token.isSome_scope?_iff.2 h.opener
    exact ⟨before, l, after, hsplit, h.admits,
      fault?_eq_tooDeep_iff.2 ⟨rfl, h.continues, hs, h.depth.ge⟩⟩

-- ---------------------------------------------------------------------------
-- Two limits
-- ---------------------------------------------------------------------------

theorem position_le_of_tooDeep (hd : d ≤ d')
    (h : parseWithin d text = .error (.malformed .tooDeep l))
    (h' : parseWithin d' text = .error (.malformed .tooDeep l')) :
    l.position ≤ l'.position := by
  obtain ⟨before, hl⟩ := tooDeep_iff.1 h
  obtain ⟨before', hl'⟩ := tooDeep_iff.1 h'
  obtain ⟨after, hsplit⟩ := hl.split
  obtain ⟨after', hsplit'⟩ := hl'.split
  rcases List.append_eq_append_iff.1 (hsplit.symm.trans hsplit') with
    ⟨between, hbefore, hafter⟩ | ⟨between, hbefore, hafter⟩
  · cases between with
    | nil =>
      cases hafter
      exact Nat.le_refl _
    | cons m between =>
      cases hafter
      have hpairwise := pairwise_position_lexemes text
      rw [hsplit, List.pairwise_append, List.pairwise_cons] at hpairwise
      exact Nat.le_of_lt (hpairwise.2.1.1 l' (by simp))
  · cases between with
    | nil =>
      cases hafter
      exact Nat.le_refl _
    | cons m between =>
      cases hafter
      -- what is too deep for the higher limit was read under the lower one
      have hs := Token.isSome_scope?_iff.2 hl'.opener
      have hlt := hl.first before' l' between hbefore hs
      rw [hl'.depth] at hlt
      exact absurd hd (Nat.not_le_of_lt hlt)

theorem not_tooDeep_of_length_le (h : (tokens text).length ≤ d) :
    parseWithin d text ≠ .error (.malformed .tooDeep l) := by
  intro hdeep
  obtain ⟨before, hl⟩ := tooDeep_iff.1 hdeep
  obtain ⟨after, hsymbols⟩ := hl.place
  have hle : d ≤ before.length :=
    hl.depth ▸ (length_around_le _ _).trans (length_behind_le before)
  rw [← map_token_symbols, hsymbols, List.length_map, List.length_append, List.length_cons] at h
  omega

/-- The nesting limit cuts parsing off and changes nothing else. -/
theorem limit_cuts_off (hd : d ≤ d') (text : List Char) :
    ((∃ l, parseWithin d text = .error (.malformed .tooDeep l)) ∨
      parseWithin d text = parseWithin d' text) ∧
    (∀ l', parseWithin d' text = .error (.malformed .tooDeep l') →
      ∃ l, parseWithin d text = .error (.malformed .tooDeep l) ∧ l.position ≤ l'.position) ∧
    ((text.filter fun c => !Unicode.isWhiteSpace c).length ≤ d →
      ∀ l, parseWithin d text ≠ .error (.malformed .tooDeep l)) ∧
    ∀ l, parseWithin d text = .error (.malformed .tooDeep l) ↔
      ∃ before, OpensAtDepth d text before l := by
  refine ⟨parseWithin_of_le hd text, fun l' h' => ?_, fun h l => ?_, fun l => tooDeep_iff⟩
  · rcases parseWithin_of_le hd text with ⟨l, h⟩ | heq
    · exact ⟨l, h, position_le_of_tooDeep hd h h'⟩
    · exact ⟨l', heq.trans h', Nat.le_refl _⟩
  · exact not_tooDeep_of_length_le (by rwa [tokens, List.length_map])

/-- The higher limit strikes at an operator inside the group, the lower one
already at the group. -/
theorem limit_cuts_off_nested :
    1 ≤ 2 ∧
    parseWithin 2 ['p', '&', '(', 'q', '|', 'r'] = .error (.malformed .tooDeep ⟨.disj, 4⟩) ∧
    (∃ l, parseWithin 1 ['p', '&', '(', 'q', '|', 'r'] = .error (.malformed .tooDeep l) ∧
      l.position ≤ 4) ∧
    ∃ before, OpensAtDepth 1 ['p', '&', '(', 'q', '|', 'r'] before ⟨.lparen, 2⟩ := by
  have hle : 1 ≤ 2 := by decide
  have hlow : parseWithin 1 ['p', '&', '(', 'q', '|', 'r'] =
      .error (.malformed .tooDeep ⟨.lparen, 2⟩) := by decide +kernel
  have hhigh : parseWithin 2 ['p', '&', '(', 'q', '|', 'r'] =
      .error (.malformed .tooDeep ⟨.disj, 4⟩) := by decide +kernel
  obtain ⟨-, hposition, -, hdepth⟩ := limit_cuts_off hle ['p', '&', '(', 'q', '|', 'r']
  exact ⟨hle, hhigh, hposition _ hhigh, (hdepth _).1 hlow⟩

end TruthTable
