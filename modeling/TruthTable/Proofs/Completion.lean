import TruthTable.Proofs.OutlineExact
import TruthTable.Proofs.Positions
import TruthTable.Proofs.RenderLaws

/-!
# Completing a text

A text without a fault begins a sentence: behind it, an operand is written if
one has to come next, and then all groups are closed. This opens no scope, so
the sentence needs no more levels than the text. A token at fault begins none.
-/

namespace TruthTable

namespace Outline

variable {limit k : Nat} {o : Outline} {t : Token} {ts us : List Token} {p : Proposition}

-- ---------------------------------------------------------------------------
-- Closing groups
-- ---------------------------------------------------------------------------

theorem count_group_push_rparen (o : Outline) :
    (o.push .rparen).scopes.count .group = o.scopes.count .group - 1 := by
  change (o.scopes.dropWhile (·.endsAt .rparen)).tail.count .group = _
  induction o.scopes with
  | nil => rfl
  | cons c scopes ih =>
    cases c with
    | group =>
      rw [List.count_cons_self, Nat.add_sub_cancel]
      rfl
    | neg | conj | disj =>
      rw [List.count_cons_of_ne (by simp)]
      exact ih

theorem admits_rparens (ho : o.expectsOperand = false) :
    o.Admits limit (List.replicate (o.scopes.count .group) .rparen ++ [.endOfInput]) := by
  induction hm : o.scopes.count .group generalizing o with
  | zero =>
    refine ⟨allows_of_scope?_eq_none ?_ rfl, trivial⟩
    simp [continues, ho, List.count_eq_zero.1 hm]
  | succ m ih =>
    have hgroup : .group ∈ o.scopes := List.count_pos_iff.1 (by omega)
    refine ⟨allows_of_scope?_eq_none ?_ rfl, ih rfl ?_⟩
    · simp [continues, ho, hgroup]
    · rw [count_group_push_rparen, hm, Nat.add_sub_cancel]

def completion (o : Outline) : List Char :=
  (if o.expectsOperand then ['T'] else []) ++ List.replicate (o.scopes.count .group) ')'

theorem tokens_rparens (n : Nat) : tokens (List.replicate n ')') = List.replicate n .rparen := by
  induction n with
  | zero => rfl
  | succ n ih =>
    rw [List.replicate_succ, tokens_cons tokens_rparen, ih, List.replicate_succ]

theorem admits_completion (limit : Nat) (o : Outline) :
    o.Admits limit (tokens o.completion ++ [.endOfInput]) := by
  rw [completion, tokens_append, tokens_rparens]
  split
  · next ho =>
    have hscopes : (o.push (.constant true)).scopes = o.scopes :=
      around_eq_scopes fun c _ => c.endsAt_constant true
    have hclose : (o.push (.constant true)).Admits limit _ := admits_rparens rfl
    rw [hscopes] at hclose
    exact ⟨allows_of_scope?_eq_none ho rfl, hclose⟩
  · next ho => exact admits_rparens (by simpa using ho)

-- ---------------------------------------------------------------------------
-- Beginnings of sentences
-- ---------------------------------------------------------------------------

theorem derives_of_admits {text : List Char}
    (h : start.Admits limit (tokens text ++ [.endOfInput])) :
    ∃ p, Derives .sentence limit (tokens text) p := by
  rw [← map_token_lexemesFrom 0] at h
  obtain ⟨parsed, hparsed⟩ := parseWithin_ok_iff_admits.2 h
  exact ⟨parsed.root, (parseWithin_eq_ok.1 hparsed).1⟩

theorem exists_tokens_eq_take (text : List Char) (k : Nat) :
    ∃ front, tokens front = (tokens text).take k := by
  refine ⟨(text.filter fun c => !Unicode.isWhiteSpace c).take k, ?_⟩
  rw [tokens, tokens, ← List.map_take, List.filter_eq_self.2]
  intro c hc
  exact (List.mem_filter.1 (List.mem_of_mem_take hc)).2

/-- The first tokens of a text begin a sentence just when none is at fault. -/
theorem admits_take_iff {text : List Char} :
    start.Admits limit ((tokens text).take k) ↔
      ∃ rest p, Derives .sentence limit ((tokens text).take k ++ tokens rest) p := by
  obtain ⟨front, hfront⟩ := exists_tokens_eq_take text k
  rw [← hfront]
  constructor
  · intro h
    refine ⟨(start.pushAll (tokens front)).completion, ?_⟩
    rw [← tokens_append]
    apply derives_of_admits
    rw [tokens_append, List.append_assoc]
    exact admits_append.2 ⟨h, admits_completion limit _⟩
  · rintro ⟨rest, p, h⟩
    exact (admits_append.1 (admits_append.1 (admits_of_derives h le_rfl)).1).1

theorem not_derives_of_not_continues (h : (start.pushAll ts).continues t = false) :
    ¬ Derives .sentence k (ts ++ t :: us) p := by
  intro hp
  have hadmits := (admits_append.1 (admits_of_derives hp le_rfl)).1
  rw [(admits_append.1 hadmits).2.1.1] at h
  cases h

theorem not_derives_of_not_continues_end
    (h : (start.pushAll ts).continues .endOfInput = false) : ¬ Derives .sentence k ts p := by
  intro hp
  rw [(admits_append.1 (admits_of_derives hp le_rfl)).2.1.1] at h
  cases h

end Outline

end TruthTable
