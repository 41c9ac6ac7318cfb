import TruthTable.Proofs.RuleCalls
import TruthTable.Proofs.TokenLaws

/-!
# Progress of reading

`called_rule_progresses`: what a rule asks for is read where less remains than
where the rule was called, no rule leaves more behind than it was given, and
each one comes back to the depth that it started from. Since every level has
taken a character of the text, the depth stays below their number, however many
levels are allowed.
-/

namespace TruthTable

open ParseM Session

variable {levels k n : Nat} {text : List Char} {r q : Rule} {s t : Session} {ls : List Lexeme}
variable {l : Lexeme}

-- ---------------------------------------------------------------------------
-- What remains
-- ---------------------------------------------------------------------------

/-- How many tokens remain: one for each character that is not blank, and the one
that was given back, unless it is the end. -/
def TokenStream.remaining (s : TokenStream) : Nat :=
  (s.unread.countP fun c => !Unicode.isWhiteSpace c) +
    s.pending.toList.countP fun l => l.token ≠ .endOfInput

theorem TokenStream.Ahead.remaining_eq {s : TokenStream} (h : s.Ahead ls n) :
    s.remaining = ls.length := by
  have hunread : (symbolsFrom s.cursor s.unread).length =
      s.unread.countP fun c => !Unicode.isWhiteSpace c := by
    rw [← length_tokens, ← map_token_symbolsFrom s.cursor, List.length_map]
  cases h with
  | unread hp => simp [remaining, hp, hunread]
  | pending hp hl => simp [remaining, hp, hl, hunread]
  | atEnd hp hu => simp [remaining, hp, ← hunread, hu]

theorem remaining_ofList (text : List Char) :
    (Session.ofList text).stream.remaining = text.countP fun c => !Unicode.isWhiteSpace c :=
  rfl

namespace Session

theorem remaining_advance_lt (hs : s.stream.Ahead ls n)
    (hl : s.stream.next.1.token ≠ .endOfInput) :
    s.advance.stream.remaining < s.stream.remaining := by
  rw [(ahead_advance hs).remaining_eq, hs.remaining_eq]
  cases ls with
  | nil =>
    rw [hs.next.1] at hl
    exact absurd rfl hl
  | cons l ls => simp

theorem Steps.ahead (h : Steps s t) (hs : s.stream.Ahead ls n) :
    ∃ ms, t.stream.Ahead ms n ∧ ms <:+ ls := by
  refine h.keeps (P := fun t => ∃ ms, t.stream.Ahead ms n ∧ ms <:+ ls) ?_
    ⟨ls, hs, List.suffix_refl ls⟩
  rintro s t hstep ⟨ms, hms, hsuffix⟩
  cases hstep with
  | advance => exact ⟨ms.tail, ahead_advance hms, (List.tail_suffix ms).trans hsuffix⟩
  | giveBack => exact ⟨ms, ahead_giveBack hms, hsuffix⟩
  | register => exact ⟨ms, hms, hsuffix⟩

theorem Steps.remaining_le (h : Steps s t) (hs : s.stream.Ahead ls n) :
    t.stream.remaining ≤ s.stream.remaining := by
  obtain ⟨ms, hms, hsuffix⟩ := h.ahead hs
  rw [hms.remaining_eq, hs.remaining_eq]
  exact hsuffix.length_le

end Session

-- ---------------------------------------------------------------------------
-- Calls
-- ---------------------------------------------------------------------------

theorem Rule.Asks.remaining_lt (hs : s.stream.Ahead ls n)
    (h : r.Asks (Rule.descend k) s l q t) : t.stream.remaining < s.stream.remaining := by
  -- nothing is gained up to the token that opens the phrase, and that one is lost
  obtain ⟨u, hu, rfl, hl, rfl⟩ := h.steps (Stepwise.descend k)
  obtain ⟨ms, hms, -⟩ := hu.ahead hs
  exact Nat.lt_of_lt_of_le (remaining_advance_lt hms hl) (hu.remaining_le hs)

theorem Rule.Uses.remaining_lt (hs : s.stream.Ahead ls n)
    (h : r.Uses (Rule.descend k) s l q t) : t.stream.remaining < s.stream.remaining := by
  induction h generalizing ls with
  | asks hasks => exact hasks.remaining_lt hs
  | handedOn hhands _ ih =>
    obtain ⟨ms, hms, -⟩ := hhands.steps.ahead hs
    exact Nat.lt_of_lt_of_le (ih hms) (hhands.steps.remaining_le hs)

theorem Entered.depth_add_remaining_le (h : Entered levels text k r s) :
    s.depth + s.stream.remaining ≤ text.countP fun c => !Unicode.isWhiteSpace c := by
  induction h with
  | whole =>
    rw [remaining_ofList]
    exact Nat.le_of_eq (Nat.zero_add _)
  | handedOn hcall hhands ih =>
    obtain ⟨i, hs⟩ := hcall.at_lexeme
    have hle := hhands.steps.remaining_le hs
    rw [hhands.steps.depth_eq]
    omega
  | @asked k r q s t l hcall hasks ih =>
    obtain ⟨i, hs⟩ := hcall.at_lexeme
    have hlt := hasks.remaining_lt hs
    obtain ⟨u, hu, -, -, rfl⟩ := hasks.steps (Stepwise.descend (k + 1))
    have hdepth : u.advance.below.depth = s.depth + 1 := congrArg Nat.succ hu.depth_eq
    change _ + u.advance.stream.remaining ≤ _
    omega

/-- How the rule gets on, when it is called in the session `s` with `k` of the
levels left. -/
structure Rule.Progresses (levels : Nat) (text : List Char) (k : Nat) (r : Rule) (s : Session) :
    Prop where
  /-- What it uses its descent for starts with less. -/
  uses {l : Lexeme} {q : Rule} {t : Session} : r.Uses (Rule.descend k) s l q t →
    t.below.stream.remaining < s.stream.remaining
  /-- So what a descent does elsewhere is all the same. -/
  congr {D : Descent} :
    (∀ l q t, t.stream.remaining < s.stream.remaining →
      (Rule.descend k l q).run t = (D l q).run t) →
    (r.read (Rule.descend k)).run s = (r.read D).run s
  remaining_after : (s.after (r.read (Rule.descend k))).stream.remaining ≤ s.stream.remaining
  depth_after : (s.after (r.read (Rule.descend k))).depth = s.depth
  depth_add : s.depth + k = levels
  depth_le : s.depth ≤ min levels (text.countP fun c => !Unicode.isWhiteSpace c)

/-- Every call of a rule gets on as it should. -/
theorem called_rule_progresses (h : Entered levels text k r s) :
    r.Progresses levels text k s := by
  obtain ⟨i, hs⟩ := h.at_lexeme
  constructor
  case uses =>
    intro l q t huses
    exact huses.remaining_lt (t := t) hs
  case congr =>
    intro D hD
    exact Rule.read_congr fun huses => hD _ _ _ (huses.remaining_lt hs)
  case remaining_after => exact (steps_read k r s).remaining_le hs
  case depth_after => exact (steps_read k r s).depth_eq
  case depth_add => exact h.depth_add
  case depth_le =>
    have hlevels := h.depth_add
    have hchars := h.depth_add_remaining_le
    omega

theorem called_rule_progresses_neg :
    Entered 18446744073709551615 "~ p".toList 18446744073709551614 .atom
        (Session.ofList "~ p".toList).advance.below ∧
      Rule.atom.Progresses 18446744073709551615 "~ p".toList 18446744073709551614
        (Session.ofList "~ p".toList).advance.below := by
  have hcall : Entered 18446744073709551615 "~ p".toList 18446744073709551614 .atom
      (Session.ofList "~ p".toList).advance.below :=
    .asked (.handedOn (.handedOn .whole (.clause _)) (.atom _)) (.neg (by decide +kernel))
  exact ⟨hcall, called_rule_progresses hcall⟩

end TruthTable
