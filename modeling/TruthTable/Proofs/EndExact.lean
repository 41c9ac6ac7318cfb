import TruthTable.Proofs.StreamLaws

/-!
# The end is read once

`end_read_once`: however calls of `next`, `next?` and `pushBack` are mixed, also
with tokens that were never read, `next?` returns the end at most once, something
before it and nothing behind it. `Bounded` is what every call keeps: how far the
cursor and the positions can come before the end was returned and after it.
-/

namespace TruthTable

inductive Call
  | next
  | next?
  | pushBack (token : Token)

namespace TokenStream

variable {s : TokenStream} {n : Nat}

def call (s : TokenStream) : Call → TokenStream
  | .next => s.next.2
  | .next? => s.next?.2
  | .pushBack token => s.pushBack token

def calls (s : TokenStream) (cs : List Call) : TokenStream :=
  cs.foldl call s

def answer (s : TokenStream) : Call → List (Option Token)
  | .next? => [s.next?.1.map Lexeme.token]
  | .next | .pushBack _ => []

/-- What `next?` returns each time it is called, in order. -/
def answers (s : TokenStream) : List Call → List (Option Token)
  | [] => []
  | c :: cs => s.answer c ++ (s.call c).answers cs

-- ---------------------------------------------------------------------------
-- Bounds
-- ---------------------------------------------------------------------------

/-- Of a text of `n` characters the stream has read no more than there are, but
for the end, which counts as one more once `next?` has returned it. -/
structure Bounded (n : Nat) (s : TokenStream) : Prop where
  cursor_add : s.cursor + s.unread.length = n + s.ended.toNat
  unread_of_ended : s.ended = true → s.unread = []
  position_le : s.position ≤ s.cursor
  pending_le : ∀ l ∈ s.pending, l.position ≤ s.cursor

theorem bounded_ofList (text : List Char) : (ofList text).Bounded text.length where
  cursor_add := Nat.zero_add _
  unread_of_ended := by simp [ofList]
  position_le := Nat.le_refl 0
  pending_le := by simp [ofList]

theorem cursor_le_scan (s : TokenStream) : s.cursor ≤ s.scan.2.cursor := by
  unfold scan
  split
  · exact Nat.le_add_right _ _
  · exact Nat.le_add_right_of_le (Nat.le_add_right _ _)

theorem cursor_le_next (s : TokenStream) : s.cursor ≤ s.next.2.cursor := by
  unfold next
  split
  · exact Nat.le_refl _
  · exact s.cursor_le_scan

theorem cursor_le_call (s : TokenStream) (c : Call) : s.cursor ≤ (s.call c).cursor := by
  cases c with
  | next => exact s.cursor_le_next
  | pushBack token => exact Nat.le_refl _
  | next? =>
    cases he : s.ended with
    | true =>
      have hsame : s.call .next? = s := by rw [call, next?_of_ended he]
      exact Nat.le_of_eq (congrArg cursor hsame.symm)
    | false =>
      rw [call, next?_of_not_ended he]
      split
      · have hnext := s.cursor_le_next
        simp only [close]
        omega
      · exact s.cursor_le_next

namespace Bounded

theorem scan (h : s.Bounded n) (hp : s.pending = none) : s.scan.2.Bounded n := by
  obtain ⟨hcursor, hended, -, -⟩ := h
  have hlength := congrArg List.length
    (List.takeWhile_append_dropWhile (p := Unicode.isWhiteSpace) (l := s.unread))
  rw [List.length_append] at hlength
  unfold TokenStream.scan
  split
  · next hd =>
    rw [hd, List.length_nil] at hlength
    refine ⟨?_, fun _ => rfl, Nat.le_refl _, by simp [hp]⟩
    simp only [List.length_nil]
    omega
  · next c rest hd =>
    rw [hd, List.length_cons] at hlength
    refine ⟨?_, fun he => ?_, Nat.le_succ _, by simp [hp]⟩
    · simp only
      omega
    · simp [hended he] at hd

theorem next (h : s.Bounded n) : s.next.2.Bounded n := by
  unfold TokenStream.next
  split
  · next l hl => exact ⟨h.cursor_add, h.unread_of_ended, h.pending_le l hl, by simp⟩
  · next hp => exact h.scan hp

theorem close (h : s.Bounded n) (he : s.ended = false) : s.close.Bounded n := by
  obtain ⟨hcursor, -, hposition, hpending⟩ := h
  have hle : s.cursor ≤ s.close.cursor := Nat.le_add_right_of_le (Nat.le_add_right _ _)
  refine ⟨?_, fun _ => rfl, Nat.le_trans hposition hle, fun l hl => ?_⟩
  · simp only [TokenStream.close, List.length_nil, Bool.toNat_true]
    simp only [he, Bool.toNat_false] at hcursor
    omega
  · exact Nat.le_trans (hpending l hl) hle

theorem call (h : s.Bounded n) (c : Call) : (s.call c).Bounded n := by
  cases c with
  | next => exact h.next
  | pushBack token =>
    refine ⟨h.cursor_add, h.unread_of_ended, h.position_le, ?_⟩
    rintro l ⟨⟩
    exact h.position_le
  | next? =>
    cases he : s.ended with
    | true => rwa [TokenStream.call, next?_of_ended he]
    | false =>
      rw [TokenStream.call, next?_of_not_ended he]
      split
      · exact h.next.close (s.ended_next.trans he)
      · exact h.next

theorem calls (h : s.Bounded n) (cs : List Call) : (s.calls cs).Bounded n := by
  induction cs generalizing s with
  | nil => exact h
  | cons c cs ih => exact ih (h.call c)

theorem cursor_eq_iff (h : s.Bounded n) : s.cursor = n + 1 ↔ s.ended = true := by
  have hcursor := h.cursor_add
  cases he : s.ended with
  | true => simpa [he, h.unread_of_ended he] using hcursor
  | false =>
    simp only [he, Bool.toNat_false] at hcursor
    simp only [Bool.false_eq_true, iff_false]
    omega

theorem cursor_le (h : s.Bounded n) : s.cursor ≤ n + s.ended.toNat :=
  Nat.le.intro h.cursor_add

end Bounded

theorem cursor_le_calls (s : TokenStream) (cs : List Call) : s.cursor ≤ (s.calls cs).cursor := by
  induction cs generalizing s with
  | nil => exact Nat.le_refl _
  | cons c cs ih => exact Nat.le_trans (s.cursor_le_call c) (ih (s.call c))

-- ---------------------------------------------------------------------------
-- Answers
-- ---------------------------------------------------------------------------

theorem call_of_ended (he : s.ended = true) (c : Call) :
    (s.call c).ended = true ∧ ∀ a ∈ s.answer c, a = none := by
  cases c with
  | next => exact ⟨s.ended_next.trans he, by simp [answer]⟩
  | pushBack token => exact ⟨he, by simp [answer]⟩
  | next? =>
    rw [call, answer, next?_of_ended he]
    exact ⟨he, by simp⟩

theorem call_of_not_ended (he : s.ended = false) (c : Call) :
    (s.call c).ended = false ∧
        (s.answer c = [] ∨ ∃ t, t ≠ Token.endOfInput ∧ s.answer c = [some t]) ∨
      (s.call c).ended = true ∧ s.answer c = [some .endOfInput] := by
  have hnext := s.ended_next.trans he
  cases c with
  | next => exact .inl ⟨hnext, .inl rfl⟩
  | pushBack token => exact .inl ⟨he, .inl rfl⟩
  | next? =>
    rw [call, answer, next?_of_not_ended he]
    split
    · next ht => exact .inr ⟨rfl, by rw [Option.map_some, ht]⟩
    · next ht => exact .inl ⟨hnext, .inr ⟨_, ht, rfl⟩⟩

theorem calls_of_ended (he : s.ended = true) (cs : List Call) :
    (s.calls cs).ended = true ∧ ∀ a ∈ s.answers cs, a = none := by
  induction cs generalizing s with
  | nil => exact ⟨he, by simp [answers]⟩
  | cons c cs ih =>
    obtain ⟨hcall, hanswer⟩ := call_of_ended he c
    obtain ⟨hcalls, hanswers⟩ := ih hcall
    exact ⟨hcalls, fun a ha => (List.mem_append.1 ha).elim (hanswer a) (hanswers a)⟩

/-- Answers that are tokens up to the end, if they come to it, and nothing
behind it. -/
inductive Fused : List (Option Token) → Prop
  | going {ts : List Token} (hts : .endOfInput ∉ ts) : Fused (ts.map some)
  | done {ts : List Token} {rest : List (Option Token)} (hts : .endOfInput ∉ ts)
      (hrest : ∀ a ∈ rest, a = none) : Fused (ts.map some ++ some .endOfInput :: rest)

theorem Fused.cons {t : Token} {as : List (Option Token)} (ht : t ≠ .endOfInput) (h : Fused as) :
    Fused (some t :: as) := by
  cases h with
  | @going ts hts =>
    have hcons : .endOfInput ∉ t :: ts := by simp [ht.symm, hts]
    exact .going hcons
  | @done ts rest hts hrest =>
    have hcons : .endOfInput ∉ t :: ts := by simp [ht.symm, hts]
    exact .done hcons hrest

theorem fused_answers (he : s.ended = false) (cs : List Call) :
    Fused (s.answers cs) ∧ (some .endOfInput ∈ s.answers cs ↔ (s.calls cs).ended = true) := by
  have hnil : Token.endOfInput ∉ ([] : List Token) := List.not_mem_nil
  induction cs generalizing s with
  | nil => exact ⟨.going hnil, by simp [answers, calls, he]⟩
  | cons c cs ih =>
    rw [answers]
    change _ ∧ (_ ↔ ((s.call c).calls cs).ended = true)
    rcases call_of_not_ended he c with ⟨hcall, hanswer | ⟨t, ht, hanswer⟩⟩ | ⟨hcall, hanswer⟩
    · rw [hanswer, List.nil_append]
      exact ih hcall
    · obtain ⟨hfused, hmem⟩ := ih hcall
      rw [hanswer, List.singleton_append]
      exact ⟨hfused.cons ht, by simp [← hmem, ht.symm]⟩
    · obtain ⟨hcalls, hnone⟩ := calls_of_ended hcall cs
      rw [hanswer, List.singleton_append]
      exact ⟨.done hnil hnone, by simp [hcalls]⟩

end TokenStream

open TokenStream

/-- Of all calls of `next?` at most one returns the end. It returns a token each
time before and nothing afterwards. The cursor only moves forward. It is one past
the end of the text if the end was returned and not otherwise, and up to then the
stream tells positions of the text and its end only. -/
theorem end_read_once (text : List Char) (cs : List Call) :
    Fused ((ofList text).answers cs) ∧
    (∀ more, ((ofList text).calls cs).cursor ≤ ((ofList text).calls (cs ++ more)).cursor) ∧
    ((ofList text).calls cs).cursor ≤ text.length + 1 ∧
    (((ofList text).calls cs).cursor = text.length + 1 ↔
      some .endOfInput ∈ (ofList text).answers cs) ∧
    (some .endOfInput ∉ (ofList text).answers cs →
      ((ofList text).calls cs).position ≤ text.length) ∧
    ((ofList text).calls cs).position ≤ text.length + 1 := by
  have hbounded := (bounded_ofList text).calls cs
  have hle := hbounded.cursor_le
  obtain ⟨hfused, hmem⟩ := fused_answers (s := ofList text) rfl cs
  have hended := Bool.toNat_le ((ofList text).calls cs).ended
  refine ⟨hfused, fun more => ?_, by omega, hbounded.cursor_eq_iff.trans hmem.symm,
    fun hnot => ?_, ?_⟩
  · rw [calls, calls, List.foldl_append]
    exact cursor_le_calls _ more
  · rw [hmem, Bool.not_eq_true] at hnot
    rw [hnot] at hle
    exact Nat.le_trans hbounded.position_le hle
  · exact Nat.le_trans hbounded.position_le (by omega)

theorem end_read_once_early :
    (some .endOfInput ∉ (ofList ['p', ' ']).answers [.next?, .next] ∧
      ((ofList ['p', ' ']).calls [.next?, .next]).position ≤ 2) ∧
    (ofList ['p', ' ']).answers [.pushBack .endOfInput, .next?, .pushBack .neg, .next?] =
      [some .endOfInput, none] ∧
    ((ofList ['p', ' ']).calls
      [.pushBack .endOfInput, .next?, .pushBack .neg, .next?]).cursor = 3 := by
  have hgoing : some .endOfInput ∉ (ofList ['p', ' ']).answers [.next?, .next] := by
    decide +kernel
  have hanswers : (ofList ['p', ' ']).answers
      [.pushBack .endOfInput, .next?, .pushBack .neg, .next?] = [some .endOfInput, none] := by
    decide +kernel
  obtain ⟨-, -, -, -, hposition, -⟩ := end_read_once ['p', ' '] [.next?, .next]
  obtain ⟨-, -, -, hcursor, -, -⟩ :=
    end_read_once ['p', ' '] [.pushBack .endOfInput, .next?, .pushBack .neg, .next?]
  exact ⟨⟨hgoing, hposition hgoing⟩, hanswers, hcursor.2 (by rw [hanswers]; exact .head _)⟩

end TruthTable
