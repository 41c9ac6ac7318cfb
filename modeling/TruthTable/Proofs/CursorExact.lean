import TruthTable.Proofs.StreamLaws

/-!
# Streams are cursors

`reader_refines_cursor`: a client that gives back nothing but the token it read
last cannot tell a stream from a cursor into the lexemes of the text, however
it mixes reading and giving back. `Follows` relates the two: the stream is as
it was made, or it has just read the lexeme before the cursor, or it has given
back the lexeme at the cursor.
-/

namespace TruthTable

/-- The lexeme at an index. Past the last one there is the end, as often as one
asks for it. -/
def lexemeAt (text : List Char) (i : Nat) : Lexeme :=
  (lexemes text).getD i ⟨.endOfInput, text.length⟩

inductive Move
  | read
  | giveBack

-- ---------------------------------------------------------------------------
-- Readers
-- ---------------------------------------------------------------------------

structure Reader where
  stream : TokenStream
  /-- The token that was read last. -/
  last : Option Token

namespace Reader

def ofList (text : List Char) : Reader :=
  ⟨.ofList text, none⟩

/-- Before something was read there is nothing to give back. -/
def move (r : Reader) : Move → Reader
  | .read => ⟨r.stream.next.2, some r.stream.next.1.token⟩
  | .giveBack => { r with stream := r.last.elim r.stream r.stream.pushBack }

def seen (r : Reader) : Option Lexeme :=
  r.last.map fun t => ⟨t, r.stream.position⟩

end Reader

-- ---------------------------------------------------------------------------
-- Cursors
-- ---------------------------------------------------------------------------

/-- What became of the lexeme that was read last, if one was read at all. -/
inductive Cursor.Phase
  | untouched
  | taken
  | givenBack

structure Cursor where
  /-- The index of the lexeme that is read next. -/
  index : Nat
  phase : Cursor.Phase

namespace Cursor

def start : Cursor :=
  ⟨0, .untouched⟩

def move (c : Cursor) : Move → Cursor
  | .read => ⟨c.index + 1, .taken⟩
  | .giveBack =>
    match c.phase with
    | .taken => ⟨c.index - 1, .givenBack⟩
    | .untouched | .givenBack => c

def seen (text : List Char) (c : Cursor) : Option Lexeme :=
  match c.phase with
  | .untouched => none
  | .taken => some (lexemeAt text (c.index - 1))
  | .givenBack => some (lexemeAt text c.index)

end Cursor

-- ---------------------------------------------------------------------------
-- What a client sees
-- ---------------------------------------------------------------------------

section
variable {σ τ : Type}

def trace (move : σ → Move → σ) (seen : σ → Option Lexeme) (s : σ) :
    List Move → List (Option Lexeme)
  | [] => []
  | m :: ms => seen (move s m) :: trace move seen (move s m) ms

/-- Steps that keep a relation in which the same is seen have the same traces. -/
theorem trace_eq {move : σ → Move → σ} {seen : σ → Option Lexeme} {move' : τ → Move → τ}
    {seen' : τ → Option Lexeme} {R : σ → τ → Prop} {s : σ} {t : τ}
    (hmove : ∀ s t m, R s t → R (move s m) (move' t m))
    (hseen : ∀ s t, R s t → seen s = seen' t) (h : R s t) (ms : List Move) :
    trace move seen s ms = trace move' seen' t ms := by
  induction ms generalizing s t with
  | nil => rfl
  | cons m ms ih =>
    have hm := hmove s t m h
    rw [trace, trace, hseen _ _ hm, ih hm]

end

abbrev TokenStream.At (text : List Char) (i : Nat) (s : TokenStream) : Prop :=
  s.Ahead ((symbols text).drop i) text.length

inductive Follows (text : List Char) : Reader → Cursor → Prop
  | untouched : Follows text (.ofList text) .start
  | taken {s : TokenStream} {i : Nat} (h : s.At text i) :
      Follows text ⟨s.next.2, some s.next.1.token⟩ ⟨i + 1, .taken⟩
  | givenBack {s : TokenStream} {i : Nat} (h : s.At text i) :
      Follows text ⟨s.next.2.pushBack s.next.1.token, some s.next.1.token⟩ ⟨i, .givenBack⟩

variable {text : List Char} {r : Reader} {c : Cursor} {s : TokenStream} {i : Nat}

theorem headD_drop_symbols (text : List Char) (i : Nat) :
    ((symbols text).drop i).headD ⟨.endOfInput, text.length⟩ = lexemeAt text i := by
  rw [lexemeAt, lexemes_eq, List.headD_eq_head?_getD, List.head?_drop,
    List.getD_eq_getElem?_getD, List.getElem?_append]
  split
  · rfl
  · next h =>
    rw [List.getElem?_eq_none (Nat.not_lt.1 h), List.getElem?_singleton]
    split <;> rfl

namespace TokenStream

theorem at_ofList (text : List Char) : (ofList text).At text 0 :=
  ahead_ofList text

theorem At.next (h : s.At text i) : s.next.1 = lexemeAt text i ∧ s.next.2.At text (i + 1) := by
  obtain ⟨hl, ht⟩ := Ahead.next h
  refine ⟨hl.trans (headD_drop_symbols text i), ?_⟩
  rwa [At, ← List.tail_drop]

end TokenStream

namespace Follows

theorem move (h : Follows text r c) (m : Move) : Follows text (r.move m) (c.move m) := by
  cases h with
  | untouched =>
    cases m with
    | read => exact .taken (TokenStream.at_ofList text)
    | giveBack => exact .untouched
  | taken h =>
    cases m with
    | read => exact .taken h.next.2
    | giveBack => exact .givenBack h
  | givenBack h =>
    cases m with
    | read => exact .taken h.pushBack
    | giveBack => exact .givenBack h

theorem seen_eq (h : Follows text r c) : r.seen = c.seen text := by
  cases h with
  | untouched => rfl
  | taken h =>
    refine congrArg some ?_
    rw [TokenStream.position_next]
    exact h.next.1
  | givenBack h =>
    refine congrArg some ?_
    change Lexeme.mk _ (TokenStream.next _).2.position = _
    rw [TokenStream.position_next]
    exact h.next.1

end Follows

/-- Reading from a stream and giving back what was read last is moving a cursor
over the lexemes of the text. -/
theorem reader_refines_cursor (text : List Char) (moves : List Move) :
    trace Reader.move Reader.seen (.ofList text) moves =
      trace Cursor.move (Cursor.seen text) .start moves :=
  trace_eq (R := Follows text) (fun _ _ m h => h.move m) (fun _ _ h => h.seen_eq) .untouched moves

end TruthTable
