import TruthTable.Token
import TruthTable.Unicode.Ranges

/-!
# Token streams

A stream reads the tokens of a text one after another and skips white space.
One token can be given back and is read again, with its position, before the
text is read further. Positions count characters from the start of the text.

`tokens` and `lexemes` are what a text holds all at once: one for each character
that is not white space, in order, and for lexemes the end behind them.
-/

namespace TruthTable

structure Lexeme where
  token : Token
  position : Nat
  deriving DecidableEq, Inhabited

structure TokenStream where
  /-- The characters not read so far. -/
  unread : List Char
  /-- How many characters were read. -/
  cursor : Nat
  /-- The position of the token read last. -/
  position : Nat
  /-- The token that was given back. -/
  pending : Option Lexeme
  /-- Whether the end was read by `next?`. -/
  ended : Bool
  deriving DecidableEq

namespace TokenStream

def ofList (text : List Char) : TokenStream :=
  { unread := text, cursor := 0, position := 0, pending := none, ended := false }

/-- The next token of the text. Past its last token a text has only the end,
which is found behind all white space. -/
def scan (s : TokenStream) : Lexeme × TokenStream :=
  let blanks := s.unread.takeWhile Unicode.isWhiteSpace
  let position := s.cursor + blanks.length
  match s.unread.dropWhile Unicode.isWhiteSpace with
  | [] => (⟨.endOfInput, position⟩, { s with unread := [], cursor := position, position })
  | c :: rest =>
    (⟨.ofChar c, position⟩, { s with unread := rest, cursor := position + 1, position })

/-- Reads a token: the one that was given back, or else the next of the text. -/
def next (s : TokenStream) : Lexeme × TokenStream :=
  match s.pending with
  | some l => (l, { s with position := l.position, pending := none })
  | none => s.scan

/-- Gives a token back at the position of the token read last. There is room
for one: a second one takes the place of the first. -/
def pushBack (s : TokenStream) (t : Token) : TokenStream :=
  { s with pending := some ⟨t, s.position⟩ }

def close (s : TokenStream) : TokenStream :=
  { s with unread := [], cursor := s.cursor + s.unread.length + 1, ended := true }

/-- Reads a token, the end of the text once only. -/
def next? (s : TokenStream) : Option Lexeme × TokenStream :=
  if s.ended then (none, s)
  else
    let (l, t) := s.next
    (some l, if l.token = .endOfInput then t.close else t)

@[simp] theorem next_pushBack (s : TokenStream) (t : Token) :
    (s.pushBack t).next = (⟨t, s.position⟩, { s with pending := none }) := rfl

theorem position_next (s : TokenStream) : s.next.2.position = s.next.1.position := by
  unfold next scan
  split
  · rfl
  · split <;> rfl

theorem pending_next (s : TokenStream) : s.next.2.pending = none := by
  unfold next scan
  split
  · rfl
  · next h => split <;> simp [h]

/-- A bound on the tokens that `next?` can still read. -/
def weight (s : TokenStream) : Nat :=
  s.unread.length + s.pending.toList.length + if s.ended then 0 else 1

theorem ended_next (s : TokenStream) : s.next.2.ended = s.ended := by
  unfold next scan
  split
  · rfl
  · split <;> rfl

theorem weight_next (s : TokenStream) : s.next.2.weight ≤ s.weight := by
  unfold next scan
  split
  · next l h => simp [weight, h]
  · next h =>
    have hle := (List.dropWhile_suffix (l := s.unread) Unicode.isWhiteSpace).length_le
    split
    · simp [weight, h]
    · next c rest hd =>
      rw [hd, List.length_cons] at hle
      simp only [weight, h]
      omega

theorem weight_next_lt (s : TokenStream) (ht : s.next.1.token ≠ .endOfInput) :
    s.next.2.weight < s.weight := by
  unfold next scan at ht ⊢
  split
  · next l h => simp [weight, h]
  · next h =>
    have hle := (List.dropWhile_suffix (l := s.unread) Unicode.isWhiteSpace).length_le
    split
    · next hd => simp [h, hd] at ht
    · next c rest hd =>
      rw [hd, List.length_cons] at hle
      simp only [weight, h]
      omega

theorem weight_close_lt (s : TokenStream) (he : s.ended = false) :
    s.close.weight < s.weight := by
  simp only [weight, close, he, List.length_nil, reduceIte, Bool.false_eq_true]
  omega

theorem weight_next?_lt {s t : TokenStream} {l : Lexeme} (h : s.next? = (some l, t)) :
    t.weight < s.weight := by
  unfold next? at h
  split at h
  · simp at h
  · next he =>
    simp only [Prod.mk.injEq, Option.some.injEq] at h
    obtain ⟨rfl, rfl⟩ := h
    have he : s.next.2.ended = false := by simpa [ended_next] using he
    split
    · exact Nat.lt_of_lt_of_le (weight_close_lt _ he) s.weight_next
    · next ht => exact s.weight_next_lt ht

def drain (s : TokenStream) : List Lexeme × TokenStream :=
  match _h : s.next? with
  | (none, t) => ([], t)
  | (some l, t) =>
    let (ls, u) := t.drain
    (l :: ls, u)
termination_by s.weight
decreasing_by exact weight_next?_lt _h

end TokenStream

-- ---------------------------------------------------------------------------
-- Whole texts
-- ---------------------------------------------------------------------------

def tokens (text : List Char) : List Token :=
  (text.filter fun c => !Unicode.isWhiteSpace c).map Token.ofChar

/-- The lexemes of a text whose first character has position `n`. -/
def lexemesFrom (n : Nat) : List Char → List Lexeme
  | [] => [⟨.endOfInput, n⟩]
  | c :: rest =>
    if Unicode.isWhiteSpace c then lexemesFrom (n + 1) rest
    else ⟨.ofChar c, n⟩ :: lexemesFrom (n + 1) rest

def lexemes (text : List Char) : List Lexeme :=
  lexemesFrom 0 text

theorem map_token_lexemesFrom (n : Nat) (text : List Char) :
    (lexemesFrom n text).map Lexeme.token = tokens text ++ [.endOfInput] := by
  induction text generalizing n with
  | nil => rfl
  | cons c rest ih =>
    cases h : Unicode.isWhiteSpace c <;> simp_all [lexemesFrom, tokens]

end TruthTable
