/-!
# Ranges of code points

A property of characters is given by an ascending list of inclusive ranges.
The tables of this folder hold the Unicode Character Database, version 17.0.
The short ones are here: `White_Space`, for characters that separate symbols and
mean nothing else, and `Default_Ignorable_Code_Point`, for those that show
nothing, the Hangul fillers among them, which are letters.
-/

namespace TruthTable.Unicode

/-- Whether some range holds `n`. The ranges ascend, so the first range that
starts above `n` ends the search. -/
def covers : List (Nat × Nat) → Nat → Bool
  | [], _ => false
  | (first, last) :: rest, n => !decide (n < first) && (decide (n ≤ last) || covers rest n)

/-- No range is empty, the first one starts at `n` or above, and each later
one starts above the end of the one before it. -/
def ascends (n : Nat) : List (Nat × Nat) → Bool
  | [] => true
  | (first, last) :: rest =>
    decide (n ≤ first) && decide (first ≤ last) && ascends (last + 1) rest

theorem le_of_ascends {ranges : List (Nat × Nat)} {n : Nat} (ha : ascends n ranges = true) :
    ∀ r ∈ ranges, n ≤ r.1 := by
  induction ranges generalizing n with
  | nil => simp
  | cons r rest ih =>
    obtain ⟨first, last⟩ := r
    simp only [ascends, Bool.and_eq_true, decide_eq_true_eq] at ha
    obtain ⟨⟨hn, hle⟩, hrest⟩ := ha
    intro r hr
    rcases List.mem_cons.1 hr with rfl | hr
    · exact hn
    · have := ih hrest r hr
      omega

theorem covers_iff {ranges : List (Nat × Nat)} {low : Nat} (ha : ascends low ranges = true)
    (n : Nat) : covers ranges n = true ↔ ∃ r ∈ ranges, r.1 ≤ n ∧ n ≤ r.2 := by
  induction ranges generalizing low with
  | nil => simp [covers]
  | cons r rest ih =>
    obtain ⟨first, last⟩ := r
    simp only [ascends, Bool.and_eq_true, decide_eq_true_eq] at ha
    obtain ⟨⟨-, hle⟩, hrest⟩ := ha
    simp only [covers, Bool.and_eq_true, Bool.not_eq_true', decide_eq_false_iff_not,
      Bool.or_eq_true, decide_eq_true_eq, ih hrest, List.mem_cons, exists_eq_or_imp]
    constructor
    · rintro ⟨hlow, hhigh | h⟩
      · exact .inl ⟨by omega, hhigh⟩
      · exact .inr h
    · rintro (⟨hlow, hhigh⟩ | ⟨r, hr, hlow, hhigh⟩)
      · exact ⟨by omega, .inl hhigh⟩
      · have := le_of_ascends hrest r hr
        exact ⟨by omega, .inr ⟨r, hr, hlow, hhigh⟩⟩

-- ---------------------------------------------------------------------------
-- White space
-- ---------------------------------------------------------------------------

def whiteSpace : List (Nat × Nat) :=
  [(0x9, 0xD), (0x20, 0x20), (0x85, 0x85), (0xA0, 0xA0), (0x1680, 0x1680), (0x2000, 0x200A),
   (0x2028, 0x2029), (0x202F, 0x202F), (0x205F, 0x205F), (0x3000, 0x3000)]

def isWhiteSpace (c : Char) : Bool :=
  covers whiteSpace c.toNat

theorem ascends_whiteSpace : ascends 0 whiteSpace = true := by decide

theorem isWhiteSpace_iff {c : Char} :
    isWhiteSpace c = true ↔ ∃ r ∈ whiteSpace, r.1 ≤ c.toNat ∧ c.toNat ≤ r.2 :=
  covers_iff ascends_whiteSpace c.toNat

example : [' ', '\t', '\n', '\r', '\x0B', '\x0C', '\u00A0', '\u3000'].all isWhiteSpace = true := by
  decide

example : ['p', '&', '\u200B', '\u180E', '\uFEFF'].any isWhiteSpace = false := by decide

-- ---------------------------------------------------------------------------
-- Default ignorables
-- ---------------------------------------------------------------------------

def defaultIgnorable : List (Nat × Nat) :=
  [(0xAD, 0xAD), (0x34F, 0x34F), (0x61C, 0x61C), (0x115F, 0x1160), (0x17B4, 0x17B5),
   (0x180B, 0x180F), (0x200B, 0x200F), (0x202A, 0x202E), (0x2060, 0x206F), (0x3164, 0x3164),
   (0xFE00, 0xFE0F), (0xFEFF, 0xFEFF), (0xFFA0, 0xFFA0), (0xFFF0, 0xFFF8), (0x1BCA0, 0x1BCA3),
   (0x1D173, 0x1D17A), (0xE0000, 0xE0FFF)]

def isDefaultIgnorable (c : Char) : Bool :=
  covers defaultIgnorable c.toNat

example : ascends 0 defaultIgnorable = true := by decide +kernel

example : ['\u00AD', '\u115F', '\u1160', '\u3164', '\uFFA0'].all isDefaultIgnorable = true := by
  decide +kernel

end TruthTable.Unicode
