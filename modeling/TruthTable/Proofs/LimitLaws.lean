import TruthTable.Proofs.ParseLaws

/-!
# The limit only cuts off

`CutsOff m m'`: what `m` does differently from `m'` is to stop because the
nesting is too deep. Sequencing keeps this, so every rule that descends less
far cuts off the same rule that descends further, and a lower limit cuts off
the parsing of a text.
-/

namespace TruthTable

open ParseM

def CutsOff {α : Type} (m m' : ParseM α) : Prop :=
  ∀ s, (∃ l t, m.run s = .error (.malformed .tooDeep l) t) ∨ m.run s = m'.run s

namespace CutsOff

variable {α β : Type} {m m' : ParseM α} {f f' : α → ParseM β}

theorem refl (m : ParseM α) : CutsOff m m :=
  fun _ => .inr rfl

theorem bind (hm : CutsOff m m') (hf : ∀ a, CutsOff (f a) (f' a)) :
    CutsOff (m >>= f) (m' >>= f') := by
  intro s
  rcases hm s with ⟨l, t, h⟩ | h
  · exact .inl ⟨l, t, run_bind_of_error h⟩
  · cases hr : m.run s with
    | ok a t =>
      rw [run_bind_of_ok hr, run_bind_of_ok (h.symm.trans hr)]
      exact hf a t
    | error e t =>
      exact .inr ((run_bind_of_error hr).trans (run_bind_of_error (h.symm.trans hr)).symm)

theorem deeper (hm : CutsOff m m') : CutsOff (deeper m) (deeper m') := by
  intro s
  rw [run_deeper, run_deeper]
  rcases hm s.below with ⟨l, t, h⟩ | h
  · rw [h]
    exact .inl ⟨l, t.above, rfl⟩
  · rw [h]
    exact .inr rfl

section
variable {D D' : Descent} (hD : ∀ l r, CutsOff (D l r) (D' l r))
include hD

theorem operand (l : Lexeme) (r : Rule) : CutsOff (r.operand D l) (r.operand D' l) :=
  bind (hD l r) fun _ => refl _

theorem readTerm : CutsOff (Rule.readTerm D) (Rule.readTerm D') := by
  refine bind (refl next) fun l => ?_
  obtain ⟨tok, i⟩ := l
  cases tok with
  | lparen => exact bind (hD _ _) fun _ => refl _
  | _ => exact refl _

theorem readAtom : CutsOff (Rule.readAtom D) (Rule.readAtom D') := by
  refine bind (refl next) fun l => ?_
  obtain ⟨tok, i⟩ := l
  cases tok with
  | neg => exact bind (operand hD _ _) fun _ => refl _
  | _ => exact bind (refl _) fun _ => readTerm hD

theorem readClause : CutsOff (Rule.readClause D) (Rule.readClause D') := by
  refine bind (readAtom hD) fun left => bind (refl next) fun l => ?_
  obtain ⟨tok, i⟩ := l
  cases left with
  | none => exact refl _
  | some p =>
    cases tok with
    | conj => exact bind (operand hD _ _) fun _ => refl _
    | _ => exact refl _

theorem readSentence : CutsOff (Rule.readSentence D) (Rule.readSentence D') := by
  refine bind (readClause hD) fun left => bind (refl next) fun l => ?_
  obtain ⟨tok, i⟩ := l
  cases tok with
  | disj => exact bind (operand hD _ _) fun _ => refl _
  | _ => exact refl _

theorem read (r : Rule) : CutsOff (r.read D) (r.read D') := by
  cases r with
  | sentence => exact readSentence hD
  | clause => exact readClause hD
  | atom => exact readAtom hD
  | term => exact readTerm hD

end

theorem descend {j k : Nat} (hjk : j ≤ k) (l : Lexeme) (r : Rule) :
    CutsOff (Rule.descend j l r) (Rule.descend k l r) := by
  -- without levels left the lower descent stops at once, whatever the other does
  induction j generalizing k l r with
  | zero => exact fun s => .inl ⟨l, s, rfl⟩
  | succ j ih =>
    obtain ⟨i, rfl⟩ := Nat.exists_eq_add_of_lt hjk
    exact deeper (read (ih (Nat.le_add_right j i)) r)

theorem readWhole {j k : Nat} (hjk : j ≤ k) : CutsOff (readWhole j) (readWhole k) :=
  bind (read (descend hjk) .sentence) fun _ => refl _

end CutsOff

section
variable {j k : Nat} {text : List Char} {parsed first second : Parsed}

/-- Under a lower limit a text is nested too deeply, or nothing changes. -/
theorem parseWithin_of_le (hjk : j ≤ k) (text : List Char) :
    (∃ l, parseWithin j text = .error (.malformed .tooDeep l)) ∨
      parseWithin j text = parseWithin k text := by
  unfold parseWithin readText
  rcases CutsOff.readWhole hjk (.ofList text) with ⟨l, t, h⟩ | h
  · rw [h]
    exact .inl ⟨l, rfl⟩
  · rw [h]
    exact .inr rfl

theorem parseWithin_ok_mono (h : parseWithin j text = .ok parsed) (hjk : j ≤ k) :
    parseWithin k text = .ok parsed := by
  rcases parseWithin_of_le hjk text with ⟨l, hdeep⟩ | heq
  · rw [hdeep] at h
    cases h
  · exact heq.symm.trans h

theorem parseWithin_ok_unique (hj : parseWithin j text = .ok first)
    (hk : parseWithin k text = .ok second) : first = second := by
  have hmax := parseWithin_ok_mono hj (Nat.le_max_left j k)
  rw [parseWithin_ok_mono hk (Nat.le_max_right j k)] at hmax
  exact (Except.ok.inj hmax).symm

end

end TruthTable
