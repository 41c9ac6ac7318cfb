import TruthTable.Proofs.RoundTrip
import TruthTable.Proofs.VerdictLaws

/-!
# Laws of lines

A token, a parsed proposition, an assignment of its variables and a verdict are
each printed on one line: their texts have no line feed.
-/

namespace TruthTable

variable {text text' : String} {a : Assignment} {p : Proposition}

/-- A text that does not go past the line that it starts on. -/
def IsLine (text : String) : Prop :=
  '\n' ∉ text.toList

instance (text : String) : Decidable (IsLine text) :=
  inferInstanceAs (Decidable (_ ∉ _))

@[simp] theorem isLine_append : IsLine (text ++ text') ↔ IsLine text ∧ IsLine text' := by
  simp [IsLine]

@[simp] theorem isLine_ofList {cs : List Char} : IsLine (String.ofList cs) ↔ '\n' ∉ cs := by
  rw [IsLine, String.toList_ofList]

-- ---------------------------------------------------------------------------
-- Numbers
-- ---------------------------------------------------------------------------

theorem newline_notMem_toDigits {base : Nat} (h : 1 < base) (n : Nat) :
    '\n' ∉ Nat.toDigits base n := by
  have hdigit (m : Nat) : '\n' ≠ m.digitChar := (Nat.digitChar_ne '\n' rfl).symm
  induction n using Nat.strongRecOn with
  | ind n ih =>
    rw [Nat.toDigits_eq_if h]
    split
    · simp [hdigit]
    · have hrest := ih (n / base) (Nat.div_lt_self (by omega) h)
      simp [hrest, hdigit]

theorem isLine_toString_nat (n : Nat) : IsLine (toString n) := by
  rw [Nat.toString_eq_ofList_toDigits, isLine_ofList]
  exact newline_notMem_toDigits (by decide) n

-- ---------------------------------------------------------------------------
-- Tokens
-- ---------------------------------------------------------------------------

theorem Text.isLine_codePoint (c : Char) : IsLine (codePoint c) := by
  have hdigits := newline_notMem_toDigits (show 1 < 16 by decide) c.toNat
  simp only [codePoint, isLine_append, isLine_ofList]
  exact ⟨⟨by decide, hdigits⟩, by decide⟩

theorem Text.isLine_escape (c : Char) : IsLine (escape c) := by
  by_cases h : c = '\n'
  · rw [h]
    decide
  · have hself : IsLine c.toString := by simp [IsLine, Ne.symm h]
    unfold escape
    repeat' split
    any_goals decide
    · exact hself
    · exact isLine_codePoint c

theorem Text.isLine_quoted (c : Char) : IsLine (quoted c) := by
  simp only [quoted, isLine_append]
  exact ⟨⟨by decide, isLine_escape c⟩, by decide⟩

theorem Token.isLine_label (t : Token) : IsLine t.label := by
  have hcall (name : String) (hname : IsLine name) (c : Char) :
      IsLine (name ++ Text.quoted c ++ ")") := by
    simp only [isLine_append]
    exact ⟨⟨hname, Text.isLine_quoted c⟩, by decide⟩
  cases t with
  | var name => exact hcall _ (by decide) name
  | unknown c => exact hcall _ (by decide) c
  | constant b => cases b <;> decide
  | _ => decide

-- ---------------------------------------------------------------------------
-- Propositions and assignments
-- ---------------------------------------------------------------------------

theorem IsVariable.ne_newline {c : Char} (h : IsVariable c) : c ≠ '\n' := by
  rintro rfl
  exact absurd h.1 (by decide)

theorem isVariable_of_parse {parsed : Parsed} (h : parse text = .ok parsed) :
    ∀ c ∈ parsed.root.occurrences, IsVariable c :=
  (parseWithin_eq_ok.1 h).1.isVariable

@[simp] theorem Proposition.newline_mem_enclose {parens : Bool} {cs : List Char} :
    '\n' ∈ enclose parens cs ↔ '\n' ∈ cs := by
  cases parens <;> simp [enclose]

theorem Proposition.isLine_toString (h : ∀ c ∈ p.occurrences, IsVariable c) :
    IsLine (toString p) := by
  rw [IsLine, toList_toString]
  induction p with
  | disj l r ihl ihr =>
    have hl := ihl fun c hc => h c (List.mem_append_left _ hc)
    have hr := ihr fun c hc => h c (List.mem_append_right _ hc)
    simp [render, hl, hr]
  | conj l r ihl ihr =>
    have hl := ihl fun c hc => h c (List.mem_append_left _ hc)
    have hr := ihr fun c hc => h c (List.mem_append_right _ hc)
    simp [render, hl, hr]
  | neg p ih => simp [render, ih h]
  | var name => simpa [render] using (h name List.mem_cons_self).ne_newline.symm
  | constant b => cases b <;> decide

theorem Assignment.isLine_toString (h : ∀ e ∈ a.entries, e.1 ≠ '\n') : IsLine (toString a) := by
  change IsLine (String.ofList a.text)
  rw [isLine_ofList, text]
  generalize a.entries = entries at h
  have hentry (e : Char × Bool) (he : e.1 ≠ '\n') : '\n' ∉ entryText e := by
    obtain ⟨c, b⟩ := e
    cases b <;> simp [entryText, Ne.symm he]
  induction entries with
  | nil => simp
  | cons e rest ih =>
    obtain ⟨he, hrest⟩ := List.forall_mem_cons.1 h
    cases rest with
    | nil => simpa using hentry e he
    | cons d rest =>
      simpa [hentry e he] using ih hrest

theorem Proposition.isLine_of_mem_models {names : List Char} (hnodup : names.Nodup)
    (h : ∀ c ∈ names, IsVariable c) (ha : a ∈ p.models names) : IsLine (toString a) := by
  refine Assignment.isLine_toString fun e he => (h e.1 ?_).ne_newline
  rw [← Assignment.isSome_get?_of_mem_all hnodup (List.mem_filter.1 ha).1,
    Assignment.mem_entries.1 he]
  rfl

-- ---------------------------------------------------------------------------
-- Verdicts
-- ---------------------------------------------------------------------------

theorem Verdict.isLine_text (v : Verdict) : IsLine v.text := by
  cases v with
  | tautology => decide
  | satisfiable count examined =>
    simp only [text_satisfiable, isLine_append]
    exact ⟨⟨⟨⟨by decide, isLine_toString_nat count⟩, by decide⟩, isLine_toString_nat examined⟩,
      by decide⟩
  | unsatisfiable => decide

end TruthTable
