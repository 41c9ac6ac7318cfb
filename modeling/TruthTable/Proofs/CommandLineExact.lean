import TruthTable.Proofs.LineLaws
import TruthTable.Proofs.SolveExact
import TruthTable.Proofs.SourceExact
import TruthTable.Proofs.StreamLaws

/-!
# The command line tells the truth

`run_tells_truth`: however arguments are understood, with options that were
accepted and a text that could be read, a run lists the tokens of the text,
refuses the text or tells which valuations satisfy its sentence. `Reports` says
what is printed in the last case and what the exit code means, `Concludes` what
the last line means.
-/

namespace TruthTable.CommandLine

variable {args : List String} {env : Environment} {o : Options} {text line : String} {all : Bool}
variable {maxVariables n : Nat} {parsed : Parsed} {cause : ParseError}
variable {p : Proposition} {verdict : Verdict}

-- ---------------------------------------------------------------------------
-- What a run is meant to tell
-- ---------------------------------------------------------------------------

/-- The text has decimal digits for a number that fits into 64 bits, and before
them a plus sign or nothing. -/
def Denotes (text : String) (n : Nat) : Prop :=
  ∃ digits, (text.toList = digits ∨ text.toList = '+' :: digits) ∧ digits ≠ [] ∧
    (∀ c ∈ digits, c.isDigit = true) ∧ Nat.ofDigitChars 10 digits 0 = n ∧ n < UInt64.size

/-- The most variables that the options allow, 20 unless they say otherwise. -/
def Options.Allows (o : Options) (maxVariables : Nat) : Prop :=
  match o.maxVariables with
  | none => maxVariables = 20
  | some text => Denotes text maxVariables

/-- The line says whether all, some or none of the valuations satisfy the
proposition. -/
structure Concludes (p : Proposition) (line : String) : Prop where
  tautology : line = "tautology" ↔ ∀ v, p.holds v = true
  satisfiable (count examined : Nat) :
    line = "satisfiable (" ++ toString count ++ " of " ++ toString examined ++ ")" ↔
      ((∃ v, p.holds v = true) ∧ ∃ v, p.holds v = false) ∧
        p.satisfying.length = count ∧ 2 ^ p.variableCount = examined
  between : (∃ v, p.holds v = true) → (∃ v, p.holds v = false) →
    0 < p.satisfying.length ∧ p.satisfying.length < 2 ^ p.variableCount
  unsatisfiable : line = "unsatisfiable" ↔ ∀ v, p.holds v = false

/-- The outcome tells which valuations satisfy the proposition. -/
structure Reports (p : Proposition) (all : Bool) (out : Outcome) : Prop where
  code_eq_zero_iff : out.code = 0 ↔ ∃ v, p.holds v = true
  code_eq_one_iff : out.code = 1 ↔ ∀ v, p.holds v = false
  stdout_eq : ∃ line, Concludes p line ∧
    out.stdout = toString p :: (if all then p.satisfying.map toString else []) ++ [line]
  nodup : (p.satisfying.map (toString : Assignment → String)).Nodup

theorem concludes_of_trueOf (h : verdict.TrueOf p) : Concludes p verdict.text := by
  have htautology : verdict.text = "tautology" ↔ verdict = .tautology :=
    Verdict.text_injective.eq_iff (b := .tautology)
  have hsatisfiable (count examined : Nat) :
      verdict.text = "satisfiable (" ++ toString count ++ " of " ++ toString examined ++ ")" ↔
        verdict = .satisfiable count examined :=
    Verdict.text_injective.eq_iff (b := .satisfiable count examined)
  have hunsatisfiable : verdict.text = "unsatisfiable" ↔ verdict = .unsatisfiable :=
    Verdict.text_injective.eq_iff (b := .unsatisfiable)
  refine ⟨?_, fun count examined => ?_, fun hsome hother => ?_, ?_⟩
  · rw [htautology]
    cases h <;> simp_all
  · rw [hsatisfiable]
    cases h <;> simp_all
  · exact ⟨p.length_satisfying_pos_iff.2 hsome, p.length_satisfying_lt_iff.2 hother⟩
  · rw [hunsatisfiable]
    cases h <;> simp_all

theorem exitCode_eq_zero_iff (h : verdict.TrueOf p) :
    exitCode verdict = 0 ↔ ∃ v, p.holds v = true := by
  cases h <;> simp_all [exitCode]

theorem exitCode_eq_one_iff (h : verdict.TrueOf p) :
    exitCode verdict = 1 ↔ ∀ v, p.holds v = false := by
  cases h <;> simp_all [exitCode]

theorem exitCode_ne_failure (v : Verdict) : exitCode v ≠ 255 := by
  cases v <;> simp [exitCode]

-- ---------------------------------------------------------------------------
-- Limits
-- ---------------------------------------------------------------------------

theorem readDigits_eq_some_iff {digits : List Char} :
    readDigits digits = some n ↔
      digits ≠ [] ∧ (∀ c ∈ digits, c.isDigit = true) ∧
        Nat.ofDigitChars 10 digits 0 = n ∧ n < UInt64.size := by
  rw [readDigits, ← Nat.ofDigitChars_eq_foldl, Option.ite_none_left_eq_some,
    Option.ite_none_right_eq_some]
  constructor
  · rintro ⟨hdigits, hlt, hn⟩
    cases hn
    simp_all
  · rintro ⟨hne, hdigits, rfl, hlt⟩
    simp_all

theorem readCount_eq_some_iff : readCount text = some n ↔ Denotes text n := by
  unfold readCount Denotes
  split
  · next cs heq =>
    rw [readDigits_eq_some_iff, heq]
    constructor
    · intro h
      exact ⟨cs, .inr rfl, h⟩
    · rintro ⟨digits, rfl | hcs, hne, hdigits, h⟩
      · -- a plus sign is no digit
        exact absurd (hdigits '+' List.mem_cons_self) (by decide)
      · cases hcs
        exact ⟨hne, hdigits, h⟩
  · next hplus =>
    rw [readDigits_eq_some_iff]
    constructor
    · intro h
      exact ⟨text.toList, .inl rfl, h⟩
    · rintro ⟨digits, rfl | hcs, h⟩
      · exact h
      · exact absurd hcs (hplus digits)

theorem Options.limit_eq_ok_iff : o.limit = .ok n ↔ o.Allows n := by
  unfold Options.limit Options.Allows
  cases o.maxVariables with
  | none => simp [Enumeration.defaultMaxVariables, eq_comm]
  | some text =>
    simp only [← readCount_eq_some_iff]
    cases readCount text <;> simp

-- ---------------------------------------------------------------------------
-- Runs
-- ---------------------------------------------------------------------------

theorem check_of_error (h : parse text = .error cause) :
    check maxVariables all (parse text) = .failure (SolveError.parse cause).message [] := by
  rw [h, check]

theorem check_of_lt (h : parse text = .ok parsed)
    (hlt : min maxVariables Pattern.maxVariables < parsed.root.variableCount) (all : Bool) :
    ∃ message, check maxVariables all (parse text) = .failure message [toString parsed.root] := by
  rw [← length_names_enumeration h maxVariables] at hlt
  rw [h, check]
  simp only [(parsed.enumeration maxVariables).solutions_of_limit_lt hlt]
  exact ⟨_, rfl⟩

theorem check_of_le (h : parse text = .ok parsed)
    (hle : parsed.root.variableCount ≤ min maxVariables Pattern.maxVariables) (all : Bool) :
    ∃ verdict, verdict.TrueOf parsed.root ∧ check maxVariables all (parse text) =
      { code := exitCode verdict
        stdout := toString parsed.root ::
          (if all then parsed.root.satisfying.map toString else []) ++ [verdict.text] } := by
  have hfree := unhindered_of_parse h hle
  obtain ⟨s, hs, hsolves⟩ := hfree.solutions_ok
  have hnames : (parsed.enumeration maxVariables).names =
      Variables.ascending parsed.root.names := congrArg Variables.ascending (names_of_parse h)
  have hassignments : s.assignments = parsed.root.satisfying := by
    rw [hsolves.assignments, hnames]
    rfl
  refine ⟨s.verdict, hsolves.trueOf hfree hnames, ?_⟩
  rw [h, check]
  simp only [hs, hassignments]

theorem isLine_satisfying (h : ∀ c ∈ p.occurrences, IsVariable c) :
    ∀ line ∈ p.satisfying.map (toString : Assignment → String), IsLine line := by
  intro line hline
  obtain ⟨a, ha, rfl⟩ := List.mem_map.1 hline
  refine Proposition.isLine_of_mem_models (Variables.nodup_ascending _) (fun c hc => ?_) ha
  exact h c (Proposition.mem_names.1 (Variables.mem_ascending.1 hc))

theorem isLine_check (hline : line ∈ (check maxVariables all (parse text)).stdout) :
    IsLine line := by
  cases h : parse text with
  | error cause =>
    rw [check_of_error h] at hline
    cases hline
  | ok parsed =>
    have hroot := Proposition.isLine_toString (isVariable_of_parse h)
    rcases Nat.lt_or_ge (min maxVariables Pattern.maxVariables) parsed.root.variableCount with
      hlt | hle
    · obtain ⟨message, hcheck⟩ := check_of_lt h hlt all
      rw [hcheck] at hline
      exact List.mem_singleton.1 hline ▸ hroot
    · obtain ⟨verdict, -, hcheck⟩ := check_of_le h hle all
      simp only [hcheck, List.cons_append, List.mem_cons, List.mem_append, List.not_mem_nil,
        or_false] at hline
      rcases hline with rfl | hline | rfl
      · exact hroot
      · cases all with
        | true => exact isLine_satisfying (isVariable_of_parse h) _ hline
        | false => cases hline
      · exact verdict.isLine_text

theorem answer_of_allows {read : Except ReadFailure String} {result : Except ParseError Parsed}
    (h : o.Allows maxVariables) :
    o.answer read result =
      if o.tokens then listTokens read else check maxVariables o.all result := by
  rw [Options.answer, Options.limit_eq_ok_iff.2 h]

theorem isLine_answer (hline : line ∈ (o.answer (.ok text) (parse text)).stdout) :
    IsLine line := by
  unfold Options.answer at hline
  split at hline
  · cases hline
  · split at hline
    · obtain ⟨l, -, rfl⟩ := List.mem_map.1 hline
      exact l.token.isLine_label
    · exact isLine_check hline

theorem reports_check (h : parse text = .ok parsed)
    (hle : parsed.root.variableCount ≤ min maxVariables Pattern.maxVariables) :
    Reports parsed.root all (check maxVariables all (parse text)) := by
  obtain ⟨verdict, htrue, hcheck⟩ := check_of_le h hle all
  rw [hcheck]
  exact ⟨exitCode_eq_zero_iff htrue, exitCode_eq_one_iff htrue,
    ⟨verdict.text, concludes_of_trueOf htrue, rfl⟩, parsed.root.nodup_satisfying_texts⟩

theorem head?_check (h : parse text = .ok parsed) :
    (check maxVariables all (parse text)).stdout.head? = some (toString parsed.root) := by
  rcases Nat.lt_or_ge (min maxVariables Pattern.maxVariables) parsed.root.variableCount with
    hlt | hle
  · obtain ⟨message, hcheck⟩ := check_of_lt h hlt all
    rw [hcheck]
    rfl
  · obtain ⟨verdict, -, hcheck⟩ := check_of_le h hle all
    rw [hcheck]
    rfl

theorem check_eq_refused_iff (h : parse text = .ok parsed) :
    (check maxVariables all (parse text)).code = 255 ∧
        (check maxVariables all (parse text)).stdout = [toString parsed.root] ↔
      min maxVariables Pattern.maxVariables < parsed.root.variableCount := by
  constructor
  · rintro ⟨hcode, -⟩
    by_contra hle
    obtain ⟨verdict, -, hcheck⟩ := check_of_le h (Nat.not_lt.1 hle) all
    rw [hcheck] at hcode
    exact exitCode_ne_failure verdict hcode
  · intro hlt
    obtain ⟨message, hcheck⟩ := check_of_lt h hlt all
    rw [hcheck]
    exact ⟨rfl, rfl⟩

/-- A run that gets options and a text refuses a limit that is not a count, lists
the tokens of the text if that is what it is asked for, refuses a text that does
not parse, and otherwise prints its sentence and tells which valuations satisfy
it, unless there are too many variables. -/
theorem run_tells_truth {ε : Type} {accept : List String → Except ε Options}
    (haccept : accept args = .ok o) (hread : o.text env = .ok text) :
    ∃ out, runWith accept args env = .ok out ∧ (∀ line ∈ out.stdout, IsLine line) ∧
      ((¬ ∃ maxVariables, o.Allows maxVariables) → out.code = 255 ∧ out.stdout = []) ∧
      ∀ maxVariables, o.Allows maxVariables →
        (o.tokens = true →
          out.code = 0 ∧ out.stdout = (lexemes text.toList).map (·.token.label)) ∧
        (o.tokens = false →
          (∀ cause, parse text = .error cause → out.code = 255 ∧ out.stdout = []) ∧
          ∀ parsed, parse text = .ok parsed →
            out.stdout.head? = some (toString parsed.root) ∧
            (out.code = 255 ∧ out.stdout = [toString parsed.root] ↔
              min maxVariables 63 < parsed.root.variableCount) ∧
            (parsed.root.variableCount ≤ min maxVariables 63 →
              Reports parsed.root o.all out)) := by
  have hrun : runWith accept args env = .ok (o.answer (.ok text) (parse text)) := by
    rw [runWith_of_accept haccept, respond_of_text hread, parseRead]
  refine ⟨_, hrun, fun line => isLine_answer, fun hnone => ?_, fun maxVariables hallows => ?_⟩
  · cases hlimit : o.limit with
    | error count => simp [Options.answer, hlimit, Outcome.failure]
    | ok m => exact absurd ⟨m, Options.limit_eq_ok_iff.1 hlimit⟩ hnone
  · rw [answer_of_allows hallows]
    refine ⟨fun htokens => ?_, fun htokens => ?_⟩
    · rw [htokens, if_pos rfl, listTokens, TokenStream.drain_ofList]
      exact ⟨rfl, rfl⟩
    · rw [htokens, if_neg Bool.false_ne_true]
      refine ⟨fun cause h => ?_, fun parsed h => ?_⟩
      · rw [check_of_error h]
        exact ⟨rfl, rfl⟩
      · exact ⟨head?_check h, check_eq_refused_iff h, reports_check h⟩

/-- `p|q` with a limit of two variables is satisfied by three assignments of
four, all of which are listed. -/
theorem run_tells_truth_disj :
    Options.ofArgs ["--all", "--max-variables=+2", "q|p"] =
      .ok ⟨some "q|p", none, some "+2", false, true⟩ ∧
    ∃ out, run ["--all", "--max-variables=+2", "q|p"] ⟨.empty, fun _ => none⟩ = .ok out ∧
      out.code = 0 ∧ out.stdout.head? = some "q | p" ∧
      Reports (.disj (.var 'q') (.var 'p')) true out := by
  have haccept : Options.ofArgs ["--all", "--max-variables=+2", "q|p"] =
      .ok ⟨some "q|p", none, some "+2", false, true⟩ := by decide +kernel
  have hparse : parse "q|p" = .ok ⟨.disj (.var 'q') (.var 'p'), ['q', 'p']⟩ := by decide +kernel
  have hallows : Options.Allows ⟨some "q|p", none, some "+2", false, true⟩ 2 :=
    ⟨['2'], .inr rfl, by simp, by simp, rfl, by decide⟩
  have hread : Options.text ⟨some "q|p", none, some "+2", false, true⟩
      ⟨.empty, fun _ => none⟩ = .ok "q|p" := rfl
  obtain ⟨out, hrun, -, -, hout⟩ := run_tells_truth haccept hread
  obtain ⟨hhead, -, hreports⟩ := ((hout 2 hallows).2 rfl).2 _ hparse
  have hreports := hreports (by decide)
  refine ⟨haccept, out, hrun, hreports.code_eq_zero_iff.2 ⟨fun _ => true, rfl⟩, ?_, hreports⟩
  rw [hhead]
  rfl

end TruthTable.CommandLine
