import TruthTable.Proofs.ErrorExact
import TruthTable.Proofs.SolveExact

/-!
# What parsing depends on

An error depends on the text up to the character it points at, and on nothing
behind it (`error_blind_to_rest`). White space only moves errors: texts that are
the same without it are parsed and solved alike (`whiteSpace_never_matters`).
-/

namespace TruthTable

variable {levels i : Nat} {text text' : List Char} {l l' : Lexeme}
variable {before after before' after' : List Lexeme} {e : ParseError} {o : Outline}

-- ---------------------------------------------------------------------------
-- Behind an error
-- ---------------------------------------------------------------------------

theorem Outline.position?_of_fault? (h : o.fault? levels l = some e) :
    e.position? = some l.position := by
  rcases fault?_cases h with ⟨-, rfl⟩ | ⟨-, -, -, rfl⟩
  · exact o.position?_misplaced l
  · rfl

theorem lexemes_take_append (h : symbols text = before ++ l :: after) (rest : List Char) :
    lexemes (text.take (l.position + 1) ++ rest) =
      before ++ l :: lexemesFrom (l.position + 1) rest := by
  obtain ⟨front, c, behind, rfl, hc, hfront, rfl⟩ := symbolsFrom_split h
  have htake : (front ++ c :: behind).take (front.length + 1) = front ++ [c] := by
    rw [List.append_cons, List.take_left' (by simp)]
  rw [Nat.zero_add, htake, List.append_assoc, lexemes, lexemesFrom_append, hfront, Nat.zero_add]
  simp [lexemesFrom, hc]

/-- Parsing stops at its first error. If that lies inside the text, then every
text that begins the same, up to where the error points, has the same error. -/
theorem error_blind_to_rest (h : parseWithin levels text = .error e)
    (hi : e.position? = some i) (hlt : i < text.length) (rest : List Char) :
    parseWithin levels (text.take (i + 1) ++ rest) = .error e := by
  rw [parseWithin_eq_error_iff, Outline.firstFault?_eq_some_iff] at h ⊢
  obtain ⟨before, l, after, hsplit, hbefore, hl⟩ := h
  obtain rfl : l.position = i := Option.some.inj ((Outline.position?_of_fault? hl).symm.trans hi)
  rcases symbols_of_lexemes hsplit with ⟨after', hsymbols⟩ | ⟨-, rfl⟩
  · exact ⟨before, l, _, lexemes_take_append hsymbols rest, hbefore, hl⟩
  · -- the end of the text does not lie inside it
    exact absurd hlt (Nat.lt_irrefl _)

/-- Behind a `|` in the wrong place, and behind an `&` that is nested too
deeply, other texts have the same error. -/
theorem error_blind_to_rest_two :
    parseWithin 2 ['p', ' ', '|', '|', 'q'] = .error (.malformed .unexpectedToken ⟨.disj, 3⟩) ∧
    parseWithin 2 (['p', ' ', '|', '|', 'q'].take 4 ++ ['#', ')']) =
      .error (.malformed .unexpectedToken ⟨.disj, 3⟩) ∧
    parseWithin 1 ['(', 'p', '&', 'q', ')'] = .error (.malformed .tooDeep ⟨.conj, 2⟩) ∧
    parseWithin 1 (['(', 'p', '&', 'q', ')'].take 3 ++ []) =
      .error (.malformed .tooDeep ⟨.conj, 2⟩) := by
  have hmisplaced : parseWithin 2 ['p', ' ', '|', '|', 'q'] =
      .error (.malformed .unexpectedToken ⟨.disj, 3⟩) := by decide +kernel
  have hdeep : parseWithin 1 ['(', 'p', '&', 'q', ')'] =
      .error (.malformed .tooDeep ⟨.conj, 2⟩) := by decide +kernel
  exact ⟨hmisplaced, error_blind_to_rest hmisplaced rfl (by decide) ['#', ')'],
    hdeep, error_blind_to_rest hdeep rfl (by decide) []⟩

-- ---------------------------------------------------------------------------
-- White space
-- ---------------------------------------------------------------------------

def stripped (text : List Char) : List Char :=
  text.filter fun c => !Unicode.isWhiteSpace c

/-- The `k`-th character that is not white space has position `i`. -/
def StandsAt (text : List Char) (k i : Nat) : Prop :=
  ∃ c, text[i]? = some c ∧ Unicode.isWhiteSpace c = false ∧ (stripped (text.take i)).length = k

/-- The positions are those of corresponding characters or those of the ends. -/
def SamePlace (text text' : List Char) (i j : Nat) : Prop :=
  (∃ k, StandsAt text k i ∧ StandsAt text' k j) ∨ (i = text.length ∧ j = text'.length)

def ParseError.moveTo (j : Nat) : ParseError → ParseError
  | unreadable cause => unreadable cause
  | unrecognized c _ => unrecognized c j
  | malformed fault found => malformed fault { found with position := j }

/-- The errors of two texts are the same but for their positions, and these are
the same place in both texts. -/
def ParseError.Matches (text text' : List Char) (e f : ParseError) : Prop :=
  ∃ i j, e.position? = some i ∧ f.position? = some j ∧ f = e.moveTo j ∧ SamePlace text text' i j

def SolveError.Matches (text text' : List Char) : SolveError → SolveError → Prop
  | parse e, parse f => e.Matches text text' f
  | search h, search h' => h = h'
  | _, _ => False

/-- The results are the same, or they are errors that belong together. -/
inductive Agree {ε α : Type} (R : ε → ε → Prop) : Except ε α → Except ε α → Prop
  | ok (a : α) : Agree R (.ok a) (.ok a)
  | error {e f : ε} : R e f → Agree R (.error e) (.error f)

theorem length_stripped (text : List Char) : (stripped text).length = (symbols text).length := by
  rw [← List.length_map (f := Lexeme.token), map_token_symbols, tokens, List.length_map]
  rfl

theorem tokens_eq_of_stripped_eq (h : stripped text = stripped text') :
    tokens text = tokens text' :=
  congrArg (List.map Token.ofChar) h

theorem standsAt_of_lexemes (h : lexemes text = before ++ l :: after)
    (hl : l.token ≠ .endOfInput) : StandsAt text before.length l.position := by
  rcases symbols_of_lexemes h with ⟨rest, hsymbols⟩ | ⟨-, rfl⟩
  · obtain ⟨front, c, behind, rfl, hc, rfl, rfl⟩ := symbolsFrom_split hsymbols
    refine ⟨c, ?_, hc, ?_⟩
    · simp
    · rw [length_stripped]
      simp [symbols]
  · exact absurd rfl hl

theorem samePlace_of_lexemes (h : lexemes text = before ++ l :: after)
    (h' : lexemes text' = before' ++ l' :: after') (hlength : before.length = before'.length)
    (hl : l.token = l'.token) : SamePlace text text' l.position l'.position := by
  by_cases hend : l.token = .endOfInput
  · exact .inr ⟨(tokens_of_lexemes_end h hend).2, (tokens_of_lexemes_end h' (hl ▸ hend)).2⟩
  · exact .inl ⟨before.length, standsAt_of_lexemes h hend,
      hlength ▸ standsAt_of_lexemes h' (hl ▸ hend)⟩

theorem lexemes_split_of_tokens_eq (htokens : tokens text = tokens text')
    (h : lexemes text = before ++ l :: after) :
    ∃ before' l' after', lexemes text' = before' ++ l' :: after' ∧
      before'.map Lexeme.token = before.map Lexeme.token ∧ l'.token = l.token := by
  have hmap : (lexemes text').map Lexeme.token =
      before.map Lexeme.token ++ l.token :: after.map Lexeme.token := by
    rw [← List.map_cons, ← List.map_append, ← h, lexemes, lexemes, map_token_lexemesFrom,
      map_token_lexemesFrom, htokens]
  obtain ⟨before', back, hsplit, hbefore, hback⟩ := List.map_eq_append_iff.1 hmap
  obtain ⟨l', after', rfl, hl, -⟩ := List.map_eq_cons_iff.1 hback
  exact ⟨before', l', after', hsplit, hbefore, hl⟩

namespace Outline

theorem misplaced_moveTo (o : Outline) (l : Lexeme) (j : Nat) :
    o.misplaced { l with position := j } = (o.misplaced l).moveTo j := by
  obtain ⟨tok, i⟩ := l
  cases tok <;> rfl

theorem fault?_moveTo (h : o.fault? levels l = some e) (hl : l'.token = l.token) :
    o.fault? levels l' = some (e.moveTo l'.position) := by
  obtain ⟨tok, j⟩ := l'
  cases hl
  rcases fault?_cases h with ⟨hcont, rfl⟩ | ⟨hcont, hs, hle, rfl⟩
  · exact (fault?_of_not_continues (l := { l with position := j }) hcont).trans
      (congrArg some (o.misplaced_moveTo l j))
  · exact fault?_of_le (l := { l with position := j }) hcont hs hle

end Outline

theorem parseWithin_eq_ok_of_tokens_eq {parsed : Parsed} (htokens : tokens text = tokens text')
    (h : parseWithin levels text = .ok parsed) : parseWithin levels text' = .ok parsed := by
  obtain ⟨root, names⟩ := parsed
  rw [parseWithin_eq_ok] at h ⊢
  rwa [← htokens]

theorem parseWithin_eq_error_of_tokens_eq (htokens : tokens text = tokens text')
    (h : parseWithin levels text = .error e) :
    ∃ f, parseWithin levels text' = .error f ∧ e.Matches text text' f := by
  obtain ⟨before, l, after, hsplit, hbefore, hl⟩ :=
    Outline.firstFault?_eq_some_iff.1 (parseWithin_eq_error_iff.1 h)
  obtain ⟨before', l', after', hsplit', hbefore', hl'⟩ :=
    lexemes_split_of_tokens_eq htokens hsplit
  have hfault := Outline.fault?_moveTo hl hl'
  refine ⟨e.moveTo l'.position, ?_, l.position, l'.position, Outline.position?_of_fault? hl,
    Outline.position?_of_fault? hfault, rfl, ?_⟩
  · rw [parseWithin_eq_error_iff, Outline.firstFault?_eq_some_iff]
    refine ⟨before', l', after', hsplit', ?_, ?_⟩
    · rwa [hbefore']
    · rwa [hbefore']
  · have hlength := congrArg List.length hbefore'
    rw [List.length_map, List.length_map] at hlength
    exact samePlace_of_lexemes hsplit hsplit' hlength.symm hl'.symm

theorem agree_parseWithin (levels : Nat) (h : stripped text = stripped text') :
    Agree (ParseError.Matches text text') (parseWithin levels text) (parseWithin levels text') := by
  have htokens := tokens_eq_of_stripped_eq h
  cases hparse : parseWithin levels text with
  | ok parsed =>
    rw [parseWithin_eq_ok_of_tokens_eq htokens hparse]
    exact .ok parsed
  | error e =>
    obtain ⟨f, hf, hmatches⟩ := parseWithin_eq_error_of_tokens_eq htokens hparse
    rw [hf]
    exact .error hmatches

theorem agree_mapError_search {α : Type} (result : Except Halt α) :
    Agree (SolveError.Matches text text') (result.mapError .search) (result.mapError .search) := by
  cases result with
  | ok a => exact .ok a
  | error halt => exact .error rfl

/-- Texts that are the same without white space parse to the same proposition
and variables, or they have the same error in the same place. Solving tells
them apart no better. -/
theorem whiteSpace_never_matters (text text' : String)
    (h : stripped text.toList = stripped text'.toList) :
    (∀ levels, Agree (ParseError.Matches text.toList text'.toList)
      (parseWithin levels text.toList) (parseWithin levels text'.toList)) ∧
    ∀ maxVariables, Agree (SolveError.Matches text.toList text'.toList)
      (solve text maxVariables) (solve text' maxVariables) := by
  refine ⟨fun levels => agree_parseWithin levels h, fun maxVariables => ?_⟩
  have hparse : Agree _ (parse text) (parse text') := agree_parseWithin defaultLevels h
  rw [solve, solve]
  generalize parse text = result at hparse ⊢
  generalize parse text' = result' at hparse ⊢
  cases hparse with
  | ok parsed => exact agree_mapError_search (parsed.enumeration maxVariables).solutions
  | error hmatches => exact .error hmatches

theorem whiteSpace_never_matters_end :
    stripped "p&".toList = stripped "\t p  & \n".toList ∧
    (parseWithin 3 "p&".toList = .error (.malformed .unexpectedEnd ⟨.endOfInput, 2⟩) ∧
      parseWithin 3 "\t p  & \n".toList = .error (.malformed .unexpectedEnd ⟨.endOfInput, 8⟩)) ∧
    Agree (ParseError.Matches "p&".toList "\t p  & \n".toList)
      (parseWithin 3 "p&".toList) (parseWithin 3 "\t p  & \n".toList) ∧
    Agree (SolveError.Matches "p&".toList "\t p  & \n".toList)
      (solve "p&" 1) (solve "\t p  & \n" 1) := by
  have h : stripped "p&".toList = stripped "\t p  & \n".toList := by decide +kernel
  obtain ⟨hparse, hsolve⟩ := whiteSpace_never_matters _ _ h
  exact ⟨h, by decide +kernel, hparse 3, hsolve 1⟩

end TruthTable
