import TruthTable.Proofs.GrammarLaws
import TruthTable.Proofs.ParseLaws
import TruthTable.Proofs.VariableLaws

/-!
# The parser accepts its grammar

`parses_iff_derives`: a text parses to a proposition within a number of levels
just when its tokens derive it within that number. `Found` says what a rule
leaves behind when it succeeds; each rule keeps to it if its descent does. The
converse goes along the derivation.
-/

namespace TruthTable

open ParseM Session

-- ---------------------------------------------------------------------------
-- What a rule finds
-- ---------------------------------------------------------------------------

/-- What a rule that succeeds has done to a session. It found nothing, and
only because nothing was ahead, or it took a phrase from the front and
registered the variables in it. -/
inductive Found (r : Rule) (k : Nat) (s t : Session) (ls : List Lexeme) (n : Nat) :
    Option Proposition → Prop
  | nothing : ls = [] → t.stream.Ahead [] n → t.names = s.names → Found r k s t ls n none
  | phrase (taken rest : List Lexeme) {p : Proposition} :
      ls = taken ++ rest → Derives r k (taken.map Lexeme.token) p → t.stream.Ahead rest n →
      t.names = p.occurrences.foldl Variables.appendNew s.names → Found r k s t ls n (some p)

theorem Found.operator {r r' : Rule} {k n : Nat} {s t u : Session} {l : Lexeme}
    {ls first behind : List Lexeme} {p q pq : Proposition}
    (hf : Found r' k u.advance t behind n (some q)) (hls : ls = first ++ l :: behind)
    (hnames : u.names = p.occurrences.foldl Variables.appendNew s.names)
    (hd : ∀ {us}, Derives r' k us q →
      Derives r (k + 1) (first.map Lexeme.token ++ l.token :: us) pq)
    (hpq : pq.occurrences = p.occurrences ++ q.occurrences) :
    Found r (k + 1) s t ls n (some pq) := by
  cases hf with
  | phrase second rest hrest hq ht hnames' =>
    refine .phrase (first ++ l :: second) rest ?_ ?_ ht ?_
    · rw [hls, hrest, List.append_assoc, List.cons_append]
    · rw [List.map_append, List.map_cons]
      exact hd hq
    · rw [hnames', names_advance, hnames, hpq, List.foldl_append]

/-- Every success of the rule is as `Found` says. -/
def Finds (m : ParseM (Option Proposition)) (r : Rule) (k : Nat) : Prop :=
  ∀ {s t : Session} {ls : List Lexeme} {n : Nat} {o : Option Proposition},
    s.stream.Ahead ls n → m.run s = .ok o t → Found r k s t ls n o

def Grounded (D : Descent) (levels : Nat) : Prop :=
  ∀ {l : Lexeme} {r : Rule} {s t : Session} {ls : List Lexeme} {n : Nat} {o : Option Proposition},
    s.stream.Ahead ls n → (D l r).run s = .ok o t → ∃ k, levels = k + 1 ∧ Found r k s t ls n o

section
variable {D : Descent} {levels : Nat}

theorem readTerm_finds (hD : Grounded D levels) : Finds (Rule.readTerm D) .term levels := by
  intro s t ls n o hs h
  rw [Rule.run_readTerm hs] at h
  cases ls with
  | nil =>
    cases h
    exact .nothing rfl (ahead_giveBack hs) rfl
  | cons l rest =>
    obtain ⟨tok, i⟩ := l
    cases tok with
    | var name =>
      cases h
      exact .phrase [⟨.var name, i⟩] rest rfl (.var name) (ahead_advance hs) rfl
    | constant b =>
      cases h
      exact .phrase [⟨.constant b, i⟩] rest rfl (.constant b) (ahead_advance hs) rfl
    | lparen =>
      obtain ⟨interior, u, hd, h⟩ := bind_ok.1 h
      obtain ⟨k, rfl, hf⟩ := hD (ahead_advance hs) hd
      cases hf with
      | nothing _ hu => obtain ⟨_, _, _, hnone, -⟩ := Rule.closeGroup_ok hu h; cases hnone
      | phrase taken _ hrest hp hu hnames =>
        obtain ⟨_, j, behind, hsome, rfl, rfl, rfl⟩ := Rule.closeGroup_ok hu h
        cases hsome
        refine .phrase (⟨.lparen, i⟩ :: taken ++ [⟨.rparen, j⟩]) behind ?_ ?_
          (ahead_advance hu) hnames
        · simpa using hrest
        · simpa using Derives.group hp
    | _ => cases h

theorem readAtom_finds (hD : Grounded D levels) : Finds (Rule.readAtom D) .atom levels := by
  intro s t ls n o hs h
  rcases Rule.readAtom_ok hs h with ⟨i, rest, p, rfl, rfl, hd⟩ | h
  · obtain ⟨k, rfl, hf⟩ := hD (ahead_advance hs) hd
    cases hf with
    | phrase taken behind hrest hp ht hnames =>
      exact .phrase (⟨.neg, i⟩ :: taken) behind (congrArg _ hrest) (.neg hp) ht hnames
  · cases readTerm_finds hD (ahead_giveBack hs) h with
    | nothing hls ht hnames => exact .nothing hls ht hnames
    | phrase taken rest hls hp ht hnames => exact .phrase taken rest hls (.ofTerm hp) ht hnames

theorem readClause_finds (hD : Grounded D levels) : Finds (Rule.readClause D) .clause levels := by
  intro s t ls n o hs h
  obtain ⟨left, u, ha, h⟩ := Rule.readClause_ok h
  cases readAtom_finds hD hs ha with
  | nothing hls hu hnames =>
    rcases Rule.continueClause_ok hu h with ⟨_, _, _, _, hnone, -⟩ | ⟨rfl, rfl, -⟩
    · cases hnone
    · exact .nothing hls (ahead_giveBack hu) hnames
  | phrase first behind hls hp hu hnames =>
    rcases Rule.continueClause_ok hu h with ⟨_, i, _, q, hsome, rfl, rfl, hd⟩ | ⟨rfl, rfl, -⟩
    · cases hsome
      obtain ⟨k, rfl, hf⟩ := hD (ahead_advance hu) hd
      exact hf.operator hls hnames (.conj hp) rfl
    · exact .phrase first behind hls (.ofAtom hp) (ahead_giveBack hu) hnames

theorem readSentence_finds (hD : Grounded D levels) :
    Finds (Rule.readSentence D) .sentence levels := by
  intro s t ls n o hs h
  obtain ⟨left, u, ha, h⟩ := Rule.readSentence_ok h
  cases readClause_finds hD hs ha with
  | nothing hls hu hnames =>
    rcases Rule.continueSentence_ok hu h with ⟨_, _, _, _, hnone, -⟩ | ⟨rfl, rfl, -⟩
    · cases hnone
    · exact .nothing hls (ahead_giveBack hu) hnames
  | phrase first behind hls hp hu hnames =>
    rcases Rule.continueSentence_ok hu h with ⟨_, i, _, q, hsome, rfl, rfl, hd⟩ | ⟨rfl, rfl, -⟩
    · cases hsome
      obtain ⟨k, rfl, hf⟩ := hD (ahead_advance hu) hd
      exact hf.operator hls hnames (.disj hp) rfl
    · exact .phrase first behind hls (.ofClause hp) (ahead_giveBack hu) hnames

theorem read_finds (hD : Grounded D levels) (r : Rule) : Finds (r.read D) r levels := by
  cases r with
  | sentence => exact readSentence_finds hD
  | clause => exact readClause_finds hD
  | atom => exact readAtom_finds hD
  | term => exact readTerm_finds hD

end

theorem grounded_descend (levels : Nat) : Grounded (Rule.descend levels) levels := by
  induction levels with
  | zero =>
    intro l r s t ls n o _ h
    obtain ⟨k, _, hk, -⟩ := descend_ok h
    cases hk
  | succ levels ih =>
    intro l r s t ls n o hs h
    -- going down and up again changes neither the stream nor the names
    obtain ⟨k, u, hk, h, rfl⟩ := descend_ok h
    cases hk
    refine ⟨levels, rfl, ?_⟩
    cases read_finds ih r (s := s.below) hs h with
    | nothing hls ht hnames => exact .nothing hls ht hnames
    | phrase taken rest hls hp ht hnames => exact .phrase taken rest hls hp ht hnames

-- ---------------------------------------------------------------------------
-- What is derived is found
-- ---------------------------------------------------------------------------

/-- The rule reads lexemes with the tokens `ts` as `p` wherever it can stop
behind them. -/
def Reads (r : Rule) (levels : Nat) (ts : List Token) (p : Proposition) : Prop :=
  ∀ {s : Session} {taken rest : List Lexeme} {n : Nat},
    taken.map Lexeme.token = ts → r.StopsAt rest → s.stream.Ahead (taken ++ rest) n →
      ∃ t, (r.read (Rule.descend levels)).run s = .ok (some p) t ∧ t.stream.Ahead rest n

section
variable {levels : Nat} {ts us : List Token} {p q : Proposition}

theorem reads_group (hp : Reads .sentence levels ts p) :
    Reads .term (levels + 1) (.lparen :: ts ++ [.rparen]) p := by
  intro s taken rest n htaken _ hs
  obtain ⟨front, back, rfl, hfront, hback⟩ := List.map_eq_append_iff.1 htaken
  obtain ⟨⟨_, i⟩, inner, rfl, rfl, hinner⟩ := List.map_eq_cons_iff.1 hfront
  obtain ⟨⟨_, j⟩, rfl, rfl⟩ := List.map_eq_singleton_iff.1 hback
  rw [List.append_assoc, List.cons_append] at hs
  have hstop : Rule.sentence.StopsAt ([⟨.rparen, j⟩] ++ rest) := by simp [Rule.StopsAt]
  obtain ⟨t, ht, hrest⟩ := hp (s := s.advance.below) hinner hstop (ahead_advance hs)
  refine ⟨t.above.advance, ?_, ahead_advance hrest⟩
  exact (Rule.run_readTerm hs).trans
    ((run_bind_of_ok (run_descend ht)).trans (Rule.run_closeGroup (s := t.above) hrest))

theorem reads_neg (hp : Reads .atom levels ts p) :
    Reads .atom (levels + 1) (.neg :: ts) (.neg p) := by
  intro s taken rest n htaken _ hs
  obtain ⟨⟨_, i⟩, inner, rfl, rfl, hinner⟩ := List.map_eq_cons_iff.1 htaken
  obtain ⟨t, ht, hrest⟩ := hp (s := s.advance.below) hinner trivial (ahead_advance hs)
  refine ⟨t.above, (Rule.run_readAtom hs).trans ?_, hrest⟩
  exact run_bind_of_ok (Rule.run_operand (run_descend ht))

theorem reads_ofTerm (ht : Derives .term levels ts p) (hp : Reads .term levels ts p) :
    Reads .atom levels ts p := by
  intro s taken rest n htaken _ hs
  -- the atom gives the first token back, for it does not start with `~`
  obtain ⟨t, us, rfl, hne⟩ := ht.term_head
  obtain ⟨l, inner, rfl, rfl, -⟩ := List.map_eq_cons_iff.1 htaken
  obtain ⟨t, ht, hrest⟩ := hp (s := s.giveBack .atom) htaken trivial (ahead_giveBack hs)
  exact ⟨t, (Rule.run_readAtom_of_ne_neg hs hne).trans ht, hrest⟩

theorem reads_ofAtom (hp : Reads .atom levels ts p) : Reads .clause levels ts p := by
  intro s taken rest n htaken hstop hs
  obtain ⟨t, ht, hrest⟩ := hp htaken trivial hs
  refine ⟨t.giveBack .clause, ?_, ahead_giveBack hrest⟩
  exact (Rule.run_readClause ht).trans (Rule.run_continueClause_of_stopsAt hrest hstop)

theorem reads_operator {r left : Rule} {op : Token} {pq : Proposition}
    (hp : Reads left (levels + 1) ts p) (hq : Reads r levels us q)
    (hop : ∀ i rest, left.StopsAt (⟨op, i⟩ :: rest))
    (hjoin : ∀ {s t u : Session} {i n : Nat} {rest : List Lexeme},
      (left.read (Rule.descend (levels + 1))).run s = .ok (some p) t →
      t.stream.Ahead (⟨op, i⟩ :: rest) n →
      (Rule.descend (levels + 1) ⟨op, i⟩ r).run t.advance = .ok (some q) u →
      (r.read (Rule.descend (levels + 1))).run s = .ok (some pq) u) :
    Reads r (levels + 1) (ts ++ op :: us) pq := by
  intro s taken rest n htaken hstop hs
  obtain ⟨first, back, rfl, hfirst, hback⟩ := List.map_eq_append_iff.1 htaken
  obtain ⟨⟨_, i⟩, second, rfl, rfl, hsecond⟩ := List.map_eq_cons_iff.1 hback
  rw [List.append_assoc, List.cons_append] at hs
  obtain ⟨t, ht, hmid⟩ := hp hfirst (hop i _) hs
  obtain ⟨u, hu, hrest⟩ := hq (s := t.advance.below) hsecond hstop (ahead_advance hmid)
  exact ⟨u.above, hjoin ht hmid (run_descend hu), hrest⟩

theorem reads_conj (hp : Reads .atom (levels + 1) ts p) (hq : Reads .clause levels us q) :
    Reads .clause (levels + 1) (ts ++ .conj :: us) (.conj p q) := by
  refine reads_operator hp hq (fun _ _ => trivial) fun ht hmid hu => ?_
  refine (Rule.run_readClause ht).trans ((Rule.run_continueClause hmid).trans ?_)
  exact run_bind_of_ok (Rule.run_operand hu)

theorem reads_ofClause (hp : Reads .clause levels ts p) : Reads .sentence levels ts p := by
  intro s taken rest n htaken hstop hs
  -- where a sentence stops there is no `&`, so its clause stops there too
  have hclause : Rule.clause.StopsAt rest := by
    intro l hl
    simp [hstop l hl]
  obtain ⟨t, ht, hrest⟩ := hp htaken hclause hs
  refine ⟨t.giveBack .sentence, ?_, ahead_giveBack hrest⟩
  exact (Rule.run_readSentence ht).trans (Rule.run_continueSentence_of_stopsAt hrest hstop)

theorem reads_disj (hp : Reads .clause (levels + 1) ts p) (hq : Reads .sentence levels us q) :
    Reads .sentence (levels + 1) (ts ++ .disj :: us) (.disj p q) := by
  refine reads_operator hp hq (by simp [Rule.StopsAt]) fun ht hmid hu => ?_
  refine (Rule.run_readSentence ht).trans ((Rule.run_continueSentence hmid).trans ?_)
  exact run_bind_of_ok (Rule.run_operand hu)

end

theorem reads_of_derives {r : Rule} {levels : Nat} {ts : List Token} {p : Proposition}
    (h : Derives r levels ts p) : Reads r levels ts p := by
  induction h with
  | var name =>
    intro s taken rest n htaken _ hs
    obtain ⟨⟨_, i⟩, rfl, rfl⟩ := List.map_eq_singleton_iff.1 htaken
    exact ⟨_, Rule.run_readTerm hs, ahead_advance hs⟩
  | constant b =>
    intro s taken rest n htaken _ hs
    obtain ⟨⟨_, i⟩, rfl, rfl⟩ := List.map_eq_singleton_iff.1 htaken
    exact ⟨_, Rule.run_readTerm hs, ahead_advance hs⟩
  | group _ ih => exact reads_group ih
  | ofTerm ht ih => exact reads_ofTerm ht ih
  | neg _ ih => exact reads_neg ih
  | ofAtom _ ih => exact reads_ofAtom ih
  | conj _ _ ihp ihq => exact reads_conj ihp ihq
  | ofClause _ ih => exact reads_ofClause ih
  | disj _ _ ihp ihq => exact reads_disj ihp ihq

-- ---------------------------------------------------------------------------
-- Whole texts
-- ---------------------------------------------------------------------------

section
variable {levels : Nat} {text : List Char} {p : Proposition} {t : Session}

theorem ahead_ofList (text : List Char) :
    (Session.ofList text).stream.Ahead (symbols text) text.length :=
  TokenStream.ahead_ofList text

theorem readText_ok (h : readText levels text = .ok p t) :
    Derives .sentence levels (tokens text) p ∧
      t.names = p.occurrences.foldl Variables.appendNew [] := by
  obtain ⟨root, u, hroot, h⟩ := bind_ok.1 h
  cases read_finds (grounded_descend levels) .sentence (ahead_ofList text) hroot with
  -- an empty text is an error, and so is a phrase that leaves something
  | nothing _ hu =>
    rw [run_bind_of_ok (run_next hu)] at h
    cases h
  | phrase taken rest htaken hq hu hnames =>
    rw [run_bind_of_ok (run_next hu)] at h
    cases rest with
    | nil =>
      cases h
      rw [List.append_nil] at htaken
      rw [← map_token_symbols, htaken]
      exact ⟨hq, hnames⟩
    | cons l rest =>
      have hl := hu.ne_endOfInput List.mem_cons_self
      obtain ⟨tok, i⟩ := l
      cases tok with
      | endOfInput => exact absurd rfl hl
      | _ => cases h

theorem readText_of_derives (h : Derives .sentence levels (tokens text) p) :
    ∃ t, readText levels text = .ok p t := by
  have hs := ahead_ofList text
  rw [← List.append_nil (symbols text)] at hs
  obtain ⟨t, ht, hend⟩ := reads_of_derives h (map_token_symbols text) (by simp [Rule.StopsAt]) hs
  exact ⟨t.advance, (run_bind_of_ok ht).trans (run_bind_of_ok (run_next hend))⟩

theorem parseWithin_eq_ok {names : List Char} :
    parseWithin levels text = .ok ⟨p, names⟩ ↔
      Derives .sentence levels (tokens text) p ∧ names = p.names := by
  constructor
  · intro h
    unfold parseWithin at h
    split at h
    · next root s hread =>
      cases h
      obtain ⟨hp, hnames⟩ := readText_ok hread
      exact ⟨hp, hnames.trans (p.addNames_eq_foldl []).symm⟩
    · cases h
  · rintro ⟨hp, rfl⟩
    obtain ⟨t, ht⟩ := readText_of_derives hp
    obtain ⟨-, hnames⟩ := readText_ok ht
    rw [← Proposition.addNames_eq_foldl] at hnames
    simp only [parseWithin, ht, hnames, Proposition.names]

/-- The parser accepts exactly its grammar, with exactly its trees, up to the
nesting limit. -/
theorem parses_iff_derives (levels : Nat) (text : List Char) (p : Proposition) :
    (∃ names, parseWithin levels text = .ok ⟨p, names⟩) ↔
      Derives .sentence levels (tokens text) p := by
  constructor
  · rintro ⟨names, h⟩
    exact (parseWithin_eq_ok.1 h).1
  · intro h
    exact ⟨p.names, parseWithin_eq_ok.2 ⟨h, rfl⟩⟩

end

end TruthTable
