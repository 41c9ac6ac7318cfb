import TruthTable.Proofs.OutlineExact
import TruthTable.Proofs.SessionLaws

/-!
# What is given back

`pushBacks_account`: when a text parses, its tokens tell how often each rule has
given a token back, and every time it was the token read last. Each rule keeps
the balance that `Balances` states: what it gives back is what the tokens of its
phrase account for, and what the end of the phrase does.
-/

namespace TruthTable

open ParseM Session

-- ---------------------------------------------------------------------------
-- Accounts
-- ---------------------------------------------------------------------------

def Token.isLeaf : Token → Bool
  | .var _ | .constant _ => true
  | .lparen | .rparen | .conj | .disj | .neg | .endOfInput | .unknown _ => false

def Rule.closes : Rule → List Rule
  | .sentence => [.clause, .sentence]
  | .clause => [.clause]
  | .atom | .term => []

/-- The rules that give a token back on account of a token in a phrase. In front
of a term an atom does, behind an operand of `|` a clause, and a group holds a
sentence of its own. -/
def Token.recalls : Token → List Rule
  | .var _ | .constant _ => [.atom]
  | .lparen => .atom :: Rule.sentence.closes
  | .disj => Rule.clause.closes
  | .rparen | .conj | .neg | .endOfInput | .unknown _ => []

def Session.givers (s : Session) : List Rule :=
  s.returned.toList.map PushBack.rule

/-- The rules that the tokens ahead account for. -/
def due (ls : List Lexeme) : List Rule :=
  ls.flatMap fun l => l.token.recalls

variable {s t u : Session} {ls later rest : List Lexeme} {l : Lexeme} {n levels : Nat}
variable {q r : Rule} {closes more total : List Rule} {D : Descent} {p : Proposition}

theorem givers_giveBack (s : Session) (r : Rule) : (s.giveBack r).givers = s.givers ++ [r] := by
  simp [givers, giveBack]

theorem count_due_cons (q : Rule) (l : Lexeme) (ls : List Lexeme) :
    (due (l :: ls)).count q = l.token.recalls.count q + (due ls).count q := by
  rw [due, List.flatMap_cons, List.count_append]
  rfl

/-- On the way from `s` to `t` the rule `q` has given back what it owes for the
tokens passed, and for `closes`. -/
def Accounts (q : Rule) (s t : Session) (ls rest : List Lexeme) (closes : List Rule) : Prop :=
  t.givers.count q + (due rest).count q = s.givers.count q + (due ls).count q + closes.count q

namespace Accounts

theorem refl : Accounts q s s ls ls [] :=
  rfl

theorem giveBack (h : Accounts q s t ls rest closes) (r : Rule) :
    Accounts q s (t.giveBack r) ls rest (closes ++ [r]) := by
  unfold Accounts at h ⊢
  rw [givers_giveBack, List.count_append, List.count_append]
  omega

/-- A token is passed. What is owed for it may have been given back before it
or behind it. -/
theorem pass (h : Accounts q s u ls (l :: later) closes)
    (h' : Accounts q u.advance t later rest more)
    (htotal : closes ++ more = l.token.recalls ++ total) : Accounts q s t ls rest total := by
  have hcount := congrArg (List.count q) htotal
  rw [List.count_append, List.count_append] at hcount
  unfold Accounts at h h' ⊢
  rw [count_due_cons] at h
  change _ = u.givers.count q + _ + _ at h'
  omega

end Accounts

/-- What a rule that finds a phrase gives back accounts for the tokens of the
phrase, and for its end. -/
def Balances (m : ParseM (Option Proposition)) (closes : List Rule) : Prop :=
  ∀ (q : Rule) {s t : Session} {ls rest : List Lexeme} {n : Nat} {p : Proposition},
    s.stream.Ahead ls n → m.run s = .ok (some p) t → t.stream.Ahead rest n →
      Accounts q s t ls rest closes

-- ---------------------------------------------------------------------------
-- Rules
-- ---------------------------------------------------------------------------

section
variable (hG : Grounded D levels) (hD : ∀ l r, r ≠ .term → Balances (D l r) r.closes)
include hG hD

/-- The atom that asked for a term has given back its first token. -/
theorem readTerm_balances (hs : s.stream.Ahead ls n)
    (h : (Rule.readTerm D).run (s.giveBack .atom) = .ok (some p) t)
    (ht : t.stream.Ahead rest n) : Accounts q s t ls rest [] := by
  have hback := ahead_giveBack (r := .atom) hs
  have hatom : Accounts q s (s.giveBack .atom) ls ls [.atom] := Accounts.refl.giveBack .atom
  rw [Rule.run_readTerm hback] at h
  cases ls with
  | nil => cases h
  | cons l behind =>
    obtain ⟨tok, i⟩ := l
    cases tok with
    | var | constant =>
      cases h
      obtain rfl := ht.unique (ahead_advance hback)
      exact hatom.pass .refl rfl
    | lparen =>
      obtain ⟨interior, u, hd, h⟩ := bind_ok.1 h
      obtain ⟨k, -, hf⟩ := hG (ahead_advance hback) hd
      obtain ⟨inner, hu⟩ := hf.ahead
      obtain ⟨_, i, _, rfl, rfl, -, rfl⟩ := Rule.closeGroup_ok hu h
      obtain rfl := ht.unique (ahead_advance hu)
      -- the end of the interior gives back what the parenthesis still owes
      have hinner := hD _ .sentence (by simp) q (ahead_advance hback) hd hu
      have hgroup : Accounts q s u (_ :: behind) (_ :: _) [] := hatom.pass hinner rfl
      exact hgroup.pass .refl rfl
    | _ => cases h

theorem readAtom_balances : Balances (Rule.readAtom D) Rule.atom.closes := by
  intro q s t ls rest n p hs h ht
  rcases Rule.readAtom_ok hs h with ⟨i, behind, p, rfl, -, hd⟩ | h
  · have hoperand := hD _ .atom (by simp) q (ahead_advance hs) hd ht
    exact Accounts.refl.pass hoperand rfl
  · exact readTerm_balances hG hD hs h ht

theorem readClause_balances : Balances (Rule.readClause D) Rule.clause.closes := by
  intro q s t ls rest n p hs h ht
  obtain ⟨left, u, ha, h⟩ := Rule.readClause_ok h
  obtain ⟨behind, hu⟩ := (readAtom_finds hG hs ha).ahead
  rcases Rule.continueClause_ok hu h with ⟨_, i, later, _, rfl, rfl, -, hd⟩ | ⟨rfl, rfl, -⟩
  · have hleft := readAtom_balances hG hD q hs ha hu
    have hoperand := hD _ .clause (by simp) q (ahead_advance hu) hd ht
    exact hleft.pass hoperand rfl
  · have hleft := readAtom_balances hG hD q hs ha hu
    obtain rfl := ht.unique (ahead_giveBack hu)
    exact hleft.giveBack .clause

theorem readSentence_balances : Balances (Rule.readSentence D) Rule.sentence.closes := by
  intro q s t ls rest n p hs h ht
  obtain ⟨left, u, hc, h⟩ := Rule.readSentence_ok h
  obtain ⟨behind, hu⟩ := (readClause_finds hG hs hc).ahead
  rcases Rule.continueSentence_ok hu h with ⟨_, i, later, _, rfl, rfl, -, hd⟩ | ⟨rfl, rfl, -⟩
  · have hleft := readClause_balances hG hD q hs hc hu
    have hoperand := hD _ .sentence (by simp) q (ahead_advance hu) hd ht
    exact hleft.pass hoperand rfl
  · have hleft := readClause_balances hG hD q hs hc hu
    obtain rfl := ht.unique (ahead_giveBack hu)
    exact hleft.giveBack .sentence

theorem read_balances (hr : r ≠ .term) : Balances (r.read D) r.closes := by
  cases r with
  | sentence => exact readSentence_balances hG hD
  | clause => exact readClause_balances hG hD
  | atom => exact readAtom_balances hG hD
  | term => exact absurd rfl hr

end

theorem descend_balances (levels : Nat) (l : Lexeme) (r : Rule) (hr : r ≠ .term) :
    Balances (Rule.descend levels l r) r.closes := by
  induction levels generalizing l r with
  | zero =>
    intro q s t ls rest n p _ h
    obtain ⟨k, _, hk, -⟩ := descend_ok h
    cases hk
  | succ levels ih =>
    intro q s t ls rest n p hs h ht
    obtain ⟨k, u, hk, h, rfl⟩ := descend_ok h
    cases hk
    exact read_balances (grounded_descend levels) ih hr q (s := s.below) (t := u) hs h ht

-- ---------------------------------------------------------------------------
-- What was read last
-- ---------------------------------------------------------------------------

/-- A token is given back to the stream that reading it left behind. -/
def PushBack.IsOfLast (text : List Char) (b : PushBack) : Prop :=
  ∃ i s, TokenStream.At text i s ∧ s.next = (⟨b.token, b.stream.position⟩, b.stream)

theorem PushBack.IsOfLast.pending_eq_none {text : List Char} {b : PushBack}
    (h : b.IsOfLast text) : b.stream.pending = none := by
  obtain ⟨i, s, -, hs⟩ := h
  have hnext := s.pending_next
  rwa [hs] at hnext

/-- The stream has come to some lexeme of the text, and each token was given
back right after it was read. -/
def Session.Orderly (text : List Char) (s : Session) : Prop :=
  (∃ i, s.stream.At text i) ∧ ∀ b ∈ s.returned, b.IsOfLast text

theorem Session.Step.orderly {text : List Char} (h : Step s t) (hs : s.Orderly text) :
    t.Orderly text := by
  obtain ⟨hat, hreturned⟩ := hs
  refine ⟨h.at_lexeme hat, ?_⟩
  cases h with
  | advance | register => exact hreturned
  | giveBack r =>
    intro b hb
    rcases Array.mem_push.1 hb with hb | rfl
    · exact hreturned b hb
    · obtain ⟨i, hi⟩ := hat
      refine ⟨i, s.stream, hi, Prod.ext ?_ rfl⟩
      exact congrArg (Lexeme.mk _) s.stream.position_next.symm

theorem orderly_ofList (text : List Char) : (Session.ofList text).Orderly text :=
  ⟨⟨0, ahead_ofList text⟩, by simp [Session.ofList]⟩

theorem pushBacks_eq_after (levels : Nat) (text : List Char) :
    pushBacks levels text = ((Session.ofList text).after (readWhole levels)).returned.toList := by
  rw [pushBacks, readText, after]
  cases (readWhole levels).run (.ofList text) <;> rfl

theorem isOfLast_of_mem_pushBacks {text : List Char} {b : PushBack}
    (hb : b ∈ pushBacks levels text) : b.IsOfLast text := by
  have h := (Stepwise.readWhole levels (.ofList text)).keeps Step.orderly (orderly_ofList text)
  rw [pushBacks_eq_after] at hb
  exact h.2 b (Array.mem_toList_iff.1 hb)

-- ---------------------------------------------------------------------------
-- Whole texts
-- ---------------------------------------------------------------------------

theorem count_due (ls : List Lexeme) :
    (due ls).count .atom =
        (ls.map Lexeme.token).countP Token.isLeaf + (ls.map Lexeme.token).count .lparen ∧
      (due ls).count .clause =
        (ls.map Lexeme.token).count .lparen + (ls.map Lexeme.token).count .disj ∧
      (due ls).count .sentence = (ls.map Lexeme.token).count .lparen ∧
      (due ls).count .term = 0 := by
  induction ls with
  | nil => exact ⟨rfl, rfl, rfl, rfl⟩
  | cons l ls ih =>
    obtain ⟨hatom, hclause, hsentence, hterm⟩ := ih
    obtain ⟨tok, i⟩ := l
    simp only [count_due_cons, List.map_cons, List.countP_cons, List.count_cons, hatom, hclause,
      hsentence, hterm]
    cases tok <;> simp [Token.recalls, Token.isLeaf, Rule.closes] <;> omega

theorem readWhole_ok (hs : s.stream.Ahead ls n) (h : (readWhole levels).run s = .ok p t) :
    ∃ u, (Rule.sentence.read (Rule.descend levels)).run s = .ok (some p) u ∧
      u.stream.Ahead [] n ∧ t = u.advance := by
  obtain ⟨root, u, hroot, h⟩ := bind_ok.1 h
  obtain ⟨rest, hu⟩ := (read_finds (grounded_descend levels) .sentence hs hroot).ahead
  rw [run_bind_of_ok (run_next hu)] at h
  cases rest with
  | nil =>
    cases root with
    | none => cases h
    | some q =>
      cases h
      exact ⟨u, hroot, hu, rfl⟩
  | cons l rest =>
    have hl := hu.ne_endOfInput List.mem_cons_self
    obtain ⟨tok, i⟩ := l
    cases tok with
    | endOfInput => exact absurd rfl hl
    | _ => cases root <;> cases h

theorem count_givers {text : List Char} (q : Rule) (h : readText levels text = .ok p t) :
    t.givers.count q = (due (symbols text)).count q + Rule.sentence.closes.count q := by
  have hs := ahead_ofList text
  obtain ⟨u, hroot, hu, rfl⟩ := readWhole_ok hs h
  have hbalance :=
    read_balances (grounded_descend levels) (descend_balances levels) (by simp) q hs hroot hu
  change u.givers.count q + 0 = 0 + _ + _ at hbalance
  change u.givers.count q = _
  omega

def pushBackCount (levels : Nat) (text : List Char) (r : Rule) : Nat :=
  ((pushBacks levels text).map PushBack.rule).count r

/-- When a text parses, every variable, constant and group has had a token given
back in an atom, each group, each `|` and the whole one in a clause, and each
group and the whole one in a sentence. It was always the token read last, and
nothing was pending. -/
theorem pushBacks_account {text : List Char} {parsed : Parsed} {leaves groups disjs : Nat}
    (hparse : parseWithin levels text = .ok parsed)
    (hleaves : leaves = (tokens text).countP Token.isLeaf)
    (hgroups : groups = (tokens text).count .lparen)
    (hdisjs : disjs = (tokens text).count .disj) :
    pushBackCount levels text .atom = leaves + groups ∧
      pushBackCount levels text .clause = 1 + groups + disjs ∧
      pushBackCount levels text .sentence = 1 + groups ∧
      pushBackCount levels text .term = 0 ∧
      ∀ b ∈ pushBacks levels text, b.IsOfLast text ∧ b.stream.pending = none := by
  have hlast (b) (hb : b ∈ pushBacks levels text) : b.IsOfLast text ∧ b.stream.pending = none :=
    ⟨isOfLast_of_mem_pushBacks hb, (isOfLast_of_mem_pushBacks hb).pending_eq_none⟩
  subst hleaves hgroups hdisjs
  obtain ⟨hatom, hclause, hsentence, hterm⟩ := count_due (symbols text)
  rw [map_token_symbols] at hatom hclause hsentence
  unfold parseWithin at hparse
  split at hparse
  · next root t hread =>
    have hcount (q : Rule) : pushBackCount levels text q =
        (due (symbols text)).count q + Rule.sentence.closes.count q := by
      rw [← count_givers q hread, pushBackCount, pushBacks, hread]
      rfl
    refine ⟨?_, ?_, ?_, ?_, hlast⟩
    · rw [hcount, hatom]
      rfl
    · rw [hcount, hclause, Nat.add_comm, Nat.add_assoc]
      rfl
    · rw [hcount, hsentence, Nat.add_comm]
      rfl
    · rw [hcount, hterm]
      rfl
  · cases hparse

theorem pushBacks_account_negatedGroup :
    parseWithin 4 "~(A | T) & B".toList =
      .ok ⟨.conj (.neg (.disj (.var 'A') (.constant true))) (.var 'B'), ['A', 'B']⟩ ∧
    pushBackCount 4 "~(A | T) & B".toList .atom = 3 + 1 ∧
    pushBackCount 4 "~(A | T) & B".toList .clause = 1 + 1 + 1 ∧
    pushBackCount 4 "~(A | T) & B".toList .sentence = 1 + 1 ∧
    pushBackCount 4 "~(A | T) & B".toList .term = 0 ∧
    ∀ b ∈ pushBacks 4 "~(A | T) & B".toList,
      b.IsOfLast "~(A | T) & B".toList ∧ b.stream.pending = none := by
  have hparse : parseWithin 4 "~(A | T) & B".toList =
      .ok ⟨.conj (.neg (.disj (.var 'A') (.constant true))) (.var 'B'), ['A', 'B']⟩ := by
    decide +kernel
  have hleaves : 3 = (tokens "~(A | T) & B".toList).countP Token.isLeaf := by decide +kernel
  have hgroups : 1 = (tokens "~(A | T) & B".toList).count .lparen := by decide +kernel
  have hdisjs : 1 = (tokens "~(A | T) & B".toList).count .disj := by decide +kernel
  exact ⟨hparse, pushBacks_account hparse hleaves hgroups hdisjs⟩

end TruthTable
