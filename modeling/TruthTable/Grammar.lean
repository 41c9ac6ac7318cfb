import TruthTable.Proposition
import TruthTable.Token

/-!
# The grammar of sentences

    sentence ::= clause | clause '|' sentence
    clause   ::= atom | atom '&' clause
    atom     ::= term | '~' atom
    term     ::= VARIABLE | 'T' | 'F' | '(' sentence ')'

What follows an operator and what stands between parentheses is one level
deeper than the phrase that it belongs to; what stands left of `&` or `|` is
not.
-/

namespace TruthTable

inductive Rule
  | sentence
  | clause
  | atom
  | term
  deriving DecidableEq

def Rule.name : Rule → String
  | sentence => "sentence"
  | clause => "clause"
  | atom => "atom"
  | term => "term"

/-- The tokens are a phrase of the rule for the proposition, nested at most
`levels` deep. -/
inductive Derives : Rule → Nat → List Token → Proposition → Prop
  | var {levels : Nat} (name : Char) : Derives .term levels [.var name] (.var name)
  | constant {levels : Nat} (b : Bool) : Derives .term levels [.constant b] (.constant b)
  | group {levels : Nat} {ts : List Token} {p : Proposition} :
      Derives .sentence levels ts p →
      Derives .term (levels + 1) (.lparen :: ts ++ [.rparen]) p
  | ofTerm {levels : Nat} {ts : List Token} {p : Proposition} :
      Derives .term levels ts p → Derives .atom levels ts p
  | neg {levels : Nat} {ts : List Token} {p : Proposition} :
      Derives .atom levels ts p → Derives .atom (levels + 1) (.neg :: ts) (.neg p)
  | ofAtom {levels : Nat} {ts : List Token} {p : Proposition} :
      Derives .atom levels ts p → Derives .clause levels ts p
  | conj {levels : Nat} {ts us : List Token} {p q : Proposition} :
      Derives .atom (levels + 1) ts p → Derives .clause levels us q →
      Derives .clause (levels + 1) (ts ++ .conj :: us) (.conj p q)
  | ofClause {levels : Nat} {ts : List Token} {p : Proposition} :
      Derives .clause levels ts p → Derives .sentence levels ts p
  | disj {levels : Nat} {ts us : List Token} {p q : Proposition} :
      Derives .clause (levels + 1) ts p → Derives .sentence levels us q →
      Derives .sentence (levels + 1) (ts ++ .disj :: us) (.disj p q)

end TruthTable
