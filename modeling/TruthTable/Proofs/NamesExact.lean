import TruthTable.Enumeration
import TruthTable.Proofs.ParseExact

/-!
# The variables of a parsed text

`parsed_names_exact`: the variables registered while a text is read are those
of the proposition that it parses to, in the order in which its tokens name
them first. So it makes no difference to an enumeration whether its variables
come from the parsed text or from the proposition.
-/

namespace TruthTable

variable {levels : Nat} {text : List Char} {parsed : Parsed}

theorem Derives.names_eq {r : Rule} {ts : List Token} {p : Proposition}
    (h : Derives r levels ts p) : p.names = (ts.filterMap Token.name?).eraseDups := by
  rw [h.filterMap_name?, p.names_eq_eraseDups]

theorem ofParsed_eq_ofProposition (h : parseWithin levels text = .ok parsed) :
    Enumeration.ofParsed parsed = Enumeration.ofProposition parsed.root := by
  rw [Enumeration.ofParsed, (parseWithin_eq_ok.1 h).2]
  rfl

/-- The variables of a parsed text are those of its proposition and those that
its tokens name, each one once, in the order of their first occurrence. The
enumerations over the two lists are the same and have the same runs. -/
theorem parsed_names_exact (levels : Nat) (text : List Char) (parsed : Parsed)
    (h : parseWithin levels text = .ok parsed) :
    parsed.names = parsed.root.names ∧
    parsed.names.Nodup ∧
    parsed.names = ((tokens text).filterMap Token.name?).eraseDups ∧
    parsed.ascendingNames.Pairwise (· < ·) ∧
    parsed.ascendingNames.Perm parsed.names ∧
    (Enumeration.ofParsed parsed).names = (Enumeration.ofProposition parsed.root).names ∧
    ∀ maxVariables cancel,
      { Enumeration.ofParsed parsed with maxVariables, cancel : Enumeration }.run =
        { Enumeration.ofProposition parsed.root with maxVariables, cancel : Enumeration }.run := by
  have hsame := ofParsed_eq_ofProposition h
  obtain ⟨root, names⟩ := parsed
  obtain ⟨hroot, rfl⟩ := parseWithin_eq_ok.1 h
  refine ⟨rfl, root.nodup_names, hroot.names_eq, Variables.pairwise_ascending _,
    Variables.perm_ascending root.nodup_names, congrArg _ hsame, fun maxVariables cancel => ?_⟩
  rw [hsame]

theorem parsed_names_exact_three :
    parseWithin 2 ['(', 'q', '|', 'p', ')', '&', '~', 'q', '&', 'a'] =
      .ok ⟨.conj (.disj (.var 'q') (.var 'p')) (.conj (.neg (.var 'q')) (.var 'a')),
        ['q', 'p', 'a']⟩ ∧
    ['q', 'p', 'a'] =
      ((tokens ['(', 'q', '|', 'p', ')', '&', '~', 'q', '&', 'a']).filterMap
        Token.name?).eraseDups ∧
    (Variables.ascending ['q', 'p', 'a']).Perm ['q', 'p', 'a'] := by
  have hparse : parseWithin 2 ['(', 'q', '|', 'p', ')', '&', '~', 'q', '&', 'a'] =
      .ok ⟨.conj (.disj (.var 'q') (.var 'p')) (.conj (.neg (.var 'q')) (.var 'a')),
        ['q', 'p', 'a']⟩ := by decide +kernel
  obtain ⟨-, -, htokens, -, hperm, -⟩ := parsed_names_exact 2 _ _ hparse
  exact ⟨hparse, htokens, hperm⟩

end TruthTable
