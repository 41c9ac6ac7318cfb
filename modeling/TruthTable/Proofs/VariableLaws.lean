import Mathlib.Data.Finset.Card
import TruthTable.Proposition

/-!
# Laws of variable lists

Collecting variables one by one or from a tree gives the same list, in which
each variable stands once, in the order of the first occurrences. Putting such
a list into ascending order only rearranges it.
-/

namespace TruthTable

namespace Variables

theorem nodup_appendNew {names : List Char} {name : Char} (h : names.Nodup) :
    (appendNew names name).Nodup := by
  unfold appendNew
  split
  · exact h
  · next hn => exact h.append (List.nodup_singleton name) (by simpa using hn)

theorem nodup_foldl_appendNew (occurrences : List Char) {names : List Char} (h : names.Nodup) :
    (occurrences.foldl appendNew names).Nodup := by
  induction occurrences generalizing names with
  | nil => exact h
  | cons name rest ih => exact ih (nodup_appendNew h)

theorem appendNew_eraseDups (names : List Char) (name : Char) :
    appendNew names.eraseDups name = (names ++ [name]).eraseDups := by
  unfold appendNew
  rw [List.eraseDups_append]
  split
  · next hmem =>
    have hold : [name].removeAll names = [] := by
      simpa [List.removeAll] using List.mem_eraseDups.1 hmem
    rw [hold, List.eraseDups_nil, List.append_nil]
  · next hmem =>
    have hnew : [name].removeAll names = [name] := by
      simpa [List.removeAll] using mt List.mem_eraseDups.2 hmem
    rw [hnew]
    rfl

/-- Putting names behind others, each unless it is there, appends those that are
new, in the order of their first occurrence. -/
theorem foldl_appendNew (names occurrences : List Char) :
    occurrences.foldl appendNew names =
      names ++ occurrences.eraseDups.filter fun c => c ∉ names := by
  induction occurrences using List.reverseRecOn with
  | nil => simp
  | append_singleton rest name ih =>
    have hstep (new : List Char) :
        appendNew (names ++ new.filter fun c => c ∉ names) name =
          names ++ (appendNew new name).filter fun c => c ∉ names := by
      by_cases hold : name ∈ names <;> by_cases hnew : name ∈ new <;>
        simp [appendNew, hold, hnew]
    rw [List.foldl_append, ih, ← appendNew_eraseDups]
    exact hstep rest.eraseDups

theorem foldl_appendNew_eq_eraseDups (occurrences : List Char) :
    occurrences.foldl appendNew [] = occurrences.eraseDups := by
  simp [foldl_appendNew]

theorem find?_appendNew (f : Char → Bool) (names : List Char) (name : Char) :
    (appendNew names name).find? f = (names ++ [name]).find? f := by
  unfold appendNew
  split
  · next hmem =>
    rw [List.find?_append]
    cases hfind : names.find? f with
    | some x => rfl
    | none =>
      have hname : f name = false := by simpa using List.find?_eq_none.1 hfind name hmem
      simp [hname]
  · rfl

theorem find?_foldl_appendNew (f : Char → Bool) (names occurrences : List Char) :
    (occurrences.foldl appendNew names).find? f = (names ++ occurrences).find? f := by
  induction occurrences generalizing names with
  | nil => simp
  | cons name rest ih =>
    rw [List.foldl_cons, ih, List.find?_append, find?_appendNew, ← List.find?_append,
      List.append_assoc, List.singleton_append]

theorem nodup_ascending (names : List Char) : (ascending names).Nodup :=
  (pairwise_ascending names).imp Char.ne_of_lt

theorem perm_ascending_of_mem_iff {names others : List Char} (h : others.Nodup)
    (hmem : ∀ c, c ∈ names ↔ c ∈ others) : (ascending names).Perm others :=
  (List.perm_ext_iff_of_nodup (nodup_ascending names) h).2 fun c => mem_ascending.trans (hmem c)

theorem perm_ascending {names : List Char} (h : names.Nodup) : (ascending names).Perm names :=
  perm_ascending_of_mem_iff h fun _ => Iff.rfl

theorem length_eq_card {names : List Char} {s : Finset Char} (h : names.Nodup)
    (hmem : ∀ c, c ∈ names ↔ c ∈ s) : names.length = s.card := by
  have hset : names.toFinset = s := by
    ext c
    rw [List.mem_toFinset, hmem]
  rw [← hset, List.toFinset_card_of_nodup h]

theorem length_ascending (names : List Char) :
    (ascending names).length = names.toFinset.card :=
  length_eq_card (nodup_ascending names) (by simp [mem_ascending])

end Variables

namespace Proposition

theorem addNames_eq_foldl (p : Proposition) (names : List Char) :
    p.addNames names = p.occurrences.foldl Variables.appendNew names := by
  induction p generalizing names with
  | disj l r ihl ihr => rw [addNames, ihl, ihr, occurrences, List.foldl_append]
  | conj l r ihl ihr => rw [addNames, ihl, ihr, occurrences, List.foldl_append]
  | neg p ih => exact ih names
  | var name => rfl
  | constant b => rfl

theorem find?_names (p : Proposition) (f : Char → Bool) :
    p.names.find? f = p.occurrences.find? f := by
  rw [names, addNames_eq_foldl, Variables.find?_foldl_appendNew, List.nil_append]

theorem names_eq_eraseDups (p : Proposition) : p.names = p.occurrences.eraseDups := by
  rw [names, addNames_eq_foldl, Variables.foldl_appendNew_eq_eraseDups]

theorem addNames_names (p q : Proposition) :
    q.addNames p.names = p.names ++ q.names.filter fun c => c ∉ p.names := by
  rw [addNames_eq_foldl, Variables.foldl_appendNew, ← names_eq_eraseDups]

theorem mem_names {p : Proposition} {c : Char} : c ∈ p.names ↔ c ∈ p.occurrences := by
  rw [names_eq_eraseDups, List.mem_eraseDups]

theorem nodup_names (p : Proposition) : p.names.Nodup := by
  rw [names, addNames_eq_foldl]
  exact Variables.nodup_foldl_appendNew p.occurrences List.nodup_nil

theorem length_ascending_names (p : Proposition) :
    (Variables.ascending p.names).length = p.names.length :=
  (Variables.perm_ascending p.nodup_names).length_eq

def variableCount (p : Proposition) : Nat :=
  p.occurrences.toFinset.card

theorem variableCount_eq (p : Proposition) : p.variableCount = p.names.length :=
  (Variables.length_eq_card p.nodup_names (by simp [mem_names])).symm

end Proposition

end TruthTable
