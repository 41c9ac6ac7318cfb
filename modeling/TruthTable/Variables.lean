/-!
# Lists of variables

Variables are listed in the order of their first occurrence or in ascending
order, each one once.
-/

namespace TruthTable.Variables

/-- Puts a variable behind the ones that are there, unless it is one of them. -/
def appendNew (names : List Char) (name : Char) : List Char :=
  if name ∈ names then names else names ++ [name]

def insertNew (name : Char) : List Char → List Char
  | [] => [name]
  | c :: rest =>
    if name < c then name :: c :: rest
    else if name = c then c :: rest
    else c :: insertNew name rest

def ascending (names : List Char) : List Char :=
  names.foldr insertNew []

theorem mem_insertNew {name c : Char} {names : List Char} :
    c ∈ insertNew name names ↔ c = name ∨ c ∈ names := by
  induction names with
  | nil => simp [insertNew]
  | cons d rest ih =>
    simp only [insertNew]
    split
    · simp
    · split
      · next heq => simp [heq]
      · simp only [List.mem_cons, ih]
        constructor
        · rintro (h | h | h) <;> simp [h]
        · rintro (h | h | h) <;> simp [h]

theorem pairwise_insertNew {name : Char} {names : List Char}
    (h : names.Pairwise (· < ·)) : (insertNew name names).Pairwise (· < ·) := by
  induction names with
  | nil => simp [insertNew]
  | cons d rest ih =>
    obtain ⟨hd, hrest⟩ := List.pairwise_cons.1 h
    simp only [insertNew]
    split
    · next hlt =>
      refine List.pairwise_cons.2 ⟨fun c hc => ?_, h⟩
      rcases List.mem_cons.1 hc with rfl | hc
      · exact hlt
      · exact Char.lt_trans hlt (hd c hc)
    · next hge =>
      split
      · exact h
      · next hne =>
        refine List.pairwise_cons.2 ⟨fun c hc => ?_, ih hrest⟩
        rcases mem_insertNew.1 hc with rfl | hc
        · exact Std.lt_of_le_of_ne (Char.not_lt.1 hge) (Ne.symm hne)
        · exact hd c hc

theorem mem_ascending {c : Char} {names : List Char} : c ∈ ascending names ↔ c ∈ names := by
  induction names with
  | nil => simp [ascending]
  | cons d rest ih => exact mem_insertNew.trans (by simp [← ih, ascending])

theorem pairwise_ascending (names : List Char) : (ascending names).Pairwise (· < ·) := by
  induction names with
  | nil => simp [ascending]
  | cons d rest ih => exact pairwise_insertNew ih

end TruthTable.Variables
