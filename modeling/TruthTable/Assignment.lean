/-!
# Assignments and patterns

Truth values for finitely many variables, kept in the order of the variables,
so that equal assignments are equal values and have equal texts.

The assignments of a list of variables are numbered by words of 64 bits: bit
`j` of a pattern is the value of the variable at position `j`. The count of the
patterns has to be a word as well, which is why 63 variables are the most.
-/

namespace TruthTable

abbrev Assignment.Ascending (entries : List (Char × Bool)) : Prop :=
  entries.Pairwise fun a b => a.1 < b.1

structure Assignment where
  entries : List (Char × Bool)
  ascending : Assignment.Ascending entries
  deriving DecidableEq

namespace Assignment

/-- Gives `name` its place in ascending entries, in place of an entry for it. -/
def insertEntry (name : Char) (value : Bool) : List (Char × Bool) → List (Char × Bool)
  | [] => [(name, value)]
  | e :: rest =>
    if name < e.1 then (name, value) :: e :: rest
    else if name = e.1 then (name, value) :: rest
    else e :: insertEntry name value rest

theorem mem_insertEntry {name : Char} {value : Bool} {entries : List (Char × Bool)}
    {e : Char × Bool} (h : e ∈ insertEntry name value entries) :
    e = (name, value) ∨ e ∈ entries := by
  induction entries with
  | nil => simpa [insertEntry] using h
  | cons d rest ih =>
    simp only [insertEntry] at h
    split at h
    · simpa using h
    · split at h
      · rcases List.mem_cons.1 h with h | h
        · exact .inl h
        · exact .inr (List.mem_cons_of_mem _ h)
      · rcases List.mem_cons.1 h with h | h
        · exact .inr (h ▸ List.mem_cons_self)
        · exact (ih h).imp_right (List.mem_cons_of_mem _)

theorem ascending_insertEntry {name : Char} {value : Bool} {entries : List (Char × Bool)}
    (ha : Ascending entries) : Ascending (insertEntry name value entries) := by
  induction entries with
  | nil => simp [insertEntry]
  | cons d rest ih =>
    obtain ⟨hd, hrest⟩ := List.pairwise_cons.1 ha
    simp only [insertEntry]
    split
    · next hlt =>
      refine List.pairwise_cons.2 ⟨fun e he => ?_, ha⟩
      rcases List.mem_cons.1 he with rfl | he
      · exact hlt
      · exact Char.lt_trans hlt (hd e he)
    · next hge =>
      split
      · next heq => exact List.pairwise_cons.2 ⟨fun e he => heq ▸ hd e he, hrest⟩
      · next hne =>
        refine List.pairwise_cons.2 ⟨fun e he => ?_, ih hrest⟩
        rcases mem_insertEntry he with rfl | he
        · exact Std.lt_of_le_of_ne (Char.not_lt.1 hge) (Ne.symm hne)
        · exact hd e he

theorem lookup_cons_ite (e : Char × Bool) (rest : List (Char × Bool)) (c : Char) :
    (e :: rest).lookup c = if c = e.1 then some e.2 else rest.lookup c := by
  obtain ⟨name, value⟩ := e
  by_cases h : c = name
  · simp [h]
  · simp [List.lookup_cons, beq_eq_false_iff_ne.2 h, h]

theorem lookup_insertEntry {name : Char} {value : Bool} (entries : List (Char × Bool)) (c : Char) :
    (insertEntry name value entries).lookup c =
      if c = name then some value else entries.lookup c := by
  induction entries with
  | nil => exact lookup_cons_ite ..
  | cons d rest ih =>
    simp only [insertEntry]
    split
    · rw [lookup_cons_ite]
    · split
      · next heq =>
        rw [lookup_cons_ite, lookup_cons_ite, heq]
        split <;> rfl
      · next hne =>
        rw [lookup_cons_ite, lookup_cons_ite, ih]
        by_cases hc : c = d.1
        · simp [hc, Ne.symm hne]
        · simp [hc]

def empty : Assignment :=
  ⟨[], .nil⟩

instance : Inhabited Assignment := ⟨empty⟩

def set (a : Assignment) (name : Char) (value : Bool) : Assignment :=
  ⟨insertEntry name value a.entries, ascending_insertEntry a.ascending⟩

def get? (a : Assignment) (name : Char) : Option Bool :=
  a.entries.lookup name

@[simp] theorem get?_empty (c : Char) : empty.get? c = none := rfl

@[simp] theorem get?_set (a : Assignment) (name c : Char) (value : Bool) :
    (a.set name value).get? c = if c = name then some value else a.get? c :=
  lookup_insertEntry a.entries c

def size (a : Assignment) : Nat :=
  a.entries.length

def isEmpty (a : Assignment) : Bool :=
  a.entries.isEmpty

def setAll (a : Assignment) (pairs : List (Char × Bool)) : Assignment :=
  pairs.foldl (fun a p => a.set p.1 p.2) a

def ofList (pairs : List (Char × Bool)) : Assignment :=
  empty.setAll pairs

def entryText (e : Char × Bool) : List Char :=
  [e.1, '=', if e.2 then 'T' else 'F']

def text (a : Assignment) : List Char :=
  [' '].intercalate (a.entries.map entryText)

instance : ToString Assignment where
  toString a := String.ofList a.text

end Assignment

-- ---------------------------------------------------------------------------
-- Patterns
-- ---------------------------------------------------------------------------

abbrev Pattern := UInt64

namespace Pattern

/-- The most variables whose patterns can be counted. -/
def maxVariables : Nat := 63

def count (n : Nat) : Pattern :=
  1 <<< n.toUInt64

def bit (p : Pattern) (j : Nat) : Bool :=
  p &&& (1 <<< j.toUInt64) != 0

/-- Gives each variable the bit at its position, in place of the value it had. -/
def assign (names : List Char) (p : Pattern) (a : Assignment) : Assignment :=
  names.zipIdx.foldl (fun a v => a.set v.1 (bit p v.2)) a

end Pattern

end TruthTable
