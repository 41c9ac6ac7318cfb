import Mathlib.Data.List.Sort
import TruthTable.Assignment

/-!
# Laws of assignments

An assignment is what it gives to each variable. Setting variables one after
the other overwrites what they had, so values from before are left only to the
variables that were not set. The text of an assignment tells it from all others.
-/

namespace TruthTable.Assignment

variable {a b : Assignment} {entries pairs : List (Char × Bool)} {c : Char} {value : Bool}

-- ---------------------------------------------------------------------------
-- Entries
-- ---------------------------------------------------------------------------

theorem lookup_eq_some_iff (h : (entries.map Prod.fst).Nodup) :
    entries.lookup c = some value ↔ (c, value) ∈ entries := by
  induction entries with
  | nil => simp
  | cons d rest ih =>
    obtain ⟨hd, hrest⟩ := List.nodup_cons.1 h
    obtain ⟨name, first⟩ := d
    rw [lookup_cons_ite, List.mem_cons, Prod.mk.injEq]
    split
    · next hc =>
      have hnot : (c, value) ∉ rest := by
        intro hmem
        exact hd (hc ▸ List.mem_map_of_mem hmem)
      simp [hc, hc ▸ hnot, eq_comm]
    · next hc => simp [hc, ih hrest]

theorem nodup_names (a : Assignment) : (a.entries.map Prod.fst).Nodup :=
  List.pairwise_map.2 (a.ascending.imp Char.ne_of_lt)

theorem mem_entries : (c, value) ∈ a.entries ↔ a.get? c = some value :=
  (lookup_eq_some_iff a.nodup_names).symm

theorem ext_get? (h : ∀ c, a.get? c = b.get? c) : a = b := by
  have hirrefl : Std.Irrefl fun x y : Char × Bool => x.1 < y.1 := ⟨fun x => Char.lt_irrefl x.1⟩
  have hantisymm : Std.Antisymm fun x y : Char × Bool => x.1 < y.1 :=
    ⟨fun _ _ hxy hyx => absurd hyx (Char.lt_asymm hxy)⟩
  -- two ascending lists with the same members are the same list
  have hentries : a.entries = b.entries := by
    refine a.ascending.eq_of_mem_iff b.ascending fun ⟨c, value⟩ => ?_
    rw [mem_entries, mem_entries, h]
  cases a
  cases b
  cases hentries
  rfl

-- ---------------------------------------------------------------------------
-- Setting variables one after the other
-- ---------------------------------------------------------------------------

theorem get?_setAll (a : Assignment) (pairs : List (Char × Bool)) (c : Char) :
    (a.setAll pairs).get? c = (pairs.reverse.lookup c).or (a.get? c) := by
  induction pairs generalizing a with
  | nil => rfl
  | cons p rest ih =>
    have hp : [p].lookup c = if c = p.1 then some p.2 else none := lookup_cons_ite p [] c
    change ((a.set p.1 p.2).setAll rest).get? c = _
    rw [ih, get?_set, List.reverse_cons, List.lookup_append, hp, Option.or_assoc]
    split <;> rfl

def Within (a : Assignment) (names : List Char) : Prop :=
  ∀ c, c ∉ names → a.get? c = none

theorem within_empty (names : List Char) : empty.Within names :=
  fun _ _ => rfl

theorem isSome_lookup_reverse : (pairs.reverse.lookup c).isSome ↔ c ∈ pairs.map Prod.fst := by
  rw [List.lookup_isSome_iff]
  constructor
  · rintro ⟨p, hp, hc⟩
    obtain rfl := beq_iff_eq.1 hc
    exact List.mem_map_of_mem (List.mem_reverse.1 hp)
  · intro hc
    obtain ⟨p, hp, rfl⟩ := List.mem_map.1 hc
    exact ⟨p, List.mem_reverse.2 hp, beq_self_eq_true p.1⟩

theorem setAll_eq_ofList (h : a.Within (pairs.map Prod.fst)) : a.setAll pairs = ofList pairs := by
  refine ext_get? fun c => ?_
  rw [ofList, get?_setAll, get?_setAll, get?_empty]
  -- a variable that is set has its pair's value on both sides, any other has none
  by_cases hc : c ∈ pairs.map Prod.fst
  · have hsome := isSome_lookup_reverse.2 hc
    rw [Option.or_of_isSome hsome, Option.or_of_isSome hsome]
  · rw [h c hc]

theorem get?_ofList (h : (pairs.map Prod.fst).Nodup) :
    (ofList pairs).get? c = some value ↔ (c, value) ∈ pairs := by
  have hreverse : (pairs.reverse.map Prod.fst).Nodup := by
    rw [List.map_reverse]
    exact List.nodup_reverse.2 h
  rw [ofList, get?_setAll, get?_empty, Option.or_none, lookup_eq_some_iff hreverse,
    List.mem_reverse]

theorem isSome_get?_ofList : ((ofList pairs).get? c).isSome ↔ c ∈ pairs.map Prod.fst := by
  rw [ofList, get?_setAll, get?_empty, Option.or_none, isSome_lookup_reverse]

theorem within_ofList (pairs : List (Char × Bool)) :
    (ofList pairs).Within (pairs.map Prod.fst) :=
  fun _ hc => Option.not_isSome_iff_eq_none.1 (mt isSome_get?_ofList.1 hc)

-- ---------------------------------------------------------------------------
-- Texts
-- ---------------------------------------------------------------------------

theorem entryText_inj {e f : Char × Bool} : entryText e = entryText f ↔ e = f := by
  obtain ⟨c, x⟩ := e
  obtain ⟨d, y⟩ := f
  cases x <;> cases y <;> simp [entryText]

/-- All entries have texts of one length, so it can be told where each ends. -/
theorem entries_eq_of_text_eq {others : List (Char × Bool)}
    (h : [' '].intercalate (entries.map entryText) = [' '].intercalate (others.map entryText)) :
    entries = others := by
  induction entries generalizing others with
  | nil =>
    cases others with
    | nil => rfl
    | cons f others => simp [entryText] at h
  | cons e entries ih =>
    cases others with
    | nil => simp [entryText] at h
    | cons f others =>
      have hcons (e : Char × Bool) (rest : List (List Char)) :
          [' '].intercalate (entryText e :: rest) =
            entryText e ++ [' '].intercalate ([] :: rest) := by simp [entryText]
      rw [List.map_cons, List.map_cons, hcons, hcons] at h
      obtain ⟨hfirst, hrest⟩ := List.append_inj h rfl
      obtain rfl := entryText_inj.1 hfirst
      cases entries with
      | nil =>
        cases others with
        | nil => rfl
        | cons f others => simp at hrest
      | cons d entries =>
        cases others with
        | nil => simp at hrest
        | cons f others =>
          rw [List.map_cons, List.map_cons, List.intercalate_cons_cons,
            List.intercalate_cons_cons, ← List.map_cons, ← List.map_cons] at hrest
          rw [ih (List.append_cancel_left hrest)]

theorem text_injective : Function.Injective text := by
  intro a b h
  cases a
  cases b
  cases entries_eq_of_text_eq h
  rfl

end TruthTable.Assignment
