import Mathlib.Data.Nat.Bitwise
import TruthTable.Assignment
import TruthTable.Proofs.AssignmentLaws

/-!
# Laws of patterns

Words count and test bits like natural numbers as long as there are no more
variables than bits. The assignment of a pattern is then the one of its number,
whatever stood there before, and the numbers below `2 ^ n` give all valuations
of `n` variables, each one once. One more variable doubles them.
-/

namespace TruthTable

variable {names others : List Char} {a : Assignment} {c : Char} {j n : Nat}

-- ---------------------------------------------------------------------------
-- Words
-- ---------------------------------------------------------------------------

namespace Pattern

theorem toNat_one_shiftLeft (h : j < 64) : ((1 : UInt64) <<< j.toUInt64).toNat = 2 ^ j := by
  have hj : j.toUInt64.toNat = j := UInt64.toNat_ofNat_of_lt' (by change j < 2 ^ 64; omega)
  have hlt : 2 ^ j < 2 ^ 64 := Nat.pow_lt_pow_right (by decide) h
  rw [UInt64.toNat_shiftLeft, hj, Nat.mod_eq_of_lt h, UInt64.toNat_one, Nat.one_shiftLeft,
    Nat.mod_eq_of_lt hlt]

theorem toNat_count (h : n ≤ maxVariables) : (count n).toNat = 2 ^ n :=
  toNat_one_shiftLeft (Nat.lt_succ_of_le h)

theorem toNat_add_one {p : Pattern} (h : p.toNat + 1 < 2 ^ 64) : (p + 1).toNat = p.toNat + 1 := by
  rw [UInt64.toNat_add, UInt64.toNat_one, Nat.mod_eq_of_lt h]

theorem bit_eq_testBit (p : Pattern) (h : j < 64) : bit p j = p.toNat.testBit j := by
  have hand : (p &&& (1 <<< j.toUInt64)).toNat = (p.toNat.testBit j).toNat * 2 ^ j := by
    rw [UInt64.toNat_and, toNat_one_shiftLeft h, Nat.and_two_pow]
  rw [bit, Bool.eq_iff_iff, bne_iff_ne, ne_eq, ← UInt64.toNat_inj, hand, UInt64.toNat_zero]
  cases p.toNat.testBit j <;> simp

end Pattern

-- ---------------------------------------------------------------------------
-- Assignments by number
-- ---------------------------------------------------------------------------

namespace Assignment

def numberedPairs (names : List Char) (k : Nat) : List (Char × Bool) :=
  names.zipIdx.map fun v => (v.1, k.testBit v.2)

/-- A new assignment that gives each variable the bit of `k` at its position. -/
def ofNumber (names : List Char) (k : Nat) : Assignment :=
  .ofList (numberedPairs names k)

@[simp] theorem ofNumber_nil (k : Nat) : ofNumber [] k = empty := rfl

theorem map_fst_numberedPairs (names : List Char) (k : Nat) :
    (numberedPairs names k).map Prod.fst = names := by
  rw [numberedPairs, List.map_map]
  exact List.zipIdx_map_fst 0 names

theorem mem_numberedPairs {k : Nat} {value : Bool} :
    (c, value) ∈ numberedPairs names k ↔ ∃ j, names[j]? = some c ∧ k.testBit j = value := by
  simp only [numberedPairs, List.mem_map, Prod.exists, List.mem_zipIdx_iff_getElem?, Prod.mk.injEq]
  constructor
  · rintro ⟨_, j, hj, rfl, hvalue⟩
    exact ⟨j, hj, hvalue⟩
  · rintro ⟨j, hj, hvalue⟩
    exact ⟨c, j, hj, rfl, hvalue⟩

theorem get?_ofNumber_eq_some_iff (h : names.Nodup) {k : Nat} {value : Bool} :
    (ofNumber names k).get? c = some value ↔ ∃ j, names[j]? = some c ∧ k.testBit j = value := by
  rw [ofNumber, get?_ofList (by rwa [map_fst_numberedPairs]), mem_numberedPairs]

theorem get?_ofNumber (h : names.Nodup) (hj : names[j]? = some c) (k : Nat) :
    (ofNumber names k).get? c = some (k.testBit j) :=
  (get?_ofNumber_eq_some_iff h).2 ⟨j, hj, rfl⟩

theorem within_ofNumber (names : List Char) (k : Nat) : (ofNumber names k).Within names := by
  have h := within_ofList (numberedPairs names k)
  rwa [map_fst_numberedPairs] at h

theorem isSome_get?_ofNumber (h : names.Nodup) (k : Nat) :
    ((ofNumber names k).get? c).isSome ↔ c ∈ names := by
  constructor
  · intro hsome
    by_contra hc
    simp [within_ofNumber names k c hc] at hsome
  · intro hc
    obtain ⟨j, hj⟩ := List.getElem?_of_mem hc
    simp [get?_ofNumber h hj]

def all (names : List Char) : List Assignment :=
  (List.range (2 ^ names.length)).map (ofNumber names)

theorem length_all (names : List Char) : (all names).length = 2 ^ names.length := by
  rw [all, List.length_map, List.length_range]

theorem mem_all : a ∈ all names ↔ ∃ k < 2 ^ names.length, ofNumber names k = a := by
  simp only [all, List.mem_map, List.mem_range]

theorem isSome_get?_of_mem_all (h : names.Nodup) (ha : a ∈ all names) :
    (a.get? c).isSome ↔ c ∈ names := by
  obtain ⟨k, -, rfl⟩ := mem_all.1 ha
  exact isSome_get?_ofNumber h k

theorem exists_mem_all (h : names.Nodup) (v : Char → Bool) :
    ∃ a ∈ all names, ∀ c ∈ names, a.get? c = some (v c) := by
  let k := Nat.ofBits fun j : Fin names.length => v names[j]
  refine ⟨ofNumber names k, mem_all.2 ⟨k, Nat.ofBits_lt_two_pow _, rfl⟩, fun c hc => ?_⟩
  obtain ⟨j, hj⟩ := List.getElem?_of_mem hc
  obtain ⟨hlt, hget⟩ := List.getElem?_eq_some_iff.1 hj
  rw [get?_ofNumber h hj, Nat.testBit_ofBits_lt _ _ hlt]
  exact congrArg (fun c => some (v c)) hget

theorem eq_of_ofNumber_eq {j k : Nat} (h : names.Nodup) (hj : j < 2 ^ names.length)
    (hk : k < 2 ^ names.length) (heq : ofNumber names j = ofNumber names k) : j = k := by
  refine Nat.eq_of_testBit_eq fun i => ?_
  by_cases hi : i < names.length
  · have hname : names[i]? = some names[i] := List.getElem?_eq_getElem hi
    have hbits := congrArg (·.get? names[i]) heq
    simpa only [get?_ofNumber h hname, Option.some_inj] using hbits
  · -- past the variables both numbers have no bits
    have hpow : 2 ^ names.length ≤ 2 ^ i := Nat.pow_le_pow_right (by decide) (Nat.not_lt.1 hi)
    rw [Nat.testBit_lt_two_pow (hj.trans_le hpow), Nat.testBit_lt_two_pow (hk.trans_le hpow)]

theorem nodup_all (h : names.Nodup) : (all names).Nodup := by
  refine (List.nodup_map_iff_inj_on List.nodup_range).2 fun j hj k hk heq => ?_
  exact eq_of_ofNumber_eq h (List.mem_range.1 hj) (List.mem_range.1 hk) heq

theorem mem_all_iff_isSome (h : names.Nodup) :
    a ∈ all names ↔ ∀ c, (a.get? c).isSome ↔ c ∈ names := by
  constructor
  · intro ha c
    exact isSome_get?_of_mem_all h ha
  · intro ha
    obtain ⟨b, hb, hvalues⟩ := exists_mem_all h fun c => (a.get? c).getD false
    have heq : a = b := by
      refine ext_get? fun c => ?_
      have hbc := isSome_get?_of_mem_all (c := c) h hb
      cases hac : a.get? c with
      | some value =>
        have hc : c ∈ names := (ha c).1 (by rw [hac, Option.isSome_some])
        rw [hvalues c hc, hac, Option.getD_some]
      | none =>
        have hc : c ∉ names := mt (ha c).2 (by simp [hac])
        exact (Option.not_isSome_iff_eq_none.1 (mt hbc.1 hc)).symm
    rwa [heq]

theorem perm_all (hperm : names.Perm others) (h : names.Nodup) :
    (all names).Perm (all others) := by
  have hothers : others.Nodup := hperm.nodup_iff.1 h
  rw [List.perm_ext_iff_of_nodup (nodup_all h) (nodup_all hothers)]
  intro a
  simp only [mem_all_iff_isSome h, mem_all_iff_isSome hothers, hperm.mem_iff]

-- ---------------------------------------------------------------------------
-- One more variable
-- ---------------------------------------------------------------------------

theorem ofNumber_concat (names : List Char) (c : Char) (k : Nat) :
    ofNumber (names ++ [c]) k = (ofNumber names k).set c (k.testBit names.length) := by
  simp [ofNumber, ofList, setAll, numberedPairs, List.zipIdx_append]

theorem ofNumber_two_pow_add (names : List Char) (k : Nat) :
    ofNumber names (2 ^ names.length + k) = ofNumber names k := by
  have hbits : ∀ v ∈ names.zipIdx,
      (v.1, (2 ^ names.length + k).testBit v.2) = (v.1, k.testBit v.2) := by
    intro v hv
    have hlt : v.2 < names.length := by simpa using List.snd_lt_add_of_mem_zipIdx hv
    rw [Nat.testBit_two_pow_add_gt hlt]
  rw [ofNumber, numberedPairs, List.map_congr_left hbits]
  rfl

/-- The last variable has the highest bit, so its value is `false` in the first
half of the assignments and `true` in the second one. -/
theorem all_concat (names : List Char) (c : Char) :
    all (names ++ [c]) =
      (all names).map (fun a => a.set c false) ++ (all names).map fun a => a.set c true := by
  have hlow : ∀ k ∈ List.range (2 ^ names.length),
      ofNumber (names ++ [c]) k = (ofNumber names k).set c false := by
    intro k hk
    rw [ofNumber_concat, Nat.testBit_lt_two_pow (List.mem_range.1 hk)]
  have hhigh : ∀ k ∈ List.range (2 ^ names.length),
      ofNumber (names ++ [c]) (2 ^ names.length + k) = (ofNumber names k).set c true := by
    intro k hk
    rw [ofNumber_concat, ofNumber_two_pow_add, Nat.testBit_two_pow_add_eq,
      Nat.testBit_lt_two_pow (List.mem_range.1 hk), Bool.not_false]
  have hrange : List.range (2 ^ (names ++ [c]).length) =
      List.range (2 ^ names.length) ++
        (List.range (2 ^ names.length)).map fun k => 2 ^ names.length + k := by
    rw [← List.range_add, List.length_append, List.length_singleton, Nat.pow_succ, Nat.mul_two]
  rw [all, all, hrange, List.map_append, List.map_map, List.map_map, List.map_map]
  exact congrArg₂ _ (List.map_congr_left hlow) (List.map_congr_left hhigh)

end Assignment

theorem Pattern.assign_eq_ofNumber (p : Pattern) (h : names.length ≤ 64) (ha : a.Within names) :
    p.assign names a = .ofNumber names p.toNat := by
  -- positions are below 64, so the word's bits are those of its number
  have hbits : ∀ v ∈ names.zipIdx, (v.1, bit p v.2) = (v.1, p.toNat.testBit v.2) := by
    intro v hv
    have hlt : v.2 < names.length := by
      have := List.snd_lt_add_of_mem_zipIdx hv
      omega
    rw [bit_eq_testBit p (by omega)]
  have hset : p.assign names a = a.setAll (Assignment.numberedPairs names p.toNat) := by
    rw [Assignment.numberedPairs, ← List.map_congr_left hbits, Assignment.setAll, List.foldl_map]
    rfl
  rw [hset, Assignment.setAll_eq_ofList (by rwa [Assignment.map_fst_numberedPairs])]
  rfl

end TruthTable
