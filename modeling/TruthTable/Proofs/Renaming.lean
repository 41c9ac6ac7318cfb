import Mathlib.Data.List.Find
import TruthTable.Proofs.OutcomeExact

/-!
# Renaming variables

`renaming_invariant`: an enumeration does not depend on what its variables are
called. A renaming that keeps them apart may rearrange them, and with them the
patterns, but the solutions are the renamed ones. `RenamedBy` relates the two
enumerations; the rest reads off it.
-/

namespace TruthTable

variable {r : Char → Char} {names : List Char} {a b : Assignment} {p : Proposition} {d : Char}

-- ---------------------------------------------------------------------------
-- Propositions
-- ---------------------------------------------------------------------------

def Unassigned.rename (r : Char → Char) (e : Unassigned) : Unassigned :=
  ⟨r e.name⟩

namespace Proposition

theorem occurrences_rename (r : Char → Char) (p : Proposition) :
    (p.rename r).occurrences = p.occurrences.map r := by
  induction p with
  | disj left right ihl ihr => simp [rename, occurrences, ihl, ihr]
  | conj left right ihl ihr => simp [rename, occurrences, ihl, ihr]
  | neg p ih => simp [rename, occurrences, ih]
  | var name => rfl
  | constant value => rfl

theorem eval_rename (h : ∀ c ∈ p.occurrences, b.get? (r c) = a.get? c) :
    (p.rename r).eval b = (p.eval a).mapError (Unassigned.rename r) := by
  induction p with
  | disj left right ihl ihr =>
    rw [rename, eval, eval, ihl fun c hc => h c (List.mem_append_left _ hc),
      ihr fun c hc => h c (List.mem_append_right _ hc)]
    cases left.eval a <;> cases right.eval a <;> rfl
  | conj left right ihl ihr =>
    rw [rename, eval, eval, ihl fun c hc => h c (List.mem_append_left _ hc),
      ihr fun c hc => h c (List.mem_append_right _ hc)]
    cases left.eval a <;> cases right.eval a <;> rfl
  | neg p ih =>
    rw [rename, eval, eval, ih h]
    cases p.eval a <;> rfl
  | var name =>
    rw [rename, eval, eval, h name List.mem_cons_self]
    cases a.get? name <;> rfl
  | constant value => rfl

theorem accepts_rename (h : ∀ c ∈ p.occurrences, b.get? (r c) = a.get? c) :
    (p.rename r).accepts b = p.accepts a := by
  rw [accepts, accepts, eval_rename h]
  cases p.eval a <;> rfl

end Proposition

-- ---------------------------------------------------------------------------
-- Lists of variables
-- ---------------------------------------------------------------------------

namespace Variables

theorem perm_ascending_map (hr : Set.InjOn r {c | c ∈ names}) :
    (ascending (names.map r)).Perm ((ascending names).map r) := by
  refine perm_ascending_of_mem_iff ?_ (by simp [mem_ascending])
  refine (nodup_ascending names).map_on fun c hc d hd heq => ?_
  exact hr (mem_ascending.1 hc) (mem_ascending.1 hd) heq

theorem ascending_map (hmono : ∀ c ∈ names, ∀ d ∈ names, c < d → r c < r d)
    (hr : Set.InjOn r {c | c ∈ names}) : ascending (names.map r) = (ascending names).map r := by
  have hmap : ((ascending names).map r).Pairwise (· < ·) := by
    refine List.pairwise_map.2 ((pairwise_ascending names).imp_of_mem fun hc hd hlt => ?_)
    exact hmono _ (mem_ascending.1 hc) _ (mem_ascending.1 hd) hlt
  exact (perm_ascending_map hr).eq_of_pairwise
    (fun _ _ _ _ hlt hgt => absurd hgt (Char.lt_asymm hlt)) (pairwise_ascending _) hmap

end Variables

-- ---------------------------------------------------------------------------
-- Assignments
-- ---------------------------------------------------------------------------

namespace Assignment

def rename (r : Char → Char) (a : Assignment) : Assignment :=
  .ofList (a.entries.map fun e => (r e.1, e.2))

theorem get?_rename (hr : Set.InjOn r {c | (a.get? c).isSome}) {value : Bool} :
    (a.rename r).get? d = some value ↔ ∃ c, a.get? c = some value ∧ r c = d := by
  have hsome {e : Char × Bool} (he : e ∈ a.entries) : (a.get? e.1).isSome := by
    rw [mem_entries.1 he, Option.isSome_some]
  have hnodup : ((a.entries.map fun e => (r e.1, e.2)).map Prod.fst).Nodup := by
    rw [List.map_map]
    refine List.pairwise_map.2 (a.ascending.imp_of_mem fun he hf hlt heq => ?_)
    exact Char.ne_of_lt hlt (hr (hsome he) (hsome hf) heq)
  rw [rename, get?_ofList hnodup, List.mem_map]
  constructor
  · rintro ⟨⟨c, _⟩, hc, ⟨⟩⟩
    exact ⟨c, mem_entries.1 hc, rfl⟩
  · rintro ⟨c, hc, rfl⟩
    exact ⟨(c, value), mem_entries.2 hc, rfl⟩

theorem rename_ofNumber (h : names.Nodup) (hr : Set.InjOn r {c | c ∈ names}) (k : Nat) :
    (ofNumber names k).rename r = ofNumber (names.map r) k := by
  have hdomain : Set.InjOn r {c | ((ofNumber names k).get? c).isSome} := by
    simpa only [isSome_get?_ofNumber h] using hr
  have hmap : (names.map r).Nodup := h.map_on fun c hc d hd heq => hr hc hd heq
  -- under either name a variable has the bit of its position in the list
  refine ext_get? fun d => Option.ext fun value => ?_
  rw [get?_rename hdomain, get?_ofNumber_eq_some_iff hmap]
  simp only [get?_ofNumber_eq_some_iff h, List.getElem?_map, Option.map_eq_some_iff]
  constructor
  · rintro ⟨c, ⟨j, hj, hvalue⟩, rfl⟩
    exact ⟨j, ⟨c, hj, rfl⟩, hvalue⟩
  · rintro ⟨j, ⟨c, hj, rfl⟩, hvalue⟩
    exact ⟨c, ⟨j, hj, hvalue⟩, rfl⟩

theorem all_map (h : names.Nodup) (hr : Set.InjOn r {c | c ∈ names}) :
    all (names.map r) = (all names).map (rename r) := by
  rw [all, all, List.length_map, List.map_map]
  exact List.map_congr_left fun k _ => (rename_ofNumber h hr k).symm

end Assignment

theorem Proposition.models_rename (h : names.Nodup) (hr : Set.InjOn r {c | c ∈ names})
    (hp : ∀ c ∈ p.occurrences, c ∈ names) :
    (p.rename r).models (names.map r) = (p.models names).map (Assignment.rename r) := by
  have haccepts : ∀ a ∈ Assignment.all names,
      (p.rename r).accepts (a.rename r) = p.accepts a := by
    intro a ha
    have hdomain {c : Char} : (a.get? c).isSome ↔ c ∈ names :=
      Assignment.isSome_get?_of_mem_all h ha
    refine accepts_rename fun c hc => ?_
    obtain ⟨value, hvalue⟩ := Option.isSome_iff_exists.1 (hdomain.2 (hp c hc))
    rw [hvalue, Assignment.get?_rename (by simpa only [hdomain] using hr)]
    exact ⟨c, hvalue, rfl⟩
  rw [models, models, Assignment.all_map h hr, List.filter_map]
  exact congrArg _ (List.filter_congr haccepts)

-- ---------------------------------------------------------------------------
-- Enumerations
-- ---------------------------------------------------------------------------

def Halt.rename (r : Char → Char) : Halt → Halt
  | unassigned missing => unassigned (missing.rename r)
  | tooManyVariables count limit => tooManyVariables count limit
  | cancelled step => cancelled step

/-- The second enumeration is the first one with other names for its variables,
in whatever order these come. -/
structure Enumeration.RenamedBy (r : Char → Char) (e e' : Enumeration) : Prop where
  proposition : e'.proposition = e.proposition.rename r
  names : e'.names.Perm (e.names.map r)
  limit : e'.limit = e.limit
  cancel : e'.cancel = e.cancel
  nodup : e.names.Nodup
  injOn : Set.InjOn r {c | c ∈ e.names ∨ c ∈ e.proposition.occurrences}

namespace Enumeration.RenamedBy

variable {e e' : Enumeration} {s : Solutions} {halt : Halt}

theorem injOn_names (h : RenamedBy r e e') : Set.InjOn r {c | c ∈ e.names} :=
  h.injOn.mono fun _ => .inl

theorem nodup' (h : RenamedBy r e e') : e'.names.Nodup :=
  h.names.nodup_iff.2 (h.nodup.map_on fun _ hc _ hd heq => h.injOn_names hc hd heq)

theorem length_eq (h : RenamedBy r e e') : e'.names.length = e.names.length := by
  rw [h.names.length_eq, List.length_map]

theorem stopsAt_eq (h : RenamedBy r e e') (k : Pattern) : e'.stopsAt k = e.stopsAt k := by
  rw [stopsAt, stopsAt, h.cancel]

theorem mem_names_iff (h : RenamedBy r e e') {c : Char} (hc : c ∈ e.proposition.occurrences) :
    r c ∈ e'.names ↔ c ∈ e.names := by
  rw [h.names.mem_iff, List.mem_map]
  constructor
  · rintro ⟨d, hd, heq⟩
    exact h.injOn (.inl hd) (.inr hc) heq ▸ hd
  · intro hmem
    exact ⟨c, hmem, rfl⟩

theorem find?_unlisted (h : RenamedBy r e e') :
    e'.proposition.occurrences.find? (fun c => decide (c ∉ e'.names)) =
      (e.proposition.occurrences.find? fun c => decide (c ∉ e.names)).map r := by
  rw [h.proposition, Proposition.occurrences_rename, List.find?_map]
  refine congrArg _ (List.find?_congr fun c hc => ?_)
  simp [h.mem_names_iff hc]

theorem unhindered (h : RenamedBy r e e') (hfree : e.Unhindered) : e'.Unhindered where
  nodup := h.nodup'
  listed := by
    rw [h.proposition, Proposition.occurrences_rename, List.forall_mem_map]
    exact fun c hc => (h.mem_names_iff hc).2 (hfree.listed c hc)
  length_le := by rw [h.length_eq, h.limit]; exact hfree.length_le
  goes k hk := by rw [h.stopsAt_eq]; exact hfree.goes k (h.length_eq ▸ hk)

theorem models_eq (h : RenamedBy r e e') (hfree : e.Unhindered) :
    e'.proposition.models (e.names.map r) =
      (e.proposition.models e.names).map (Assignment.rename r) := by
  rw [h.proposition, Proposition.models_rename h.nodup h.injOn_names hfree.listed]

theorem models_perm (h : RenamedBy r e e') (hfree : e.Unhindered) :
    (e'.proposition.models e'.names).Perm
      ((e.proposition.models e.names).map (Assignment.rename r)) := by
  rw [← h.models_eq hfree]
  exact Proposition.perm_models h.names h.nodup'

theorem solutions_error (h : RenamedBy r e e') (hgo : ∀ k, e.stopsAt k = false)
    (hs : e.solutions = .error halt) : e'.solutions = .error (halt.rename r) := by
  rcases solutions_cases h.nodup hgo with ⟨hlt, hs'⟩ | ⟨x, hle, hx, hs'⟩ | ⟨s, -, hs', -⟩
  · cases hs.symm.trans hs'
    rw [solutions_of_limit_lt (by rwa [h.length_eq, h.limit]), h.length_eq, h.limit]
    rfl
  · cases hs.symm.trans hs'
    refine solutions_of_unlisted h.nodup' ?_ ((h.stopsAt_eq 0).trans (hgo 0)) ?_
    · rwa [h.length_eq, h.limit]
    · rw [h.find?_unlisted, hx]
      rfl
  · cases hs.symm.trans hs'

theorem solutions_ok (h : RenamedBy r e e') (hgo : ∀ k, e.stopsAt k = false)
    (hs : e.solutions = .ok s) :
    ∃ s', e'.solutions = .ok s' ∧ e.Unhindered ∧ e.Solves s ∧ e'.Solves s' := by
  rcases solutions_cases h.nodup hgo with ⟨-, hs'⟩ | ⟨x, -, -, hs'⟩ | ⟨t, hfree, hs', hsolves⟩
  · cases hs.symm.trans hs'
  · cases hs.symm.trans hs'
  · cases hs.symm.trans hs'
    obtain ⟨s', hs', hsolves'⟩ := (h.unhindered hfree).solutions_ok
    exact ⟨s', hs', hfree, hsolves, hsolves'⟩

end Enumeration.RenamedBy

theorem renamedBy_ofNames {maxVariables : Nat} {cancel : Option (Pattern → Bool)}
    (hr : Set.InjOn r {c | c ∈ names ∨ c ∈ p.names}) :
    Enumeration.RenamedBy r { Enumeration.ofNames p names with maxVariables, cancel }
      { Enumeration.ofNames (p.rename r) (names.map r) with maxVariables, cancel } where
  proposition := rfl
  names := Variables.perm_ascending_map (hr.mono fun _ => .inl)
  limit := rfl
  cancel := rfl
  nodup := Variables.nodup_ascending names
  injOn := hr.mono fun _ => Or.imp Variables.mem_ascending.1 Proposition.mem_names.2

/-- A renaming that keeps the variables apart changes nothing but the names. The
enumeration halts for the same reason, or it comes to the same counts and
verdict with the solutions renamed. They come in the same order if the
variables do. -/
theorem renaming_invariant (p : Proposition) (names : List Char) (r : Char → Char)
    (maxVariables : Nat) (cancel : Option (Pattern → Bool)) {e e' : Enumeration}
    (he : e = { Enumeration.ofNames p names with maxVariables, cancel })
    (he' : e' = { Enumeration.ofNames (p.rename r) (names.map r) with maxVariables, cancel })
    (hr : Set.InjOn r {c | c ∈ names ∨ c ∈ p.names}) (hgo : ∀ k, e.stopsAt k = false) :
    (∀ halt, e.solutions = .error halt → e'.solutions = .error (halt.rename r)) ∧
    ∀ s, e.solutions = .ok s → ∃ s', e'.solutions = .ok s' ∧
      s'.examined = s.examined ∧ s'.count = s.count ∧
      s'.isSatisfiable = s.isSatisfiable ∧ s'.isTautology = s.isTautology ∧
      s'.assignments.Perm (s.assignments.map (Assignment.rename r)) ∧
      ((∀ c ∈ names, ∀ d ∈ names, c < d → r c < r d) →
        s'.assignments = s.assignments.map (Assignment.rename r)) := by
  have h : Enumeration.RenamedBy r e e' := by
    rw [he, he']
    exact renamedBy_ofNames hr
  refine ⟨fun halt hs => h.solutions_error hgo hs, fun s hs => ?_⟩
  obtain ⟨s', hs', hfree, hsolves, hsolves'⟩ := h.solutions_ok hgo hs
  have hperm : s'.assignments.Perm (s.assignments.map (Assignment.rename r)) := by
    rw [hsolves.assignments, hsolves'.assignments]
    exact h.models_perm hfree
  have hexamined : s'.examined = s.examined := by
    rw [hsolves.examined, hsolves'.examined, h.length_eq]
  have hcount : s'.count = s.count := by simpa using hperm.length_eq
  refine ⟨s', hs', hexamined, hcount, ?_, ?_, hperm, fun hmono => ?_⟩
  · rw [Solutions.isSatisfiable_eq, Solutions.isSatisfiable_eq, hcount]
  · rw [Solutions.isTautology, Solutions.isTautology, hcount, hexamined]
  · -- the variables keep their places, so a pattern means the same for both
    have hnames : e'.names = e.names.map r := by
      rw [he, he']
      exact Variables.ascending_map hmono (hr.mono fun _ => .inl)
    rw [hsolves.assignments, hsolves'.assignments, hnames, h.models_eq hfree]

/-- `x & ~y` becomes `b & ~a`, whose variables come in the other order. Without
`y` in the list it is `a` that is missing afterwards. -/
theorem renaming_invariant_reversed :
    ({ Enumeration.ofNames (.conj (.var 'x') (.neg (.var 'y'))) ['y', 'x'] with
        maxVariables := 2 : Enumeration }.solutions =
        .ok ⟨['x', 'y'], #[.ofList [('x', true), ('y', false)]], 4⟩ ∧
      ∃ s', { Enumeration.ofNames (.conj (.var 'b') (.neg (.var 'a'))) ['a', 'b'] with
          maxVariables := 2 : Enumeration }.solutions = .ok s' ∧
        s'.examined = 4 ∧ s'.count = 1 ∧ s'.isTautology = false ∧
        s'.assignments.Perm [.ofList [('a', false), ('b', true)]]) ∧
    { Enumeration.ofNames (.conj (.var 'x') (.neg (.var 'y'))) ['x'] with
      maxVariables := 2 : Enumeration }.solutions = .error (.unassigned ⟨'y'⟩) ∧
    { Enumeration.ofNames (.conj (.var 'b') (.neg (.var 'a'))) ['b'] with
      maxVariables := 2 : Enumeration }.solutions = .error (.unassigned ⟨'a'⟩) := by
  let r : Char → Char := fun c => if c = 'x' then 'b' else 'a'
  have hr (names : List Char) (hnames : ∀ c ∈ names, c ∈ ['x', 'y']) : Set.InjOn r
      {c | c ∈ names ∨ c ∈ (Proposition.conj (.var 'x') (.neg (.var 'y'))).names} := by
    have hxy : ∀ c, c ∈ names ∨ c ∈ ['x', 'y'] → c = 'x' ∨ c = 'y' := by grind
    intro c hc d hd heq
    rcases hxy c hc with rfl | rfl <;> rcases hxy d hd with rfl | rfl <;> simp [r] at heq ⊢
  have hsolved : { Enumeration.ofNames (.conj (.var 'x') (.neg (.var 'y'))) ['y', 'x'] with
      maxVariables := 2 : Enumeration }.solutions =
        .ok ⟨['x', 'y'], #[.ofList [('x', true), ('y', false)]], 4⟩ := by decide +kernel
  have hmissing : { Enumeration.ofNames (.conj (.var 'x') (.neg (.var 'y'))) ['x'] with
      maxVariables := 2 : Enumeration }.solutions = .error (.unassigned ⟨'y'⟩) := by
    decide +kernel
  obtain ⟨-, hok⟩ := renaming_invariant (.conj (.var 'x') (.neg (.var 'y'))) ['y', 'x'] r 2 none
    rfl rfl (hr _ (by simp)) (fun _ => rfl)
  obtain ⟨herror, -⟩ := renaming_invariant (.conj (.var 'x') (.neg (.var 'y'))) ['x'] r 2 none
    rfl rfl (hr _ (by simp)) (fun _ => rfl)
  obtain ⟨s', hs', hexamined, hcount, -, htautology, hperm, -⟩ := hok _ hsolved
  exact ⟨⟨hsolved, s', hs', hexamined, hcount, htautology, hperm⟩, hmissing, herror _ hmissing⟩

end TruthTable
