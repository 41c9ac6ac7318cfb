import TruthTable.Proofs.GrammarLaws
import TruthTable.Proofs.Outline

/-!
# Laws of outlines

What is derived has no fault, whatever stands around it (`settles_of_derives`).
`Rule.Fits` is what a rule asks of the scopes around its phrase, and `Completes`
is what the phrase leaves of them. A phrase may leave scopes open behind it, but
only such as end at the next token that does not continue the phrase.
-/

namespace TruthTable

-- ---------------------------------------------------------------------------
-- Scopes
-- ---------------------------------------------------------------------------

def Scope.rule : Scope → Rule
  | .neg => .atom
  | .conj => .clause
  | .disj | .group => .sentence

def Rule.operator? : Rule → Option Token
  | .sentence => some .disj
  | .clause => some .conj
  | .atom | .term => none

/-- The tightest token that ends what a phrase of the rule leaves open. -/
def Rule.bound : Rule → Token
  | .sentence => .rparen
  | .clause => .disj
  | .atom | .term => .conj

/-- The scope around a phrase does not end where the phrase continues. -/
def Rule.Fits (r : Rule) (scopes : List Scope) : Prop :=
  ∀ t ∈ r.operator?, ∀ c ∈ scopes.head?, c.endsAt t = false

namespace Scope

variable {c : Scope} {t : Token}

theorem endsAt_var (c : Scope) (name : Char) : c.endsAt (.var name) = false := by
  cases c <;> rfl

theorem endsAt_constant (c : Scope) (b : Bool) : c.endsAt (.constant b) = false := by
  cases c <;> rfl

theorem endsAt_neg (c : Scope) : c.endsAt .neg = false := by
  cases c <;> rfl

theorem endsAt_lparen (c : Scope) : c.endsAt .lparen = false := by
  cases c <;> rfl

theorem endsAt_disj_of_conj (h : c.endsAt .conj = true) : c.endsAt .disj = true := by
  cases c <;> first | rfl | cases h

theorem endsAt_rparen_of_disj (h : c.endsAt .disj = true) : c.endsAt .rparen = true := by
  cases c <;> first | rfl | cases h

theorem ne_group_of_endsAt (h : c.endsAt t = true) : c ≠ .group := by
  rintro rfl
  cases h

theorem rule_ne_term (c : Scope) : c.rule ≠ .term := by
  cases c <;> simp [rule]

theorem fits_rule (c : Scope) (scopes : List Scope) : c.rule.Fits (c :: scopes) := by
  cases c <;> simp [Rule.Fits, rule, Rule.operator?, endsAt]

end Scope

theorem Rule.Fits.clause {scopes : List Scope} (h : Rule.sentence.Fits scopes) :
    Rule.clause.Fits scopes := by
  rintro _ ⟨⟩ c hc
  have hdisj := h .disj rfl c hc
  cases hconj : c.endsAt .conj with
  | false => rfl
  | true => exact absurd (Scope.endsAt_disj_of_conj hconj) (by simp [hdisj])

theorem Rule.fits_atom (scopes : List Scope) : Rule.atom.Fits scopes := by
  simp [Fits, operator?]

theorem Rule.fits_term (scopes : List Scope) : Rule.term.Fits scopes := by
  simp [Fits, operator?]

theorem Rule.fits_nil (r : Rule) : r.Fits [] := by
  intro _ _ _ hc
  cases hc

namespace Outline

variable {limit k : Nat} {o o' : Outline} {r left : Rule} {t : Token} {ts us : List Token}
variable {c : Scope} {p : Proposition}

theorem around_eq_scopes (h : ∀ c ∈ o.scopes.head?, c.endsAt t = false) :
    o.around t = o.scopes := by
  unfold around
  cases hs : o.scopes with
  | nil => rfl
  | cons c scopes =>
    rw [hs] at h
    exact List.dropWhile_cons_of_neg (by simp [h c rfl])

theorem around_neg (o : Outline) : o.around .neg = o.scopes :=
  around_eq_scopes fun c _ => c.endsAt_neg

theorem around_lparen (o : Outline) : o.around .lparen = o.scopes :=
  around_eq_scopes fun c _ => c.endsAt_lparen

theorem push_of_scope? (h : t.scope? = some c) : o.push t = ⟨some t, c :: o.around t⟩ := by
  cases t <;> cases h <;> rfl

@[simp] theorem expectsOperand_push (o : Outline) (t : Token) :
    (o.push t).expectsOperand = t.scope?.isSome := rfl

/-- The outline stands behind a phrase of the rule that began at `o`. Whatever
the phrase left open ends at the next token that cannot continue it. -/
structure Completes (r : Rule) (o o' : Outline) : Prop where
  expectsOperand : o'.expectsOperand = false
  scopes : ∃ left, o'.scopes = left ++ o.scopes ∧ ∀ c ∈ left, c.endsAt r.bound = true

namespace Completes

theorem mono (h : Completes left o o')
    (hb : ∀ c : Scope, c.endsAt left.bound = true → c.endsAt r.bound = true) :
    Completes r o o' := by
  obtain ⟨inner, hscopes, hends⟩ := h.scopes
  exact ⟨h.expectsOperand, inner, hscopes, fun c hc => hb c (hends c hc)⟩

theorem around (h : Completes r o o') (ht : ∀ c ∈ o.scopes.head?, c.endsAt r.bound = false) :
    o'.around r.bound = o.scopes := by
  obtain ⟨inner, hscopes, hends⟩ := h.scopes
  rw [Outline.around, hscopes, List.dropWhile_append_of_pos hends]
  exact around_eq_scopes ht

theorem of_scope {o₁ : Outline} (h : Completes r (o₁.push t) o') (ht : t.scope? = some c)
    (hscopes : o₁.around t = o.scopes) (hc : c.endsAt r.bound = true) : Completes r o o' := by
  obtain ⟨inner, hinner, hends⟩ := h.scopes
  rw [push_of_scope? ht, hscopes] at hinner
  refine ⟨h.expectsOperand, inner ++ [c], by simp [hinner], ?_⟩
  simpa [or_imp, forall_and] using ⟨hends, hc⟩

theorem group_notMem (h : Completes r start o') : .group ∉ o'.scopes := by
  obtain ⟨inner, hscopes, hends⟩ := h.scopes
  intro hmem
  rw [hscopes, show start.scopes = [] from rfl, List.append_nil] at hmem
  exact Scope.ne_group_of_endsAt (hends _ hmem) rfl

end Completes

-- ---------------------------------------------------------------------------
-- What is derived has no fault
-- ---------------------------------------------------------------------------

/-- In an outline with room for it, the phrase has no fault and is completed. -/
def Settles (r : Rule) (k : Nat) (ts : List Token) : Prop :=
  ∀ {limit : Nat} {o : Outline}, o.expectsOperand = true → r.Fits o.scopes →
    o.scopes.length + k ≤ limit → o.Admits limit ts ∧ Completes r o (o.pushAll ts)

theorem Settles.scope (h : Settles c.rule k ts) (ht : t.scope? = some c)
    (hcont : o.continues t = true) (hk : (o.around t).length + (k + 1) ≤ limit) :
    o.Admits limit (t :: ts) ∧ Completes c.rule (o.push t) (o.pushAll (t :: ts)) := by
  have hpush := push_of_scope? (o := o) ht
  have hdeep : (o.push t).scopes.length + k ≤ limit := by
    rw [hpush, List.length_cons]
    omega
  obtain ⟨hts, hdone⟩ := h (by simp [ht]) (by simpa [hpush] using c.fits_rule _) hdeep
  exact ⟨⟨⟨hcont, fun _ => by omega⟩, hts⟩, hdone⟩

theorem settles_leaf (hcont : ∀ o : Outline, o.continues t = o.expectsOperand)
    (ht : t.scope? = none) (hpush : ∀ o : Outline, (o.push t).scopes = o.around t)
    (hend : ∀ c : Scope, c.endsAt t = false) : Settles .term k [t] := by
  intro limit o ho _ _
  have hscopes := (hpush o).trans (around_eq_scopes fun c _ => hend c)
  have hallows : o.Allows limit t := allows_of_scope?_eq_none ((hcont o).trans ho) ht
  exact ⟨⟨hallows, trivial⟩, by simp [ht], [], hscopes, by simp⟩

theorem settles_group (h : Settles .sentence k ts) :
    Settles .term (k + 1) (.lparen :: ts ++ [.rparen]) := by
  intro limit o ho _ hk
  obtain ⟨hts, hdone⟩ := h.scope (t := .lparen) (c := .group) rfl ho
    (o.around_lparen.symm ▸ hk)
  -- behind the interior the group is the innermost scope that does not end
  have hopen : (o.push .lparen).scopes = .group :: o.scopes := by
    rw [push_of_scope? rfl, around_lparen]
  have haround : (o.pushAll (.lparen :: ts)).around .rparen = .group :: o.scopes :=
    hopen ▸ hdone.around (by simp [hopen, Scope.endsAt, Scope.rule, Rule.bound])
  have hmem : .group ∈ (o.pushAll (.lparen :: ts)).scopes := by
    obtain ⟨inner, hscopes, -⟩ := hdone.scopes
    rw [hscopes, hopen]
    exact List.mem_append_right _ List.mem_cons_self
  have hcont : (o.pushAll (.lparen :: ts)).continues .rparen = true := by
    simpa only [continues, hdone.expectsOperand, Bool.not_false, Bool.true_and,
      List.contains_iff_mem] using hmem
  refine ⟨admits_append.2 ⟨hts, allows_of_scope?_eq_none hcont rfl, trivial⟩, ?_⟩
  rw [pushAll_append]
  exact ⟨rfl, [], congrArg List.tail haround, by simp⟩

theorem settles_neg (h : Settles .atom k ts) : Settles .atom (k + 1) (.neg :: ts) := by
  intro limit o ho _ hk
  obtain ⟨hts, hdone⟩ := h.scope (t := .neg) (c := .neg) rfl ho (o.around_neg.symm ▸ hk)
  exact ⟨hts, hdone.of_scope rfl o.around_neg rfl⟩

theorem settles_operator (hp : Settles left (k + 1) ts) (hq : Settles r k us)
    (ht : left.bound.scope? = some c) (hr : c.rule = r) (hop : r.operator? = some left.bound)
    (hcont : ∀ o : Outline, o.continues left.bound = !o.expectsOperand)
    (hleft : ∀ {scopes}, r.Fits scopes → left.Fits scopes) (hc : c.endsAt r.bound = true) :
    Settles r (k + 1) (ts ++ left.bound :: us) := by
  intro limit o ho hfit hk
  subst hr
  obtain ⟨hts, hdone⟩ := hp ho (hleft hfit) hk
  have haround := hdone.around (hfit _ hop)
  obtain ⟨hus, hdone'⟩ := hq.scope ht ((hcont _).trans (by rw [hdone.expectsOperand]; rfl))
    (haround.symm ▸ hk)
  refine ⟨admits_append.2 ⟨hts, hus⟩, ?_⟩
  rw [pushAll_append]
  exact hdone'.of_scope ht haround hc

/-- What is derived stays clear of faults wherever it may stand. -/
theorem settles_of_derives (h : Derives r k ts p) : Settles r k ts := by
  induction h with
  | var name => exact settles_leaf (fun _ => rfl) rfl (fun _ => rfl) (·.endsAt_var name)
  | constant b => exact settles_leaf (fun _ => rfl) rfl (fun _ => rfl) (·.endsAt_constant b)
  | group _ ih => exact settles_group ih
  | ofTerm _ ih =>
    intro limit o ho _ hk
    obtain ⟨hts, hdone⟩ := ih ho (Rule.fits_term _) hk
    exact ⟨hts, hdone.mono fun _ => id⟩
  | neg _ ih => exact settles_neg ih
  | ofAtom _ ih =>
    intro limit o ho _ hk
    obtain ⟨hts, hdone⟩ := ih ho (Rule.fits_atom _) hk
    exact ⟨hts, hdone.mono fun _ => Scope.endsAt_disj_of_conj⟩
  | conj _ _ ihp ihq =>
    exact settles_operator (c := .conj) ihp ihq rfl rfl rfl (fun _ => rfl)
      (fun _ => Rule.fits_atom _) rfl
  | ofClause _ ih =>
    intro limit o ho hfit hk
    obtain ⟨hts, hdone⟩ := ih ho hfit.clause hk
    exact ⟨hts, hdone.mono fun _ => Scope.endsAt_rparen_of_disj⟩
  | disj _ _ ihp ihq =>
    exact settles_operator (c := .disj) ihp ihq rfl rfl rfl (fun _ => rfl)
      Rule.Fits.clause rfl

theorem settles_start (h : Derives .sentence k ts p) (hk : k ≤ limit) :
    start.Admits limit ts ∧ Completes .sentence start (start.pushAll ts) :=
  settles_of_derives h rfl (Rule.fits_nil _) ((Nat.zero_add k).symm ▸ hk)

theorem admits_of_derives (h : Derives .sentence k ts p) (hk : k ≤ limit) :
    start.Admits limit (ts ++ [.endOfInput]) := by
  obtain ⟨hts, hdone⟩ := settles_start h hk
  refine admits_append.2 ⟨hts, allows_of_scope?_eq_none ?_ rfl, trivial⟩
  simp [continues, hdone.expectsOperand, hdone.group_notMem]

end Outline

end TruthTable
