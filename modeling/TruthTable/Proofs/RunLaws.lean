/-!
# Running computations with state and errors

Parsing and enumerating are both written in `EStateM`. A sequence succeeds when
its parts succeed one after the other, and stops at the first one that fails.
-/

namespace TruthTable

variable {ε σ α β : Type} {m : EStateM ε σ α} {f : α → EStateM ε σ β} {a : α} {b : β} {e : ε}
variable {s t u : σ}

theorem run_bind_of_ok (h : m.run s = .ok a t) : (m >>= f).run s = (f a).run t := by
  rw [EStateM.run_bind, h]

theorem run_bind_of_error (h : m.run s = .error e t) : (m >>= f).run s = .error e t := by
  rw [EStateM.run_bind, h]

theorem bind_ok :
    (m >>= f).run s = .ok b u ↔ ∃ a t, m.run s = .ok a t ∧ (f a).run t = .ok b u := by
  cases h : m.run s with
  | ok a t =>
    rw [run_bind_of_ok h]
    constructor
    · intro hf
      exact ⟨a, t, rfl, hf⟩
    · rintro ⟨_, _, ⟨rfl, rfl⟩, hf⟩
      exact hf
  | error e t => simp [run_bind_of_error h]

theorem bind_error (h : (m >>= f).run s = .error e u) :
    m.run s = .error e u ∨ ∃ a t, m.run s = .ok a t ∧ (f a).run t = .error e u := by
  cases hm : m.run s with
  | ok a t =>
    rw [run_bind_of_ok hm] at h
    exact .inr ⟨a, t, rfl, h⟩
  | error e' t =>
    rw [run_bind_of_error hm] at h
    cases h
    exact .inl rfl

theorem run_bind_congr {m' : EStateM ε σ α} (h : m.run s = m'.run s) :
    (m >>= f).run s = (m' >>= f).run s := by
  rw [EStateM.run_bind, EStateM.run_bind, h]

theorem run_bind_congr_right {g : α → EStateM ε σ β}
    (h : ∀ a t, m.run s = .ok a t → (f a).run t = (g a).run t) :
    (m >>= f).run s = (m >>= g).run s := by
  cases hm : m.run s with
  | ok a t => rw [run_bind_of_ok hm, run_bind_of_ok hm, h a t hm]
  | error e t => rw [run_bind_of_error hm, run_bind_of_error hm]

theorem run_get_bind (f : σ → EStateM ε σ β) (s : σ) : (get >>= f).run s = (f s).run s := rfl

theorem run_modify_bind (g : σ → σ) (f : PUnit → EStateM ε σ β) (s : σ) :
    (modify g >>= f).run s = (f ⟨⟩).run (g s) := rfl

end TruthTable
