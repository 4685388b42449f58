import Mathlib

/-!
# Outcomes

When steps that may fail succeed, one after the other, and how they fail.
-/

namespace Stencil

variable {ε ε' σ α β : Type}

theorem map_ok {f : α → β} {x : Except ε α} {b : β} :
    x.map f = .ok b ↔ ∃ a, x = .ok a ∧ f a = b := by
  cases x <;> simp [Except.map]

theorem bind_ok {x : Except ε α} {f : α → Except ε β} {b : β} :
    x.bind f = .ok b ↔ ∃ a, x = .ok a ∧ f a = .ok b := by
  cases x <;> simp [Except.bind]

theorem mapError_ok {f : ε → ε'} {x : Except ε α} {a : α} : x.mapError f = .ok a ↔ x = .ok a := by
  cases x <;> simp [Except.mapError]

theorem map_error {f : α → β} {x : Except ε α} {e : ε} : x.map f = .error e ↔ x = .error e := by
  cases x <;> simp [Except.map]

theorem bind_error {x : Except ε α} {f : α → Except ε β} {e : ε} :
    x.bind f = .error e ↔ x = .error e ∨ ∃ a, x = .ok a ∧ f a = .error e := by
  cases x <;> simp [Except.bind]

theorem mapError_error {f : ε → ε'} {x : Except ε α} {e : ε'} :
    x.mapError f = .error e ↔ ∃ first, x = .error first ∧ f first = e := by
  cases x <;> simp [Except.mapError]

theorem mem_of_mapM_eq_some {f : α → Option β} {as : List α} {bs : List β} {b : β}
    (h : as.mapM f = some bs) (hb : b ∈ bs) : ∃ a ∈ as, f a = some b := by
  induction as generalizing bs with
  | nil =>
    cases h
    cases hb
  | cons a as ih =>
    simp only [List.mapM_cons, Option.bind_eq_bind, Option.bind_eq_some_iff] at h
    obtain ⟨first, hfirst, others, hothers, h⟩ := h
    cases h
    rcases List.mem_cons.mp hb with rfl | hb
    · exact ⟨a, List.mem_cons_self, hfirst⟩
    · obtain ⟨a, ha, hread⟩ := ih hothers hb
      exact ⟨a, List.mem_cons_of_mem _ ha, hread⟩

theorem mapM_map_eq_some {f : β → Option α} {g : α → β} {as : List α}
    (h : ∀ a ∈ as, f (g a) = some a) : (as.map g).mapM f = some as := by
  induction as with
  | nil => rfl
  | cons a as ih =>
    obtain ⟨ha, has⟩ := List.forall_mem_cons.mp h
    rw [List.map_cons, List.mapM_cons, ha, ih has]
    rfl

def EndsIn (onOk : α → σ → Prop) (onError : ε → σ → Prop) : EStateM.Result ε σ α → Prop
  | .ok value after => onOk value after
  | .error error after => onError error after

section
variable {onOk onOk' : α → σ → Prop} {onError onError' : ε → σ → Prop}

theorem EndsIn.mono {ended : EStateM.Result ε σ α} (h : EndsIn onOk onError ended)
    (hok : ∀ value after, onOk value after → onOk' value after)
    (herror : ∀ error after, onError error after → onError' error after) :
    EndsIn onOk' onError' ended := by
  cases ended with
  | ok value after => exact hok value after h
  | error error after => exact herror error after h

theorem EndsIn.bind {onNext : β → σ → Prop} {step : EStateM ε σ α} {next : α → EStateM ε σ β}
    {state : σ} (h : EndsIn onOk onError (step state))
    (hnext : ∀ value after, onOk value after → EndsIn onNext onError' (next value after))
    (herror : ∀ error after, onError error after → onError' error after) :
    EndsIn onNext onError' ((step >>= next) state) := by
  simp only [Bind.bind, EStateM.bind]
  cases hrun : step state with
  | ok value after =>
    rw [hrun] at h
    exact hnext value after h
  | error error after =>
    rw [hrun] at h
    exact herror error after h

end

end Stencil
