import Mathlib.Tactic.Common

/-!
# Runs of a deterministic system

A system steps by a function of its state and an action, so that a run is the
list of its actions. Two predicates speak of a run as a whole:

* `Runs.Always` – a property of states holds in every state the run reaches, the
  first one included;
* `Runs.EachStep` – a condition on the state before a step and on its action
  holds of every step of the run.

`Runs.always_iff_eachStep` is the rule for an *exact* condition: when a step that
meets the condition keeps the invariant, and a step that violates it leaves the
property broken, the property holds along a run exactly when every step of the
run meets the condition. `Runs.always_of_eachStep` is its sufficient half.
-/

namespace Runs

variable {X A : Type} {step : X → A → X}

/-- The property holds in every state of the run. -/
def Always (step : X → A → X) (P : X → Prop) : X → List A → Prop
  | x, [] => P x
  | x, a :: as => P x ∧ Always step P (step x a) as

/-- The condition holds of every step of the run. -/
def EachStep (step : X → A → X) (ok : X → A → Prop) : X → List A → Prop
  | _, [] => True
  | x, a :: as => ok x a ∧ EachStep step ok (step x a) as

/-- The state a run ends in. -/
def last (step : X → A → X) (x : X) (as : List A) : X := as.foldl step x

variable {P I : X → Prop} {ok : X → A → Prop}

/-- A property that holds along a run holds where it starts. -/
theorem Always.head {x : X} {as : List A} (h : Always step P x as) : P x := by
  cases as with
  | nil => exact h
  | cons a as => exact h.1

/-- A property that holds along a run holds where it ends. -/
theorem Always.last {x : X} {as : List A} (h : Always step P x as) : P (last step x as) := by
  induction as generalizing x with
  | nil => exact h
  | cons a as ih => exact ih h.2

/-- A weaker property holds along the same run. -/
theorem Always.mono {Q : X → Prop} (hPQ : ∀ x, P x → Q x) {x : X} {as : List A}
    (h : Always step P x as) : Always step Q x as := by
  induction as generalizing x with
  | nil => exact hPQ x h
  | cons a as ih => exact ⟨hPQ x h.1, ih h.2⟩

/-- **The invariant rule**: an invariant of the steps that meet the condition
holds along every run whose steps all do. -/
theorem always_of_eachStep (hstep : ∀ x a, I x → ok x a → I (step x a)) {x : X} {as : List A}
    (hx : I x) (h : EachStep step ok x as) : Always step I x as := by
  induction as generalizing x with
  | nil => exact hx
  | cons a as ih => exact ⟨hx, ih (hstep x a hx h.1) h.2⟩

/-- **The invariant rule without a condition**: an invariant of all steps holds along every
run. -/
theorem always_of_step (hstep : ∀ x a, I x → I (step x a)) {x : X} (hx : I x) (as : List A) :
    Always step I x as := by
  induction as generalizing x with
  | nil => exact hx
  | cons a as ih => exact ⟨hx, ih (hstep x a hx)⟩

/-- **The rule for an exact condition.** The invariant carries the property, a
step that meets the condition keeps the invariant, and a step that does not
breaks the property at once. -/
theorem always_iff_eachStep (hP : ∀ x, I x → P x) (hstep : ∀ x a, I x → ok x a → I (step x a))
    (hbad : ∀ x a, I x → P (step x a) → ok x a) {x : X} {as : List A} (hx : I x) :
    Always step P x as ↔ EachStep step ok x as := by
  refine ⟨fun h => ?_, fun h => (always_of_eachStep hstep hx h).mono hP⟩
  induction as generalizing x with
  | nil => trivial
  | cons a as ih =>
    have hok : ok x a := hbad x a hx h.2.head
    exact ⟨hok, ih (hstep x a hx hok) h.2⟩

end Runs
