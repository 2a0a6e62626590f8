import Mathlib.Data.List.Infix
import Mathlib.Tactic.Common

/-!
# Pipes of bounded capacity

Two tasks are joined by a pipe (`Piping.Pipe`), which holds a bounded number of elements. A
sender waits while the pipe is full (`Piping.Pipe.send`), a receiver while it is empty
(`Piping.Pipe.receive`); each waits no longer when the other one is gone: then nothing is taken
from the sender any more, and the receiver sees the end behind the last element.

What a step of either does is said once (`Piping.Pipe.send_eq_some`,
`Piping.Pipe.receive_eq_element`, `Piping.Pipe.receive_eq_end`), and so is when it waits
(`Piping.Pipe.send_eq_none`, `Piping.Pipe.receive_eq_none`).
-/

namespace Piping

/-- A pipe: the elements in it, and which of its ends are gone. -/
structure Pipe (α : Type) (capacity : ℕ) where
  queue : List α := []
  senderGone : Bool := false
  receiverGone : Bool := false
  bounded : queue.length ≤ capacity := by exact Nat.zero_le _

namespace Pipe

variable {α : Type} {n : ℕ}

/-- Send an element, unless the sender has to wait; and whether it was taken. -/
def send (a : α) (p : Pipe α n) : Option (Bool × Pipe α n) :=
  if p.receiverGone then some (false, p)
  else if h : p.queue.length < n then
    some (true, { p with
      queue := p.queue ++ [a]
      bounded := by
        rw [List.length_append]
        exact h })
  else none

/-- Receive an element or the end, unless the receiver has to wait. -/
def receive (p : Pipe α n) : Option (Option α × Pipe α n) :=
  match hqueue : p.queue with
  | a :: rest => some (some a, { p with
      queue := rest
      bounded := by
        have h := p.bounded
        rw [hqueue] at h
        exact (Nat.le_succ _).trans h })
  | [] => if p.senderGone then some (none, p) else none

/-- The sender goes. -/
def dropSender (p : Pipe α n) : Pipe α n := { p with senderGone := true }

/-- The receiver goes, and what is in the pipe is lost. -/
def dropReceiver (p : Pipe α n) : Pipe α n :=
  { p with queue := [], receiverGone := true, bounded := Nat.zero_le _ }

@[simp] theorem queue_dropSender (p : Pipe α n) : p.dropSender.queue = p.queue := rfl

@[simp] theorem senderGone_dropSender (p : Pipe α n) : p.dropSender.senderGone = true := rfl

@[simp] theorem receiverGone_dropSender (p : Pipe α n) :
    p.dropSender.receiverGone = p.receiverGone := rfl

@[simp] theorem queue_dropReceiver (p : Pipe α n) : p.dropReceiver.queue = [] := rfl

@[simp] theorem senderGone_dropReceiver (p : Pipe α n) :
    p.dropReceiver.senderGone = p.senderGone := rfl

@[simp] theorem receiverGone_dropReceiver (p : Pipe α n) : p.dropReceiver.receiverGone = true := rfl

/-- **What sending does**: the element is behind the others, or the receiver is gone. -/
theorem send_eq_some {a : α} {p p' : Pipe α n} {taken : Bool}
    (h : p.send a = some (taken, p')) :
    p'.senderGone = p.senderGone ∧ p'.receiverGone = p.receiverGone ∧ taken = !p.receiverGone ∧
      p'.queue = if taken then p.queue ++ [a] else p.queue := by
  unfold send at h
  split at h
  next hgone =>
    cases h
    exact ⟨rfl, rfl, by rw [hgone]; rfl, rfl⟩
  next hgone =>
    split at h
    · cases h
      exact ⟨rfl, rfl, by rw [Bool.eq_false_iff.mpr hgone]; rfl, rfl⟩
    · cases h

/-- A sender waits for room. -/
theorem send_eq_none {a : α} {p : Pipe α n} (h : p.send a = none) :
    p.receiverGone = false ∧ n ≤ p.queue.length := by
  unfold send at h
  split at h
  · cases h
  next hgone =>
    split at h
    · cases h
    next hfull => exact ⟨Bool.eq_false_iff.mpr hgone, Nat.le_of_not_lt hfull⟩

/-- **What is received is the first element.** -/
theorem receive_eq_element {a : α} {p p' : Pipe α n} (h : p.receive = some (some a, p')) :
    p.queue = a :: p'.queue ∧ p'.senderGone = p.senderGone ∧
      p'.receiverGone = p.receiverGone := by
  unfold receive at h
  split at h
  next hqueue =>
    cases h
    exact ⟨hqueue, rfl, rfl⟩
  · split at h <;> cases h

/-- **The end is seen behind the last element**, when the sender is gone. -/
theorem receive_eq_end {p p' : Pipe α n} (h : p.receive = some (none, p')) :
    p.queue = [] ∧ p.senderGone = true ∧ p' = p := by
  unfold receive at h
  split at h
  · cases h
  next hqueue =>
    split at h
    next hgone =>
      cases h
      exact ⟨hqueue, hgone, rfl⟩
    · cases h

/-- A receiver waits for the sender. -/
theorem receive_eq_none {p : Pipe α n} (h : p.receive = none) :
    p.queue = [] ∧ p.senderGone = false := by
  unfold receive at h
  split at h
  · cases h
  next hqueue =>
    split at h
    · cases h
    next hgone => exact ⟨hqueue, Bool.eq_false_iff.mpr hgone⟩

end Pipe

end Piping
