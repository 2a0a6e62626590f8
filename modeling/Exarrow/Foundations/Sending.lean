import Mathlib.Data.List.Basic

/-!
# Writing to a channel

A channel takes what is written to it, one call after the other, until a call fails; such a
call has still written a beginning of its data (`Sending.write`). A computation that writes to
a channel and may fail is a `Sending.Writing`.

`Sending.Sends` says what a computation writes: a postcondition for the result and the data of a
computation that succeeds, and another one for a computation that fails. The rules for it follow
the computation: `Sending.Sends.pure`, `Sending.Sends.bind`, `Sending.Sends.foldlM` and so on.
-/

namespace Sending

variable {β ε δ δ' α γ : Type}

/-- A channel: what has been written, how often, and which calls fail with which error after how
much of their data. -/
structure Channel (β ε : Type) where
  written : List β := []
  calls : ℕ := 0
  breaks : ℕ → Option (ε × ℕ) := fun _ => none

/-- A computation that writes to a channel and may fail. -/
abbrev Writing (β ε δ α : Type) : Type := EStateM δ (Channel β ε) α

/-- Write some data. -/
def write (data : List β) : Writing β ε ε Unit := fun c =>
  match c.breaks c.calls with
  | none => .ok () { c with written := c.written ++ data, calls := c.calls + 1 }
  | some (e, n) => .error e { c with written := c.written ++ data.take n, calls := c.calls + 1 }

/-- A computation that writes nothing. -/
def fromExcept : Except δ α → Writing β ε δ α
  | .ok a => pure a
  | .error e => throw e

/-- A computation goes on from where another one has succeeded. -/
theorem bind_of_ok {m : Writing β ε δ α} {f : α → Writing β ε δ γ} {c c' : Channel β ε} {a : α}
    (h : m c = .ok a c') : (m >>= f) c = f a c' := by
  change EStateM.bind m f c = f a c'
  unfold EStateM.bind
  rw [h]

/-- A computation ends where another one has failed. -/
theorem bind_of_error {m : Writing β ε δ α} {f : α → Writing β ε δ γ} {c c' : Channel β ε} {e : δ}
    (h : m c = .error e c') : (m >>= f) c = .error e c' := by
  change EStateM.bind m f c = .error e c'
  unfold EStateM.bind
  rw [h]

/-- What a computation writes, if it succeeds and if it fails. -/
def Sends (m : Writing β ε δ α) (Q : α → List β → Prop) (E : δ → List β → Prop) : Prop :=
  ∀ c, match m c with
    | .ok a c' => ∃ data, c'.written = c.written ++ data ∧ Q a data
    | .error e c' => ∃ data, c'.written = c.written ++ data ∧ E e data

namespace Sends

variable {m : Writing β ε δ α} {f : α → Writing β ε δ γ} {P Q : α → List β → Prop}
  {R : γ → List β → Prop} {E E' : δ → List β → Prop}

/-- Nothing is written. -/
theorem pure {a : α} (h : Q a []) : Sends (pure a : Writing β ε δ α) Q E :=
  fun c => ⟨[], (List.append_nil c.written).symm, h⟩

/-- Nothing is written by a failure. -/
theorem throw {e : δ} (h : E e []) : Sends (throw e : Writing β ε δ α) Q E :=
  fun c => ⟨[], (List.append_nil c.written).symm, h⟩

/-- A computation that writes nothing. -/
theorem fromExcept {x : Except δ α} (h : ∀ a, x = .ok a → Q a []) (he : ∀ e, x = .error e → E e []) :
    Sends (fromExcept x : Writing β ε δ α) Q E := by
  cases x with
  | ok a => exact pure (h a rfl)
  | error e => exact throw (he e rfl)

/-- Data are written as a whole, or a beginning of them. -/
theorem write {data : List β} {Q : Unit → List β → Prop} {E : ε → List β → Prop}
    (h : Q () data) (he : ∀ e n, E e (data.take n)) : Sends (Sending.write data) Q E := by
  intro c
  unfold Sending.write
  cases hbreaks : c.breaks c.calls with
  | none => exact ⟨data, rfl, h⟩
  | some failure =>
    obtain ⟨e, n⟩ := failure
    exact ⟨data.take n, rfl, he e n⟩

/-- A weaker postcondition. -/
theorem mono (h : Sends m P E) (hQ : ∀ a data, P a data → Q a data)
    (hE : ∀ e data, E e data → E' e data) : Sends m Q E' := by
  intro c
  have hc := h c
  split
  · rename_i hm
    rw [hm] at hc
    obtain ⟨data, hdata, hP⟩ := hc
    exact ⟨data, hdata, hQ _ _ hP⟩
  · rename_i hm
    rw [hm] at hc
    obtain ⟨data, hdata, he⟩ := hc
    exact ⟨data, hdata, hE _ _ he⟩

/-- **One computation after the other.** -/
theorem bind (h : Sends m P E)
    (hf : ∀ a data, P a data → Sends (f a) (fun b more => R b (data ++ more))
      (fun e more => E e (data ++ more))) : Sends (m >>= f) R E := by
  intro c
  have hc := h c
  change match EStateM.bind m f c with
    | .ok a c' => _
    | .error e c' => _
  unfold EStateM.bind
  cases hm : m c with
  | error e c' =>
    rw [hm] at hc
    exact hc
  | ok a c' =>
    rw [hm] at hc
    obtain ⟨data, hdata, hP⟩ := hc
    have hnext := hf a data hP c'
    dsimp only
    split
    · rename_i hfa
      rw [hfa] at hnext
      obtain ⟨more, hmore, hR⟩ := hnext
      exact ⟨data ++ more, by rw [hmore, hdata, List.append_assoc], hR⟩
    · rename_i hfa
      rw [hfa] at hnext
      obtain ⟨more, hmore, hE⟩ := hnext
      exact ⟨data ++ more, by rw [hmore, hdata, List.append_assoc], hE⟩

/-- An error that is told in other words. -/
theorem adaptExcept {g : δ → δ'} {E : δ' → List β → Prop} (h : Sends m Q fun e => E (g e)) :
    Sends (EStateM.adaptExcept g m) Q E := by
  intro c
  have hc := h c
  unfold EStateM.adaptExcept
  cases hm : m c with
  | error e c' =>
    rw [hm] at hc
    exact hc
  | ok a c' =>
    rw [hm] at hc
    exact hc

/-- **The loop rule.** The invariant speaks of the items that have been dealt with, and of all
the data that have been written for them. -/
theorem foldlM {ι : Type} {f : α → ι → Writing β ε δ α} {items : List ι}
    {I : List ι → α → List β → Prop}
    (hstep : ∀ done item a data, I done a data → item ∈ items →
      Sends (f a item) (fun a' more => I (done ++ [item]) a' (data ++ more))
        (fun e more => E e (data ++ more)))
    {a : α} (h : I [] a []) : Sends (items.foldlM f a) (I items) E := by
  have hgeneral (rest done : List ι) (a : α) (data : List β) (hsplit : done ++ rest = items)
      (ha : I done a data) : Sends (rest.foldlM f a) (fun a' more => I items a' (data ++ more))
        (fun e more => E e (data ++ more)) := by
    induction rest generalizing done a data with
    | nil =>
      rw [List.append_nil] at hsplit
      rw [List.foldlM_nil]
      exact pure (by rw [List.append_nil, ← hsplit]; exact ha)
    | cons item rest ih =>
      have hitem : item ∈ items := by
        rw [← hsplit]
        exact List.mem_append_right _ List.mem_cons_self
      rw [List.foldlM_cons]
      refine bind (hstep done item a data ha hitem) fun a' more ha' => ?_
      have hrest := ih (done ++ [item]) a' (data ++ more) (by rw [List.append_assoc]; exact hsplit) ha'
      exact hrest.mono (fun b more' hb => by rwa [List.append_assoc] at hb)
        fun e more' he => by rwa [List.append_assoc] at he
  exact hgeneral items [] a [] rfl h

end Sends

end Sending
