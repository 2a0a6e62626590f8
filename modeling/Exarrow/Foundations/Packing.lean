import Mathlib.Data.List.Chain
import Mathlib.Tactic.Common

/-!
# Packing items in order

Items are packed in their order into ranges, each range being filled as long as its size
stays within a limit; an item that is too large alone has a range of its own
(`Packing.run`). Of the size of a range nothing is asked.

**The ranges cover the items in order, keep within the limit unless they hold a single
item, and none of them had room for the item after it** (`Packing.isPacking_ranges`).
-/

namespace Packing

/-- Consecutive items, from the first one up to before the last one. -/
structure Range where
  first : ℕ
  stop : ℕ
  deriving DecidableEq

/-- The ranges are not empty, and one begins where the one before it ends. -/
inductive Covers : ℕ → ℕ → List Range → Prop
  | nil (a : ℕ) : Covers a a []
  | cons {a b : ℕ} {r : Range} {rs : List Range} (first : r.first = a) (nonempty : a < r.stop)
      (rest : Covers r.stop b rs) : Covers a b (r :: rs)

/-- The ranges are a packing of `n` items: they cover them, each keeps within the limit or
holds a single item, and none could have taken the first item of the next one. -/
structure IsPacking (size : ℕ → ℕ → ℕ) (limit n : ℕ) (rs : List Range) : Prop where
  covers : Covers 0 n rs
  fits : ∀ r ∈ rs, size r.first r.stop ≤ limit ∨ r.stop = r.first + 1
  full : rs.IsChain fun r next => limit < size r.first (next.first + 1)

/-- Ranges that are closed, and where the open one begins. -/
structure State where
  closed : List Range := []
  first : ℕ := 0
  deriving DecidableEq

section Pack

variable (size : ℕ → ℕ → ℕ) (limit : ℕ)

/-- Add an item to the open range, or begin a new one with it. -/
def step (s : State) (k : ℕ) : State :=
  if s.first < k ∧ limit < size s.first (k + 1) then ⟨s.closed ++ [⟨s.first, k⟩], k⟩ else s

/-- Pack the first `n` items. -/
def run (n : ℕ) : State := (List.range n).foldl (step size limit) {}

/-- All ranges: the closed ones, and the open one if there are items. -/
def ranges (n : ℕ) : List Range :=
  if 0 < n then (run size limit n).closed ++ [⟨(run size limit n).first, n⟩]
  else (run size limit n).closed

end Pack

variable {size : ℕ → ℕ → ℕ} {limit : ℕ}

/-! ### Covering -/

/-- A range is added at the end. -/
theorem Covers.concat {a b c : ℕ} {rs : List Range} (h : Covers a b rs) (hlt : b < c) :
    Covers a c (rs ++ [⟨b, c⟩]) := by
  induction h with
  | nil a => exact .cons rfl hlt (.nil c)
  | cons first nonempty _ ih => exact .cons first nonempty (ih hlt)

/-- What is covered lies between the ends. -/
theorem Covers.mem {a b : ℕ} {rs : List Range} (h : Covers a b rs) :
    a ≤ b ∧ ∀ r ∈ rs, a ≤ r.first ∧ r.first < r.stop ∧ r.stop ≤ b := by
  induction h with
  | nil a => exact ⟨le_refl a, List.forall_mem_nil _⟩
  | cons first nonempty _ ih =>
    obtain ⟨hle, hmem⟩ := ih
    refine ⟨le_trans nonempty.le hle, fun q hq => ?_⟩
    rcases List.mem_cons.mp hq with rfl | hq
    · exact ⟨first.ge, first ▸ nonempty, hle⟩
    · obtain ⟨h1, h2, h3⟩ := hmem q hq
      exact ⟨le_trans nonempty.le h1, h2, h3⟩

/-- **What the ranges hold, one after the other, is what there is**, for whatever can be
cut at their ends. -/
theorem Covers.flatMap {α : Type} {piece : ℕ → ℕ → List α} {a b : ℕ} {rs : List Range}
    (h : Covers a b rs) (hnil : ∀ i, piece i i = [])
    (hcut : ∀ i j k, i ≤ j → j ≤ k → piece i k = piece i j ++ piece j k) :
    (rs.flatMap fun r => piece r.first r.stop) = piece a b := by
  induction h with
  | nil a => exact (hnil a).symm
  | cons first nonempty rest ih =>
    rw [List.flatMap_cons, ih, first]
    exact (hcut _ _ _ nonempty.le rest.mem.1).symm

/-- A packing depends on the sizes within the items only. -/
theorem IsPacking.congr {size' : ℕ → ℕ → ℕ} {n : ℕ} {rs : List Range}
    (h : IsPacking size limit n rs) (heq : ∀ i j, j ≤ n → size' i j = size i j) :
    IsPacking size' limit n rs := by
  obtain ⟨hcovers, hfits, hfull⟩ := h
  have hmem := hcovers.mem.2
  refine ⟨hcovers, fun r hr => ?_, hfull.imp_of_mem_imp fun r next _ hnext hlimit => ?_⟩
  · rw [heq _ _ (hmem r hr).2.2]
    exact hfits r hr
  · obtain ⟨-, hlt, hle⟩ := hmem next hnext
    rwa [heq _ _ (by omega)]

/-! ### The packing of the items so far -/

/-- What holds when so many items have been added. -/
structure Invariant (size : ℕ → ℕ → ℕ) (limit k : ℕ) (s : State) : Prop where
  covers : Covers 0 s.first s.closed
  fits : ∀ r ∈ s.closed, size r.first r.stop ≤ limit ∨ r.stop = r.first + 1
  full : s.closed.IsChain fun r next => limit < size r.first (next.first + 1)
  last : ∀ r ∈ s.closed.getLast?, limit < size r.first (s.first + 1)
  first_le : s.first ≤ k
  first_lt : 0 < k → s.first < k
  open_fits : 0 < k → size s.first k ≤ limit ∨ k = s.first + 1

theorem invariant_init : Invariant size limit 0 {} where
  covers := .nil 0
  fits := List.forall_mem_nil _
  full := List.isChain_nil
  last := nofun
  first_le := le_refl 0
  first_lt := nofun
  open_fits := nofun

/-- **An item is added.** -/
theorem invariant_step {k : ℕ} {s : State} (h : Invariant size limit k s) :
    Invariant size limit (k + 1) (step size limit s k) := by
  unfold step
  split
  · -- The open range is closed, and the item begins a range.
    rename_i hfull
    obtain ⟨hlt, hlimit⟩ := hfull
    have hfits : size s.first k ≤ limit ∨ k = s.first + 1 := h.open_fits (by omega)
    refine ⟨h.covers.concat hlt, ?_, ?_, ?_, Nat.le_succ k, fun _ => Nat.lt_succ_self k,
      fun _ => .inr rfl⟩
    · intro r hr
      rcases List.mem_append.mp hr with hr | hr
      · exact h.fits r hr
      · obtain rfl := List.mem_singleton.mp hr
        exact hfits
    · refine List.isChain_append.mpr ⟨h.full, List.isChain_singleton _, fun r hr next hnext => ?_⟩
      obtain rfl := Option.some.inj hnext
      exact h.last r hr
    · intro r hr
      rw [List.getLast?_concat] at hr
      obtain rfl := Option.some.inj hr
      exact hlimit
  · -- The item joins the open range.
    rename_i hroom
    have hle := h.first_le
    refine ⟨h.covers, h.fits, h.full, h.last, by omega, fun _ => by omega, fun _ => ?_⟩
    by_cases hlt : s.first < k
    · exact .inl (not_lt.mp fun hlimit => hroom ⟨hlt, hlimit⟩)
    · exact .inr (by omega)

/-- The items so far are packed. -/
theorem invariant_run (n : ℕ) : Invariant size limit n (run size limit n) := by
  induction n with
  | zero => exact invariant_init
  | succ n ih =>
    unfold run at ih ⊢
    rw [List.range_succ, List.foldl_append]
    exact invariant_step ih

/-- **The ranges are a packing.** -/
theorem isPacking_ranges (n : ℕ) : IsPacking size limit n (ranges size limit n) := by
  have h := @invariant_run size limit n
  unfold ranges
  split
  · rename_i hpos
    refine ⟨h.covers.concat (h.first_lt hpos), ?_, ?_⟩
    · intro r hr
      rcases List.mem_append.mp hr with hr | hr
      · exact h.fits r hr
      · obtain rfl := List.mem_singleton.mp hr
        exact h.open_fits hpos
    · refine List.isChain_append.mpr ⟨h.full, List.isChain_singleton _, fun r hr next hnext => ?_⟩
      obtain rfl := Option.some.inj hnext
      exact h.last r hr
  · rename_i hzero
    obtain rfl := Nat.eq_zero_of_not_pos hzero
    exact ⟨.nil 0, List.forall_mem_nil _, List.isChain_nil⟩

end Packing
