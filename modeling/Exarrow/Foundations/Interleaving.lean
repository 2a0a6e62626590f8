import Mathlib.Data.List.Basic
import Mathlib.Tactic.Common

/-!
# Interleaving and windows

Two sequences are interleaved by writing their elements in turn (`Interleaving.pairs`), and taken
apart again by reading every second element (`Interleaving.evens`, `Interleaving.odds`).

A list is cut into windows of one width (`Interleaving.windows`). **The windows put together are the
list** if it has as many elements (`Interleaving.flatten_windows`), and each is full
(`Interleaving.length_of_mem_windows`).

A list that is read around and around (`Interleaving.cycle`) begins with the list itself
(`Interleaving.exists_cycle_eq_append`).
-/

namespace Interleaving

variable {α : Type}

/-! ### In turn -/

/-- The elements of two sequences in turn. -/
def pairs (f g : ℕ → α) (n : ℕ) : List α := (List.range n).flatMap fun i => [f i, g i]

/-- The first element, the third, and so on. -/
def evens : List α → List α
  | [] => []
  | [a] => [a]
  | a :: _ :: l => a :: evens l

/-- The second element, the fourth, and so on. -/
def odds : List α → List α
  | [] => []
  | [_] => []
  | _ :: b :: l => b :: odds l

theorem pairs_succ (f g : ℕ → α) (n : ℕ) :
    pairs f g (n + 1) = f 0 :: g 0 :: pairs (fun i => f (i + 1)) (fun i => g (i + 1)) n := by
  unfold pairs
  rw [List.range_succ_eq_map, List.flatMap_cons, List.flatMap_map]
  rfl

@[simp] theorem length_pairs (f g : ℕ → α) (n : ℕ) : (pairs f g n).length = 2 * n := by
  induction n generalizing f g with
  | zero => rfl
  | succ n ih =>
    rw [pairs_succ, List.length_cons, List.length_cons, ih]
    omega

/-- **The first sequence is found again.** -/
theorem evens_pairs (f g : ℕ → α) (n : ℕ) : evens (pairs f g n) = (List.range n).map f := by
  induction n generalizing f g with
  | zero => rfl
  | succ n ih =>
    rw [pairs_succ, evens, ih, List.range_succ_eq_map, List.map_cons, List.map_map]
    rfl

/-- **And so is the second.** -/
theorem odds_pairs (f g : ℕ → α) (n : ℕ) : odds (pairs f g n) = (List.range n).map g := by
  induction n generalizing f g with
  | zero => rfl
  | succ n ih =>
    rw [pairs_succ, odds, ih, List.range_succ_eq_map, List.map_cons, List.map_map]
    rfl

/-! ### Windows -/

/-- So many windows of a width. -/
def windows (width count : ℕ) (l : List α) : List (List α) :=
  (List.range count).map fun i => (l.drop (i * width)).take width

theorem windows_succ (width count : ℕ) (l : List α) :
    windows width (count + 1) l = l.take width :: windows width count (l.drop width) := by
  unfold windows
  rw [List.range_succ_eq_map, List.map_cons, List.map_map, Nat.zero_mul, List.drop_zero]
  refine congrArg _ (List.map_congr_left fun i _ => ?_)
  rw [Function.comp_apply, List.drop_drop, Nat.succ_mul, Nat.add_comm]

@[simp] theorem length_windows (width count : ℕ) (l : List α) :
    (windows width count l).length = count := by
  rw [windows, List.length_map, List.length_range]

/-- **The windows put together are the list.** -/
theorem flatten_windows {width count : ℕ} {l : List α} (h : l.length = count * width) :
    (windows width count l).flatten = l := by
  induction count generalizing l with
  | zero =>
    rw [Nat.zero_mul] at h
    rw [List.eq_nil_of_length_eq_zero h]
    rfl
  | succ count ih =>
    rw [Nat.succ_mul] at h
    rw [windows_succ, List.flatten_cons, ih (by rw [List.length_drop]; omega),
      List.take_append_drop]

/-- Every window is full. -/
theorem length_of_mem_windows {width count : ℕ} {l : List α} (h : l.length = count * width)
    {w : List α} (hw : w ∈ windows width count l) : w.length = width := by
  obtain ⟨i, hi, rfl⟩ := List.mem_map.mp hw
  rw [List.mem_range] at hi
  have hle : (i + 1) * width ≤ count * width := Nat.mul_le_mul_right width hi
  rw [Nat.succ_mul] at hle
  rw [List.length_take, List.length_drop]
  omega

/-! ### Around and around -/

/-- So many elements of a list that is read around and around. -/
def cycle (l : List α) (d : α) (n : ℕ) : List α :=
  (List.range n).map fun i => l.getD (i % l.length) d

/-- **It begins with the list itself.** -/
theorem exists_cycle_eq_append {l : List α} (d : α) {n : ℕ} (h : l.length ≤ n) :
    ∃ rest, cycle l d n = l ++ rest := by
  refine ⟨(cycle l d n).drop l.length, ?_⟩
  have htake : (cycle l d n).take l.length = l := by
    refine List.ext_getElem? fun i => ?_
    rw [List.getElem?_take]
    split
    · rename_i hi
      rw [cycle, List.getElem?_map, List.getElem?_range (Nat.lt_of_lt_of_le hi h), Option.map_some,
        Nat.mod_eq_of_lt hi, List.getD_eq_getElem?_getD, List.getElem?_eq_getElem hi,
        Option.getD_some]
    · rename_i hi
      exact (List.getElem?_eq_none (Nat.le_of_not_lt hi)).symm
  conv_lhs => rw [← List.take_append_drop l.length (cycle l d n), htake]

end Interleaving
