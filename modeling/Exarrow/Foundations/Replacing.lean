import Mathlib.Data.List.Infix
import Mathlib.Data.List.Lemmas
import Mathlib.Tactic.Common

/-!
# Replacing every occurrence

Every occurrence of a pattern in a list is replaced, from left to right
(`Replacing.replaceAll`). An element that is not in the pattern parts the list into pieces that are
replaced on their own (`Replacing.replaceAll_append_cons`), and **with a longer replacement a list
stays as it is exactly if the pattern does not occur in it**
(`Replacing.replaceAll_eq_self_iff`).
-/

namespace Replacing

variable {α : Type} [DecidableEq α]

/-- Replace the occurrences behind some elements that belong to the last one. -/
def replaceFrom (pattern new : List α) : ℕ → List α → List α
  | _, [] => []
  | 0, a :: s =>
    if pattern.isPrefixOf (a :: s) then new ++ replaceFrom pattern new (pattern.length - 1) s
    else a :: replaceFrom pattern new 0 s
  | skip + 1, _ :: s => replaceFrom pattern new skip s

/-- **Replace every occurrence.** -/
def replaceAll (pattern new s : List α) : List α := replaceFrom pattern new 0 s

variable {pattern new : List α}

@[simp] theorem replaceAll_nil : replaceAll pattern new [] = [] := rfl

theorem replaceFrom_drop (skip : ℕ) (s : List α) :
    replaceFrom pattern new skip s = replaceAll pattern new (s.drop skip) := by
  induction skip generalizing s with
  | zero => rfl
  | succ skip ih =>
    cases s with
    | nil => rfl
    | cons a s => exact ih s

/-- An occurrence is replaced. -/
theorem replaceAll_append (hne : pattern ≠ []) (s : List α) :
    replaceAll pattern new (pattern ++ s) = new ++ replaceAll pattern new s := by
  obtain ⟨a, rest, rfl⟩ := List.exists_cons_of_ne_nil hne
  have hstart : (a :: rest).isPrefixOf (a :: (rest ++ s)) = true :=
    List.isPrefixOf_iff_prefix.mpr (List.prefix_append (a :: rest) s)
  rw [List.cons_append, replaceAll, replaceFrom, if_pos hstart, replaceFrom_drop]
  simp

/-- Where no occurrence begins, an element stays. -/
theorem replaceAll_cons {a : α} {s : List α} (h : ¬pattern <+: a :: s) :
    replaceAll pattern new (a :: s) = a :: replaceAll pattern new s := by
  rw [replaceAll, replaceFrom, if_neg fun hstart => h (List.isPrefixOf_iff_prefix.mp hstart)]
  rfl

/-- **A list begins with an occurrence or with an element that stays.** -/
theorem replaceAll_induction {motive : List α → Prop} (hne : pattern ≠ []) (nil : motive [])
    (occurrence : ∀ s, motive s → motive (pattern ++ s))
    (stay : ∀ a s, ¬pattern <+: a :: s → motive s → motive (a :: s)) (s : List α) : motive s := by
  induction hlength : s.length using Nat.strong_induction_on generalizing s with
  | _ n ih =>
    cases s with
    | nil => exact nil
    | cons a s =>
      by_cases h : pattern <+: a :: s
      · obtain ⟨rest, hrest⟩ := h
        have hpos := List.length_pos_of_ne_nil hne
        have hshort : rest.length < n := by
          rw [← hlength, ← hrest, List.length_append]
          omega
        rw [← hrest]
        exact occurrence rest (ih _ hshort rest rfl)
      · have hshort : s.length < n := by
          rw [← hlength, List.length_cons]
          omega
        exact stay a s h (ih _ hshort s rfl)

omit [DecidableEq α] in
/-- An occurrence ends before an element that is not in the pattern. -/
theorem prefix_append_cons_iff {a : α} (ha : a ∉ pattern) (s t : List α) :
    pattern <+: s ++ a :: t ↔ pattern <+: s := by
  refine ⟨fun h => ?_, fun h => h.trans (List.prefix_append s _)⟩
  rcases Nat.lt_or_ge s.length pattern.length with hlt | hge
  · -- a longer pattern would hold the element
    have hpiece : s ++ [a] <+: s ++ a :: t := ⟨t, by simp⟩
    have hle : (s ++ [a]).length ≤ pattern.length := by
      rw [List.length_append, List.length_singleton]
      exact hlt
    have hmem : a ∈ s ++ [a] := List.mem_append_right _ (List.mem_singleton_self a)
    exact absurd ((List.prefix_of_prefix_length_le hpiece h hle).subset hmem) ha
  · exact List.prefix_of_prefix_length_le h (List.prefix_append s _) hge

/-- **An element that is not in the pattern parts the list.** -/
theorem replaceAll_append_cons (hne : pattern ≠ []) {a : α} (ha : a ∉ pattern) (s t : List α) :
    replaceAll pattern new (s ++ a :: t) =
      replaceAll pattern new s ++ a :: replaceAll pattern new t := by
  induction s using replaceAll_induction hne with
  | nil =>
    refine replaceAll_cons fun h => hne ?_
    exact List.prefix_nil.mp ((prefix_append_cons_iff ha [] t).mp h)
  | occurrence s ih =>
    rw [List.append_assoc, replaceAll_append hne, replaceAll_append hne, ih, List.append_assoc]
  | stay b s h ih =>
    have hstay : ¬pattern <+: b :: (s ++ a :: t) := fun hstart =>
      h ((prefix_append_cons_iff ha (b :: s) t).mp hstart)
    rw [List.cons_append, replaceAll_cons hstay, replaceAll_cons h, ih, List.cons_append]

/-- What a list holds behind the replacement. -/
theorem mem_replaceAll (hne : pattern ≠ []) {s : List α} {a : α}
    (h : a ∈ replaceAll pattern new s) : a ∈ new ∨ a ∈ s := by
  induction s using replaceAll_induction hne with
  | nil => exact .inr h
  | occurrence s ih =>
    rw [replaceAll_append hne] at h
    rcases List.mem_append.mp h with h | h
    · exact .inl h
    · exact (ih h).imp_right (List.mem_append_right pattern)
  | stay b s hno ih =>
    rw [replaceAll_cons hno] at h
    rcases List.mem_cons.mp h with rfl | h
    · exact .inr List.mem_cons_self
    · exact (ih h).imp_right (List.mem_cons_of_mem b)

/-- Without an occurrence nothing changes. -/
theorem replaceAll_of_not_infix {s : List α} (h : ¬pattern <:+: s) :
    replaceAll pattern new s = s := by
  induction s with
  | nil => rfl
  | cons a s ih =>
    rw [replaceAll_cons fun hstart => h hstart.isInfix,
      ih fun hinside => h (hinside.trans (List.suffix_cons a s).isInfix)]

section Longer

variable (hne : pattern ≠ []) (hlonger : pattern.length < new.length)

include hne hlonger

theorem length_le_replaceAll (s : List α) : s.length ≤ (replaceAll pattern new s).length := by
  induction s using replaceAll_induction hne with
  | nil => exact le_rfl
  | occurrence s ih =>
    rw [replaceAll_append hne, List.length_append, List.length_append]
    omega
  | stay a s h ih =>
    rw [replaceAll_cons h, List.length_cons, List.length_cons]
    omega

/-- **With a longer replacement nothing changes exactly without an occurrence.** -/
theorem replaceAll_eq_self_iff (s : List α) :
    replaceAll pattern new s = s ↔ ¬pattern <:+: s := by
  refine ⟨fun h => ?_, replaceAll_of_not_infix⟩
  induction s using replaceAll_induction hne with
  | nil =>
    intro hinside
    exact hne (List.infix_nil.mp hinside)
  | occurrence s ih =>
    have hle := @length_le_replaceAll _ _ pattern new hne hlonger s
    have hlength := congrArg List.length h
    rw [replaceAll_append hne, List.length_append, List.length_append] at hlength
    omega
  | stay a s hno ih =>
    rw [replaceAll_cons hno] at h
    intro hinside
    rcases List.infix_cons_iff.mp hinside with hstart | hrest
    · exact hno hstart
    · exact ih (List.cons.inj h).2 hrest

end Longer

end Replacing
