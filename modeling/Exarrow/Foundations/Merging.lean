import Mathlib.Data.List.Forall2
import Mathlib.Data.List.Perm.Basic
import Mathlib.Tactic.Common

/-!
# Merging in any order and any grouping

Many values are merged into one by a binary operation. A *plan*
(`Merging.Plan`) says in which order the values come and how the merges are
grouped. `Merging.Laws` asks that, on the values of a kind, the operation is
closed, commutative, associative and idempotent.

The result of a plan is then a least upper bound of its values
(`Merging.Plan.absorbs_eval`, `Merging.Plan.eval_absorbs`), in the order in which
one value is below another that absorbs it. Therefore **plans with the same values
have one result** (`Merging.Plan.eval_eq`), however often each value occurs. The
laws carry over to lists of one length that are merged place by place
(`Merging.Laws.zipWith`).
-/

namespace Merging

variable {α κ : Type} {op : α → α → α} {P : α → Prop}

/-- A way to merge values: a value as it is, or what one plan gives merged with
what another gives. -/
inductive Plan (α : Type) where
  | single (a : α)
  | both (left right : Plan α)

namespace Plan

/-- The values of a plan, in order. -/
def parts : Plan α → List α
  | single a => [a]
  | both left right => left.parts ++ right.parts

/-- The result of a plan. -/
def eval (op : α → α → α) : Plan α → α
  | single a => a
  | both left right => op (left.eval op) (right.eval op)

/-- The plan that merges value after value into the first one. -/
def inOrder (a : α) (rest : List α) : Plan α := rest.foldl (fun p b => both p (single b)) (single a)

theorem eval_foldl (rest : List α) (p : Plan α) :
    (rest.foldl (fun p b => both p (single b)) p).eval op = rest.foldl op (p.eval op) := by
  induction rest generalizing p with
  | nil => rfl
  | cons b rest ih => exact ih (both p (single b))

theorem parts_foldl (rest : List α) (p : Plan α) :
    (rest.foldl (fun p b => both p (single b)) p).parts = p.parts ++ rest := by
  induction rest generalizing p with
  | nil => exact (List.append_nil _).symm
  | cons b rest ih =>
    rw [List.foldl_cons, ih, parts, parts, List.append_assoc, List.singleton_append]

/-- Merging value after value is a left fold. -/
@[simp] theorem eval_inOrder (a : α) (rest : List α) :
    (inOrder a rest).eval op = rest.foldl op a := eval_foldl rest (single a)

@[simp] theorem parts_inOrder (a : α) (rest : List α) : (inOrder a rest).parts = a :: rest :=
  parts_foldl rest (single a)

end Plan

/-- What makes order and grouping irrelevant, on the values of a kind. -/
structure Laws (op : α → α → α) (P : α → Prop) : Prop where
  /-- Merging stays within the kind. -/
  closed : ∀ a b, P a → P b → P (op a b)
  /-- The order of two values does not matter. -/
  comm : ∀ a b, P a → P b → op a b = op b a
  /-- The grouping of three values does not matter. -/
  assoc : ∀ a b c, P a → P b → P c → op (op a b) c = op a (op b c)
  /-- A value merged with itself is itself. -/
  idem : ∀ a, P a → op a a = a

namespace Plan

/-- The result of a plan is of the kind of its values. -/
theorem eval_mem (h : Laws op P) (p : Plan α) (hp : ∀ a ∈ p.parts, P a) : P (p.eval op) := by
  induction p with
  | single a => exact hp a (List.mem_singleton_self a)
  | both left right ihl ihr =>
    refine h.closed _ _ (ihl fun a ha => hp a ?_) (ihr fun a ha => hp a ?_)
    · exact List.mem_append_left _ ha
    · exact List.mem_append_right _ ha

/-- The result of a plan absorbs each of its values. -/
theorem absorbs_eval (h : Laws op P) (p : Plan α) (hp : ∀ a ∈ p.parts, P a) {a : α}
    (ha : a ∈ p.parts) : op a (p.eval op) = p.eval op := by
  induction p with
  | single b =>
    obtain rfl := List.mem_singleton.mp ha
    exact h.idem a (hp a ha)
  | both left right ihl ihr =>
    have hl : ∀ a ∈ left.parts, P a := fun a ha => hp a (List.mem_append_left _ ha)
    have hr : ∀ a ∈ right.parts, P a := fun a ha => hp a (List.mem_append_right _ ha)
    have hL := left.eval_mem h hl
    have hR := right.eval_mem h hr
    rcases List.mem_append.mp ha with ha | ha
    · calc op a (op (left.eval op) (right.eval op))
          = op (op a (left.eval op)) (right.eval op) := (h.assoc _ _ _ (hl a ha) hL hR).symm
        _ = op (left.eval op) (right.eval op) := by rw [ihl hl ha]
    · calc op a (op (left.eval op) (right.eval op))
          = op a (op (right.eval op) (left.eval op)) := by rw [h.comm _ _ hL hR]
        _ = op (op a (right.eval op)) (left.eval op) := (h.assoc _ _ _ (hr a ha) hR hL).symm
        _ = op (right.eval op) (left.eval op) := by rw [ihr hr ha]
        _ = op (left.eval op) (right.eval op) := h.comm _ _ hR hL

/-- Whatever absorbs the values of a plan absorbs its result. -/
theorem eval_absorbs (h : Laws op P) (p : Plan α) (hp : ∀ a ∈ p.parts, P a) {c : α} (hc : P c)
    (ha : ∀ a ∈ p.parts, op a c = c) : op (p.eval op) c = c := by
  induction p with
  | single a => exact ha a (List.mem_singleton_self a)
  | both left right ihl ihr =>
    have hl : ∀ a ∈ left.parts, P a := fun a ha => hp a (List.mem_append_left _ ha)
    have hr : ∀ a ∈ right.parts, P a := fun a ha => hp a (List.mem_append_right _ ha)
    rw [eval, h.assoc _ _ _ (left.eval_mem h hl) (right.eval_mem h hr) hc,
      ihr hr fun a hm => ha a (List.mem_append_right _ hm),
      ihl hl fun a hm => ha a (List.mem_append_left _ hm)]

/-- **Plans with the same values have one result.** -/
theorem eval_eq (h : Laws op P) {p q : Plan α} (hp : ∀ a ∈ p.parts, P a)
    (hpq : ∀ a, a ∈ p.parts ↔ a ∈ q.parts) : p.eval op = q.eval op := by
  have hq : ∀ a ∈ q.parts, P a := fun a ha => hp a ((hpq a).mpr ha)
  have hP := p.eval_mem h hp
  have hQ := q.eval_mem h hq
  have hpq' : op (p.eval op) (q.eval op) = q.eval op :=
    p.eval_absorbs h hp hQ fun a ha => q.absorbs_eval h hq ((hpq a).mp ha)
  have hqp' : op (q.eval op) (p.eval op) = p.eval op :=
    q.eval_absorbs h hq hP fun a ha => p.absorbs_eval h hp ((hpq a).mpr ha)
  rw [← hqp', h.comm _ _ hQ hP, hpq']

end Plan

/-- **The laws place by place**: lists whose places are of given kinds, merged at
each place. -/
theorem Laws.zipWith {P : κ → α → Prop} (h : ∀ k, Laws op (P k)) (ks : List κ) :
    Laws (List.zipWith op) fun l => List.Forall₂ P ks l where
  closed a b ha hb := by
    induction ha generalizing b with
    | nil => exact .nil
    | cons hx _ ih =>
      obtain ⟨y, b, hy, hbs, rfl⟩ := List.forall₂_cons_left_iff.mp hb
      exact .cons ((h _).closed _ _ hx hy) (ih b hbs)
  comm a b ha hb := by
    induction ha generalizing b with
    | nil =>
      obtain rfl := List.forall₂_nil_left_iff.mp hb
      rfl
    | cons hx _ ih =>
      obtain ⟨y, b, hy, hbs, rfl⟩ := List.forall₂_cons_left_iff.mp hb
      rw [List.zipWith_cons_cons, List.zipWith_cons_cons, (h _).comm _ _ hx hy, ih b hbs]
  assoc a b c ha hb hc := by
    induction ha generalizing b c with
    | nil => rfl
    | cons hx _ ih =>
      obtain ⟨y, b, hy, hbs, rfl⟩ := List.forall₂_cons_left_iff.mp hb
      obtain ⟨z, c, hz, hcs, rfl⟩ := List.forall₂_cons_left_iff.mp hc
      simp only [List.zipWith_cons_cons]
      rw [(h _).assoc _ _ _ hx hy hz, ih b c hbs hcs]
  idem a ha := by
    induction ha with
    | nil => rfl
    | cons hx _ ih => rw [List.zipWith_cons_cons, (h _).idem _ hx, ih]

end Merging
