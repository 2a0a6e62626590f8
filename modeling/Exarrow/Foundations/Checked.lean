import Exarrow.Foundations.Machine
import Mathlib.Data.List.Forall2

/-!
# Computations that may fail or stop

Machine arithmetic as a program meets it. A computation returns a value, returns
an error to its caller, or stops the program (`Checked.Exec`). What an operation
on fixed-width integers does when its result does not fit is a choice of the
build: it stops the program, or it drops the high bits (`Checked.Overflow`).
Every operation goes through `Checked.fit`, so that a program says once, for
each operation it performs, where a result could leave its type.

`Checked.Yields` is the form in which such programs are verified: the computation
returns a machine integer with the given number, whatever the choice of the
build. The rules `Checked.yields_fit` and `Checked.Yields.bind` follow the
program.
-/

namespace Checked

open Machine

/-- How a computation can fail: with an error for its caller, or by stopping the
program. -/
inductive Fault (ε : Type) where
  /-- An error value is returned. -/
  | error (e : ε)
  /-- The program stops. -/
  | panic
  deriving DecidableEq

/-- A computation with errors `ε` that may also stop. -/
abbrev Exec (ε α : Type) : Type := Except (Fault ε) α

/-- What an arithmetic operation does when its result does not fit. -/
inductive Overflow where
  /-- It stops the program. -/
  | panics
  /-- It drops the high bits. -/
  | wraps
  deriving DecidableEq

variable {ε δ α β : Type}

/-- Return an error to the caller. -/
def fail (e : ε) : Exec ε α := .error (.error e)

/-- Stop the program. -/
def stop : Exec ε α := .error .panic

/-- An optional value, or else an error. -/
def orFail (e : ε) : Option α → Exec ε α
  | some a => .ok a
  | none => fail e

/-- Translate the errors that are returned. -/
def mapError (f : ε → δ) : Exec ε α → Exec δ α
  | .ok a => .ok a
  | .error (.error e) => .error (.error (f e))
  | .error .panic => .error .panic

/-- A result whose errors are returned. -/
def ofExcept : Except ε α → Exec ε α
  | .ok a => .ok a
  | .error e => fail e

/-- The value of a computation, none if it returns an error. -/
def attempt : Exec ε α → Exec δ (Option α)
  | .ok a => .ok (some a)
  | .error (.error _) => .ok none
  | .error .panic => stop

@[simp] theorem orFail_some (e : ε) (a : α) : orFail e (some a) = .ok a := rfl

@[simp] theorem orFail_none (e : ε) : (orFail e none : Exec ε α) = fail e := rfl

@[simp] theorem mapError_ok (f : ε → δ) (a : α) : mapError f (.ok a) = .ok a := rfl

@[simp] theorem ok_bind (a : α) (f : α → Exec ε β) : ((.ok a : Exec ε α) >>= f) = f a := rfl

@[simp] theorem fail_bind (e : ε) (f : α → Exec ε β) : ((fail e : Exec ε α) >>= f) = fail e := rfl

theorem mapError_eq_ok {f : ε → δ} {x : Exec ε α} {a : α} : mapError f x = .ok a ↔ x = .ok a := by
  rcases x with (_ | _) | _ <;> simp [mapError]

theorem mapError_eq_fail {f : ε → δ} {x : Exec ε α} {d : δ} :
    mapError f x = fail d ↔ ∃ e, x = fail e ∧ d = f e := by
  rcases x with (e | _) | a
  · constructor
    · intro h
      exact ⟨e, rfl, (Fault.error.inj (Except.error.inj h)).symm⟩
    · rintro ⟨e', h, rfl⟩
      cases h
      rfl
  · exact ⟨fun h => (nomatch h), fun ⟨_, h, _⟩ => (nomatch h)⟩
  · exact ⟨fun h => (nomatch h), fun ⟨_, h, _⟩ => (nomatch h)⟩

theorem mapError_ne_stop {f : ε → δ} {x : Exec ε α} : mapError f x ≠ stop ↔ x ≠ stop := by
  rcases x with (e | _) | a
  · exact iff_of_true nofun nofun
  · exact iff_of_false (fun h => h rfl) (fun h => h rfl)
  · exact iff_of_true nofun nofun

theorem orFail_eq_ok {e : ε} {o : Option α} {a : α} : orFail e o = .ok a ↔ o = some a := by
  cases o <;> simp [orFail, fail]

theorem ofExcept_eq_ok {x : Except ε α} {a : α} : ofExcept x = .ok a ↔ x = .ok a := by
  cases x <;> simp [ofExcept, fail]

/-- A sequence succeeds exactly when both of its parts do. -/
theorem bind_eq_ok {x : Except ε α} {f : α → Except ε β} {b : β} :
    x >>= f = .ok b ↔ ∃ a, x = .ok a ∧ f a = .ok b := by
  cases x with
  | error e => exact ⟨fun h => (nomatch h), fun ⟨_, h, _⟩ => (nomatch h)⟩
  | ok a => exact ⟨fun h => ⟨a, rfl, h⟩, fun ⟨_, h, hf⟩ => Except.ok.inj h ▸ hf⟩

/-- A sequence stops exactly when one of its parts does. -/
theorem bind_eq_stop {x : Exec ε α} {f : α → Exec ε β} :
    x >>= f = stop ↔ x = stop ∨ ∃ a, x = .ok a ∧ f a = stop := by
  rcases x with (e | _) | a
  · exact ⟨fun h => (nomatch h), fun h => h.elim (fun h => (nomatch h)) fun ⟨_, h, _⟩ => (nomatch h)⟩
  · exact ⟨fun _ => .inl rfl, fun _ => rfl⟩
  · exact ⟨fun h => .inr ⟨a, rfl, h⟩, fun h => h.elim (fun h => (nomatch h))
      fun ⟨_, h, hf⟩ => Except.ok.inj h ▸ hf⟩

/-- Whether a computation stops, to be evaluated. -/
def stops : Exec ε α → Bool
  | .error .panic => true
  | _ => false

theorem eq_stop_of_stops {x : Exec ε α} (h : stops x = true) : x = stop := by
  cases x with
  | ok a => cases h
  | error fault =>
    cases fault with
    | error e => cases h
    | panic => rfl

/-- A missing value is an error, and what follows may stop. -/
theorem orFail_bind_eq_stop {e : ε} {o : Option α} {f : α → Exec ε β} :
    orFail e o >>= f = stop ↔ ∃ a, o = some a ∧ f a = stop := by
  cases o with
  | none => exact ⟨fun h => (nomatch h), fun ⟨_, h, _⟩ => (nomatch h)⟩
  | some a => exact ⟨fun h => ⟨a, rfl, h⟩, fun ⟨_, h, hf⟩ => Option.some.inj h ▸ hf⟩

theorem orFail_ne_stop {e : ε} {o : Option α} : orFail e o ≠ stop := by
  cases o <;> exact nofun

/-- A list is traversed with success exactly when every element is. -/
theorem mapM_eq_ok {γ : Type} {f : α → Except γ β} {xs : List α} {ys : List β} :
    xs.mapM f = .ok ys ↔ List.Forall₂ (fun x y => f x = .ok y) xs ys := by
  induction xs generalizing ys with
  | nil =>
    rw [List.mapM_nil, List.forall₂_nil_left_iff]
    exact ⟨fun h => (Except.ok.inj h).symm, fun h => congrArg Except.ok h.symm⟩
  | cons x xs ih =>
    rw [List.mapM_cons, List.forall₂_cons_left_iff]
    constructor
    · intro h
      cases hx : f x with
      | error e => rw [hx] at h; cases h
      | ok y =>
        cases hxs : xs.mapM f with
        | error e => rw [hx, hxs] at h; cases h
        | ok zs =>
          rw [hx, hxs] at h
          exact ⟨y, zs, rfl, ih.mp hxs, (Except.ok.inj h).symm⟩
    · rintro ⟨y, zs, hx, hzs, rfl⟩
      rw [hx, ih.mpr hzs]
      rfl

/-- **A list is traversed up to the first element that fails.** -/
theorem mapM_eq_error {γ : Type} {f : α → Except γ β} {xs : List α} {e : γ} :
    xs.mapM f = .error e ↔ ∃ before x after, xs = before ++ x :: after ∧
      (∀ y ∈ before, ∃ b, f y = .ok b) ∧ f x = .error e := by
  induction xs with
  | nil =>
    refine ⟨fun h => (nomatch h), ?_⟩
    rintro ⟨before, x, after, h, -⟩
    exact absurd h (by simp)
  | cons x xs ih =>
    rw [List.mapM_cons]
    constructor
    · intro h
      cases hx : f x with
      | error e' =>
        rw [hx] at h
        cases h
        exact ⟨[], x, xs, rfl, fun y hy => absurd hy List.not_mem_nil, hx⟩
      | ok b =>
        cases hxs : xs.mapM f with
        | ok bs =>
          rw [hx, hxs] at h
          cases h
        | error e' =>
          rw [hx, hxs] at h
          cases h
          obtain ⟨before, y, after, rfl, hbefore, hy⟩ := ih.mp hxs
          refine ⟨x :: before, y, after, rfl, fun z hz => ?_, hy⟩
          obtain rfl | hz := List.mem_cons.mp hz
          · exact ⟨b, hx⟩
          · exact hbefore z hz
    · rintro ⟨_ | ⟨z, before⟩, y, after, h, hbefore, hy⟩
      · cases h
        rw [hy]
        rfl
      · cases h
        obtain ⟨b, hb⟩ := hbefore x (List.mem_cons_self ..)
        rw [hb, ih.mpr ⟨before, y, after, rfl, fun w hw => hbefore w (List.mem_cons_of_mem x hw), hy⟩]
        rfl

/-- Every value of a list of results comes from an element. -/
theorem exists_of_mem_mapM {γ : Type} {f : α → Except γ β} {xs : List α} {ys : List β}
    (h : xs.mapM f = .ok ys) {y : β} (hy : y ∈ ys) : ∃ x ∈ xs, f x = .ok y := by
  have h2 := mapM_eq_ok.mp h
  obtain ⟨i, hi, rfl⟩ := List.getElem_of_mem hy
  have hi' : i < xs.length := h2.length_eq ▸ hi
  exact ⟨xs[i], List.getElem_mem hi', (List.forall₂_iff_get.mp h2).2 i hi' hi⟩

/-- **A list is traversed to results that are related to it** exactly when every element
has such a result. -/
theorem exists_mapM_iff {γ : Type} {f : α → Except γ β} {P : α → β → Prop} {xs : List α} :
    (∃ ys, xs.mapM f = .ok ys ∧ List.Forall₂ P xs ys) ↔ ∀ x ∈ xs, ∃ y, f x = .ok y ∧ P x y := by
  induction xs with
  | nil => exact ⟨fun _ => List.forall_mem_nil _, fun _ => ⟨[], rfl, .nil⟩⟩
  | cons x xs ih =>
    rw [List.forall_mem_cons, ← ih]
    constructor
    · rintro ⟨ys, hok, hP⟩
      obtain ⟨y, ys, hy, hys, rfl⟩ := List.forall₂_cons_left_iff.mp (mapM_eq_ok.mp hok)
      obtain ⟨hp, hps⟩ := List.forall₂_cons.mp hP
      exact ⟨⟨y, hy, hp⟩, ys, mapM_eq_ok.mpr hys, hps⟩
    · rintro ⟨⟨y, hy, hp⟩, ys, hys, hps⟩
      exact ⟨y :: ys, mapM_eq_ok.mpr (.cons hy (mapM_eq_ok.mp hys)), .cons hp hps⟩

/-- A traversal depends on what is computed from the elements. -/
theorem mapM_congr {γ : Type} {f g : α → Except γ β} {xs : List α} (h : ∀ x ∈ xs, f x = g x) :
    xs.mapM f = xs.mapM g := by
  induction xs with
  | nil => rfl
  | cons x xs ih =>
    rw [List.mapM_cons, List.mapM_cons, h x List.mem_cons_self,
      ih fun y hy => h y (List.mem_cons_of_mem x hy)]

/-! ### Arithmetic -/

section Arithmetic

variable {w : ℕ} [NeZero w] (ov : Overflow)

/-- The result of an operation, brought into its type. -/
def fit (x : ℤ) : Exec ε (SInt w) :=
  match SInt.ofInt? w x, ov with
  | some a, _ => .ok a
  | none, .panics => stop
  | none, .wraps => .ok (SInt.wrap w (NeZero.pos w) x)

/-- What the result of an operation can be. -/
theorem fit_eq_ok {ov : Overflow} {x : ℤ} {a : SInt w} (h : (fit ov x : Exec ε (SInt w)) = .ok a) :
    a.val = x ∨ (¬(-2 ^ (w - 1) ≤ x ∧ x < 2 ^ (w - 1)) ∧ ov = .wraps ∧
      a.val = x.bmod (2 ^ w)) := by
  unfold fit at h
  split at h
  · rename_i b hb
    cases h
    exact .inl (SInt.ofInt?_eq_some.mp hb)
  · cases h
  · rename_i hnone
    cases h
    exact .inr ⟨SInt.ofInt?_eq_none.mp hnone, rfl, SInt.val_wrap ..⟩

/-- Whatever the choice of the build, a result is the true one up to the high bits. -/
theorem val_of_fit {ov : Overflow} {x : ℤ} {a : SInt w}
    (h : (fit ov x : Exec ε (SInt w)) = .ok a) : a.val = x.bmod (2 ^ w) := by
  rcases fit_eq_ok h with hv | ⟨-, -, hv⟩
  · rw [← hv]
    exact (SInt.bmod_eq_self (NeZero.pos w) a.ge a.lt).symm
  · exact hv

/-- Addition. -/
def add (a b : SInt w) : Exec ε (SInt w) := fit ov (a.val + b.val)

/-- Subtraction. -/
def sub (a b : SInt w) : Exec ε (SInt w) := fit ov (a.val - b.val)

/-- Multiplication. -/
def mul (a b : SInt w) : Exec ε (SInt w) := fit ov (a.val * b.val)

/-- Negation. -/
def neg (a : SInt w) : Exec ε (SInt w) := fit ov (-a.val)

end Arithmetic

/-- Multiplication that reports whether the result fits. -/
def checkedMul {w : ℕ} (a b : SInt w) : Option (SInt w) := SInt.ofInt? w (a.val * b.val)

/-- Addition that reports whether the result fits. -/
def checkedAdd {w : ℕ} (a b : SInt w) : Option (SInt w) := SInt.ofInt? w (a.val + b.val)

/-- Subtraction that reports whether the result fits. -/
def checkedSub {w : ℕ} (a b : SInt w) : Option (SInt w) := SInt.ofInt? w (a.val - b.val)

instance neZero_8 : NeZero 8 := ⟨by decide⟩
instance neZero_16 : NeZero 16 := ⟨by decide⟩
instance neZero_32 : NeZero 32 := ⟨by decide⟩
instance neZero_64 : NeZero 64 := ⟨by decide⟩
instance neZero_128 : NeZero 128 := ⟨by decide⟩

/-- A literal of a machine integer type; it is written only where it fits. -/
instance (w n : ℕ) [NeZero w] : OfNat (SInt w) n := ⟨SInt.wrap w (NeZero.pos w) n⟩

theorem val_ofNat {w n : ℕ} [NeZero w] (h : (n : ℤ) < 2 ^ (w - 1)) :
    (OfNat.ofNat n : SInt w).val = n :=
  SInt.bmod_eq_self (NeZero.pos w) (le_trans (neg_nonpos.mpr (by positivity)) (by positivity)) h

/-! ### What a computation yields -/

/-- The computation returns a machine integer with the given number. -/
def Yields {w : ℕ} (x : Exec ε (SInt w)) (n : ℤ) : Prop := ∃ a, x = .ok a ∧ a.val = n

section Yields

variable {w v : ℕ} {ov : Overflow}

theorem yields_ok {a : SInt w} {n : ℤ} (h : a.val = n) : Yields (.ok a : Exec ε (SInt w)) n :=
  ⟨a, rfl, h⟩

/-- An operation whose result fits yields it. -/
theorem yields_fit [NeZero w] {x : ℤ} (h1 : -2 ^ (w - 1) ≤ x) (h2 : x < 2 ^ (w - 1)) :
    Yields (fit ov x : Exec ε (SInt w)) x := by
  have h : SInt.ofInt? w x = some ⟨x, h1, h2⟩ := SInt.ofInt?_eq_some.mpr rfl
  refine ⟨⟨x, h1, h2⟩, ?_, rfl⟩
  simp only [fit, h]

theorem yields_add [NeZero w] {a b : SInt w} {n m : ℤ} (ha : a.val = n) (hb : b.val = m)
    (h1 : -2 ^ (w - 1) ≤ n + m) (h2 : n + m < 2 ^ (w - 1)) :
    Yields (add ov a b : Exec ε (SInt w)) (n + m) := by
  rw [add, ha, hb]
  exact yields_fit h1 h2

theorem yields_sub [NeZero w] {a b : SInt w} {n m : ℤ} (ha : a.val = n) (hb : b.val = m)
    (h1 : -2 ^ (w - 1) ≤ n - m) (h2 : n - m < 2 ^ (w - 1)) :
    Yields (sub ov a b : Exec ε (SInt w)) (n - m) := by
  rw [sub, ha, hb]
  exact yields_fit h1 h2

theorem yields_mul [NeZero w] {a b : SInt w} {n m : ℤ} (ha : a.val = n) (hb : b.val = m)
    (h1 : -2 ^ (w - 1) ≤ n * m) (h2 : n * m < 2 ^ (w - 1)) :
    Yields (mul ov a b : Exec ε (SInt w)) (n * m) := by
  rw [mul, ha, hb]
  exact yields_fit h1 h2

/-- What a sequence yields. -/
theorem Yields.bind {x : Exec ε (SInt w)} {f : SInt w → Exec ε (SInt v)} {n m : ℤ}
    (hx : Yields x n) (hf : ∀ a : SInt w, a.val = n → Yields (f a) m) : Yields (x >>= f) m := by
  obtain ⟨a, rfl, ha⟩ := hx
  exact hf a ha

/-- A computation that yields the number of a machine integer returns that
integer. -/
theorem Yields.eq_ok {x : Exec ε (SInt w)} {a : SInt w} (h : Yields x a.val) : x = .ok a := by
  obtain ⟨b, rfl, hb⟩ := h
  rw [SInt.ext hb]

end Yields

/-! ### The choice of the build -/

section Builds

variable {w : ℕ} [NeZero w]

/-- A computation stops, or it does what another one does. -/
def StopsOr (x y : Exec ε α) : Prop := x = stop ∨ x = y

theorem StopsOr.refl (x : Exec ε α) : StopsOr x x := .inr rfl

/-- An operation stops in one build, or does in it what it does in the other. -/
theorem stopsOr_fit (x : ℤ) : StopsOr (fit .panics x : Exec ε (SInt w)) (fit .wraps x) := by
  unfold fit
  cases SInt.ofInt? w x with
  | some a => exact .refl _
  | none => exact .inl rfl

theorem StopsOr.bind {x y : Exec ε α} {f g : α → Exec ε β} (h : StopsOr x y)
    (hf : ∀ a, StopsOr (f a) (g a)) : StopsOr (x >>= f) (y >>= g) := by
  rcases h with rfl | rfl
  · exact .inl rfl
  · cases x with
    | error e => exact .inr rfl
    | ok a => exact hf a

/-- **A computation without faults**: it does not stop in any build, and what it returns where
high bits would be dropped is what it returns where they would stop it, so that none were. -/
structure Faultless (f : Overflow → Exec ε α) : Prop where
  /-- It does not stop. -/
  returns : ∀ ov, f ov ≠ stop
  /-- Its result is the true one. -/
  exact : ∀ a, f .wraps = .ok a → f .panics = .ok a

/-- Whether a computation is without faults is seen in the build that stops. -/
theorem faultless_iff {f : Overflow → Exec ε α} (h : StopsOr (f .panics) (f .wraps)) :
    Faultless f ↔ f .panics ≠ stop := by
  refine ⟨fun hf => hf.returns .panics, fun hne => ?_⟩
  have heq : f .panics = f .wraps := h.resolve_left hne
  refine ⟨fun ov => ?_, fun a ha => heq.trans ha⟩
  cases ov with
  | panics => exact hne
  | wraps => exact heq ▸ hne

theorem bind_ne_stop {x : Exec ε α} {f : α → Exec ε β} :
    x >>= f ≠ stop ↔ x ≠ stop ∧ ∀ a, x = .ok a → f a ≠ stop := by
  rw [ne_eq, bind_eq_stop, not_or, not_exists]
  simp only [not_and, ne_eq]

theorem orFail_bind_ne_stop {e : ε} {o : Option α} {f : α → Exec ε β} :
    orFail e o >>= f ≠ stop ↔ ∀ a, o = some a → f a ≠ stop := by
  rw [ne_eq, orFail_bind_eq_stop, not_exists]
  simp only [not_and, ne_eq]

/-- Where an operation stops. -/
theorem fit_panics_ne_stop {x : ℤ} :
    (fit .panics x : Exec ε (SInt w)) ≠ stop ↔ SInt.Fits w x := by
  unfold fit
  cases h : SInt.ofInt? w x with
  | some a => exact ⟨fun _ => SInt.ofInt?_eq_some.mp h ▸ ⟨a.ge, a.lt⟩, fun _ => nofun⟩
  | none => exact ⟨fun hne => absurd rfl hne, fun hfits => absurd hfits (SInt.ofInt?_eq_none.mp h)⟩

theorem fit_panics_eq_ok {x : ℤ} {a : SInt w} :
    (fit .panics x : Exec ε (SInt w)) = .ok a ↔ a.val = x := by
  constructor
  · intro h
    rcases fit_eq_ok h with hv | ⟨-, hov, -⟩
    · exact hv
    · cases hov
  · rintro rfl
    exact Yields.eq_ok (yields_fit a.ge a.lt)

/-- **What comes after an operation** in the build that stops: a property that stopping does
not have is one of a result that fits, and of what is made of it. -/
theorem fit_panics_bind_iff {P : Exec ε β → Prop} (hstop : ¬P stop) {x : ℤ}
    {f : SInt w → Exec ε β} :
    P (fit .panics x >>= f) ↔ SInt.Fits w x ∧ ∀ a : SInt w, a.val = x → P (f a) := by
  constructor
  · intro h
    have hfits : SInt.Fits w x := by
      by_contra hnot
      rw [not_ne_iff.mp fun hne => hnot (fit_panics_ne_stop.mp hne)] at h
      exact hstop h
    refine ⟨hfits, fun a ha => ?_⟩
    rw [fit_panics_eq_ok.mpr ha] at h
    exact h
  · rintro ⟨hfits, h⟩
    obtain ⟨a, ha, hval⟩ := @yields_fit ε w .panics _ x hfits.1 hfits.2
    rw [ha]
    exact h a hval

theorem fit_panics_bind_ne_stop {x : ℤ} {f : SInt w → Exec ε β} :
    (fit .panics x : Exec ε (SInt w)) >>= f ≠ stop ↔
      SInt.Fits w x ∧ ∀ a : SInt w, a.val = x → f a ≠ stop :=
  @fit_panics_bind_iff ε β w _ (· ≠ stop) (fun h => h rfl) x f

/-- Where nothing is checked, there always is a result. -/
theorem exists_fit_wraps (x : ℤ) : ∃ a, (fit .wraps x : Exec ε (SInt w)) = .ok a := by
  unfold fit
  cases SInt.ofInt? w x with
  | some a => exact ⟨a, rfl⟩
  | none => exact ⟨_, rfl⟩

/-- A product with a factor that was brought into its type is the true one up to the high
bits. -/
theorem val_of_mul_fit {ov : Overflow} {y : ℤ} {i power product : SInt w}
    (hp : (fit ov y : Exec ε (SInt w)) = .ok power)
    (hm : (mul ov i power : Exec ε (SInt w)) = .ok product) :
    product.val = (i.val * y).bmod (2 ^ w) := by
  rw [val_of_fit hm, val_of_fit hp, Int.mul_bmod_bmod]

/-- **When a product is the true one**: it fits, and so does the factor where this is
checked. -/
theorem yields_mul_fit_iff {ov : Overflow} {y : ℤ} {i : SInt w} :
    Yields (fit ov y >>= fun power => mul ov i power : Exec ε (SInt w)) (i.val * y) ↔
      SInt.Fits w (i.val * y) ∧ (ov = .panics → SInt.Fits w y) := by
  constructor
  · rintro ⟨product, h, hval⟩
    obtain ⟨power, hp, hm⟩ := bind_eq_ok.mp h
    refine ⟨hval ▸ ⟨product.ge, product.lt⟩, ?_⟩
    rintro rfl
    have hpower := fit_panics_eq_ok.mp hp
    exact hpower ▸ ⟨power.ge, power.lt⟩
  · rintro ⟨hfits, hchecked⟩
    cases ov with
    | panics =>
      obtain ⟨power, hp, hval⟩ := @yields_fit ε w .panics _ y (hchecked rfl).1 (hchecked rfl).2
      rw [hp]
      exact yields_mul rfl hval hfits.1 hfits.2
    | wraps =>
      obtain ⟨power, hp⟩ := @exists_fit_wraps ε w _ y
      obtain ⟨product, hm⟩ := @exists_fit_wraps ε w _ (i.val * power.val)
      refine ⟨product, by rw [hp]; exact hm, ?_⟩
      rw [val_of_mul_fit hp hm]
      exact SInt.bmod_eq_self (NeZero.pos w) hfits.1 hfits.2

end Builds

end Checked
