import Mathlib.Algebra.Order.Ring.Int
import Mathlib.Data.List.Basic
import Mathlib.Tactic.Common

/-!
# The proleptic Gregorian calendar

Civil dates of every year, and their number counted in days from 1970-01-01.

A date carries the proof that it exists (`Calendar.Date`), so that there is no
30th of February to speak of. `Calendar.Date.dayNumber` counts, and
`Calendar.ofDayNumber` finds the date of a number; the two are inverse to each
other (`Calendar.dayNumber_ofDayNumber`, `Calendar.ofDayNumber_dayNumber`). That
the numbers are the right ones follows from `Calendar.dayNumber_epoch` and
`Calendar.dayNumber_next`: the epoch has number zero, and the next day has the
next number. Later dates have larger numbers (`Calendar.dayNumber_lt`).
-/

namespace Calendar

/-! ### Years and months -/

/-- A leap year. -/
def isLeap (y : ℤ) : Bool := y % 4 = 0 && (y % 100 ≠ 0 || y % 400 = 0)

/-- The number of days of a month, in a leap year or not. -/
def daysInMonth (leap : Bool) : ℕ → ℕ
  | 2 => if leap then 29 else 28
  | 4 | 6 | 9 | 11 => 30
  | _ => 31

/-- The number of days of the months before a month. -/
def daysBeforeMonth (leap : Bool) (m : ℕ) : ℕ :=
  ((List.range (m - 1)).map fun k => daysInMonth leap (k + 1)).sum

/-- The number of days of the years before a year, counted from the year 1. -/
def daysBeforeYear (y : ℤ) : ℤ :=
  365 * (y - 1) + (y - 1) / 4 - (y - 1) / 100 + (y - 1) / 400

/-- The number of days of a year. -/
def daysInYear (leap : Bool) : ℕ := if leap then 366 else 365

theorem daysBeforeYear_succ (y : ℤ) :
    daysBeforeYear (y + 1) = daysBeforeYear y + daysInYear (isLeap y) := by
  unfold daysBeforeYear daysInYear isLeap
  by_cases h4 : y % 4 = 0 <;> by_cases h100 : y % 100 = 0 <;> by_cases h400 : y % 400 = 0 <;>
    simp [h4, h100, h400] <;> omega

/-! ### Dates and their numbers -/

/-- A date that exists. -/
@[ext] structure Date where
  /-- The year, of either sign. -/
  year : ℤ
  /-- The month, from 1. -/
  month : ℕ
  /-- The day of the month, from 1. -/
  day : ℕ
  /-- The month exists. -/
  month_mem : 1 ≤ month ∧ month ≤ 12
  /-- The day exists in its month. -/
  day_mem : 1 ≤ day ∧ day ≤ daysInMonth (isLeap year) month
  deriving DecidableEq

/-- The number of the day within its year, from zero. -/
def Date.dayOfYear (d : Date) : ℕ := daysBeforeMonth (isLeap d.year) d.month + (d.day - 1)

/-- **The number of a date**: days from 1970-01-01, negative before. -/
def Date.dayNumber (d : Date) : ℤ := daysBeforeYear d.year + d.dayOfYear - 719162

theorem daysBeforeMonth_succ (leap : Bool) {m : ℕ} (h : 1 ≤ m) :
    daysBeforeMonth leap (m + 1) = daysBeforeMonth leap m + daysInMonth leap m := by
  obtain ⟨k, rfl⟩ := Nat.exists_eq_add_of_le' h
  rw [daysBeforeMonth, daysBeforeMonth, Nat.add_sub_cancel, Nat.add_sub_cancel, List.range_succ,
    List.map_append, List.sum_append, List.map_singleton, List.sum_singleton]

theorem daysBeforeMonth_monotone (leap : Bool) :
    Monotone fun k => daysBeforeMonth leap (k + 1) :=
  monotone_nat_of_le_succ fun k =>
    (daysBeforeMonth_succ leap (Nat.le_add_left 1 k)).symm ▸ Nat.le_add_right ..

theorem daysBeforeMonth_thirteen : ∀ leap : Bool, daysBeforeMonth leap 13 = daysInYear leap := by
  decide

theorem daysBeforeMonth_mono (leap : Bool) {m k : ℕ} (hm : 1 ≤ m) (h : m < k) :
    daysBeforeMonth leap m + daysInMonth leap m ≤ daysBeforeMonth leap k := by
  obtain ⟨j, rfl⟩ := Nat.exists_eq_add_of_le' (hm.trans h.le)
  rw [← daysBeforeMonth_succ leap hm]
  exact daysBeforeMonth_monotone leap (Nat.le_of_lt_succ h)

theorem daysBeforeMonth_add_le (leap : Bool) {m : ℕ} (hm : 1 ≤ m ∧ m ≤ 12) :
    daysBeforeMonth leap m + daysInMonth leap m ≤ daysInYear leap := by
  rw [← daysBeforeMonth_thirteen]
  exact daysBeforeMonth_mono leap hm.1 (Nat.lt_succ_of_le hm.2)

theorem daysInMonth_le (leap : Bool) (m : ℕ) : daysInMonth leap m ≤ 31 := by
  unfold daysInMonth
  split <;> cases leap <;> decide

theorem daysBeforeMonth_le : ∀ leap : Bool, ∀ m < 13, daysBeforeMonth leap m ≤ 335 := by decide

theorem Date.dayOfYear_lt (d : Date) : d.dayOfYear < daysInYear (isLeap d.year) := by
  have h1 := daysBeforeMonth_add_le (isLeap d.year) d.month_mem
  have h2 := d.day_mem
  unfold Date.dayOfYear
  omega

/-! ### The date of a number -/

/-- The year in which the day lies that has so many days before it from the
beginning of the year 1. The mean year has 146097 / 400 days, so the quotient is
off by one at most. -/
def yearOf (n : ℤ) : ℤ :=
  let y := n * 400 / 146097 + 1
  if daysBeforeYear (y + 1) ≤ n then y + 1 else if daysBeforeYear y ≤ n then y else y - 1

/-- The month of a day of the year. -/
def monthOf (leap : Bool) (n : ℕ) : ℕ :=
  ((List.range 12).filter fun k => daysBeforeMonth leap (k + 1) ≤ n).length

theorem yearOf_spec (n : ℤ) :
    daysBeforeYear (yearOf n) ≤ n ∧ n < daysBeforeYear (yearOf n + 1) := by
  unfold yearOf
  dsimp only
  split
  · unfold daysBeforeYear at *
    omega
  · split
    · unfold daysBeforeYear at *
      omega
    · unfold daysBeforeYear at *
      omega

/-- The numbers below `n` at which a monotone function is no larger than `x` are the first
ones. -/
theorem filter_range_of_monotone {f : ℕ → ℕ} (hf : Monotone f) (x n : ℕ) :
    ((List.range n).filter fun k => f k ≤ x).length ≤ n ∧
      ∀ k < n, f k ≤ x ↔ k < ((List.range n).filter fun k => f k ≤ x).length := by
  induction n with
  | zero => exact ⟨le_rfl, fun k hk => absurd hk (Nat.not_lt_zero k)⟩
  | succ n ih =>
    obtain ⟨hle, hiff⟩ := ih
    rw [List.range_succ, List.filter_append, List.length_append]
    by_cases h : f n ≤ x
    · have hlast : [n].filter (fun k => f k ≤ x) = [n] :=
        List.filter_cons_of_pos (decide_eq_true h)
      rw [hlast, List.length_singleton]
      have hall : ((List.range n).filter fun k => f k ≤ x).length = n := by
        by_contra hne
        have hlt := lt_of_le_of_ne hle hne
        exact lt_irrefl _ ((hiff _ hlt).mp ((hf hlt.le).trans h))
      rw [hall]
      exact ⟨le_rfl, fun k hk => ⟨fun _ => hk, fun _ => (hf (Nat.le_of_lt_succ hk)).trans h⟩⟩
    · have hlast : [n].filter (fun k => f k ≤ x) = [] :=
        List.filter_cons_of_neg fun hn => h (of_decide_eq_true hn)
      rw [hlast, List.length_nil, Nat.add_zero]
      refine ⟨Nat.le_succ_of_le hle, fun k hk => ?_⟩
      rcases Nat.lt_or_eq_of_le (Nat.le_of_lt_succ hk) with hlt | rfl
      · exact hiff k hlt
      · exact ⟨fun hk' => absurd hk' h, fun hk' => absurd (hk'.trans_le hle) (lt_irrefl _)⟩

theorem monthOf_spec (leap : Bool) (n : ℕ) (hn : n < daysInYear leap) :
    (1 ≤ monthOf leap n ∧ monthOf leap n ≤ 12) ∧ daysBeforeMonth leap (monthOf leap n) ≤ n ∧
      n < daysBeforeMonth leap (monthOf leap n) + daysInMonth leap (monthOf leap n) := by
  obtain ⟨hle, hiff⟩ : monthOf leap n ≤ 12 ∧
      ∀ k < 12, daysBeforeMonth leap (k + 1) ≤ n ↔ k < monthOf leap n :=
    filter_range_of_monotone (daysBeforeMonth_monotone leap) n 12
  have hpos : 0 < monthOf leap n := (hiff 0 (by decide)).mp (Nat.zero_le n)
  obtain ⟨m, hm⟩ := Nat.exists_eq_add_of_lt hpos
  rw [Nat.zero_add] at hm
  rw [hm] at hle hiff ⊢
  refine ⟨⟨Nat.le_add_left .., hle⟩, (hiff m hle).mpr (Nat.lt_succ_self m), ?_⟩
  rw [← daysBeforeMonth_succ leap (Nat.le_add_left ..)]
  rcases Nat.lt_or_eq_of_le hle with hlt | hlast
  · exact Nat.lt_of_not_le fun h => lt_irrefl _ ((hiff (m + 1) hlt).mp h)
  · obtain rfl : m = 11 := Nat.succ_inj.mp hlast
    cases leap with
    | false => exact hn
    | true => exact hn

/-- The number of days from the beginning of its year. -/
theorem sub_lt_daysInYear (n : ℤ) :
    (n - daysBeforeYear (yearOf n)).toNat < daysInYear (isLeap (yearOf n)) := by
  have h := yearOf_spec n
  have hs := daysBeforeYear_succ (yearOf n)
  omega

/-- The date with the given number. -/
def ofDayNumber (n : ℤ) : Date :=
  let y := yearOf (n + 719162)
  let r := (n + 719162 - daysBeforeYear y).toNat
  have h := monthOf_spec (isLeap y) r (sub_lt_daysInYear _)
  { year := y
    month := monthOf (isLeap y) r
    day := r - daysBeforeMonth (isLeap y) (monthOf (isLeap y) r) + 1
    month_mem := h.1
    day_mem := ⟨Nat.le_add_left .., by omega⟩ }

/-- **Every number is the number of its date.** -/
theorem dayNumber_ofDayNumber (n : ℤ) : (ofDayNumber n).dayNumber = n := by
  have hy := yearOf_spec (n + 719162)
  have hm := monthOf_spec _ _ (sub_lt_daysInYear (n + 719162))
  unfold Date.dayNumber Date.dayOfYear ofDayNumber
  dsimp only
  omega

theorem daysBeforeYear_mono {y z : ℤ} (h : y < z) :
    daysBeforeYear y + daysInYear (isLeap y) ≤ daysBeforeYear z := by
  rw [← daysBeforeYear_succ]
  unfold daysBeforeYear
  omega

/-- **Two dates with the same number are the same date.** -/
theorem dayNumber_injective : Function.Injective Date.dayNumber := by
  intro a b h
  have ha := a.dayOfYear_lt
  have hb := b.dayOfYear_lt
  unfold Date.dayNumber at h
  have hyear : a.year = b.year := by
    rcases lt_trichotomy a.year b.year with hlt | heq | hgt
    · have := daysBeforeYear_mono hlt
      omega
    · exact heq
    · have := daysBeforeYear_mono hgt
      omega
  have hleap : isLeap a.year = isLeap b.year := congrArg isLeap hyear
  have hday : a.dayOfYear = b.dayOfYear := by
    rw [hyear] at h
    omega
  have ha12 := a.month_mem
  have hb12 := b.month_mem
  have had := a.day_mem
  have hbd := b.day_mem
  unfold Date.dayOfYear at hday
  rw [hleap] at had hday
  have hmonth : a.month = b.month := by
    rcases lt_trichotomy a.month b.month with hlt | heq | hgt
    · have := daysBeforeMonth_mono (isLeap b.year) ha12.1 hlt
      omega
    · exact heq
    · have := daysBeforeMonth_mono (isLeap b.year) hb12.1 hgt
      omega
  rw [hmonth] at hday
  exact Date.ext hyear hmonth (by omega)

/-- **Every date is the date of its number.** -/
theorem ofDayNumber_dayNumber (d : Date) : ofDayNumber d.dayNumber = d :=
  dayNumber_injective (dayNumber_ofDayNumber _)

/-! ### The numbers count days -/

theorem january : 1 ≤ 1 ∧ 1 ≤ 12 := by decide

/-- The epoch. -/
def epoch : Date := ⟨1970, 1, 1, january, by decide⟩

/-- **The epoch has number zero.** -/
theorem dayNumber_epoch : epoch.dayNumber = 0 := by decide

theorem one_le_daysInMonth (leap : Bool) (m : ℕ) : 1 ≤ daysInMonth leap m := by
  unfold daysInMonth
  split <;> cases leap <;> decide

/-- The day after a date. -/
def Date.next (d : Date) : Date :=
  if h : d.day < daysInMonth (isLeap d.year) d.month then
    ⟨d.year, d.month, d.day + 1, d.month_mem, ⟨Nat.le_add_left .., h⟩⟩
  else if hm : d.month < 12 then
    ⟨d.year, d.month + 1, 1, ⟨Nat.le_add_left .., hm⟩, ⟨le_refl 1, one_le_daysInMonth ..⟩⟩
  else ⟨d.year + 1, 1, 1, by decide, ⟨le_refl 1, one_le_daysInMonth ..⟩⟩

/-- **The next day has the next number.** -/
theorem dayNumber_next (d : Date) : d.next.dayNumber = d.dayNumber + 1 := by
  have hm := d.month_mem
  have hd := d.day_mem
  have hs := daysBeforeMonth_succ (isLeap d.year) hm.1
  unfold Date.next
  split
  · unfold Date.dayNumber Date.dayOfYear
    dsimp only
    omega
  · split
    · unfold Date.dayNumber Date.dayOfYear
      dsimp only
      omega
    · rename_i hlast h12
      have h : d.month = 12 := by omega
      have h13 := daysBeforeMonth_thirteen (isLeap d.year)
      have hyear := daysBeforeYear_succ d.year
      have h1 : daysBeforeMonth (isLeap (d.year + 1)) 1 = 0 := rfl
      unfold Date.dayNumber Date.dayOfYear
      dsimp only
      rw [h] at hs hd hlast
      rw [h13] at hs
      rw [h, h1]
      omega

/-! ### The numbers follow the order of dates -/

/-- The fields of a date, the longest unit first, so that dates are ordered like the lists
of their fields. -/
def Date.fields (d : Date) : List ℤ := [d.year, d.month, d.day]

/-- A date has the number of the first day of its year, and less than a year more. -/
theorem daysBeforeYear_le_dayNumber (d : Date) :
    daysBeforeYear d.year ≤ d.dayNumber + 719162 ∧
      d.dayNumber + 719162 < daysBeforeYear d.year + daysInYear (isLeap d.year) := by
  have hlt := d.dayOfYear_lt
  rw [Date.dayNumber]
  omega

/-- **An earlier date has a smaller number.** -/
theorem dayNumber_lt {a b : Date} (h : a.fields < b.fields) : a.dayNumber < b.dayNumber := by
  simp only [Date.fields, List.cons_lt_cons_iff, List.not_lt_nil, and_false, or_false,
    Nat.cast_lt, Nat.cast_inj] at h
  rcases h with hyear | ⟨hyear, hmonth | ⟨hmonth, hday⟩⟩
  · -- The earlier year ends before the later one begins.
    have hnext := daysBeforeYear_mono hyear
    have ha := daysBeforeYear_le_dayNumber a
    have hb := daysBeforeYear_le_dayNumber b
    omega
  · have ha12 := a.month_mem
    have hb12 := b.month_mem
    have had := a.day_mem
    have hbd := b.day_mem
    have hnext := daysBeforeMonth_mono (isLeap b.year) ha12.1 hmonth
    simp only [Date.dayNumber, Date.dayOfYear, hyear] at had ⊢
    omega
  · have had := a.day_mem
    simp only [Date.dayNumber, Date.dayOfYear, hyear, hmonth]
    omega

end Calendar
