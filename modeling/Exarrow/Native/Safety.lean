import Exarrow.Intervals
import Exarrow.Native.ResultParser

/-!
# What stops the parser

The parser reads lengths, counts of columns and numbers of rows as signed numbers and uses
them as sizes. Some of these uses stop the program, and **they are all that does**
(`Exarrow.Native.parse_ne_stop_iff`): the parser returns a value or an error exactly if
every number that it comes to is harmless (`Exarrow.Native.Guard.Harmless`).

* A negative length must be larger than the offset to which it is added. A response of
  five bytes shows what happens otherwise (`Exarrow.Native.parseResponse_negativeLength`).
* A count of columns must not be negative, and what is reserved for columns and rows must
  be granted, before any of their bytes are looked at.
* The text of an interval must not have a character where its fraction is cut.

Dates and timestamps never stop it, whatever their fields are
(`Exarrow.Native.daysOf_returns`, `Exarrow.Native.microsOf_returns`).

The parts of the reply to a preparation may lie in each other. The model bounds their depth
and their number by the bytes that are left, and **the bound is never met**
(`Exarrow.Native.run_parseLegacyResponseAt`, `Exarrow.Native.run_subResults`).
-/

namespace Exarrow.Native

open Machine Checked Arrow Wire Calendar

/-! ### Nested parts -/

section Nesting

variable {lib : Libraries} {α β : Type} {p q : Parse α} {f g : α → Parse β} {limit : ℕ}

/-- A reader that returns has taken a byte at least. -/
def Progress (lib : Libraries) (p : Parse α) : Prop :=
  ∀ {o : ℕ} {bs : List UInt8} {a : α} {o' : ℕ} {bs' : List UInt8},
    p.run (Guard.holds lib) o bs = .ok (a, o', bs') → bs'.length < bs.length

/-- Two readers do the same on byte strings of a length. -/
def AgreeUpTo (lib : Libraries) (limit : ℕ) (p q : Parse α) : Prop :=
  ∀ (o : ℕ) (bs : List UInt8), bs.length ≤ limit →
    p.run (Guard.holds lib) o bs = q.run (Guard.holds lib) o bs

/-- What a reader leaves is no longer than what it was given. -/
theorem length_le_of_run {o o' : ℕ} {bs bs' : List UInt8} {a : α}
    (h : p.run (Guard.holds lib) o bs = .ok (a, o', bs')) : bs'.length ≤ bs.length := by
  obtain ⟨taken, rfl, -⟩ := Reader.run_eq_ok h
  rw [List.length_append]
  exact Nat.le_add_left _ _

/-- Sequences agree if their parts do. -/
theorem AgreeUpTo.bind (h : AgreeUpTo lib limit p q) (hf : ∀ a, AgreeUpTo lib limit (f a) (g a)) :
    AgreeUpTo lib limit (p.bind f) (q.bind g) := by
  intro o bs hbs
  rw [Reader.run_bind, Reader.run_bind, h o bs hbs]
  cases hq : q.run (Guard.holds lib) o bs with
  | error e => rfl
  | ok r => exact hf r.1 _ _ (le_trans (length_le_of_run hq) hbs)

/-- A sequence takes a byte if its first part does. -/
theorem Progress.bind (h : Progress lib p) : Progress lib (p.bind f) := by
  intro o bs b o' bs' hrun
  rw [Reader.run_bind] at hrun
  obtain ⟨r, hr, hf⟩ := bind_eq_ok.mp hrun
  exact lt_of_le_of_lt (length_le_of_run hf) (h hr)

theorem progress_readU8 : Progress lib readU8 := by
  intro o bs a o' bs' h
  rw [readU8, Reader.run_take] at h
  split at h
  · rename_i hlen
    obtain ⟨-, -, rfl⟩ : _ ∧ _ ∧ bs.drop 1 = bs' := by simpa [Reader.run] using h
    rw [List.length_drop]
    omega
  · cases h

theorem progress_readI8 : Progress lib readI8 := progress_readU8.bind

/-- **The bound on the number of parts is never met**, and it does not matter how deep parts
may lie in each other as long as the readers of a part agree. -/
theorem subResults_agree {sub sub' : Parse NativeResponseEnvelope} (hp : Progress lib sub)
    (h : AgreeUpTo lib limit sub sub') {n m : ℕ} {d : Description} {o : ℕ} {bs : List UInt8}
    (hbs : bs.length ≤ limit) (hn : bs.length ≤ n) (hm : bs.length ≤ m) :
    (subResults sub n d).run (Guard.holds lib) o bs =
      (subResults sub' m d).run (Guard.holds lib) o bs := by
  induction n generalizing m d o bs with
  | zero =>
    obtain rfl := List.eq_nil_of_length_eq_zero (Nat.le_zero.mp hn)
    cases m <;> rfl
  | succ n ih =>
    cases m with
    | zero =>
      obtain rfl := List.eq_nil_of_length_eq_zero (Nat.le_zero.mp hm)
      rfl
    | succ m =>
      cases bs with
      | nil => rfl
      | cons b bs =>
        show (sub.bind fun response => (d.add response).bind fun d => subResults sub n d).run _ o
            (b :: bs) =
          (sub'.bind fun response => (d.add response).bind fun d => subResults sub' m d).run _ o
            (b :: bs)
        rw [Reader.run_bind, Reader.run_bind, h o _ hbs]
        cases hs : sub'.run (Guard.holds lib) o (b :: bs) with
        | error e => rfl
        | ok r =>
          obtain ⟨response, o', bs'⟩ := r
          have hlt := hp ((h o _ hbs).trans hs)
          show ((d.add response).bind fun d => subResults sub n d).run _ o' bs' =
            ((d.add response).bind fun d => subResults sub' m d).run _ o' bs'
          rw [Reader.run_bind, Reader.run_bind]
          cases hd : (d.add response).run (Guard.holds lib) o' bs' with
          | error e => rfl
          | ok x =>
            obtain ⟨d', o'', bs''⟩ := x
            have hle := length_le_of_run hd
            rw [List.length_cons] at *
            have hlimit : bs''.length ≤ limit := by omega
            have hn' : bs''.length ≤ n := by omega
            have hm' : bs''.length ≤ m := by omega
            exact ih hlimit hn' hm'

/-- The reply to a preparation agrees if the readers of its parts do. -/
theorem parseHandleOnlyAt_agree {sub sub' : Parse NativeResponseEnvelope} (hp : Progress lib sub)
    (h : AgreeUpTo lib limit sub sub') :
    AgreeUpTo lib limit (parseHandleOnlyAt sub) (parseHandleOnlyAt sub') := by
  refine AgreeUpTo.bind (fun o bs _ => rfl) fun handle => AgreeUpTo.bind ?_ fun d o bs _ => rfl
  intro o bs hbs
  exact subResults_agree hp h hbs le_rfl le_rfl

/-- A part takes a byte. -/
theorem progress_parseLegacyResponseAt (n : ℕ) : Progress lib (parseLegacyResponseAt lib n) := by
  cases n with
  | zero => exact nofun
  | succ n => exact progress_readI8.bind

/-- Parts agree that are given bounds no less than their bytes. -/
theorem parseLegacyResponseAt_agree {n m : ℕ} {o : ℕ} {bs : List UInt8} (hn : bs.length ≤ n)
    (hm : bs.length ≤ m) : (parseLegacyResponseAt lib n).run (Guard.holds lib) o bs =
      (parseLegacyResponseAt lib m).run (Guard.holds lib) o bs := by
  induction n generalizing m o bs with
  | zero =>
    obtain rfl := List.eq_nil_of_length_eq_zero (Nat.le_zero.mp hn)
    cases m <;> rfl
  | succ n ih =>
    cases m with
    | zero =>
      obtain rfl := List.eq_nil_of_length_eq_zero (Nat.le_zero.mp hm)
      rfl
    | succ m =>
      show (readI8.bind _).run _ o bs = (readI8.bind _).run _ o bs
      rw [Reader.run_bind, Reader.run_bind]
      cases h : readI8.run (Guard.holds lib) o bs with
      | error e => rfl
      | ok r =>
        obtain ⟨resultType, o', bs'⟩ := r
        have hlt := progress_readI8 h
        have hagree : AgreeUpTo lib bs'.length (parseLegacyResponseAt lib n)
            (parseLegacyResponseAt lib m) := by
          intro o'' bs'' hle
          exact ih (by omega) (by omega)
        show (parseLegacyResponseBody lib (parseLegacyResponseAt lib n) resultType).run _ o' bs' =
          (parseLegacyResponseBody lib (parseLegacyResponseAt lib m) resultType).run _ o' bs'
        unfold parseLegacyResponseBody
        -- Only the reply to a preparation reads further parts.
        split
        case h_2 =>
          exact parseHandleOnlyAt_agree (progress_parseLegacyResponseAt n) hagree o' bs' le_rfl
        all_goals rfl

/-- **The bound on the depth of parts is never met**: a larger one changes nothing. -/
theorem run_parseLegacyResponseAt {n : ℕ} {o : ℕ} {bs : List UInt8} (hn : bs.length ≤ n) :
    (parseLegacyResponseAt lib n).run (Guard.holds lib) o bs =
      (parseLegacyPart lib).run (Guard.holds lib) o bs :=
  parseLegacyResponseAt_agree hn le_rfl

theorem progress_parseLegacyPart : Progress lib (parseLegacyPart lib) := by
  intro o bs a o' bs' h
  exact progress_parseLegacyResponseAt bs.length h

/-- **The bound on the number of parts is never met**: a larger one changes nothing. -/
theorem run_subResults {n : ℕ} {d : Description} {o : ℕ} {bs : List UInt8} (hn : bs.length ≤ n) :
    (subResults (parseLegacyPart lib) n d).run (Guard.holds lib) o bs =
      (subResults (parseLegacyPart lib) bs.length d).run (Guard.holds lib) o bs :=
  subResults_agree progress_parseLegacyPart (fun _ _ _ => rfl) le_rfl hn le_rfl

end Nesting

/-! ### Dates and timestamps -/

section Dates

variable {ε : Type} {ov : Overflow} {year : SInt 16} {month day hour minute second : UInt8}

/-- The days of a date of 16 bits for the year and 8 for the rest. -/
theorem daysOf_formula (ov : Overflow) (year : SInt 16) (month day : UInt8) :
    ∃ D : ℤ, Yields (daysOf ov year month day) D ∧ -2 ^ 25 ≤ D ∧ D < 2 ^ 25 := by
  have h1 := year.ge
  have h2 := year.lt
  have hday := day.toNat_lt
  obtain ⟨hM0, hM1⟩ := daysFromMonth_le month.toNat
  obtain ⟨hL0, hL1⟩ := leapAdjustment_le month.toNat (isLeap year.val)
  refine ⟨_, ymdToDays_formula rfl ?_ ?_ month.toNat hday, ?_, ?_⟩
  all_goals rw [SInt.val_extend]; omega

/-- **Dates stop nothing**, whatever their fields are. -/
theorem daysOf_returns (ov : Overflow) (year : SInt 16) (month day : UInt8) :
    returns (daysOf ov year month day) = true := by
  obtain ⟨D, ⟨a, ha, -⟩, -, -⟩ := daysOf_formula ov year month day
  rw [ha]
  rfl

/-- **Timestamps stop nothing**, whatever their fields are. -/
theorem microsOf_returns (ov : Overflow) (year : SInt 16) (month day hour minute second : UInt8)
    (nanos : SInt 32) :
    returns (microsOf ov year month day hour minute second nanos) = true := by
  obtain ⟨D, hD, h1, h2⟩ := daysOf_formula ov year month day
  obtain ⟨a, ha, -⟩ := @ymdHmsNanosToMicros_formula Empty ov _ nanos _ _ _ _ _ D hD h1 h2
    hour.toNat_lt minute.toNat_lt second.toNat_lt
  unfold microsOf
  rw [ha]
  rfl

end Dates

/-! ### Harmless numbers -/

/-- A number that the parser comes to is harmless. -/
def Guard.Harmless (lib : Libraries) : Guard → Prop
  -- A length is not negative, or else larger than the offset to which it is added.
  | advance o len => 0 ≤ len.val ∧ o + len.val < 2 ^ 64 ∨ len.val < -o
  -- A count of columns is not negative, and they are reserved.
  | columns count => 0 ≤ count.val ∧ lib.grants (.columns count.val.toNat) = true
  | estimate rows => rows < 2 ^ 60
  | values dataType rows => lib.grants (.values dataType rows) = true
  | valueEnd total => total < 2 ^ 31
  | .day .. => True
  | instant .. => True
  -- The fraction of an interval is not cut inside a character.
  | interval text => ∀ f, intervalFraction? text = some f → ¬CutsCharacter f

/-- The program is stopped by a computation or it is not. -/
theorem returns_eq_true_iff {ε α : Type} {x : Exec ε α} : returns x = true ↔ x ≠ stop := by
  rcases x with (_ | _) | _
  · exact ⟨fun _ => nofun, fun _ => rfl⟩
  · exact ⟨nofun, fun h => absurd rfl h⟩
  · exact ⟨fun _ => nofun, fun _ => rfl⟩

/-- **The program goes on exactly at harmless numbers.** -/
theorem Guard.holds_iff {lib : Libraries} {g : Guard} : g.holds lib = true ↔ g.Harmless lib := by
  cases g with
  | advance o len =>
    have h1 := len.ge
    have h2 := len.lt
    unfold Guard.holds Guard.Harmless asUsize
    rw [decide_eq_true_eq]
    omega
  | columns count =>
    have h1 := count.ge
    have h2 := count.lt
    show lib.grants (.columns (asUsize count.val)) = true ↔
      0 ≤ count.val ∧ lib.grants (.columns count.val.toNat) = true
    by_cases h0 : 0 ≤ count.val
    · have hsize : asUsize count.val = count.val.toNat := by
        unfold asUsize
        omega
      rw [hsize]
      exact (and_iff_right h0).symm
    · refine iff_of_false (fun hgrants => ?_) fun h => h0 h.1
      have hlt := lib.columns_lt _ hgrants
      unfold asUsize at hlt
      omega
  | estimate rows =>
    unfold Guard.holds Guard.Harmless
    rw [decide_eq_true_eq]
    omega
  | values dataType rows => exact Iff.rfl
  | valueEnd total => exact decide_eq_true_iff
  | day y m d => exact iff_of_true (daysOf_returns ..) trivial
  | instant y m d hour minute second nanos => exact iff_of_true (microsOf_returns ..) trivial
  | interval text =>
    unfold Guard.holds Guard.Harmless
    rw [returns_eq_true_iff, Ne, parseInterval_eq_stop_iff]
    push Not
    exact Iff.rfl

/-! ### Messages -/

/-- A part of the parser stops exactly at a number that is not harmless. -/
theorem parse_ne_stop_iff {lib : Libraries} {α : Type} {p : Parse α} {data : List UInt8} :
    parse lib p data ≠ stop ↔ ∀ g ∈ p.guards 0 data, g.Harmless lib := by
  have hrun : parse lib p data = stop ↔ p.run (Guard.holds lib) 0 data = stop := by
    unfold parse
    rw [bind_eq_stop]
    exact ⟨fun h => h.elim id fun ⟨_, _, h⟩ => (nomatch h), .inl⟩
  rw [Ne, hrun, Reader.run_eq_stop_iff]
  push Not
  refine forall₂_congr fun g _ => ?_
  rw [← Guard.holds_iff, ne_eq, Bool.not_eq_false]

/-- The numbers that the parser comes to in a response: in the reading as a counted
envelope and, if it is none, in the reading as a single part. -/
def responseNumbers (lib : Libraries) (data : List UInt8) : List Guard :=
  if data = [] then []
  else if data.length = 4 ∧ ofLE data = 0 then []
  else (tryParseCountedEnvelope lib data).guards 0 data ++
    match parse lib (tryParseCountedEnvelope lib data) data with
    | .ok none => (parseLegacyResponse lib).guards 0 data
    | _ => []

/-- A response stops the parser exactly by a number that is not harmless. -/
theorem parseResponse_ne_stop_iff {lib : Libraries} {data : List UInt8} :
    parseResponse lib data ≠ stop ↔ ∀ g ∈ responseNumbers lib data, g.Harmless lib := by
  unfold parseResponse responseNumbers
  by_cases hnil : data = []
  · rw [if_pos hnil, if_pos hnil]
    exact iff_of_true nofun (List.forall_mem_nil _)
  by_cases hzero : data.length = 4 ∧ ofLE data = 0
  · rw [if_neg hnil, if_neg hnil, if_pos hzero, if_pos hzero]
    exact iff_of_true nofun (List.forall_mem_nil _)
  rw [if_neg hnil, if_neg hnil, if_neg hzero, if_neg hzero, List.forall_mem_append,
    ← parse_ne_stop_iff]
  rcases hcounted : parse lib (tryParseCountedEnvelope lib data) data with (e | _) | envelope
  · exact iff_of_true nofun ⟨nofun, List.forall_mem_nil _⟩
  · exact iff_of_false (fun h => h rfl) fun h => h.1 rfl
  · cases envelope with
    | none =>
      dsimp only
      rw [← parse_ne_stop_iff]
      exact ⟨fun h => ⟨nofun, h⟩, fun h => h.2⟩
    | some envelope => exact iff_of_true nofun ⟨nofun, List.forall_mem_nil _⟩

/-- **What stops the parser**: a response, or the rows of a fetch, exactly by a number that
is not harmless. -/
theorem parse_returns_iff (lib : Libraries) (columns : List NativeColumnMeta)
    (data : List UInt8) :
    (parseResponse lib data ≠ stop ↔ ∀ g ∈ responseNumbers lib data, g.Harmless lib) ∧
      (parse lib (parseFetchToRecordBatch lib columns) data ≠ stop ↔
        ∀ g ∈ (parseFetchToRecordBatch lib columns).guards 0 data, g.Harmless lib) :=
  ⟨parseResponse_ne_stop_iff, parse_ne_stop_iff⟩

/-- An exception whose message has the length −1. -/
theorem parseResponse_negativeLength :
    parseResponse plainLibraries [255, 255, 255, 255, 255] = stop := by
  have hreturns : returns (parseResponse plainLibraries [255, 255, 255, 255, 255]) = false := by
    decide +kernel
  by_contra hne
  rw [returns_eq_true_iff.mpr hne] at hreturns
  cases hreturns

end Exarrow.Native
