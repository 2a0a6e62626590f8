import Exarrow.Native.Parts

/-!
# What the readers of a response look at

A result set is read for what it is: the reader looks at nothing but the bytes that it
takes, so that what is read as a result set in one place is read as the same one everywhere
(`Exarrow.Native.local_parseResultSetAt`). Each of its cells takes a byte, so that it takes
as many bytes as it has cells (`Exarrow.Native.takes_buildBatchFromWire`).

A message looks further, since its state is left out where the response ends. Still **what
is read as an unwrapped response does not depend on the place**
(`Exarrow.Native.movable_parseLegacyPart`).
-/

namespace Exarrow.Native

open Machine Ieee Checked Arrow Wire

variable {lib : Libraries} {limit : ℕ} {α : Type}

/-! ### Result sets -/

theorem local_readU8 : Local (Guard.holds lib) limit readU8 := .take fun _ => .done _

theorem local_readInt (w n : ℕ) (hw : 0 < w) (what : String) :
    Local (Guard.holds lib) limit (readInt w n hw what) := .take fun _ => .done _

theorem local_readFloat (fb eb n : ℕ) (what : String) :
    Local (Guard.holds lib) limit (readFloat fb eb n what) := .take fun _ => .done _

/-- An addition to the offset that goes well in one place goes well everywhere. -/
theorem local_takeBytes (hlimit : limit ≤ 2 ^ 63) (len : SInt 32) (e : TransportError) :
    Local (Guard.holds lib) limit (takeBytes len e) := by
  intro o o' bs rest a hlt hrun
  have hguard : (Reader.guard (Guard.advance o len) (.take (asUsize len.val) e .done)).run
      (Guard.holds lib) o bs = .ok (a, o', rest) := hrun
  rw [Reader.run_guard] at hguard
  split at hguard
  case isFalse => cases hguard
  case isTrue hfits =>
    rw [Reader.run_take] at hguard
    split at hguard
    case isFalse => cases hguard
    case isTrue hlen =>
      cases hguard
      have hsize : (bs.take (asUsize len.val)).length = asUsize len.val :=
        List.length_take_of_le hlen
      refine ⟨bs.take (asUsize len.val), (List.take_append_drop ..).symm, ?_⟩
      intro o₁ post hlt₁
      have hread : Reads (Guard.holds lib) limit (.guard (.advance o₁ len)
          (.take (bs.take (asUsize len.val)).length e .done)) (bs.take (asUsize len.val))
          (bs.take (asUsize len.val)) :=
        .guard (decide_eq_true (by omega)) (.take .done)
      rw [hsize] at hread
      exact hread o₁ post hlt₁

theorem local_readBytes (hlimit : limit ≤ 2 ^ 63) (e : TransportError) :
    Local (Guard.holds lib) limit (readBytes e) :=
  (local_readInt ..).bind fun len => local_takeBytes hlimit len e

theorem local_decodeText (e : TransportError) (bs : List UInt8) :
    Local (Guard.holds lib) limit (decodeText e bs) := by
  rw [decodeText]
  split
  · exact .done _
  · exact .fail e

theorem local_readCell {read : Parse α} (h : Local (Guard.holds lib) limit read) :
    Local (Guard.holds lib) limit (readCell read) := by
  refine local_readU8.bind fun marker => ?_
  split
  · exact .done none
  · exact h.map some

/-- A cell takes the byte that tells whether its value is there. -/
theorem takes_readCell (read : Parse α) : TakesAtLeast (Guard.holds lib) 1 (readCell read) :=
  TakesAtLeast.take.before _

section Fill

variable (name : String) (dataType : DataType) (read : Parse dataType.Native)
  (size : dataType.Native → ℕ) (numRows : ℕ)

theorem local_fillFixedColumn (h : Local (Guard.holds lib) limit read) :
    Local (Guard.holds lib) limit (fillFixedColumn name dataType read numRows) :=
  (Local.guard (.done ())).bind fun _ => ((local_readCell h).times numRows).map _

theorem takes_fillFixedColumn :
    TakesAtLeast (Guard.holds lib) numRows (fillFixedColumn name dataType read numRows) := by
  have hcells : TakesAtLeast (Guard.holds lib) (numRows * 1) _ :=
    (takes_readCell read).times numRows
  rw [Nat.mul_one] at hcells
  exact .after _ fun _ => hcells.before _

theorem local_fillBytes {read : Parse α} (h : Local (Guard.holds lib) limit read) (size : α → ℕ)
    (total n : ℕ) : Local (Guard.holds lib) limit (fillBytes read size total n) := by
  induction n generalizing total with
  | zero => exact .done []
  | succ n ih =>
    refine (local_readCell h).bind fun cell => ?_
    rcases cell with _ | value
    · exact (ih total).map (none :: ·)
    · exact (Local.guard (.done ())).bind fun _ => (ih _).map (some value :: ·)

theorem takes_fillBytes (read : Parse α) (size : α → ℕ) (total n : ℕ) :
    TakesAtLeast (Guard.holds lib) n (fillBytes read size total n) := by
  induction n generalizing total with
  | zero => exact .zero _
  | succ n ih =>
    show TakesAtLeast _ (n + 1) ((readCell read).bind _)
    rw [Nat.add_comm]
    refine (takes_readCell read).bind fun cell => ?_
    rcases cell with _ | value
    · exact (ih total).before _
    · exact .after _ fun _ => (ih _).before _

theorem local_fillBytesColumn (h : Local (Guard.holds lib) limit read) :
    Local (Guard.holds lib) limit (fillBytesColumn name dataType read size numRows) :=
  (Local.guard (.guard (.done ()))).bind fun _ => (local_fillBytes h size 0 numRows).map _

theorem takes_fillBytesColumn :
    TakesAtLeast (Guard.holds lib) numRows (fillBytesColumn name dataType read size numRows) :=
  .after _ fun _ => (takes_fillBytes read size 0 numRows).before _

end Fill

/-- **The values of a column are read for what they are.** -/
theorem local_fillColumnBuilder (hlimit : limit ≤ 2 ^ 63) (column : NativeColumnMeta)
    (numRows : ℕ) : Local (Guard.holds lib) limit (fillColumnBuilder lib column numRows) := by
  have hbytes := @local_readBytes lib limit hlimit
  have hwiden {w n : ℕ} (hw : 0 < w) (h128 : w ≤ 128) (what : String) :
      Local (Guard.holds lib) limit (widenTo128 h128 (readInt w n hw what)) :=
    (local_readInt w n hw what).map _
  rw [fillColumnBuilder]
  split
  · exact local_fillFixedColumn _ _ _ _ (local_readFloat ..)
  · exact local_fillFixedColumn _ _ _ _ ((local_readFloat ..).map _)
  · refine local_fillFixedColumn _ _ _ _ ?_
    split <;> exact hwiden ..
  · exact local_fillFixedColumn _ _ _ _ (hwiden ..)
  · exact local_fillFixedColumn _ _ _ _ (local_readU8.map _)
  iterate 3 exact local_fillBytesColumn _ _ _ _ _ (hbytes _)
  iterate 2
    exact local_fillFixedColumn _ _ _ _
      ((hbytes _).bind fun bs => (local_decodeText _ bs).bind fun _ => .ofExec ..)
  · exact local_fillFixedColumn _ _ _ _ (hwiden ..)
  · refine local_fillFixedColumn _ _ _ _ ?_
    split <;> exact hwiden ..
  · exact local_fillFixedColumn _ _ _ _ (local_readInt ..)
  · exact local_fillFixedColumn _ _ _ _ ((local_readInt ..).bind fun _ => .ofExec ..)
  iterate 3
    exact local_fillFixedColumn _ _ _ _ ((local_readInt ..).bind fun _ =>
      local_readU8.bind fun _ => local_readU8.bind fun _ => local_readU8.bind fun _ =>
      local_readU8.bind fun _ => local_readU8.bind fun _ => (local_readInt ..).bind fun _ =>
      .ofExec ..)
  iterate 2
    exact local_fillBytesColumn _ _ _ _ _ ((hbytes _).bind fun bs => local_decodeText _ bs)

/-- The values of a column take a byte for each row. -/
theorem takes_fillColumnBuilder (column : NativeColumnMeta) (numRows : ℕ) :
    TakesAtLeast (Guard.holds lib) numRows (fillColumnBuilder lib column numRows) := by
  rw [fillColumnBuilder]
  split
  all_goals first | exact takes_fillFixedColumn .. | exact takes_fillBytesColumn ..

theorem local_buildBatchFromWire (hlimit : limit ≤ 2 ^ 63) (columns : List NativeColumnMeta)
    (numRows : ℕ) : Local (Guard.holds lib) limit (buildBatchFromWire lib columns numRows) := by
  rw [buildBatchFromWire]
  split
  · split
    · exact .done _
    · exact .fail _
  · refine Local.bind (.mapM columns fun column _ => local_fillColumnBuilder hlimit column numRows)
      fun built => ?_
    split
    · exact .done _
    · exact .fail _

/-- **A table takes a byte for each of its cells.** -/
theorem takes_buildBatchFromWire (columns : List NativeColumnMeta) (numRows : ℕ) :
    TakesAtLeast (Guard.holds lib) (columns.length * numRows)
      (buildBatchFromWire lib columns numRows) := by
  rw [buildBatchFromWire]
  split
  case isTrue hnil =>
    rw [hnil, List.length_nil, Nat.zero_mul]
    exact .zero _
  case isFalse =>
    exact (TakesAtLeast.mapM columns fun column _ =>
      takes_fillColumnBuilder column numRows).before _

theorem local_readVarchar (what : String) : Local (Guard.holds lib) limit (readVarchar what) :=
  Local.bind (.take fun _ => .done _) fun _ => (local_readInt ..).bind fun _ =>
    (local_readInt ..).map _

theorem local_parseColumnMeta (hlimit : limit ≤ 2 ^ 63) :
    Local (Guard.holds lib) limit (parseColumnMeta lib) := by
  have hint := @local_readInt lib limit 32 4 (by norm_num) "i32"
  refine (local_readBytes hlimit _).bind fun bs => (local_decodeText _ bs).bind fun name =>
    hint.bind fun typeId => ?_
  dsimp only
  split
  iterate 3 exact hint.bind fun _ => hint.map _
  iterate 3 exact (local_readVarchar _).map _
  · exact (local_readVarchar _).bind fun _ => hint.map _
  · exact (local_readVarchar _).bind fun _ => hint.bind fun _ => hint.map _
  iterate 3 exact hint.map _
  · exact .done _

/-- **A result set is read for what it is**, wherever it stands and whatever follows. -/
theorem local_parseResultSetAt (hlimit : limit ≤ 2 ^ 63) :
    Local (Guard.holds lib) limit (parseResultSetAt lib) := by
  refine (local_readInt ..).bind fun handle => (local_readInt ..).bind fun numColumns =>
    (local_readInt ..).bind fun totalRows => (local_readInt ..).bind fun rowsReceived => ?_
  split
  · exact .fail _
  · refine (Local.guard (.done ())).bind fun _ =>
      ((local_parseColumnMeta hlimit).times _).bind fun columns => ?_
    split
    · exact .done _
    · exact (local_buildBatchFromWire hlimit columns _).map _

/-! ### Parts without an envelope -/

/-- A state is looked for where five bytes are left. -/
theorem movable_parseMessagePart (hlimit : limit ≤ 2 ^ 63) :
    Movable (Guard.holds lib) limit (parseMessagePart lib) := by
  refine (local_readBytes hlimit _).movable.bind fun bytes =>
    (local_decodeText _ bytes).movable.bind fun message => .remaining fun r => ?_
  split
  · exact ((Local.take fun _ => .done _).map _).movable
  · exact .done _

theorem movable_consumeStatusMessage (hlimit : limit ≤ 2 ^ 63) :
    Movable (Guard.holds lib) limit consumeStatusMessage := by
  refine .remaining fun r => ?_
  split
  · exact .done ()
  · exact ((local_readBytes hlimit _).map _).movable

theorem movable_readRest : Movable (Guard.holds lib) limit readRest :=
  .remaining fun _ => (Local.take fun _ => .done _).movable

theorem movable_subResults {sub : Parse NativeResponseEnvelope}
    (h : Movable (Guard.holds lib) limit sub) (n : ℕ) (d : Description) :
    Movable (Guard.holds lib) limit (subResults sub n d) := by
  induction n generalizing d with
  | zero => exact .done d
  | succ n ih =>
    refine .remaining fun r => ?_
    split
    · exact .done d
    · refine h.bind fun response => Movable.bind ?_ ih
      rw [Description.add]
      split
      · split <;> exact .done _
      · exact .fail _
      · exact .done _

theorem movable_parseHandleOnlyAt {sub : Parse NativeResponseEnvelope}
    (h : Movable (Guard.holds lib) limit sub) :
    Movable (Guard.holds lib) limit (parseHandleOnlyAt sub) :=
  (local_readInt ..).movable.bind fun _ =>
    (Movable.remaining fun r => movable_subResults h r {}).bind fun _ => .done _

theorem movable_parseLegacyResponseAt (hlimit : limit ≤ 2 ^ 63) (n : ℕ) :
    Movable (Guard.holds lib) limit (parseLegacyResponseAt lib n) := by
  induction n with
  | zero => exact .fail _
  | succ n ih =>
    refine (local_readU8.map _).movable.bind fun resultType => ?_
    rw [parseLegacyResponseBody]
    split
    · exact (local_parseResultSetAt hlimit).movable.bind fun _ => .done _
    · exact movable_parseHandleOnlyAt ih
    · have hcount : Local (Guard.holds lib) limit parseRowCountAt := (local_readInt ..).map _
      exact hcount.movable.bind fun _ => .done _
    · exact ((movable_parseMessagePart hlimit).bind fun _ => .done _).bind fun _ => .done _
    · exact (movable_parseMessagePart hlimit).bind fun _ => .done _
    · exact (local_readInt ..).movable.bind fun _ => .done _
    · exact .done _
    · exact (movable_consumeStatusMessage hlimit).bind fun _ => .done _
    · exact movable_readRest.bind fun _ => .done _
    · exact .fail _

/-- **A part without an envelope is read alike in every place.** -/
theorem movable_parseLegacyPart (hlimit : limit ≤ 2 ^ 63) :
    Movable (Guard.holds lib) limit (parseLegacyPart lib) :=
  .remaining fun n => movable_parseLegacyResponseAt hlimit n

end Exarrow.Native
