import Exarrow.Native.Values

/-!
# Tables on the wire

A table is sent column by column, in the layout that the description of each column
fixes: the form of its values (`Exarrow.Native.NativeColumnMeta.body`) and the Arrow type
in which they are delivered (`Exarrow.Native.NativeColumnMeta.builtType`).

The columns share one running offset, so a single wrong width would shift all that come
after it. None is wrong: **a table of any columns is read back as the batch that holds it,
and the offset ends where the table does** (`Exarrow.Native.buildBatchFromWire_encode`).
The proof follows the columns: each fills a column of its own
(`Exarrow.Native.fills_column`) whatever bytes follow, and readings that hold whatever
follows compose.

Three things are asked of a table.

* Its values have to fit the Arrow types: the months of an interval 32 bits
  (`Exarrow.Native.Body.InRange`). A timestamp is delivered in whole microseconds, which
  loses what it has below them (`Exarrow.Native.timestamp_below_micros`).
* The memory for its columns has to be there (`Exarrow.Native.Room`).
* For the types to be the reported ones, its columns have to be such as a server
  describes (`Exarrow.Native.NativeColumnMeta.Regular`).
-/

namespace Exarrow.Native

open Machine Ieee Checked Arrow Wire Calendar

/-! ### The types that are reported -/

/-- The type of a column as it is reported with a result. -/
def nativeMetaToDataType (column : NativeColumnMeta) : Messages.DataType :=
  match column.wireType with
  | .decimal | .smalldecimal | .bigdecimal =>
    { typeName := "DECIMAL", precision := column.precision, scale := column.scale }
  | .double | .real => { typeName := "DOUBLE" }
  | .integer =>
    { typeName := "DECIMAL", precision := some integerDecimalPrecision, scale := some 0 }
  | .smallint =>
    { typeName := "DECIMAL", precision := some smallintDecimalPrecision, scale := some 0 }
  | .boolean => { typeName := "BOOLEAN" }
  | .char =>
    if column.isVarchar then
      { typeName := "VARCHAR"
        size := some ((column.maxLen.getD 2000000).extend 64 SInt.le_32_64)
        characterSet := some "UTF8" }
    else
      { typeName := "CHAR"
        size := column.maxLen.map fun l => l.extend 64 SInt.le_32_64
        characterSet := some "UTF8" }
  | .date => { typeName := "DATE" }
  | .timestamp => { typeName := "TIMESTAMP" }
  | .timestampLocalTz | .timestampUtc =>
    { typeName := "TIMESTAMP WITH LOCAL TIME ZONE", withLocalTimeZone := some true }
  | .binary =>
    { typeName := "BINARY", size := column.maxLen.map fun l => l.extend 64 SInt.le_32_64 }
  | .geometry => { typeName := "GEOMETRY" }
  | .hashtype =>
    { typeName := "HASHTYPE", size := column.maxLen.map fun l => l.extend 64 SInt.le_32_64 }
  | .intervalYear => { typeName := "INTERVAL YEAR TO MONTH" }
  | .intervalDay =>
    { typeName := "INTERVAL DAY TO SECOND", fraction := column.intervalFraction }
  | .other _ =>
    { typeName := "VARCHAR", size := some 2000000, characterSet := some "UTF8" }

namespace NativeColumnMeta

/-- The form in which the values of a column are sent. -/
def body (column : NativeColumnMeta) : Body :=
  match column.wireType with
  | .double => .double
  | .real => .single
  | .integer => .int64
  | .smallint | .smalldecimal => .int32
  | .decimal => if (column.precision.getD 18).val ≤ 9 then .int32 else .int64
  | .bigdecimal => .int128
  | .boolean => .boolean
  | .binary | .geometry | .hashtype => .bytes
  | .intervalYear => .yearMonth
  | .intervalDay => .dayTime
  | .date => .date
  | .timestamp | .timestampLocalTz | .timestampUtc => .timestamp
  | .char | .other _ => .text

/-- The Arrow type in which the values of a column are delivered. -/
def builtType (column : NativeColumnMeta) : DataType :=
  match column.wireType with
  | .double | .real => .float64
  | .integer => decimalDataType (wholeNumberMeta column integerDecimalPrecision) 18
  | .smallint => decimalDataType (wholeNumberMeta column smallintDecimalPrecision) 9
  | .smalldecimal => decimalDataType column 9
  | .decimal => decimalDataType column 18
  | .bigdecimal => decimalDataType column 36
  | .boolean => .boolean
  | .binary | .geometry | .hashtype => .binary
  | .intervalYear | .intervalDay => .interval .monthDayNano
  | .date => .date32
  | .timestamp => .timestamp .microsecond none
  | .timestampLocalTz | .timestampUtc => .timestamp .microsecond (some "UTC")
  | .char | .other _ => .utf8

/-- A column such as a server describes: it has a type of Exasol, and a decimal has digits
that exist. -/
def Regular (column : NativeColumnMeta) : Prop :=
  column.wireType ≠ .binary ∧
    (column.wireType ∈ [.decimal, .smalldecimal, .bigdecimal] →
      ∃ p s, column.precision = some p ∧ column.scale = some s ∧
        1 ≤ p.val ∧ p.val ≤ 38 ∧ -128 ≤ s.val ∧ s.val ≤ 127)

end NativeColumnMeta

/-! ### Tables -/

/-- The bytes that a value adds to a column of byte strings or texts. -/
def Body.size : (b : Body) → b.Value → ℕ
  | bytes, v => v.val.length
  | text, v => Text.byteLen v.val
  | _, _ => 0

/-- There is room for a column of cells. -/
structure Room (lib : Libraries) (b : Body) (t : DataType) (cells : List (Option b.Value)) :
    Prop where
  /-- The memory is reserved. -/
  granted : lib.grants (.values t cells.length) = true
  /-- The estimate of its size is a number of 64 bits. -/
  rows_lt : cells.length < 2 ^ 60
  /-- The bytes of its values are counted by 32 bits. -/
  size_lt : (cells.map fun cell => cell.elim 0 b.size).sum < 2 ^ 31

/-- A column with its cells. -/
structure WireColumn where
  column : NativeColumnMeta
  cells : List (Option column.body.Value)

/-- The bytes of the cells of a column. -/
def WireColumn.encode (c : WireColumn) : List UInt8 := c.cells.flatMap c.column.body.encodeCell

/-- The cells fit the Arrow type of their column, and there is room for them. -/
structure WireColumn.Fits (lib : Libraries) (c : WireColumn) : Prop where
  inRange : ∀ cell ∈ c.cells, ∀ v ∈ cell, c.column.body.InRange v
  room : Room lib c.column.body c.column.builtType c.cells

/-- A table: columns of one length. -/
structure Table where
  columns : List WireColumn
  rows : ℕ
  lengths : ∀ c ∈ columns, c.cells.length = rows

/-- The bytes of a table, column by column. -/
def Table.encode (t : Table) : List UInt8 := t.columns.flatMap WireColumn.encode

/-- The field that describes a column of a batch. -/
def WireColumn.field (c : WireColumn) : Field := ⟨c.column.name, c.column.builtType, true, []⟩

/-- The column of a batch holds the cells: absent values and values, one by one. -/
structure WireColumn.HeldBy (c : WireColumn) (a : Column) : Prop where
  dataType : a.dataType = c.column.builtType
  cells : List.Forall₂ (Option.Rel fun v x => c.column.body.Denotes v a.dataType x) c.cells a.cells

/-- The batch holds the table, column by column and row by row. -/
structure Table.HeldBy (t : Table) (batch : RecordBatch) : Prop where
  rows : batch.numRows = t.rows
  fields : batch.schema.fields = t.columns.map WireColumn.field
  columns : List.Forall₂ WireColumn.HeldBy t.columns batch.columns

/-! ### Reading columns -/

section Read

variable {lib : Libraries} {limit : ℕ}

/-- The reader of a column fills a column of the given type from values of the given
form. -/
def Fills (lib : Libraries) (limit : ℕ) (b : Body) (name : String) (t : DataType)
    (fill : ℕ → Parse (Field × Column)) : Prop :=
  ∀ cells : List (Option b.Value), (∀ cell ∈ cells, ∀ v ∈ cell, b.InRange v) → Room lib b t cells →
    ∃ cs, Reads (Guard.holds lib) limit (fill cells.length) (cells.flatMap b.encodeCell)
        (builtColumn name t cs) ∧ List.Forall₂ (Option.Rel fun v x => b.Denotes v t x) cells cs

/-- A column of values of one width is filled. -/
theorem fills_fixed {b : Body} {name : String} {t : DataType} {read : Parse t.Native}
    (h : ∀ v, b.InRange v →
      ∃ x, Reads (Guard.holds lib) limit read (b.encode v) x ∧ b.Denotes v t x) :
    Fills lib limit b name t (fillFixedColumn name t read) := by
  intro cells hrange hroom
  obtain ⟨cs, hcs, hrel⟩ := @reads_cells lib limit b _ read (fun v x => b.Denotes v t x) cells
    fun cell hcell v hv => h v (hrange cell hcell v hv)
  refine ⟨cs, ?_, hrel⟩
  have hguard := @reads_guard lib limit (.values t cells.length) hroom.granted
  exact hguard.bind (hcs.map (builtColumn name t))

/-- A column of values of bytes is filled. -/
theorem fills_bytes {b : Body} {name : String} {t : DataType} {read : Parse t.Native}
    {size : t.Native → ℕ}
    (h : ∀ v, ∃ x, Reads (Guard.holds lib) limit read (b.encode v) x ∧
      (b.Denotes v t x ∧ size x = b.size v)) :
    Fills lib limit b name t (fillBytesColumn name t read size) := by
  intro cells hrange hroom
  have hsize := hroom.size_lt
  obtain ⟨cs, hcs, hrel⟩ := @reads_fillBytes lib limit b _ read (fun v x => b.Denotes v t x) size
    b.size cells (fun cell hcell v hv => h v) 0 (by omega)
  refine ⟨cs, ?_, hrel⟩
  have hrows := hroom.rows_lt
  have hestimate : (Guard.estimate cells.length).holds lib = true := decide_eq_true (by omega)
  have hguard := @reads_guard lib limit (.values t cells.length) hroom.granted
  exact (Reads.guard hestimate hguard).bind (hcs.map (builtColumn name t))

/-- A column of decimals of `w` bits is filled. -/
theorem fills_decimal {b : Body} {w : ℕ} (hw : w ≤ 128) {read : Parse (SInt w)} {name : String}
    {p : UInt8} {s : SInt 8} (number : b.Value → SInt w)
    (h : ∀ v, Reads (Guard.holds lib) limit read (b.encode v) (number v))
    (hb : ∀ v, b.Denotes v (.decimal128 p s) ((number v).extend 128 hw)) :
    Fills lib limit b name (.decimal128 p s)
      (fillFixedColumn name (.decimal128 p s) (widenTo128 hw read)) :=
  fills_fixed fun v _ => ⟨_, reads_widenTo128 hw (h v), hb v⟩

/-- Decimals of 32 bits are filled. -/
theorem fills_int32 (name : String) (p : UInt8) (s : SInt 8) :
    Fills lib limit .int32 name (.decimal128 p s)
      (fillFixedColumn name (.decimal128 p s) (widenTo128 SInt.le_32_128 readI32)) :=
  fills_decimal _ id reads_i32 fun _ => rfl

/-- Decimals of 64 bits are filled. -/
theorem fills_int64 (name : String) (p : UInt8) (s : SInt 8) :
    Fills lib limit .int64 name (.decimal128 p s)
      (fillFixedColumn name (.decimal128 p s) (widenTo128 SInt.le_64_128 readI64)) :=
  fills_decimal _ id reads_i64 fun _ => rfl

/-- A column of decimals is filled from 32 or 64 bits, as its precision says. -/
theorem fills_decimalColumn (column : NativeColumnMeta) :
    Fills lib limit (if (column.precision.getD 18).val ≤ 9 then .int32 else .int64) column.name
      (decimalDataType column 18) (fillDecimalColumn column) := by
  by_cases h : (column.precision.getD 18).val ≤ 9
  · have heq : fillDecimalColumn column = fillFixedColumn column.name
        (.decimal128 (decimalPrecisionScale column 18).1 (decimalPrecisionScale column 18).2)
        (widenTo128 SInt.le_32_128 readI32) := by
      funext n
      simp only [fillDecimalColumn, h, decide_true, if_true]
    rw [if_pos h, heq]
    exact fills_int32 _ _ _
  · have heq : fillDecimalColumn column = fillFixedColumn column.name
        (.decimal128 (decimalPrecisionScale column 18).1 (decimalPrecisionScale column 18).2)
        (widenTo128 SInt.le_64_128 readI64) := by
      funext n
      simp only [fillDecimalColumn, h, decide_false, Bool.false_eq_true, if_false]
    rw [if_neg h, heq]
    exact fills_int64 _ _ _

/-- A column of timestamps is filled. -/
theorem fills_timestampColumn (column : NativeColumnMeta) {tz : Option String}
    (h : (match column.wireType with
      | .timestampLocalTz | .timestampUtc => some "UTC"
      | _ => none) = tz) :
    Fills lib limit .timestamp column.name (.timestamp .microsecond tz)
      (fillTimestampColumn lib column) := by
  subst h
  exact fills_fixed fun v _ => reads_timestamp v

/-- A column of byte strings is filled. -/
theorem fills_binaryColumn (hlimit : limit ≤ 2 ^ 63) (name : String) :
    Fills lib limit .bytes name .binary (fillBinaryColumn name) :=
  fills_bytes fun v => ⟨v.val, reads_bytes hlimit _ v.property, rfl, rfl⟩

/-- A column of texts is filled. -/
theorem fills_stringColumn (hlimit : limit ≤ 2 ^ 63) (name : String) :
    Fills lib limit .text name .utf8 (fillStringBuilder lib name) := by
  refine fills_bytes fun v => ⟨String.ofList v.val, ?_, String.toList_ofList, ?_⟩
  · have hread := @reads_text lib limit hlimit (String.ofList v.val)
    rw [String.toList_ofList] at hread
    exact hread v.property
  · show Text.byteLen (String.ofList v.val).toList = Text.byteLen v.val
    rw [String.toList_ofList]

/-- A column of intervals of years and months is filled. -/
theorem fills_yearMonthColumn (hlimit : limit ≤ 2 ^ 63) (name : String) :
    Fills lib limit .yearMonth name (.interval .monthDayNano) (fillIntervalColumn lib name) := by
  refine fills_fixed fun v hv => ?_
  obtain ⟨i, hi, hparts⟩ := @parseInterval_yearMonth lib.overflow v hv.1 hv.2
  exact ⟨i, reads_interval hlimit name (byteLen_yearMonth v) hi, hparts⟩

/-- A column of intervals of days and times is filled. -/
theorem fills_dayTimeColumn (hlimit : limit ≤ 2 ^ 63) (name : String) :
    Fills lib limit .dayTime name (.interval .monthDayNano) (fillIntervalColumn lib name) := by
  refine fills_fixed fun v _ => ?_
  obtain ⟨i, hi, hparts⟩ := @parseInterval_dayTime lib.overflow v
  exact ⟨i, reads_interval hlimit name (byteLen_dayTime v) hi, hparts⟩

/-- **Every column is filled** from values of its form. -/
theorem fills_column (hlimit : limit ≤ 2 ^ 63) (column : NativeColumnMeta) :
    Fills lib limit column.body column.name column.builtType (fillColumnBuilder lib column) := by
  have hwide : ¬(((wholeNumberMeta column integerDecimalPrecision).precision.getD 18).val ≤ 9) := by
    show ¬(integerDecimalPrecision.val ≤ 9)
    decide
  have hinteger :=
    @fills_decimalColumn lib limit (wholeNumberMeta column integerDecimalPrecision)
  rw [if_neg hwide] at hinteger
  unfold NativeColumnMeta.body NativeColumnMeta.builtType fillColumnBuilder
  cases hw : column.wireType with
  | double => exact fills_fixed fun v _ => ⟨v, reads_f64 v, rfl⟩
  | real => exact fills_fixed fun v _ => ⟨widen v, reads_real v⟩
  | integer => exact hinteger
  | smallint => exact fills_int32 _ _ _
  | smalldecimal => exact fills_int32 _ _ _
  | decimal => exact fills_decimalColumn column
  | bigdecimal => exact fills_fixed fun v _ => ⟨v, reads_i128 v, rfl⟩
  | boolean => exact fills_fixed fun v _ => ⟨v, reads_boolean v, rfl⟩
  | binary => exact fills_binaryColumn hlimit _
  | geometry => exact fills_binaryColumn hlimit _
  | hashtype => exact fills_binaryColumn hlimit _
  | intervalYear => exact fills_yearMonthColumn hlimit _
  | intervalDay => exact fills_dayTimeColumn hlimit _
  | date => exact fills_fixed fun v _ => reads_date v
  | timestamp => exact fills_timestampColumn column (by rw [hw])
  | timestampLocalTz => exact fills_timestampColumn column (by rw [hw])
  | timestampUtc => exact fills_timestampColumn column (by rw [hw])
  | char => exact fills_stringColumn hlimit _
  | other id => exact fills_stringColumn hlimit _

/-- A column of a table is read. -/
theorem reads_wireColumn (hlimit : limit ≤ 2 ^ 63) {c : WireColumn} (h : c.Fits lib) :
    ∃ built, Reads (Guard.holds lib) limit (fillColumnBuilder lib c.column c.cells.length) c.encode
        built ∧ (built.1 = c.field ∧ c.HeldBy built.2) := by
  obtain ⟨cs, hreads, hrel⟩ := fills_column hlimit c.column c.cells h.inRange h.room
  exact ⟨_, hreads, rfl, rfl, hrel⟩

/-- What was built for the columns of a table makes a batch. -/
theorem heldBy_columns {cs : List WireColumn} {built : List (Field × Column)} {n : ℕ}
    (h : List.Forall₂ (fun c p => p.1 = c.field ∧ c.HeldBy p.2) cs built)
    (hn : ∀ c ∈ cs, c.cells.length = n) :
    built.map Prod.fst = cs.map WireColumn.field ∧
      List.Forall₂ Field.Admits (built.map Prod.fst) (built.map Prod.snd) ∧
      List.Forall₂ WireColumn.HeldBy cs (built.map Prod.snd) ∧
      ∀ a ∈ built.map Prod.snd, a.length = n := by
  induction h with
  | nil => exact ⟨rfl, .nil, .nil, List.forall_mem_nil _⟩
  | @cons c p cs built hp _ ih =>
    obtain ⟨hfields, hadmits, hheld, hlengths⟩ := ih fun x hx => hn x (List.mem_cons_of_mem c hx)
    obtain ⟨hfield, hc⟩ := hp
    have hadmit : p.1.Admits p.2 := by
      rw [hfield]
      exact ⟨hc.dataType, nofun⟩
    have hlength : p.2.length = n := by
      rw [← hn c List.mem_cons_self, hc.cells.length_eq]
      rfl
    refine ⟨?_, .cons hadmit hadmits, .cons hc hheld, ?_⟩
    · rw [List.map_cons, List.map_cons, hfield, hfields]
    · rw [List.map_cons, List.forall_mem_cons]
      exact ⟨hlength, hlengths⟩

/-- **A table is read back as the batch that holds it.** -/
theorem reads_table (hlimit : limit ≤ 2 ^ 63) {t : Table} (h : ∀ c ∈ t.columns, c.Fits lib) :
    ∃ batch, Reads (Guard.holds lib) limit
        (buildBatchFromWire lib (t.columns.map WireColumn.column) t.rows) t.encode batch ∧
      t.HeldBy batch := by
  have hread : ∀ c ∈ t.columns, ∃ built, Reads (Guard.holds lib) limit
      (fillColumnBuilder lib c.column t.rows) c.encode built ∧
        (built.1 = c.field ∧ c.HeldBy built.2) := by
    intro c hc
    have hlength := t.lengths c hc
    rw [← hlength]
    exact reads_wireColumn hlimit (h c hc)
  obtain ⟨built, hbuilt, hheld⟩ := Reads.mapM hread
  obtain ⟨hfields, hadmits, hcolumns, hlengths⟩ := heldBy_columns hheld t.lengths
  let batch : RecordBatch :=
    ⟨⟨built.map Prod.fst⟩, built.map Prod.snd, t.rows, hadmits, hlengths⟩
  refine ⟨batch, ?_, rfl, hfields, hcolumns⟩
  unfold buildBatchFromWire
  by_cases hnil : t.columns = []
  · have hbuilt : built = [] := by
      rw [hnil] at hheld
      exact List.forall₂_nil_left_iff.mp hheld
    have hbatch : RecordBatch.tryNewWithOptions ⟨[]⟩ [] (some t.rows) = .ok batch := by
      subst hbuilt
      exact RecordBatch.tryNewWithOptions_ok .nil rfl _
    have hencode : t.encode = [] := by
      unfold Table.encode
      rw [hnil]
      rfl
    rw [hnil, hencode, List.map_nil, if_pos rfl, hbatch]
    exact .done
  · have hne : built ≠ [] := fun hbuilt => hnil (List.forall₂_nil_right_iff.mp (hbuilt ▸ hheld))
    obtain ⟨first, rest, hsplit⟩ := List.exists_cons_of_ne_nil hne
    have hrows : rowCount? none (built.map Prod.snd) = some t.rows := by
      rw [hsplit]
      refine congrArg some (hlengths first.2 ?_)
      rw [hsplit]
      exact List.mem_cons_self
    have hbatch : RecordBatch.tryNew ⟨built.map Prod.fst⟩ (built.map Prod.snd) = .ok batch :=
      RecordBatch.tryNewWithOptions_ok hadmits hrows hlengths
    rw [if_neg (by simpa using hnil), List.mapM_map]
    rw [← List.append_nil t.encode]
    refine hbuilt.bind ?_
    rw [hbatch]
    exact .done

/-! ### Values that are refused -/

/-- An interval of too many months is refused. -/
theorem refuses_yearMonth (hlimit : limit ≤ 2 ^ 63) (name : String) {v : YearMonth}
    (h : ¬Body.yearMonth.InRange v) :
    Refuses (Guard.holds lib) limit (readInterval lib name) (Body.yearMonth.encode v) := by
  have hbytes : (Text.bytes v.text).length < 2 ^ 31 := by
    rw [Text.length_bytes]
    exact byteLen_yearMonth v
  have hlist : (String.ofList v.text).toList = v.text := String.toList_ofList
  obtain ⟨e, he⟩ := @parseInterval_yearMonth_overflow lib.overflow v h
  have hdecode := @reads_decodeText lib limit (.protocolError
    ("Invalid UTF-8 in INTERVAL column " ++ name ++ ": " ++
      lib.utf8ErrorText (Text.bytes v.text))) (String.ofList v.text)
  rw [hlist] at hdecode
  have hrefuses : Refuses (Guard.holds lib) limit (readInterval lib name)
      (prefixed (Text.bytes v.text) ++ ([] ++ [])) := by
    refine Refuses.after (reads_bytes hlimit _ hbytes) (Refuses.after hdecode (Refuses.guard ?_))
    rw [hlist, he]
    exact Refuses.fail
  rwa [List.append_nil, List.append_nil] at hrefuses

/-- The reader of a column refuses values that do not fit its Arrow type. -/
def RefusesOutOfRange (lib : Libraries) (limit : ℕ) (b : Body)
    (fill : ℕ → Parse (Field × Column)) : Prop :=
  ∀ cells : List (Option b.Value), (∃ cell ∈ cells, ¬∀ v ∈ cell, b.InRange v) →
    Refuses (Guard.holds lib) limit (fill cells.length) (cells.flatMap b.encodeCell)

/-- A column of intervals refuses too many months. -/
theorem refuses_yearMonthColumn (hlimit : limit ≤ 2 ^ 63) (name : String) :
    RefusesOutOfRange lib limit .yearMonth (fillIntervalColumn lib name) := by
  intro cells hbad
  have htimes : Refuses (Guard.holds lib) limit
      ((readCell (readInterval lib name)).times cells.length)
      (cells.flatMap Body.yearMonth.encodeCell) := by
    refine Refuses.times (fun cell _ hgood => ?_) (fun cell _ hnot => ?_) hbad
    · obtain ⟨c, hc, -⟩ := @reads_cell lib limit .yearMonth _ (readInterval lib name)
        (fun _ _ => True) cell fun v hv => by
          obtain ⟨i, hi, -⟩ := @parseInterval_yearMonth lib.overflow v (hgood v hv).1 (hgood v hv).2
          exact ⟨i, reads_interval hlimit name (byteLen_yearMonth v) hi, trivial⟩
      exact ⟨c, hc⟩
    · cases cell with
      | none => exact absurd nofun hnot
      | some v =>
        have hv : ¬Body.yearMonth.InRange v := fun hv => hnot fun _ h => Option.some.inj h ▸ hv
        exact Refuses.after (reads_u8 1) (refuses_yearMonth hlimit name hv).map
  exact Refuses.guard htimes.map

/-- Only intervals of years and months can be out of range. -/
theorem Body.inRange_of_ne {b : Body} (h : b ≠ .yearMonth) (v : b.Value) : b.InRange v := by
  cases b
  case yearMonth => exact absurd rfl h
  all_goals trivial

/-- **Every column refuses** values that do not fit its Arrow type. -/
theorem refuses_column (hlimit : limit ≤ 2 ^ 63) (column : NativeColumnMeta) :
    RefusesOutOfRange lib limit column.body (fillColumnBuilder lib column) := by
  have hyear := @refuses_yearMonthColumn lib limit hlimit column.name
  unfold NativeColumnMeta.body fillColumnBuilder
  cases hw : column.wireType with
  | intervalYear => exact hyear
  | decimal =>
    rintro cells ⟨cell, -, hbad⟩
    exact absurd (fun v _ => Body.inRange_of_ne (by dsimp only; split <;> decide) v) hbad
  | _ =>
    rintro cells ⟨cell, -, hbad⟩
    exact absurd (fun _ _ => trivial) hbad

/-- **A table of values that do not fit is refused.** -/
theorem refuses_table (hlimit : limit ≤ 2 ^ 63) {t : Table}
    (hroom : ∀ c ∈ t.columns, Room lib c.column.body c.column.builtType c.cells)
    (h : ∃ c ∈ t.columns, ¬∀ cell ∈ c.cells, ∀ v ∈ cell, c.column.body.InRange v) :
    Refuses (Guard.holds lib) limit
      (buildBatchFromWire lib (t.columns.map WireColumn.column) t.rows) t.encode := by
  have hne : t.columns.map WireColumn.column ≠ [] := by
    obtain ⟨c, hc, -⟩ := h
    exact List.ne_nil_of_mem (List.mem_map_of_mem hc)
  unfold buildBatchFromWire
  rw [if_neg hne, List.mapM_map]
  refine Refuses.map (Refuses.mapM (fun c hc hgood => ?_) (fun c hc hbad => ?_) h)
  · obtain ⟨built, hbuilt, -⟩ := reads_wireColumn hlimit ⟨hgood, hroom c hc⟩
    rw [t.lengths c hc] at hbuilt
    exact ⟨built, hbuilt⟩
  · obtain ⟨cell, hcell⟩ := not_forall.mp hbad
    have hcells := @refuses_column lib limit hlimit c.column c.cells
      ⟨cell, Classical.not_imp.mp hcell⟩
    rw [t.lengths c hc] at hcells
    exact hcells

end Read

/-! ### Types -/

/-- The Arrow type of the type that is reported for a column. -/
def reportedType (column : NativeColumnMeta) : Except ConversionError DataType :=
  (exasolTypeOf (nativeMetaToDataType column)).map TypeMapper.exasolToArrow

/-- The digits of a decimal are not clamped if they exist. -/
theorem decimalDataType_of_mem {column : NativeColumnMeta} {p s : SInt 32}
    (hp : column.precision = some p) (hs : column.scale = some s) (h1 : 1 ≤ p.val)
    (h2 : p.val ≤ 38) (h3 : -128 ≤ s.val) (h4 : s.val ≤ 127) (defaultPrecision : SInt 32) :
    decimalDataType column defaultPrecision = .decimal128 (asU8 p.val) (asI8 s.val) := by
  unfold decimalDataType decimalPrecisionScale
  rw [hp, hs, Option.getD_some, Option.getD_some, min_eq_right h2, max_eq_right h1,
    min_eq_right h4, max_eq_right h3]

/-- The digits of a column of integers. -/
theorem decimalDataType_wholeNumberMeta (column : NativeColumnMeta) {p : SInt 32} (h1 : 1 ≤ p.val)
    (h2 : p.val ≤ 38) (defaultPrecision : SInt 32) :
    decimalDataType (wholeNumberMeta column p) defaultPrecision =
      .decimal128 (asU8 p.val) (asI8 (0 : SInt 32).val) :=
  decimalDataType_of_mem rfl rfl h1 h2 (by decide) (by decide) defaultPrecision

/-- **The values of a column are delivered in the type that is reported for it.** -/
theorem reportedType_eq {column : NativeColumnMeta} (h : column.Regular) :
    reportedType column = .ok column.builtType := by
  obtain ⟨hbinary, hdecimal⟩ := h
  have hdigits (hmem : column.wireType ∈ [WireType.decimal, .smalldecimal, .bigdecimal])
      (defaultPrecision : SInt 32) :
      (exasolTypeOf { typeName := "DECIMAL"
                      precision := column.precision
                      scale := column.scale }).map TypeMapper.exasolToArrow =
        .ok (decimalDataType column defaultPrecision) := by
    obtain ⟨p, s, hp, hs, h1, h2, h3, h4⟩ := hdecimal hmem
    rw [decimalDataType_of_mem hp hs h1 h2 h3 h4, hp, hs]
    rfl
  unfold reportedType nativeMetaToDataType NativeColumnMeta.builtType
  cases hw : column.wireType with
  | decimal => exact hdigits (by rw [hw]; decide) 18
  | smalldecimal => exact hdigits (by rw [hw]; decide) 9
  | bigdecimal => exact hdigits (by rw [hw]; decide) 36
  | binary => exact absurd hw hbinary
  | char =>
    dsimp only
    split <;> rfl
  | integer =>
    exact congrArg Except.ok (decimalDataType_wholeNumberMeta column (by decide) (by decide) _).symm
  | smallint =>
    exact congrArg Except.ok (decimalDataType_wholeNumberMeta column (by decide) (by decide) _).symm
  | _ => rfl

/-! ### Tables -/

/-- **A table of any columns is read back**: whatever comes before and after it, the batch
holds its values and absent values, the offset ends where the table does, and the fields
have the reported types. -/
theorem buildBatchFromWire_encode (lib : Libraries) (t : Table) (h : ∀ c ∈ t.columns, c.Fits lib)
    (o : ℕ) (post : List UInt8) (hlt : o + t.encode.length + post.length < 2 ^ 63) :
    ∃ batch, (buildBatchFromWire lib (t.columns.map WireColumn.column) t.rows).run
        (Guard.holds lib) o (t.encode ++ post) = .ok (batch, o + t.encode.length, post) ∧
      t.HeldBy batch ∧
      List.Forall₂ (fun c f => c.column.Regular → reportedType c.column = .ok f.dataType)
        t.columns batch.schema.fields := by
  obtain ⟨batch, hreads, hheld⟩ := reads_table le_rfl h
  refine ⟨batch, hreads o post hlt, hheld, ?_⟩
  rw [hheld.fields, List.forall₂_map_right_iff]
  exact List.forall₂_same.mpr fun c _ hc => reportedType_eq hc

/-- A small table: a decimal of nine digits and a text, in two rows. -/
def smallTable : Table where
  columns :=
    [⟨{ name := "N", typeId := 6, precision := some 9, scale := some 2 },
        [some (1234 : SInt 32), none]⟩,
      ⟨{ name := "S", typeId := 10, isVarchar := true, maxLen := some 10 },
        [some ⟨['x'], by decide⟩, none]⟩]
  rows := 2
  lengths := List.forall_mem_cons.mpr ⟨rfl, List.forall_mem_singleton.mpr rfl⟩

theorem buildBatchFromWire_encode_small :
    ∃ batch, (buildBatchFromWire plainLibraries (smallTable.columns.map WireColumn.column) 2).run
        (Guard.holds plainLibraries) 8 (smallTable.encode ++ [255]) =
          .ok (batch, 8 + smallTable.encode.length, [255]) ∧
      smallTable.HeldBy batch ∧
      List.Forall₂ (fun c f => c.column.Regular → reportedType c.column = .ok f.dataType)
        smallTable.columns batch.schema.fields := by
  refine buildBatchFromWire_encode plainLibraries smallTable ?_ 8 [255] (by decide)
  have hrange (c : WireColumn) (hc : c ∈ smallTable.columns) :
      ∀ cell ∈ c.cells, ∀ v ∈ cell, c.column.body.InRange v := by
    intro cell _ v _
    rcases List.mem_cons.mp hc with rfl | hc
    · trivial
    · obtain rfl := List.mem_singleton.mp hc
      trivial
  refine List.forall_mem_cons.mpr ⟨⟨hrange _ List.mem_cons_self, rfl, by decide, by decide⟩,
    List.forall_mem_singleton.mpr ⟨hrange _ ?_, rfl, by decide, by decide⟩⟩
  exact List.mem_cons_of_mem _ List.mem_cons_self

/-- The nanoseconds of a timestamp since 1970-01-01. -/
def instantNanos (v : WireDate × TimeOfDay) : ℤ :=
  v.1.date.dayNumber * 86400000000000 +
    ((v.2.hour * 3600 + v.2.minute * 60 + v.2.second : ℕ) * 1000000000 + v.2.nanos : ℕ)

/-- The first nanosecond of a year. -/
def firstNanosecond : WireDate × TimeOfDay :=
  (⟨⟨2024, 1, 1, Calendar.january, by decide⟩, by decide⟩, ⟨0, 0, 0, 1, by decide⟩)

/-- A table of this timestamp. -/
def nanosecondTable : Table where
  columns := [⟨{ name := "T", typeId := 21 }, [some firstNanosecond]⟩]
  rows := 1
  lengths := List.forall_mem_singleton.mpr rfl

/-- A timestamp loses what it has below a microsecond. -/
theorem timestamp_below_micros :
    ∃ batch a, (buildBatchFromWire plainLibraries
          (nanosecondTable.columns.map WireColumn.column) 1).run (Guard.holds plainLibraries) 0
        nanosecondTable.encode = .ok (batch, 12, []) ∧
      batch.columns = [⟨.timestamp .microsecond none, [some a]⟩] ∧
      a.val * 1000 ≠ instantNanos firstNanosecond := by
  have hfits : ∀ c ∈ nanosecondTable.columns, c.Fits plainLibraries := by
    refine List.forall_mem_singleton.mpr ⟨?_, rfl, by decide, by decide⟩
    exact List.forall_mem_singleton.mpr fun v _ => trivial
  obtain ⟨batch, hreads, hheld⟩ := @reads_table plainLibraries (2 ^ 63) le_rfl nanosecondTable hfits
  obtain ⟨⟨t, cells⟩, columns, ⟨htype, hcells⟩, hnil, hcolumns⟩ :=
    List.forall₂_cons_left_iff.mp hheld.columns
  obtain rfl := List.forall₂_nil_left_iff.mp hnil
  obtain rfl : t = .timestamp .microsecond none := htype
  have hcells : List.Forall₂ (Option.Rel fun (v : WireDate × TimeOfDay) (x : SInt 64) =>
      x.val = v.1.date.dayNumber * 86400000000 + v.2.micros) [some firstNanosecond] cells := hcells
  obtain ⟨cell, rest, hcell, hrest, rfl⟩ := List.forall₂_cons_left_iff.mp hcells
  obtain rfl := List.forall₂_nil_left_iff.mp hrest
  cases hcell with
  | @some _ a ha =>
    have hlength : 0 + nanosecondTable.encode.length = 12 := rfl
    have hrun := hreads 0 [] (by decide)
    rw [List.append_nil, hlength] at hrun
    refine ⟨batch, a, hrun, hcolumns, ?_⟩
    rw [ha]
    decide

end Exarrow.Native
