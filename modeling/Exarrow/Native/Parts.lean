import Exarrow.Native.Layout
import Exarrow.Native.Safety

/-!
# Parts of a response

The parts of a response as a server writes them. Most kinds end where their own bytes end
(`Exarrow.Native.Leaf`): messages, numbers of rows, result sets with the descriptions of
their columns (`Exarrow.Native.ColumnDescription`) and their values.

**Each of them is read back whatever follows**, as the result that it is
(`Exarrow.Native.reads_leaf`, `Exarrow.Native.reads_legacyPart`), or refused if its values
do not fit the Arrow types (`Exarrow.Native.refuses_leaf`).

A statement handle is followed by parts that describe the statement. They are all that is
left of the response: the parser reads parts until there are no bytes
(`Exarrow.Native.eq_nil_of_run_subResults`), and **at its end they give the description**
(`Exarrow.Native.run_subResults_leaves`).
-/

namespace Exarrow.Native

open Machine Ieee Checked Arrow Wire Calendar

/-! ### Descriptions of columns -/

/-- A text that is sent after its length. -/
abbrev WireText : Type := { s : List Char // Text.byteLen s < 2 ^ 31 }

/-- The bytes of a text are counted by 32 bits. -/
theorem WireText.length_bytes_lt (s : WireText) : (Text.bytes s.val).length < 2 ^ 31 := by
  rw [Text.length_bytes]
  exact s.property

/-- The description of a column, with all that a type may bring. -/
structure ColumnDescription where
  name : WireText
  typeId : UInt32
  precision : SInt 32 := 0
  scale : SInt 32 := 0
  flags : UInt8 := 0
  maxLen : SInt 32 := 0
  octetLen : SInt 32 := 0
  intervalPrecision : SInt 32 := 0
  intervalFraction : SInt 32 := 0

namespace ColumnDescription

/-- The bit and the lengths of a string type. -/
def varchar (d : ColumnDescription) : List UInt8 :=
  [d.flags] ++ (toLE 4 d.maxLen.val ++ toLE 4 d.octetLen.val)

/-- What follows the type. -/
def details (d : ColumnDescription) : List UInt8 :=
  match WireType.ofId d.typeId with
  | .decimal | .smalldecimal | .bigdecimal => toLE 4 d.precision.val ++ toLE 4 d.scale.val
  | .char | .geometry | .hashtype => d.varchar
  | .intervalYear => d.varchar ++ toLE 4 d.intervalPrecision.val
  | .intervalDay =>
    d.varchar ++ (toLE 4 d.intervalPrecision.val ++ toLE 4 d.intervalFraction.val)
  | .timestamp | .timestampLocalTz | .timestampUtc => toLE 4 d.precision.val
  | _ => []

/-- The bytes of a description. -/
def encode (d : ColumnDescription) : List UInt8 :=
  prefixed (Text.bytes d.name.val) ++ (toLE 4 d.typeId.toNat ++ d.details)

/-- What the driver keeps of a description. -/
def columnMeta (d : ColumnDescription) : NativeColumnMeta :=
  let column : NativeColumnMeta := { name := String.ofList d.name.val, typeId := d.typeId }
  match WireType.ofId d.typeId with
  | .decimal | .smalldecimal | .bigdecimal =>
    { column with precision := some d.precision, scale := some d.scale }
  | .char | .geometry | .hashtype | .intervalYear =>
    { column with isVarchar := d.flags &&& isVarcharFlag != 0, maxLen := some d.maxLen }
  | .intervalDay =>
    { column with
      isVarchar := d.flags &&& isVarcharFlag != 0
      maxLen := some d.maxLen
      intervalFraction := some d.intervalFraction }
  | _ => column

end ColumnDescription

section Read

variable {lib : Libraries} {limit : ℕ}

/-- The bytes of an integer are those of what it wraps to. -/
theorem toLE_wrap {n : ℕ} (hn : 0 < 8 * n) (x : ℤ) :
    toLE n (SInt.wrap (8 * n) hn x).val = toLE n x := by
  unfold toLE
  rw [SInt.val_wrap]
  have h := Int.bmod_emod (x := x) (m := 2 ^ (8 * n))
  push_cast at h
  rw [h]

/-- The number of a type is a number of 32 bits with a sign, of the same bytes. -/
theorem exists_typeId (id : UInt32) : ∃ packed : SInt 32,
    toLE 4 packed.val = toLE 4 id.toNat ∧ UInt32.ofNat (packed.val % 2 ^ 32).toNat = id := by
  have hlt := id.toNat_lt
  refine ⟨SInt.wrap 32 SInt.pos_32 id.toNat, @toLE_wrap 4 (by norm_num) _, ?_⟩
  have hmod : (SInt.wrap 32 SInt.pos_32 (id.toNat : ℤ)).val % 2 ^ 32 = id.toNat := by
    have h : (id.toNat : ℤ).bmod (2 ^ 32) % ((2 ^ 32 : ℕ) : ℤ) = id.toNat % ((2 ^ 32 : ℕ) : ℤ) :=
      Int.bmod_emod
    rw [SInt.val_wrap]
    norm_num at h hlt ⊢
    omega
  rw [hmod, Int.toNat_natCast]
  exact UInt32.ofNat_toNat

/-- The bit and the length of a string type are read. -/
theorem reads_varchar (what : String) (d : ColumnDescription) :
    Reads (Guard.holds lib) limit (readVarchar what) d.varchar
      (d.flags &&& isVarcharFlag != 0, d.maxLen) := by
  have hflags : Reads (Guard.holds lib) limit (.take 1
      (.protocolError (what ++ " metadata truncated")) fun bs => .done (bs.headD 0) : Parse UInt8)
      [d.flags] d.flags :=
    @Reads.take _ _ _ _ _ _ [d.flags] _ _ .done
  exact hflags.bind ((reads_i32 d.maxLen).bind ((reads_i32 d.octetLen).map _))

/-- **The description of a column is read.** -/
theorem reads_columnMeta (hlimit : limit ≤ 2 ^ 63) (d : ColumnDescription) :
    Reads (Guard.holds lib) limit (parseColumnMeta lib) d.encode d.columnMeta := by
  have hname := d.name.length_bytes_lt
  have hdecode := @reads_decodeText lib limit (.protocolError
    ("Invalid column name UTF-8: " ++ lib.utf8ErrorText (Text.bytes d.name.val)))
    (String.ofList d.name.val)
  rw [String.toList_ofList] at hdecode
  obtain ⟨packed, hbytes, hid⟩ := exists_typeId d.typeId
  have hencode : d.encode =
      prefixed (Text.bytes d.name.val) ++ ([] ++ (toLE 4 packed.val ++ d.details)) := by
    rw [hbytes]
    rfl
  rw [hencode]
  refine (reads_bytes hlimit _ hname).bind (hdecode.bind ((reads_i32 packed).bind ?_))
  dsimp only
  rw [hid]
  unfold ColumnDescription.details ColumnDescription.columnMeta
  cases WireType.ofId d.typeId with
  | decimal => exact (reads_i32 d.precision).bind ((reads_i32 d.scale).map _)
  | smalldecimal => exact (reads_i32 d.precision).bind ((reads_i32 d.scale).map _)
  | bigdecimal => exact (reads_i32 d.precision).bind ((reads_i32 d.scale).map _)
  | char => exact (reads_varchar "CHAR" d).map _
  | geometry => exact (reads_varchar "CHAR" d).map _
  | hashtype => exact (reads_varchar "CHAR" d).map _
  | intervalYear =>
    exact (reads_varchar "INTERVAL" d).bind ((reads_i32 d.intervalPrecision).map _)
  | intervalDay =>
    exact (reads_varchar "INTERVAL" d).bind ((reads_i32 d.intervalPrecision).bind
      ((reads_i32 d.intervalFraction).map _))
  | timestamp => exact (reads_i32 d.precision).map _
  | timestampLocalTz => exact (reads_i32 d.precision).map _
  | timestampUtc => exact (reads_i32 d.precision).map _
  | _ => exact .done

end Read

/-! ### Result sets -/

/-- A column of a result set: its description and its cells. -/
structure DescribedColumn where
  description : ColumnDescription
  cells : List (Option description.columnMeta.body.Value)

/-- The column as a column of a table. -/
def DescribedColumn.wireColumn (c : DescribedColumn) : WireColumn :=
  ⟨c.description.columnMeta, c.cells⟩

/-- A result set as a server writes it. -/
structure WireResultSet where
  handle : SInt 32
  totalRows : SInt 64
  rowsReceived : SInt 64
  columns : List DescribedColumn
  rows_nonneg : 0 ≤ rowsReceived.val
  columns_lt : columns.length < 2 ^ 31
  lengths : ∀ c ∈ columns, c.cells.length = rowsReceived.val.toNat

namespace WireResultSet

/-- The table of a result set. -/
def table (r : WireResultSet) : Table where
  columns := r.columns.map DescribedColumn.wireColumn
  rows := r.rowsReceived.val.toNat
  lengths := List.forall_mem_map.mpr r.lengths

/-- The descriptions of the columns, as the driver keeps them. -/
def metas (r : WireResultSet) : List NativeColumnMeta :=
  r.columns.map fun c => c.description.columnMeta

/-- The numbers of a result set and the descriptions of its columns. -/
def head (r : WireResultSet) : List UInt8 :=
  toLE 4 r.handle.val ++ (toLE 4 r.columns.length ++ (toLE 8 r.totalRows.val ++
    (toLE 8 r.rowsReceived.val ++ r.columns.flatMap fun c => c.description.encode)))

/-- The bytes of a result set. -/
def encode (r : WireResultSet) : List UInt8 := r.head ++ r.table.encode

/-- There is room for the columns. -/
structure Room (lib : Libraries) (r : WireResultSet) : Prop where
  columns : lib.grants (.columns r.columns.length) = true
  cells : ∀ c ∈ r.table.columns, Native.Room lib c.column.body c.column.builtType c.cells

/-- The values fit their Arrow types. -/
def InRange (r : WireResultSet) : Prop :=
  ∀ c ∈ r.table.columns, ∀ cell ∈ c.cells, ∀ v ∈ cell, c.column.body.InRange v

/-- The response is the result set: its numbers, its columns and, if it has columns, a
batch that holds its table. -/
def Answers (r : WireResultSet) (response : NativeResponse) : Prop :=
  ∃ batch, response = .resultSet r.handle r.metas batch r.totalRows r.rowsReceived ∧
    (r.columns = [] → batch = none) ∧
    (r.columns ≠ [] → ∃ b, batch = some b ∧ r.table.HeldBy b)

end WireResultSet

section Read

variable {lib : Libraries} {limit : ℕ}

/-- What is done with the values of a result set. -/
def WireResultSet.rest (lib : Libraries) (r : WireResultSet) : Parse NativeResponse :=
  if r.columns = [] then
    .done (.resultSet r.handle r.metas none r.totalRows r.rowsReceived)
  else (buildBatchFromWire lib r.metas r.table.rows).bind fun batch =>
    .done (.resultSet r.handle r.metas (some batch) r.totalRows r.rowsReceived)

/-- What comes before the values of a result set is passed. -/
theorem passes_resultSet (hlimit : limit ≤ 2 ^ 63) {r : WireResultSet} (hroom : r.Room lib) :
    Passes (Guard.holds lib) limit (parseResultSetAt lib) r.head (r.rest lib) := by
  obtain ⟨numColumns, hnum⟩ : ∃ numColumns : SInt 32, numColumns.val = r.columns.length :=
    ⟨⟨r.columns.length, by norm_num, by exact_mod_cast r.columns_lt⟩, rfl⟩
  have hsize : asUsize numColumns.val = r.columns.length := by
    have := r.columns_lt
    unfold asUsize
    rw [hnum]
    omega
  have hguard : (Guard.columns numColumns).holds lib = true := by
    show lib.grants (.columns (asUsize numColumns.val)) = true
    rw [hsize]
    exact hroom.columns
  obtain ⟨metas, hmetas, hrel⟩ := @Reads.times _ _ _ _ (Guard.holds lib) limit (parseColumnMeta lib)
    (fun c : DescribedColumn => c.description.encode) (fun c m => c.description.columnMeta = m)
    r.columns fun c _ => ⟨_, reads_columnMeta hlimit c.description, rfl⟩
  obtain rfl : r.metas = metas := by
    rw [← List.forall₂_eq_eq_eq]
    exact List.forall₂_map_left_iff.mpr hrel
  rw [← hsize] at hmetas
  unfold WireResultSet.head
  rw [← hnum]
  refine (reads_i32 r.handle).passes.trans ((reads_i32 numColumns).passes.trans
    ((reads_i64 r.totalRows).passes.trans ((reads_i64 r.rowsReceived).passes.trans ?_)))
  rw [if_neg (not_lt.mpr r.rows_nonneg)]
  have hzero : r.columns = [] ↔ numColumns.val = 0 := by
    rw [hnum, Int.natCast_eq_zero, List.length_eq_zero_iff]
  have hrest : r.rest lib = if numColumns.val = 0 then
      .done (.resultSet r.handle r.metas none r.totalRows r.rowsReceived)
    else (buildBatchFromWire lib r.metas r.rowsReceived.val.toNat).bind fun batch =>
      .done (.resultSet r.handle r.metas (some batch) r.totalRows r.rowsReceived) :=
    if_congr hzero rfl rfl
  rw [hrest]
  exact (passes_guard hguard).trans hmetas.passes

theorem WireResultSet.columns_table (r : WireResultSet) :
    r.table.columns = r.columns.map DescribedColumn.wireColumn := rfl

theorem WireResultSet.metas_eq (r : WireResultSet) :
    r.metas = r.table.columns.map WireColumn.column := by
  rw [r.columns_table, List.map_map]
  rfl

/-- **A result set is read**, if its values fit. -/
theorem reads_resultSet (hlimit : limit ≤ 2 ^ 63) {r : WireResultSet} (hroom : r.Room lib)
    (h : r.InRange) : ∃ response, Reads (Guard.holds lib) limit (parseResultSetAt lib) r.encode
      response ∧ r.Answers response := by
  have hpasses := passes_resultSet hlimit hroom
  unfold WireResultSet.rest at hpasses
  by_cases hnil : r.columns = []
  · have hencode : r.encode = r.head ++ [] := by
      unfold WireResultSet.encode Table.encode
      rw [r.columns_table, hnil]
      rfl
    rw [if_pos hnil] at hpasses
    refine ⟨_, ?_, none, rfl, fun _ => rfl, fun h => absurd hnil h⟩
    rw [hencode]
    exact hpasses.reads .done
  · obtain ⟨batch, hbatch, hheld⟩ := @reads_table lib limit hlimit r.table
      fun c hc => ⟨h c hc, hroom.cells c hc⟩
    rw [← r.metas_eq] at hbatch
    rw [if_neg hnil] at hpasses
    exact ⟨_, hpasses.reads (hbatch.map _), some batch, rfl, fun h => absurd h hnil,
      fun _ => ⟨batch, rfl, hheld⟩⟩

/-- A result set is refused if its values do not fit. -/
theorem refuses_resultSet (hlimit : limit ≤ 2 ^ 63) {r : WireResultSet} (hroom : r.Room lib)
    (h : ¬r.InRange) : Refuses (Guard.holds lib) limit (parseResultSetAt lib) r.encode := by
  have hpasses := passes_resultSet hlimit hroom
  unfold WireResultSet.rest at hpasses
  by_cases hnil : r.columns = []
  · refine absurd (fun c hc => ?_) h
    rw [r.columns_table, hnil] at hc
    cases hc
  · rw [if_neg hnil, r.metas_eq] at hpasses
    obtain ⟨c, hc⟩ := not_forall.mp h
    exact hpasses.refuses (refuses_table hlimit hroom.cells ⟨c, Classical.not_imp.mp hc⟩).map

end Read

/-! ### Parts that end where their bytes end -/

/-- A message with a state of five bytes. -/
structure WireMessage where
  text : WireText
  state : { s : List Char // Text.byteLen s = 5 }

namespace WireMessage

/-- The bytes of a message. -/
def encode (m : WireMessage) : List UInt8 :=
  prefixed (Text.bytes m.text.val) ++ Text.bytes m.state.val

/-- The message as the driver keeps it. -/
def warning (m : WireMessage) : NativeWarning :=
  ⟨String.ofList m.text.val, String.ofList m.state.val⟩

end WireMessage

/-- A part that ends where its bytes end. -/
inductive Leaf where
  | warning (m : WireMessage)
  | exception (m : WireMessage)
  | rowCount (count : SInt 64)
  | empty
  | resultSet (r : WireResultSet)

namespace Leaf

/-- The byte of the kind of a part. -/
def code : Leaf → UInt8
  | warning _ => 4
  | exception _ => 255
  | rowCount _ => 0
  | empty => 254
  | resultSet _ => 1

/-- The kind of a part. -/
def kind : Leaf → ResponseType
  | warning _ => .warning
  | exception _ => .exception
  | rowCount _ => .rowCount
  | empty => .empty
  | resultSet _ => .resultSet

/-- The byte of a part stands for its kind. -/
theorem ofCode_code (l : Leaf) : ResponseType.ofCode (asI8 l.code.toNat).val = some l.kind := by
  have hcode (c : UInt8) (k : ResponseType) (h : ResponseType.ofCode (asI8 c.toNat).val = some k)
      (hc : l.code = c) (hk : l.kind = k) :
      ResponseType.ofCode (asI8 l.code.toNat).val = some l.kind := by
    rw [hc, hk, h]
  cases l with
  | warning m => exact hcode 4 .warning (by decide +kernel) rfl rfl
  | exception m => exact hcode 255 .exception (by decide +kernel) rfl rfl
  | rowCount count => exact hcode 0 .rowCount (by decide +kernel) rfl rfl
  | empty => exact hcode 254 .empty (by decide +kernel) rfl rfl
  | resultSet r => exact hcode 1 .resultSet (by decide +kernel) rfl rfl

/-- The bytes behind the kind. -/
def body : Leaf → List UInt8
  | warning m => m.encode
  | exception m => m.encode
  | rowCount count => toLE 8 count.val
  | empty => []
  | resultSet r => r.encode

/-- The bytes of a part. -/
def encode (l : Leaf) : List UInt8 := l.code :: l.body

/-- The part is a result. -/
def isTerminal : Leaf → Bool
  | warning _ => false
  | _ => true

/-- The warnings of a part. -/
def warnings : Leaf → List NativeWarning
  | warning m => [m.warning]
  | _ => []

/-- There is room for the columns of a part. -/
def Room (lib : Libraries) : Leaf → Prop
  | resultSet r => r.Room lib
  | _ => True

/-- The values of a part fit their Arrow types. -/
def InRange : Leaf → Prop
  | resultSet r => r.InRange
  | _ => True

/-- The response is the result that the part is; a warning is none. -/
def Answers : Leaf → NativeResponse → Prop
  | warning _, _ => False
  | exception m, response => response = .exception m.warning.message m.warning.sqlState
  | rowCount count, response => response = .rowCount count
  | empty, response => response = .empty
  | resultSet r, response => r.Answers response

end Leaf

section Read

variable {lib : Libraries} {limit : ℕ}

/-- **A message is read** with its state. -/
theorem reads_message (hlimit : limit ≤ 2 ^ 63) (m : WireMessage) :
    Reads (Guard.holds lib) limit (parseMessagePart lib) m.encode m.warning := by
  have hdecode := @reads_decodeText lib limit (.protocolError
    ("Invalid exception UTF-8: " ++ lib.utf8ErrorText (Text.bytes m.text.val)))
    (String.ofList m.text.val)
  rw [String.toList_ofList] at hdecode
  have hlength : (Text.bytes m.state.val).length = 5 := by
    rw [Text.length_bytes]
    exact m.state.property
  have hstate : Reads (Guard.holds lib) limit (.take 5 (truncated "u8") .done : Parse (List UInt8))
      (Text.bytes m.state.val) (Text.bytes m.state.val) := by
    have htake : Reads (Guard.holds lib) limit (.take (Text.bytes m.state.val).length
        (truncated "u8") .done : Parse (List UInt8)) (Text.bytes m.state.val) _ := .take .done
    rwa [hlength] at htake
  refine (reads_bytes hlimit _ m.text.length_bytes_lt).bind
    (@Reads.bind _ _ _ _ _ _ _ _ _ _ [] _ hdecode ?_)
  intro o post hlt
  show Reader.run _ (if 5 ≤ (Text.bytes m.state.val ++ post).length then _ else _) o _ = _
  rw [if_pos (by rw [List.length_append, hlength]; omega)]
  refine (hstate.map _ o post hlt).trans ?_
  rw [Text.decode?_bytes]
  rfl

/-- The kind of a part is read. -/
theorem reads_i8 (c : UInt8) : Reads (Guard.holds lib) limit readI8 [c] (asI8 c.toNat) :=
  (reads_u8 c).map _

/-- The reader of a result. -/
def Leaf.read (lib : Libraries) : Leaf → Parse NativeResponse
  | warning _ => .done .empty
  | exception _ => parseExceptionAt lib
  | rowCount _ => parseRowCountAt
  | empty => .done .empty
  | resultSet _ => parseResultSetAt lib

/-- **The result that a part is, is read.** -/
theorem reads_leaf (hlimit : limit ≤ 2 ^ 63) {l : Leaf} (ht : l.isTerminal = true)
    (hroom : l.Room lib) (h : l.InRange) :
    ∃ response, Reads (Guard.holds lib) limit (l.read lib) l.body response ∧
      l.Answers response := by
  cases l with
  | warning m => cases ht
  | exception m => exact ⟨_, (reads_message hlimit m).map _, rfl⟩
  | rowCount count => exact ⟨_, (reads_i64 count).map _, rfl⟩
  | empty => exact ⟨_, .done, rfl⟩
  | resultSet r => exact reads_resultSet hlimit hroom h

/-- A result whose values do not fit is refused. -/
theorem refuses_leaf (hlimit : limit ≤ 2 ^ 63) {l : Leaf} (hroom : l.Room lib) (h : ¬l.InRange) :
    l.isTerminal = true ∧ Refuses (Guard.holds lib) limit (l.read lib) l.body := by
  cases l with
  | resultSet r => exact ⟨rfl, refuses_resultSet hlimit hroom h⟩
  | _ => exact absurd trivial h

/-- What a single part is read as. -/
structure Leaf.Opens (l : Leaf) (envelope : NativeResponseEnvelope) : Prop where
  warnings : envelope.warnings = l.warnings
  terminal : l.isTerminal = true → l.Answers envelope.terminal
  empty : l.isTerminal = false → envelope.terminal = .empty

/-- **A part is read where parts are not counted**, whatever reads the parts within
others. -/
theorem reads_legacyBody (hlimit : limit ≤ 2 ^ 63) {l : Leaf} (hroom : l.Room lib)
    (h : l.InRange) : ∃ envelope, (∀ sub, Reads (Guard.holds lib) limit
        (parseLegacyResponseBody lib sub (asI8 l.code.toNat)) l.body envelope) ∧
      l.Opens envelope := by
  have hleaf := fun ht => @reads_leaf lib limit hlimit l ht hroom h
  unfold parseLegacyResponseBody
  rw [l.ofCode_code]
  cases l with
  | warning m =>
    exact ⟨_, fun _ => (reads_message hlimit m).map _, rfl, nofun, fun _ => rfl⟩
  | exception m =>
    obtain ⟨response, hread, hanswers⟩ := hleaf rfl
    exact ⟨_, fun _ => hread.map _, rfl, fun _ => hanswers, nofun⟩
  | rowCount count =>
    obtain ⟨response, hread, hanswers⟩ := hleaf rfl
    exact ⟨_, fun _ => hread.map _, rfl, fun _ => hanswers, nofun⟩
  | empty => exact ⟨_, fun _ => .done, rfl, fun _ => rfl, nofun⟩
  | resultSet r =>
    obtain ⟨response, hread, hanswers⟩ := hleaf rfl
    exact ⟨_, fun _ => hread.map _, rfl, fun _ => hanswers, nofun⟩

/-- There a part is refused if its values do not fit. -/
theorem refuses_legacyBody (hlimit : limit ≤ 2 ^ 63) {l : Leaf} (hroom : l.Room lib)
    (h : ¬l.InRange) (sub : Parse NativeResponseEnvelope) :
    Refuses (Guard.holds lib) limit (parseLegacyResponseBody lib sub (asI8 l.code.toNat))
      l.body := by
  obtain ⟨-, hrefuses⟩ := @refuses_leaf lib limit hlimit l hroom h
  unfold parseLegacyResponseBody
  rw [l.ofCode_code]
  cases l with
  | resultSet r => exact hrefuses.map
  | _ => exact absurd trivial h

/-- The kind of a part comes first. -/
theorem run_parseLegacyPart_cons (c : UInt8) (bs : List UInt8) (o : ℕ) :
    (parseLegacyPart lib).run (Guard.holds lib) o (c :: bs) =
      (readI8.bind (parseLegacyResponseBody lib (parseLegacyResponseAt lib bs.length))).run
        (Guard.holds lib) o (c :: bs) := by
  have hnext : parseLegacyResponseAt lib (bs.length + 1) =
      readI8.bind (parseLegacyResponseBody lib (parseLegacyResponseAt lib bs.length)) := rfl
  rw [← hnext]
  exact (run_parseLegacyResponseAt le_rfl).symm

/-- **A part is read among the parts of a reply to a preparation.** -/
theorem reads_legacyPart (hlimit : limit ≤ 2 ^ 63) {l : Leaf} (hroom : l.Room lib)
    (h : l.InRange) : ∃ envelope, Reads (Guard.holds lib) limit (parseLegacyPart lib) l.encode
      envelope ∧ l.Opens envelope := by
  obtain ⟨envelope, hread, hopens⟩ := reads_legacyBody hlimit hroom h
  refine ⟨envelope, ?_, hopens⟩
  intro o post hlt
  exact (run_parseLegacyPart_cons l.code (l.body ++ post) o).trans
    ((reads_i8 l.code).bind (hread _) o post hlt)

/-- There a part is refused if its values do not fit. -/
theorem refuses_legacyPart (hlimit : limit ≤ 2 ^ 63) {l : Leaf} (hroom : l.Room lib)
    (h : ¬l.InRange) : Refuses (Guard.holds lib) limit (parseLegacyPart lib) l.encode := by
  intro o post hlt r hr
  rw [Leaf.encode, List.cons_append, run_parseLegacyPart_cons] at hr
  exact Refuses.after (reads_i8 l.code) (refuses_legacyBody hlimit hroom h _) o post hlt r hr

end Read

/-! ### The reply to a preparation -/

/-- The part is an exception. -/
def Leaf.isException : Leaf → Bool
  | exception _ => true
  | _ => false

/-- What a part adds to the description of a statement. -/
def Description.addLeaf (d : Description) : Leaf → Description
  | .warning m => { d with warnings := d.warnings ++ [m.warning] }
  | .resultSet r =>
    if r.handle = parameterDescription then { d with parameters := r.metas }
    else { d with resultColumns := r.metas }
  | _ => d

/-- The description that parts give. -/
def describe (subs : List Leaf) : Description := subs.foldl Description.addLeaf {}

theorem Description.warnings_addLeaf (d : Description) (l : Leaf) :
    (d.addLeaf l).warnings = d.warnings ++ l.warnings := by
  cases l with
  | warning m => rfl
  | resultSet r =>
    unfold Description.addLeaf Leaf.warnings
    dsimp only
    split <;> exact (List.append_nil _).symm
  | _ => exact (List.append_nil _).symm

/-- The warnings of a description are those of its parts, in order. -/
theorem warnings_foldl_addLeaf (d : Description) (subs : List Leaf) :
    (subs.foldl Description.addLeaf d).warnings = d.warnings ++ subs.flatMap Leaf.warnings := by
  induction subs generalizing d with
  | nil => exact (List.append_nil _).symm
  | cons l subs ih =>
    rw [List.foldl_cons, ih, d.warnings_addLeaf, List.append_assoc, List.flatMap_cons]

section Read

variable {lib : Libraries}

/-- What a part was read as is added to the description. -/
theorem add_of_opens {l : Leaf} (hl : l.isException = false) {envelope : NativeResponseEnvelope}
    (h : l.Opens envelope) (d : Description) : d.add envelope = .done (d.addLeaf l) := by
  obtain ⟨warnings, terminal⟩ := envelope
  obtain ⟨hwarnings, hterminal, hempty⟩ := h
  dsimp only at hwarnings hterminal hempty
  subst hwarnings
  cases l with
  | warning m =>
    rw [hempty rfl]
    rfl
  | exception m => cases hl
  | rowCount count =>
    rw [hterminal rfl]
    show Reader.done { d with warnings := d.warnings ++ [] } = _
    rw [List.append_nil]
    rfl
  | empty =>
    rw [hterminal rfl]
    show Reader.done { d with warnings := d.warnings ++ [] } = _
    rw [List.append_nil]
    rfl
  | resultSet r =>
    obtain ⟨batch, rfl, -, -⟩ := hterminal rfl
    unfold Description.add Description.addLeaf Leaf.warnings
    simp only [List.append_nil]
    split <;> rfl

/-- **The parts up to the end of the response describe the statement.** -/
theorem run_subResults_leaves {subs : List Leaf} (hroom : ∀ l ∈ subs, l.Room lib)
    (h : ∀ l ∈ subs, l.InRange ∧ l.isException = false) {n : ℕ} {d : Description} {o : ℕ}
    (hn : (subs.flatMap Leaf.encode).length ≤ n)
    (hlt : o + (subs.flatMap Leaf.encode).length < 2 ^ 63) :
    (subResults (parseLegacyPart lib) n d).run (Guard.holds lib) o (subs.flatMap Leaf.encode) =
      .ok (subs.foldl Description.addLeaf d, o + (subs.flatMap Leaf.encode).length, []) := by
  induction subs generalizing n d o with
  | nil => cases n <;> rfl
  | cons l subs ih =>
    obtain ⟨hrange, hexception⟩ := h l List.mem_cons_self
    obtain ⟨envelope, hread, hopens⟩ :=
      @reads_legacyPart lib (2 ^ 63) le_rfl l (hroom l List.mem_cons_self) hrange
    have hsplit : (l :: subs).flatMap Leaf.encode = l.encode ++ subs.flatMap Leaf.encode := rfl
    have hlen : l.encode.length = l.body.length + 1 := rfl
    rw [hsplit, List.length_append] at hn hlt ⊢
    cases n with
    | zero => omega
    | succ n =>
      have hrun := hread o (subs.flatMap Leaf.encode) (by omega)
      show ((parseLegacyPart lib).bind fun response =>
        (d.add response).bind fun d => subResults (parseLegacyPart lib) n d).run _ o _ = _
      rw [Reader.run_bind, hrun]
      show ((d.add envelope).bind fun d => subResults (parseLegacyPart lib) n d).run _ _ _ = _
      rw [add_of_opens hexception hopens]
      have htail := ih (fun x hx => hroom x (List.mem_cons_of_mem l hx))
        (fun x hx => h x (List.mem_cons_of_mem l hx)) (n := n) (d := d.addLeaf l)
        (o := o + l.encode.length) (by omega) (by omega)
      rw [Nat.add_assoc] at htail
      exact htail

/-- The reply to a preparation is not read if the values of a part of it do not fit. -/
theorem run_subResults_ne_ok {subs : List Leaf} (hroom : ∀ l ∈ subs, l.Room lib)
    (hexception : ∀ l ∈ subs, l.isException = false) (h : ∃ l ∈ subs, ¬l.InRange) {n : ℕ}
    {d : Description} {o : ℕ} (hn : (subs.flatMap Leaf.encode).length ≤ n)
    (hlt : o + (subs.flatMap Leaf.encode).length < 2 ^ 63) {r : Description × ℕ × List UInt8} :
    (subResults (parseLegacyPart lib) n d).run (Guard.holds lib) o (subs.flatMap Leaf.encode) ≠
      .ok r := by
  induction subs generalizing n d o with
  | nil =>
    obtain ⟨l, hl, -⟩ := h
    cases hl
  | cons l subs ih =>
    have hl := hroom l List.mem_cons_self
    have hsplit : (l :: subs).flatMap Leaf.encode = l.encode ++ subs.flatMap Leaf.encode := rfl
    have hlen : l.encode.length = l.body.length + 1 := rfl
    rw [hsplit, List.length_append] at hn hlt
    rw [hsplit]
    cases n with
    | zero => omega
    | succ n =>
      show ((parseLegacyPart lib).bind fun response =>
        (d.add response).bind fun d => subResults (parseLegacyPart lib) n d).run _ o _ ≠ _
      rw [Reader.run_bind]
      by_cases hrange : l.InRange
      · obtain ⟨envelope, hread, hopens⟩ := @reads_legacyPart lib (2 ^ 63) le_rfl l hl hrange
        rw [hread o (subs.flatMap Leaf.encode) (by omega)]
        show ((d.add envelope).bind fun d => subResults (parseLegacyPart lib) n d).run _ _ _ ≠ _
        rw [add_of_opens (hexception l List.mem_cons_self) hopens]
        exact ih (fun x hx => hroom x (List.mem_cons_of_mem l hx))
          (fun x hx => hexception x (List.mem_cons_of_mem l hx))
          ((List.exists_mem_cons_iff ..).mp h |>.resolve_left (not_not_intro hrange))
          (o := o + l.encode.length) (by omega) (by omega)
      · intro hrun
        obtain ⟨x, hx, -⟩ := bind_eq_ok.mp hrun
        exact @refuses_legacyPart lib (2 ^ 63) le_rfl l hl hrange o _ (by omega) x hx

/-- **The parts of the reply to a preparation are all that is left.** -/
theorem eq_nil_of_run_subResults {n : ℕ} {d d' : Description} {o o' : ℕ} {bs bs' : List UInt8}
    (hn : bs.length ≤ n)
    (h : (subResults (parseLegacyPart lib) n d).run (Guard.holds lib) o bs = .ok (d', o', bs')) :
    bs' = [] := by
  induction n generalizing d o bs with
  | zero =>
    obtain rfl := List.eq_nil_of_length_eq_zero (Nat.le_zero.mp hn)
    cases h
    rfl
  | succ n ih =>
    cases bs with
    | nil =>
      cases h
      rfl
    | cons b bs =>
      have hbind : ((parseLegacyPart lib).bind fun response =>
          (d.add response).bind fun d => subResults (parseLegacyPart lib) n d).run
            (Guard.holds lib) o (b :: bs) = .ok (d', o', bs') := h
      rw [Reader.run_bind] at hbind
      obtain ⟨⟨response, o₁, bs₁⟩, hr, hbind⟩ := bind_eq_ok.mp hbind
      dsimp only at hbind
      rw [Reader.run_bind] at hbind
      obtain ⟨⟨d₁, o₂, bs₂⟩, hd, hrest⟩ := bind_eq_ok.mp hbind
      have hlt := progress_parseLegacyPart hr
      have hle := length_le_of_run hd
      rw [List.length_cons] at hlt hn
      have hn' : bs₂.length ≤ n := by omega
      exact ih hn' hrest

end Read

end Exarrow.Native
