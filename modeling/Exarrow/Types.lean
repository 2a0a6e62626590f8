import Exarrow.Error

/-!
# Exasol types and their Arrow types

The types of result columns as a server names them (`Exarrow.Messages.DataType`),
as the driver knows them (`Exarrow.ExasolType`), and as Arrow types. A type that
the server names is resolved by `Exarrow.exasolTypeOf`, which has a default for
every attribute, and by `Exarrow.parseExasolType`, which requires some of them;
where both succeed they agree (`Exarrow.exasolTypeOf_of_parseExasolType`). The
schema of a result is `Exarrow.buildSchema`.
-/

namespace Exarrow

open Machine Arrow

/-! ### Casts -/

/-- The cast of an integer to eight bits without sign. -/
def asU8 (x : ℤ) : UInt8 := UInt8.ofNat (x % 256).toNat

/-- The cast of an integer to eight bits with sign. -/
def asI8 (x : ℤ) : SInt 8 := SInt.wrap 8 SInt.pos_8 x

/-- The cast of an integer to an array size of 64 bits. -/
def asUsize (x : ℤ) : ℕ := (x % 2 ^ 64).toNat

/-! ### Types as a server names them -/

namespace Messages

/-- An Exasol data type as the server describes it. -/
structure DataType where
  /-- The name of the type. -/
  typeName : String
  /-- The precision, for numeric types. -/
  precision : Option (SInt 32) := none
  /-- The scale, for decimal types. -/
  scale : Option (SInt 32) := none
  /-- The size, for string types. -/
  size : Option (SInt 64) := none
  /-- The character set, for string types. -/
  characterSet : Option String := none
  /-- Whether a timestamp type is with local time zone. -/
  withLocalTimeZone : Option Bool := none
  /-- The fraction digits, for interval types. -/
  fraction : Option (SInt 32) := none
  /-- The spatial reference identifier, for geometry types. -/
  srid : Option (SInt 32) := none
  deriving DecidableEq

/-- A column of a result. -/
structure ColumnInfo where
  /-- The name of the column. -/
  name : String
  /-- The type of the column. -/
  dataType : DataType
  deriving DecidableEq

end Messages

/-! ### Types as the driver knows them -/

/-- An Exasol data type. -/
inductive ExasolType where
  | boolean
  | char (size : ℕ)
  | varchar (size : ℕ)
  | decimal (precision : UInt8) (scale : SInt 8)
  | double
  | date
  | timestamp (withLocalTimeZone : Bool)
  | intervalYearToMonth
  | intervalDayToSecond (precision : UInt8)
  | geometry (srid : Option (SInt 32))
  | hashtype (byteSize : ℕ)
  deriving DecidableEq

namespace ExasolType

/-- The HASHTYPE of a column whose rendered values have the given size: two
characters a byte, and 16 bytes when no size is reported. -/
def hashtypeFromReportedSize (reported : Option (SInt 64)) : ExasolType :=
  .hashtype (match reported with
    | some size => asUsize (size.val.tdiv 2)
    | none => 16)

/-- The name of the type without parameters. -/
def typeName : ExasolType → String
  | boolean => "BOOLEAN"
  | char _ => "CHAR"
  | varchar _ => "VARCHAR"
  | decimal .. => "DECIMAL"
  | double => "DOUBLE"
  | date => "DATE"
  | timestamp true => "TIMESTAMP WITH LOCAL TIME ZONE"
  | timestamp false => "TIMESTAMP"
  | intervalYearToMonth => "INTERVAL YEAR TO MONTH"
  | intervalDayToSecond _ => "INTERVAL DAY TO SECOND"
  | geometry _ => "GEOMETRY"
  | hashtype _ => "HASHTYPE"

/-- The type in the JSON form in which a field carries it: an object with the
name of the type and its parameters. -/
def toJsonText : ExasolType → String
  | boolean => "\x7b\"type\":\"BOOLEAN\"\x7d"
  | char size => "\x7b\"type\":\"CHAR\",\"size\":" ++ toString size ++ "\x7d"
  | varchar size => "\x7b\"type\":\"VARCHAR\",\"size\":" ++ toString size ++ "\x7d"
  | decimal p s =>
    "\x7b\"type\":\"DECIMAL\",\"precision\":" ++ toString p ++ ",\"scale\":" ++ toString s.val ++
      "\x7d"
  | double => "\x7b\"type\":\"DOUBLE\"\x7d"
  | date => "\x7b\"type\":\"DATE\"\x7d"
  | timestamp tz =>
    "\x7b\"type\":\"TIMESTAMP\",\"with_local_time_zone\":" ++ toString tz ++ "\x7d"
  | intervalYearToMonth => "\x7b\"type\":\"INTERVAL YEAR TO MONTH\"\x7d"
  | intervalDayToSecond p =>
    "\x7b\"type\":\"INTERVAL DAY TO SECOND\",\"precision\":" ++ toString p ++ "\x7d"
  | geometry (some srid) =>
    "\x7b\"type\":\"GEOMETRY\",\"srid\":" ++ toString srid.val ++ "\x7d"
  | geometry none => "\x7b\"type\":\"GEOMETRY\",\"srid\":null\x7d"
  | hashtype size => "\x7b\"type\":\"HASHTYPE\",\"byte_size\":" ++ toString size ++ "\x7d"

end ExasolType

namespace TypeMapper

/-- The Arrow type of an Exasol type. -/
def exasolToArrow : ExasolType → DataType
  | .boolean => .boolean
  | .char _ | .varchar _ => .utf8
  | .decimal precision scale => .decimal128 precision scale
  | .double => .float64
  | .date => .date32
  | .timestamp true => .timestamp .microsecond (some "UTC")
  | .timestamp false => .timestamp .microsecond none
  | .intervalYearToMonth | .intervalDayToSecond _ => .interval .monthDayNano
  | .geometry _ | .hashtype _ => .binary

/-- The metadata of a field that preserves its Exasol type. -/
def createFieldMetadata (t : ExasolType) : List (String × String) :=
  [("exasol:type", t.toJsonText), ("exasol:type_name", t.typeName)] ++
    match t with
    | .char size | .varchar size => [("exasol:size", toString size)]
    | .decimal p s => [("exasol:precision", toString p), ("exasol:scale", toString s.val)]
    | .geometry (some srid) => [("exasol:srid", toString srid.val)]
    | _ => []

end TypeMapper

/-! ### Resolving a type by its name -/

/-- The Exasol type that a column description names, with a default for every
attribute that is not given. -/
def exasolTypeOf (t : Messages.DataType) : Except ConversionError ExasolType :=
  match t.typeName with
  | "BOOLEAN" => .ok .boolean
  | "CHAR" => .ok (.char (t.size.elim 1 fun n => asUsize n.val))
  | "VARCHAR" => .ok (.varchar (t.size.elim 2000000 fun n => asUsize n.val))
  | "DECIMAL" =>
    .ok (.decimal (asU8 (t.precision.elim 18 SInt.val)) (asI8 (t.scale.elim 0 SInt.val)))
  | "DOUBLE" => .ok .double
  | "DATE" => .ok .date
  | "TIMESTAMP" => .ok (.timestamp (t.withLocalTimeZone.getD false))
  | "TIMESTAMP WITH LOCAL TIME ZONE" => .ok (.timestamp true)
  | "INTERVAL YEAR TO MONTH" => .ok .intervalYearToMonth
  | "INTERVAL DAY TO SECOND" => .ok (.intervalDayToSecond (asU8 (t.fraction.elim 3 SInt.val)))
  | "GEOMETRY" => .ok (.geometry t.srid)
  | "HASHTYPE" => .ok (.hashtypeFromReportedSize t.size)
  | _ => .error (.unsupportedType t.typeName)

/-- An attribute that must be given for the named type. -/
def requiredAttribute {α : Type} (value : Option α) (typeName key : String) :
    Except ConversionError α :=
  match value with
  | some a => .ok a
  | none => .error (.invalidFormat s!"{typeName} type missing {key}")

/-- The Exasol type that a column description names, where the sizes of strings
and the digits of decimals must be given. -/
def parseExasolType (t : Messages.DataType) : Except ConversionError ExasolType :=
  match t.typeName with
  | "BOOLEAN" => .ok .boolean
  | "CHAR" => do
    let size ← requiredAttribute t.size "CHAR" "size"
    return .char (asUsize size.val)
  | "VARCHAR" => do
    let size ← requiredAttribute t.size "VARCHAR" "size"
    return .varchar (asUsize size.val)
  | "DECIMAL" => do
    let precision ← requiredAttribute t.precision "DECIMAL" "precision"
    let scale ← requiredAttribute t.scale "DECIMAL" "scale"
    return .decimal (asU8 precision.val) (asI8 scale.val)
  | "DOUBLE" => .ok .double
  | "DATE" => .ok .date
  | "TIMESTAMP" => .ok (.timestamp (t.withLocalTimeZone.getD false))
  | "TIMESTAMP WITH LOCAL TIME ZONE" => .ok (.timestamp true)
  | "INTERVAL YEAR TO MONTH" => .ok .intervalYearToMonth
  | "INTERVAL DAY TO SECOND" => .ok (.intervalDayToSecond (asU8 (t.fraction.elim 3 SInt.val)))
  | "GEOMETRY" => .ok (.geometry t.srid)
  | "HASHTYPE" => .ok (.hashtypeFromReportedSize t.size)
  | _ => .error (.unsupportedType t.typeName)

/-- **A type that the strict reading accepts is the one the lenient reading
gives.** -/
theorem exasolTypeOf_of_parseExasolType {t : Messages.DataType} {e : ExasolType}
    (h : parseExasolType t = .ok e) : exasolTypeOf t = .ok e := by
  unfold parseExasolType at h
  unfold exasolTypeOf
  split at h
  · exact h
  · cases hs : t.size with
    | none => rw [hs] at h; cases h
    | some n => rw [hs] at h; exact h
  · cases hs : t.size with
    | none => rw [hs] at h; cases h
    | some n => rw [hs] at h; exact h
  · cases hp : t.precision with
    | none => rw [hp] at h; cases h
    | some p =>
      cases hs : t.scale with
      | none => rw [hp, hs] at h; cases h
      | some s => rw [hp, hs] at h; exact h
  all_goals exact h

/-! ### The schema of a result -/

/-- Metadata of a result column. -/
structure ColumnMetadata where
  /-- The name of the column. -/
  name : String
  /-- The type of the column. -/
  dataType : ExasolType
  /-- Whether the column may hold nulls. -/
  nullable : Bool

/-- The schema of the given columns. -/
def SchemaBuilder.build (columns : List ColumnMetadata) : Schema where
  fields := columns.map fun col =>
    { name := col.name
      dataType := TypeMapper.exasolToArrow col.dataType
      nullable := col.nullable
      metadata := TypeMapper.createFieldMetadata col.dataType }

/-- The schema of a result: every field may hold nulls. -/
def buildSchema (columns : List Messages.ColumnInfo) : Except ConversionError Schema := do
  let metadata ← columns.mapM fun col => do
    let t ← exasolTypeOf col.dataType
    return { name := col.name, dataType := t, nullable := true }
  return SchemaBuilder.build metadata

end Exarrow
