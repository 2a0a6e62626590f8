import Exarrow.Foundations.Numeral
import Exarrow.Types

/-!
# Types in DDL

The text of an Exasol type in a `CREATE TABLE` statement (`Exarrow.ExasolType.toDdlType`).
-/

namespace Exarrow

open Numeral

/-- The precision of the leading field with which intervals are written. -/
def intervalLeadingPrecision : ℕ := 9

/-- **The text of a type in DDL.** -/
def ExasolType.toDdlType : ExasolType → List Char
  | boolean => "BOOLEAN".toList
  | char size => "CHAR(".toList ++ natText size ++ ")".toList
  | varchar size => "VARCHAR(".toList ++ natText size ++ ")".toList
  | decimal precision scale =>
    "DECIMAL(".toList ++ natText precision.toNat ++ ",".toList ++ intText scale.val ++ ")".toList
  | double => "DOUBLE".toList
  | date => "DATE".toList
  | timestamp true => "TIMESTAMP WITH LOCAL TIME ZONE".toList
  | timestamp false => "TIMESTAMP".toList
  | intervalYearToMonth =>
    "INTERVAL YEAR(".toList ++ natText intervalLeadingPrecision ++ ") TO MONTH".toList
  | intervalDayToSecond precision =>
    "INTERVAL DAY(".toList ++ natText intervalLeadingPrecision ++ ") TO SECOND(".toList ++
      natText precision.toNat ++ ")".toList
  | geometry (some srid) => "GEOMETRY(".toList ++ intText srid.val ++ ")".toList
  | geometry none => "GEOMETRY".toList
  | hashtype size => "HASHTYPE(".toList ++ natText size ++ " BYTE)".toList

end Exarrow
