import Exarrow.Csv.Files
import Exarrow.Import.Formatters

/-!
# Options of imports of Arrow data

Arrow data is sent as CSV text that the program writes itself, so only some options of the writer
reach the statement of the import (`Exarrow.Import.csvImportOptions`).
-/

namespace Exarrow.Import

open Csv

/-- The options of an import of Arrow data. -/
structure ArrowImportOptions where
  schema : Option (List Char) := none
  columns : Option (List (List Char)) := none
  csvOptions : CsvWriterOptions := {}
  useTls : Bool := false
  host : List Char := []
  port : UInt16 := 0

/-- The options of the CSV import behind an import of Arrow data. -/
def csvImportOptions (options : ArrowImportOptions) : CsvImportOptions where
  encoding := "UTF-8".toList
  columnSeparator := options.csvOptions.columnSeparator
  columnDelimiter := options.csvOptions.columnDelimiter
  rowSeparator := .lf
  skipRows := 0
  nullValue := if options.csvOptions.nullValue.isEmpty then none
    else some options.csvOptions.nullValue
  trimMode := .none
  compression := .none
  rejectLimit := none
  useTls := options.useTls
  schema := options.schema
  columns := options.columns
  host := options.host
  port := options.port

end Exarrow.Import
