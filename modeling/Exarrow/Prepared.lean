import Exarrow.Statement
import Exarrow.Types

/-!
# Prepared statements

A prepared statement knows its handle on the server and how many parameters it
takes. Rows of parameters are turned into columns of JSON values
(`Exarrow.PreparedStatement.buildBatchParametersData`): **the value at column `c`
and row `r` is that of parameter `c` of row `r`**
(`Exarrow.PreparedStatement.getElem_buildBatchParametersData`).
-/

namespace Exarrow

open Machine

/-- A handle to a prepared statement on the server. -/
structure PreparedStatementHandle where
  /-- The number by which the server knows the statement. -/
  handle : SInt 32
  /-- The number of parameters. -/
  numParams : SInt 32
  /-- The types of the parameters, as far as the server reported them. -/
  parameterTypes : List Messages.DataType := []
  /-- The names of the parameters, as far as the server reported them. -/
  parameterNames : List (Option String) := []
  /-- The columns of the result, none for a statement that counts rows. -/
  resultColumns : List Messages.ColumnInfo := []
  deriving DecidableEq

/-- A prepared statement. -/
structure PreparedStatement where
  /-- The handle on the server. -/
  handle : PreparedStatementHandle
  /-- The bound parameters. -/
  parameters : List (Option Parameter) := []
  /-- Whether the statement has been closed. -/
  closed : Bool := false
  deriving DecidableEq

/-- A parameter as a JSON value. -/
def parameterToJson : Parameter → Json.Value
  | .null => .null
  | .boolean b => .bool b
  | .integer i => Json.ofI64 i
  | .float f => Json.ofFloat f
  | .string s => .string s
  | .binary b => .string (String.ofList (hexEncode b))

namespace PreparedStatement

/-- The number of parameters that the statement takes. -/
def parameterCount (stmt : PreparedStatement) : ℕ := asUsize stmt.handle.numParams.val

/-- A statement as it is after its preparation: no parameter is bound. -/
def new (handle : PreparedStatementHandle) : PreparedStatement where
  handle := handle
  parameters := List.replicate (asUsize handle.numParams.val) none

/-- Rows of parameters as columns of JSON values; none for no rows. -/
def buildBatchParametersData (stmt : PreparedStatement) (rows : List (List Parameter)) :
    Except QueryError (Option (List (List Json.Value))) :=
  if rows = [] then .ok none
  else
    match rows.findIdx? fun row => row.length ≠ stmt.parameterCount with
    | some i =>
      .error (.parameterBindingError i (s!"Row {i} has {(rows[i]?.getD []).length} parameters " ++
        s!"but statement expects {stmt.parameterCount}"))
    | none => .ok (some ((List.range stmt.parameterCount).map fun c =>
        rows.map fun row => parameterToJson (row[c]?.getD .null)))

/-- The bound parameters as columns of one JSON value each; none for a statement
without parameters. -/
def buildParametersData (stmt : PreparedStatement) :
    Except QueryError (Option (List (List Json.Value))) :=
  if stmt.parameters = [] then .ok none
  else
    match stmt.parameters.findIdx? Option.isNone with
    | some i => .error (.parameterBindingError i s!"Parameter {i} is not bound")
    | none => .ok (some (stmt.parameters.map fun p => [parameterToJson (p.getD .null)]))

/-- What a successful call says of its rows and gives. -/
theorem buildBatchParametersData_eq_ok {stmt : PreparedStatement} {rows : List (List Parameter)}
    {data : Option (List (List Json.Value))} (h : stmt.buildBatchParametersData rows = .ok data) :
    (rows = [] ∧ data = none) ∨ (rows ≠ [] ∧ (∀ row ∈ rows, row.length = stmt.parameterCount) ∧
      data = some ((List.range stmt.parameterCount).map fun c =>
        rows.map fun row => parameterToJson (row[c]?.getD .null))) := by
  unfold buildBatchParametersData at h
  split at h
  · rename_i hnil
    cases h
    exact .inl ⟨hnil, rfl⟩
  · rename_i hne
    split at h
    · cases h
    · rename_i hall
      cases h
      refine .inr ⟨hne, fun row hrow => ?_, rfl⟩
      have hrow' := List.findIdx?_eq_none_iff.mp hall row hrow
      simpa using hrow'

/-- **Nothing moves**: the value at a column and a row is that of the row's
parameter at the column. -/
theorem getElem_buildBatchParametersData {stmt : PreparedStatement}
    {rows : List (List Parameter)} {columns : List (List Json.Value)}
    (h : stmt.buildBatchParametersData rows = .ok (some columns)) (c r : ℕ) :
    (columns[c]?.bind fun col => col[r]?) =
      rows[r]?.bind fun row => row[c]?.map parameterToJson := by
  obtain ⟨-, hnone⟩ | ⟨-, hlen, hdata⟩ := buildBatchParametersData_eq_ok h
  · cases hnone
  · rw [Option.some.inj hdata, List.getElem?_map]
    cases hrow : rows[r]? with
    | none =>
      cases hc : (List.range stmt.parameterCount)[c]? with
      | none => rfl
      | some c' =>
        rw [Option.map_some, Option.bind_some, List.getElem?_map, hrow]
        rfl
    | some row =>
      have hl := hlen row (List.mem_of_getElem? hrow)
      rcases Nat.lt_or_ge c stmt.parameterCount with hc | hc
      · have hget : row[c]? = some (row.get ⟨c, hl ▸ hc⟩) := List.getElem?_eq_getElem _
        rw [List.getElem?_range hc, Option.map_some, Option.bind_some, List.getElem?_map, hrow,
          Option.map_some, Option.bind_some, hget]
        rfl
      · have hnone : (List.range stmt.parameterCount)[c]? = none :=
          List.getElem?_eq_none (by simpa using hc)
        have hnone' : row[c]? = none := List.getElem?_eq_none (hl ▸ hc)
        rw [hnone, Option.bind_some, hnone']
        rfl

end PreparedStatement

end Exarrow
