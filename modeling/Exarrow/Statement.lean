import Exarrow.Error
import Exarrow.Foundations.FloatText
import Exarrow.Foundations.Text

/-!
# Statements

A statement is the text of an SQL command with values for its placeholders
(`Exarrow.Statement`). `Exarrow.Statement.buildSql` puts the values in place, as
SQL literals (`Exarrow.Parameter.toSqlLiteral`). A question mark is a placeholder
when the scanner meets it outside literals, quoted identifiers and comments
(`Exarrow.scanPlaceholders`); positions are byte offsets.
-/

namespace Exarrow

open Machine Ieee Numeral

/-! ### Parameters -/

/-- The value of a parameter. -/
inductive Parameter where
  | null
  | boolean (b : Bool)
  | integer (i : SInt 64)
  | float (f : F64)
  | string (s : String)
  | binary (b : List UInt8)
  deriving DecidableEq

/-- The lower-case hexadecimal digit of a number below sixteen. -/
def hexDigit (n : ℕ) : Char := Nat.digitChar n

/-- Bytes as lower-case hexadecimal text. -/
def hexEncode (b : List UInt8) : List Char :=
  b.flatMap fun x => [hexDigit (x.toNat / 16), hexDigit (x.toNat % 16)]

/-- The upper-case form of a character, as far as it has letters of the basic
alphabet: a character without any keeps standing for itself. -/
def upperChar (c : Char) : List Char :=
  match c.toNat with
  | 0xDF => ['S', 'S'] | 0x131 => ['I'] | 0x149 => ['\u02BC', 'N'] | 0x17F => ['S']
  | 0x1F0 => ['J', '\u030C'] | 0x1E96 => ['H', '\u0331'] | 0x1E97 => ['T', '\u0308']
  | 0x1E98 => ['W', '\u030A'] | 0x1E99 => ['Y', '\u030A'] | 0x1E9A => ['A', '\u02BE']
  | 0xFB00 => ['F', 'F'] | 0xFB01 => ['F', 'I'] | 0xFB02 => ['F', 'L']
  | 0xFB03 => ['F', 'F', 'I'] | 0xFB04 => ['F', 'F', 'L'] | 0xFB05 => ['S', 'T']
  | 0xFB06 => ['S', 'T']
  | _ => [c.toUpper]

/-- Whether a text occurs in another one. -/
def occursIn (pattern : List Char) : List Char → Bool
  | [] => pattern.isEmpty
  | c :: s => pattern.isPrefixOf (c :: s) || occursIn pattern s

/-- The texts that count as an attempted injection. -/
def injectionPatterns : List String :=
  ["'; DROP", "'; DELETE", "'; UPDATE", "'; INSERT", "' OR '1'='1", "' OR 1=1", "' OR TRUE",
    "UNION SELECT", "EXEC(", "EXECUTE("]

namespace Parameter

/-- Whether a text holds one of the patterns, in any letter case. -/
def containsSqlInjectionPattern (s : List Char) : Bool :=
  injectionPatterns.any fun p => occursIn p.toList (s.flatMap upperChar)

/-- The SQL literal of a parameter. -/
def toSqlLiteral : Parameter → Except QueryError (List Char)
  | null => .ok "NULL".toList
  | boolean b => .ok (if b then "TRUE".toList else "FALSE".toList)
  | integer i => .ok (intText i.val)
  | float f =>
    if f.isSpecial then
      .error (.parameterBindingError 0 "NaN and Infinity are not supported")
    else .ok (F64.display f)
  | string s =>
    if containsSqlInjectionPattern s.toList then .error .sqlInjectionDetected
    else .ok ('\'' :: s.toList.flatMap (fun c => if c = '\'' then ['\'', '\''] else [c]) ++ ['\''])
  | binary b => .ok ('\'' :: hexEncode b ++ ['\''])

end Parameter

/-! ### Placeholders -/

/-- Where the scanner is. -/
inductive ScanState where
  | normal
  | singleQuoted
  | doubleQuoted
  | lineComment
  | blockComment
  deriving DecidableEq

/-- What one scanned character means. -/
structure ScanStep where
  /-- Where the scanner is after it. -/
  state : ScanState
  /-- Whether it is a placeholder. -/
  isPlaceholder : Bool := false
  /-- Whether the next character belongs to it and is skipped. -/
  consumedPair : Bool := false

/-- A character outside literals and comments. -/
def stepOutsideLiteral (c : Char) (next : Option UInt8) : ScanStep :=
  if c = '?' then { state := .normal, isPlaceholder := true }
  else if c = '\'' then { state := .singleQuoted }
  else if c = '"' then { state := .doubleQuoted }
  else if c = '-' ∧ next = some 0x2D then { state := .lineComment, consumedPair := true }
  else if c = '/' ∧ next = some 0x2A then { state := .blockComment, consumedPair := true }
  else { state := .normal }

/-- A character inside quotes: a doubled quote stays inside, a single one closes. -/
def stepInsideQuotes (state : ScanState) (quote : Char) (c : Char) (next : Option UInt8) :
    ScanStep :=
  if c ≠ quote then { state := state }
  else if next = some (UInt8.ofNat quote.toNat) then { state := state, consumedPair := true }
  else { state := .normal }

/-- A character inside a line comment. -/
def stepInsideLineComment (c : Char) : ScanStep :=
  if c = '\n' then { state := .normal } else { state := .lineComment }

/-- A character inside a block comment. -/
def stepInsideBlockComment (c : Char) (next : Option UInt8) : ScanStep :=
  if c = '*' ∧ next = some 0x2F then { state := .normal, consumedPair := true }
  else { state := .blockComment }

/-- Feed one character, and the byte after its first one, to the scanner. -/
def scanStep (state : ScanState) (c : Char) (next : Option UInt8) : ScanStep :=
  match state with
  | .normal => stepOutsideLiteral c next
  | .singleQuoted => stepInsideQuotes .singleQuoted '\'' c next
  | .doubleQuoted => stepInsideQuotes .doubleQuoted '"' c next
  | .lineComment => stepInsideLineComment c
  | .blockComment => stepInsideBlockComment c next

/-- The scan from a byte offset; `skip` says that the next character belongs to
the one before. -/
def scanFrom : ScanState → Bool → ℕ → List Char → List ℕ
  | _, _, _, [] => []
  | state, true, i, c :: s => scanFrom state false (i + c.utf8Size) s
  | state, false, i, c :: s =>
    let step := scanStep state c (Text.bytes (c :: s.take 1))[1]?
    let rest := scanFrom step.state step.consumedPair (i + c.utf8Size) s
    if step.isPlaceholder then i :: rest else rest

/-- The byte offsets of the placeholders of an SQL text. -/
def scanPlaceholders (sql : List Char) : List ℕ := scanFrom .normal false 0 sql

/-! ### Statements -/

/-- A statement: its text, the values of its parameters by position, and its own
timeout in milliseconds. -/
structure Statement where
  /-- The SQL text. -/
  sql : String
  /-- The bound parameters. -/
  parameters : List (Option Parameter) := []
  /-- The timeout in milliseconds, if the statement has one. -/
  timeoutMs : Option UInt64 := none
  deriving DecidableEq

namespace Statement

/-- A statement without parameters and timeout. -/
def new (sql : String) : Statement := { sql := sql }

/-- Replace the character at a byte offset by a text. -/
def replaceAt (literal : List Char) : ℕ → List Char → List Char
  | _, [] => []
  | 0, _ :: s => literal ++ s
  | n + 1, c :: s => c :: replaceAt literal (n + 1 - c.utf8Size) s
termination_by structural _ s => s

/-- Replace the placeholders from the last to the first, the positions and the
parameters being given in that order. -/
def substitute : List (ℕ × ℕ) → List (Option Parameter) → List Char → Except QueryError (List Char)
  | [], _, sql => .ok sql
  | (index, pos) :: rest, parameters, sql => do
    match parameters[index]? with
    | some (some p) => substitute rest parameters (replaceAt (← p.toSqlLiteral) pos sql)
    | _ => .error (.parameterBindingError index "Parameter not bound")

/-- The SQL text with the parameters in place. -/
def buildSql (stmt : Statement) : Except QueryError String :=
  let positions := scanPlaceholders stmt.sql.toList
  if stmt.parameters.length < positions.length then
    .error (.parameterBindingError stmt.parameters.length "Not enough parameters bound")
  else
    (substitute ((List.range positions.length).zip positions).reverse stmt.parameters
      stmt.sql.toList).map String.ofList

/-- A text without placeholders is sent as it is. -/
theorem buildSql_of_scanPlaceholders_eq_nil {stmt : Statement}
    (h : scanPlaceholders stmt.sql.toList = []) : stmt.buildSql = .ok stmt.sql := by
  unfold buildSql
  rw [h, if_neg (by simp)]
  exact congrArg Except.ok (String.ofList_toList)

example : scanPlaceholders "SELECT '?' , ? -- ?".toList = [13] := by decide

end Statement

end Exarrow
