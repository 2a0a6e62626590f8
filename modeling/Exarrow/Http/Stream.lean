import Exarrow.Error
import Exarrow.Foundations.Text

/-!
# Reading from a stream

The tunnel of an import or an export is an HTTP connection. What reads from it takes a
number of bytes (`Exarrow.Http.readExact`) or a line that ends with a carriage return and a
line feed (`Exarrow.Http.readLine`). A stream is the bytes that are still to come before it
ends; how they are cut into packets does not show, since both go on reading until they have
what they ask for.

Whatever was read from a stream is read as well when more bytes follow
(`Exarrow.Http.readLine_append`), and a line is read back as it was written
(`Exarrow.Http.readLine_bytes`).
-/

namespace Exarrow.Http

/-- Why nothing can be read. -/
inductive IoError where
  | unexpectedEof
  /-- A line is not a text. -/
  | invalidData (line : List UInt8)
  deriving DecidableEq

/-- The text of an error; that for bytes which are no text comes from a library. -/
def IoError.text (utf8ErrorText : List UInt8 → String) : IoError → String
  | unexpectedEof => "early eof"
  | invalidData line => utf8ErrorText line

/-- The next bytes, so many, and what follows them. -/
def readExact (n : ℕ) (stream : List UInt8) : Except IoError (List UInt8 × List UInt8) :=
  if n ≤ stream.length then .ok (stream.take n, stream.drop n) else .error .unexpectedEof

/-- The bytes up to the end of a line, behind those that have been read of it. -/
def readLineBytes : List UInt8 → List UInt8 → Option (List UInt8 × List UInt8)
  | _, [] => none
  | line, [b] => if b = 13 then none else readLineBytes (line ++ [b]) []
  | line, b :: c :: stream =>
    if b = 13 then
      if c = 10 then some (line, stream) else readLineBytes (line ++ [b, c]) stream
    else readLineBytes (line ++ [b]) (c :: stream)

/-- The next line, and what follows it. -/
def readLine (stream : List UInt8) : Except IoError (List Char × List UInt8) :=
  match readLineBytes [] stream with
  | none => .error .unexpectedEof
  | some (line, rest) =>
    match Text.decode? line with
    | some text => .ok (text, rest)
    | none => .error (.invalidData line)

section Lemmas

variable {line line' stream rest : List UInt8}

theorem readExact_eq_ok {n : ℕ} {bytes : List UInt8} (h : readExact n stream = .ok (bytes, rest)) :
    bytes.length = n ∧ stream = bytes ++ rest := by
  unfold readExact at h
  split at h
  · rename_i hn
    cases h
    exact ⟨List.length_take_of_le hn, (List.take_append_drop n stream).symm⟩
  · cases h

/-- So many bytes are read as they stand. -/
theorem readExact_append {n : ℕ} {bytes : List UInt8} (hn : bytes.length = n) :
    readExact n (bytes ++ rest) = .ok (bytes, rest) := by
  unfold readExact
  rw [if_pos (by rw [List.length_append]; omega), List.take_left' hn, List.drop_left' hn]

/-- What is read of a line is part of the stream, behind which the line ends. -/
theorem length_of_readLineBytes (h : readLineBytes line stream = some (line', rest)) :
    rest.length < stream.length := by
  fun_induction readLineBytes line stream <;> grind

/-- More bytes behind a line change nothing about it. -/
theorem readLineBytes_append (h : readLineBytes line stream = some (line', rest))
    (more : List UInt8) : readLineBytes line (stream ++ more) = some (line', rest ++ more) := by
  fun_induction readLineBytes line stream <;> grind [readLineBytes]

/-- A line without carriage returns is read up to its end. -/
theorem readLineBytes_line (h : (13 : UInt8) ∉ line') (rest : List UInt8) :
    readLineBytes line (line' ++ 13 :: 10 :: rest) = some (line ++ line', rest) := by
  induction line' generalizing line with
  | nil => simp [readLineBytes]
  | cons b line' ih =>
    obtain ⟨hb, hline⟩ : (13 : UInt8) ≠ b ∧ (13 : UInt8) ∉ line' := by simpa using h
    obtain ⟨c, tail, htail⟩ : ∃ c tail, line' ++ 13 :: 10 :: rest = c :: tail :=
      List.exists_cons_of_ne_nil (by simp)
    rw [List.cons_append, htail, readLineBytes, if_neg hb.symm, ← htail, ih hline]
    simp

variable {text : List Char}

theorem readLine_eq_ok_iff : readLine stream = .ok (text, rest) ↔
    ∃ line, readLineBytes [] stream = some (line, rest) ∧ Text.decode? line = some text := by
  unfold readLine
  constructor
  · intro h
    split at h
    · cases h
    · rename_i line rest' hline
      split at h
      · rename_i hdecode
        cases h
        exact ⟨line, hline, hdecode⟩
      · cases h
  · rintro ⟨line, hline, hdecode⟩
    rw [hline]
    dsimp only
    rw [hdecode]

/-- A line takes bytes of the stream. -/
theorem length_of_readLine (h : readLine stream = .ok (text, rest)) :
    rest.length < stream.length := by
  obtain ⟨line, hline, -⟩ := readLine_eq_ok_iff.mp h
  exact length_of_readLineBytes hline

/-- **More bytes behind a line change nothing about it.** -/
theorem readLine_append (h : readLine stream = .ok (text, rest)) (more : List UInt8) :
    readLine (stream ++ more) = .ok (text, rest ++ more) := by
  obtain ⟨line, hline, hdecode⟩ := readLine_eq_ok_iff.mp h
  exact readLine_eq_ok_iff.mpr ⟨line, readLineBytes_append hline more, hdecode⟩

/-- **A line is read back as it was written.** -/
theorem readLine_bytes (h : (13 : UInt8) ∉ Text.bytes text) (rest : List UInt8) :
    readLine (Text.bytes text ++ 13 :: 10 :: rest) = .ok (text, rest) :=
  readLine_eq_ok_iff.mpr ⟨Text.bytes text, readLineBytes_line h rest, Text.decode?_bytes text⟩

end Lemmas

end Exarrow.Http
