import Exarrow.Http.Stream
import Mathlib.Algebra.Group.Nat.Even
import Mathlib.Data.List.DropRight

/-!
# Carriage returns in front of the end of a line

A line ends with a carriage return and a line feed. The reader of a line looks at one byte
behind a carriage return, and takes both for a part of the line unless the second is a line
feed. So carriage returns are taken in pairs, and the one that ends the line may be the
second of a pair.

* `Exarrow.Http.readLineBytes_first` – what the reader does when it comes to the first end
  of a line. It stops there if the carriage returns directly before it come in pairs, and
  otherwise goes on at the line feed.
* `Exarrow.Http.readLine_first_iff` – **the line is read exactly if the number of carriage
  returns directly before its end is even**. Carriage returns further ahead do not matter.
* `Exarrow.Http.overrun_of_readLine` – a line that is read otherwise has its own end in it.
-/

namespace Exarrow.Http

/-- The number of carriage returns at the end of a line. -/
def trailingReturns (line : List UInt8) : ℕ := (line.rtakeWhile (· = 13)).length

variable {line line' stream rest : List UInt8}

theorem trailingReturns_le (line : List UInt8) : trailingReturns line ≤ line.length :=
  (List.rtakeWhile_suffix _ line).length_le

/-- A byte in front counts only if it and all bytes behind it are carriage returns. -/
theorem trailingReturns_cons (b : UInt8) (line : List UInt8) : trailingReturns (b :: line) =
    if trailingReturns line = line.length ∧ b = 13 then line.length + 1
    else trailingReturns line := by
  have happend := @List.takeWhile_append _ (fun c : UInt8 => decide (c = 13)) line.reverse [b]
  simp only [trailingReturns, List.rtakeWhile, List.length_reverse, List.reverse_cons, happend]
  split_ifs <;> simp_all

/-- A carriage return and the byte behind it change nothing about the parity. -/
theorem even_trailingReturns_pair (c : UInt8) (line : List UInt8) :
    Even (trailingReturns (13 :: c :: line)) ↔ Even (trailingReturns line) := by
  have hle := trailingReturns_le line
  have hpair := trailingReturns_cons 13 (c :: line)
  have hsecond := trailingReturns_cons c line
  rw [List.length_cons] at hpair
  simp only [Nat.even_iff]
  split_ifs at hsecond with hall
  · rw [if_pos ⟨hsecond, rfl⟩] at hpair
    omega
  · rw [if_neg (fun h => by omega)] at hpair
    omega

/-- What has been read of a line stays in front of it. -/
theorem prefix_of_readLineBytes (h : readLineBytes line stream = some (line', rest)) :
    line <+: line' := by
  fun_induction readLineBytes line stream with
  | case1 => cases h
  | case2 => cases h
  | case3 => cases h
  | case4 line stream =>
    cases h
    exact List.prefix_rfl
  | case5 line c stream hc ih => exact (List.prefix_append line _).trans (ih h)
  | case6 line b c stream hb ih => exact (List.prefix_append line _).trans (ih h)

/-- **The reader at the first end of a line.** -/
theorem readLineBytes_first (acc : List UInt8) (hfirst : ¬[13, 10] <:+: line)
    (rest : List UInt8) : readLineBytes acc (line ++ 13 :: 10 :: rest) =
      if Even (trailingReturns line) then some (acc ++ line, rest)
      else readLineBytes (acc ++ line ++ [13]) (10 :: rest) := by
  -- The induction follows the reader, which takes the byte behind a carriage return along.
  induction acc, line using readLineBytes.induct with
  | case1 acc => simp [readLineBytes, trailingReturns]
  | case2 acc =>
    have hodd : ¬Even (trailingReturns [13]) := by decide
    rw [if_neg hodd, List.append_assoc]
    rfl
  | case3 acc b hb ih =>
    have heven : Even (trailingReturns [b]) := by
      rw [trailingReturns_cons, if_neg fun h => hb h.2]
      exact Even.zero
    simp [readLineBytes, heven, hb]
  | case4 acc tail => exact absurd ⟨[], tail, rfl⟩ hfirst
  | case5 acc c tail hc ih =>
    have hrest : ¬[13, 10] <:+: tail := fun h => hfirst (List.infix_cons (List.infix_cons h))
    have hread : readLineBytes acc (13 :: c :: tail ++ 13 :: 10 :: rest) =
        readLineBytes (acc ++ [13, c]) (tail ++ 13 :: 10 :: rest) := by
      simp [readLineBytes, hc]
    have hassoc : acc ++ 13 :: c :: tail = acc ++ [13, c] ++ tail := by simp
    simp only [hread, ih hrest, even_trailingReturns_pair, hassoc]
  | case6 acc b c tail hb ih =>
    have hrest : ¬[13, 10] <:+: c :: tail := fun h => hfirst (List.infix_cons h)
    have hread : readLineBytes acc (b :: c :: tail ++ 13 :: 10 :: rest) =
        readLineBytes (acc ++ [b]) (c :: tail ++ 13 :: 10 :: rest) := by
      simp [readLineBytes, hb]
    have hassoc : acc ++ b :: c :: tail = acc ++ [b] ++ c :: tail := by simp
    have htrail : trailingReturns (b :: c :: tail) = trailingReturns (c :: tail) := by
      rw [trailingReturns_cons, if_neg fun h => hb h.2]
    rw [hread, ih hrest, htrail, hassoc]

/-- What is read past the end of a line has that end in it. -/
theorem overrun_of_readLineBytes {acc : List UInt8} (hfirst : ¬[13, 10] <:+: line)
    (hodd : ¬Even (trailingReturns line)) {r : List UInt8}
    (h : readLineBytes acc (line ++ 13 :: 10 :: rest) = some (line', r)) :
    acc ++ line ++ [13, 10] <+: line' := by
  rw [readLineBytes_first acc hfirst, if_neg hodd] at h
  cases rest with
  | nil => simp [readLineBytes] at h
  | cons b rest =>
    have hnext : readLineBytes (acc ++ line ++ [13] ++ [10]) (b :: rest) = some (line', r) := h
    simpa using prefix_of_readLineBytes hnext

variable {text : List Char}

/-- **A line that is read past its end** has that end in it. -/
theorem overrun_of_readLine (hfirst : ¬[13, 10] <:+: line) (hodd : ¬Even (trailingReturns line))
    {r : List UInt8} (h : readLine (line ++ 13 :: 10 :: rest) = .ok (text, r)) :
    line ++ [13, 10] <+: Text.bytes text := by
  obtain ⟨bytes, hbytes, hdecode⟩ := readLine_eq_ok_iff.mp h
  rw [Text.bytes_of_decode? hdecode]
  exact overrun_of_readLineBytes hfirst hodd hbytes

/-- **The line in front of the first end of a line is read exactly if the carriage returns
directly before that end come in pairs.** -/
theorem readLine_first_iff (htext : Text.decode? line = some text) (hfirst : ¬[13, 10] <:+: line) :
    readLine (line ++ 13 :: 10 :: rest) = .ok (text, rest) ↔ Even (trailingReturns line) := by
  constructor
  · intro h
    by_contra hodd
    have hlen := (overrun_of_readLine hfirst hodd h).length_le
    rw [Text.bytes_of_decode? htext, List.length_append] at hlen
    simp at hlen
  · intro heven
    refine readLine_eq_ok_iff.mpr ⟨line, ?_, htext⟩
    rw [readLineBytes_first [] hfirst, if_pos heven, List.nil_append]

theorem readLine_first_iff_pair :
    readLine ([97, 13, 98, 13, 13] ++ 13 :: 10 :: [99]) = .ok (['a', '\r', 'b', '\r', '\r'], [99]) ↔
      Even (trailingReturns [97, 13, 98, 13, 13]) :=
  readLine_first_iff (by decide) (by decide)

/-- A carriage return directly before the end of a line hides it, so that two lines are read
as one. -/
theorem readLine_odd_return :
    Text.decode? [97, 13] = some ['a', '\r'] ∧ ¬[13, 10] <:+: [97, 13] ∧
      readLine ([97, 13] ++ 13 :: 10 :: [98, 13, 10]) =
        .ok (['a', '\r', '\r', '\n', 'b'], []) := by
  decide

end Exarrow.Http
