import Mathlib.Data.List.Infix
import Mathlib.Tactic.Common

/-!
# Decoding bytes while they arrive

A decoder reads from an input that is not complete yet. It asks the input for bytes as often as
it wants to, and is told that there are none now, or that there will be none any more.

* `Streaming.Reading` – programs that read from an input, one call after the other.
  `Streaming.Reading.run` runs one on an input of any kind; what is read does not depend on how
  the input keeps its bytes (`Streaming.Reading.run_map`).
* `Streaming.Input` – the bytes that wait to be read, and whether they are the last. A program
  takes its bytes from the front of them (`Streaming.exists_taken`).
* `Streaming.ByteReader` – what bytes can be read from.
* `Streaming.Format` – what the beginnings of a stream decode to, and which of them are complete
  and which beyond help.
* `Streaming.Decodes` – **the contract of a decoder**, one call at a time: it gives bytes of what
  it has read, asks for more only when it has read everything, and does not come to an end before
  the stream does. Nothing is said about how soon it gives what it could give.

The input itself is a decoder, of the format in which all bytes denote themselves
(`Streaming.plainDecodes`).
-/

namespace Streaming

/-! ### Programs that read -/

/-- Why nothing could be read. -/
inductive ReadError where
  /-- There is nothing to read now. -/
  | wouldBlock
  /-- The input ended within a stream. -/
  | unexpectedEof (message : String)
  | other (message : String)
  deriving DecidableEq

/-- What a call to read gives. No bytes are the end. -/
abbrev ReadResult : Type := Except ReadError (List UInt8)

/-- A program that reads from an input, for so many bytes at most at each call. -/
inductive Reading (α : Type) where
  | done (a : α)
  | read (room : ℕ) (k : ReadResult → Reading α)

section Run

variable {S T α : Type}

/-- Run a program, given how the input answers. -/
def Reading.run (answer : S → ℕ → ReadResult × S) : Reading α → S → α × S
  | done a, s => (a, s)
  | read room k, s => (k (answer s room).1).run answer (answer s room).2

/-- **A program cannot tell two inputs apart** that answer alike. -/
theorem Reading.run_map {answer : S → ℕ → ReadResult × S} {answer' : T → ℕ → ReadResult × T}
    {f : S → T} (h : ∀ s room, answer' (f s) room = ((answer s room).1, f (answer s room).2))
    (p : Reading α) (s : S) :
    p.run answer' (f s) = ((p.run answer s).1, f (p.run answer s).2) := by
  induction p generalizing s with
  | done a => rfl
  | read room k ih => rw [run, run, h, ih]

end Run

/-! ### Inputs -/

/-- The bytes that can be read, and whether there will be no others. -/
structure Input where
  unread : List UInt8
  ended : Bool
  deriving DecidableEq

/-- What an input answers. -/
def Input.answer (i : Input) (room : ℕ) : ReadResult × Input :=
  if min room i.unread.length = 0 then
    (if i.ended || room = 0 then .ok [] else .error .wouldBlock, i)
  else (.ok (i.unread.take room), { i with unread := i.unread.drop room })

/-- **What a program has read was in front.** -/
theorem exists_taken {α : Type} (p : Reading α) (i : Input) :
    ∃ taken, i.unread = taken ++ (p.run Input.answer i).2.unread ∧
      (p.run Input.answer i).2.ended = i.ended := by
  induction p generalizing i with
  | done a => exact ⟨[], rfl, rfl⟩
  | read room k ih =>
    obtain ⟨taken, htaken, hended⟩ := ih (i.answer room).1 (i.answer room).2
    rw [Reading.run]
    obtain ⟨first, hfirst, hsame⟩ : ∃ first, i.unread = first ++ (i.answer room).2.unread ∧
        (i.answer room).2.ended = i.ended := by
      unfold Input.answer
      split
      · exact ⟨[], rfl, rfl⟩
      · exact ⟨i.unread.take room, (List.take_append_drop room i.unread).symm, rfl⟩
    refine ⟨first ++ taken, ?_, hended.trans hsame⟩
    rw [List.append_assoc, ← htaken, hfirst]

/-! ### Decoders -/

/-- Something that bytes can be read from, which itself reads from an input. -/
structure ByteReader where
  State : Type
  start : State
  /-- Read `room` bytes at most. The program of the call is unfolded as far as it comes on an
  input in which fewer than `budget` bytes wait. -/
  read : State → (room budget : ℕ) → Reading (ReadResult × State)

/-- What the beginnings of streams denote. -/
structure Format where
  /-- What can be decoded of some bytes. -/
  output : List UInt8 → List UInt8
  /-- The bytes are a whole stream. -/
  Finished : List UInt8 → Prop
  /-- The bytes are not the beginning of any. -/
  Corrupt : List UInt8 → Prop
  /-- More bytes decode to more. -/
  output_append : ∀ x z, output x <+: output (x ++ z)
  /-- No bytes make good what is corrupt. -/
  corrupt_append : ∀ x z, Corrupt x → Corrupt (x ++ z)
  /-- What is corrupt is not a whole stream. -/
  not_finished : ∀ x, Corrupt x → ¬Finished x

/-- A stream is over, whatever bytes are behind it. -/
def Format.Closed (F : Format) (x : List UInt8) : Prop :=
  ∀ z, F.Finished (x ++ z) ∧ F.output (x ++ z) = F.output x

/-- What a call may give, when `x` has been read and `rest` is left, if `y` was given before. The
state that the call leaves is one in which `next` of what has been given. -/
inductive Answered (F : Format) (room : ℕ) (ended : Bool) (rest x y : List UInt8)
    (next : List UInt8 → Prop) : ReadResult → Prop
  /-- Some bytes. -/
  | bytes {bs : List UInt8} (hne : bs ≠ []) (hroom : bs.length ≤ room) (hnext : next (y ++ bs)) :
    Answered F room ended rest x y next (.ok bs)
  /-- The end: everything has been given. -/
  | finished (hnext : next y) (hall : y = F.output x)
    (hend : ended = true ∧ rest = [] ∧ F.Finished x ∨ F.Closed x) :
    Answered F room ended rest x y next (.ok [])
  /-- Nothing is left to be read, and more is to come. -/
  | wouldBlock (hended : ended = false) (hrest : rest = []) (hnext : next y) :
    Answered F room ended rest x y next (.error .wouldBlock)
  /-- The input has ended within the stream, and everything before has been given. -/
  | unexpectedEof {message : String} (hended : ended = true) (hrest : rest = [])
    (hunfinished : ¬F.Finished x) (hcorrupt : ¬F.Corrupt x) (hall : y = F.output x) :
    Answered F room ended rest x y next (.error (.unexpectedEof message))
  /-- What was read is corrupt. -/
  | other {message : String} (hcorrupt : F.Corrupt x) :
    Answered F room ended rest x y next (.error (.other message))

/-- **The contract of a decoder** of a format. -/
structure Decodes (F : Format) (r : ByteReader) where
  /-- The state after so much was read and so much was given. -/
  Holds : r.State → List UInt8 → List UInt8 → Prop
  start : Holds r.start [] []
  /-- What was given is a beginning of what was read denotes. -/
  given : ∀ {s x y}, Holds s x y → y <+: F.output x
  /-- What a call gives. -/
  call : ∀ {s x y} (i : Input) {room budget : ℕ}, Holds s x y → 0 < room →
    i.unread.length < budget → ∀ taken,
      i.unread = taken ++ ((r.read s room budget).run Input.answer i).2.unread →
        Answered F room i.ended ((r.read s room budget).run Input.answer i).2.unread (x ++ taken) y
          (Holds ((r.read s room budget).run Input.answer i).1.2 (x ++ taken))
          ((r.read s room budget).run Input.answer i).1.1

/-! ### Bytes that denote themselves -/

/-- All bytes are a stream and denote themselves. -/
def plain : Format where
  output x := x
  Finished _ := True
  Corrupt _ := False
  output_append := List.prefix_append
  corrupt_append _ _ h := h
  not_finished _ h := h.elim

/-- The input as it is. -/
def inputReader : ByteReader where
  State := Unit
  start := ()
  read _ room _ := .read room fun r => .done (r, ())

/-- **An input decodes itself.** -/
def plainDecodes : Decodes plain inputReader where
  Holds _ x y := y = x
  start := rfl
  given h := h ▸ List.prefix_rfl
  call := by
    rintro s x y ⟨unread, ended⟩ room budget rfl hroom - taken htaken
    obtain ⟨answer, hanswer⟩ : ∃ answer, Input.answer ⟨unread, ended⟩ room = answer := ⟨_, rfl⟩
    have hrun : (inputReader.read s room budget).run Input.answer ⟨unread, ended⟩ =
        ((answer.1, ()), answer.2) := by rw [← hanswer]; rfl
    rw [hrun] at htaken ⊢
    subst hanswer
    dsimp only at htaken ⊢
    unfold Input.answer at htaken ⊢
    dsimp only at htaken ⊢
    by_cases hnone : min room unread.length = 0
    · rw [if_pos hnone] at htaken ⊢
      have hunread : unread = [] := List.length_eq_zero_iff.mp (by omega)
      obtain rfl : taken = [] := List.self_eq_append_left.mp htaken
      rw [List.append_nil]
      cases ended with
      | true => exact .finished rfl rfl (.inl ⟨rfl, hunread, trivial⟩)
      | false =>
        rw [if_neg (by simpa using hroom.ne')]
        exact .wouldBlock rfl hunread rfl
    · rw [if_neg hnone] at htaken ⊢
      have htake : taken = unread.take room :=
        (List.append_cancel_right ((List.take_append_drop room unread).trans htaken)).symm
      refine .bytes ?_ (List.length_take_le room unread) (by rw [htake])
      rw [ne_eq, List.take_eq_nil_iff, not_or]
      exact ⟨hroom.ne', fun h => hnone (by rw [h, List.length_nil, Nat.min_zero])⟩

/-! ### Streams that do not begin -/

/-- Nothing is a whole stream. -/
def unfinished : Format where
  output _ := []
  Finished _ := False
  Corrupt _ := False
  output_append _ _ := List.prefix_rfl
  corrupt_append _ _ h := h
  not_finished _ h := h.elim

/-- Read everything, and miss the rest at the end. -/
def missRest : ℕ → Reading (ReadResult × Unit)
  | 0 => .done (.error .wouldBlock, ())
  | budget + 1 => .read 1 fun
    | .ok [] => .done (.error (.unexpectedEof "failed to fill whole buffer"), ())
    | .ok _ => missRest budget
    | .error e => .done (.error e, ())

/-- A decoder that waits for the first bytes of a stream. -/
def waitingReader : ByteReader where
  State := Unit
  start := ()
  read _ _ budget := missRest budget

/-- What is left after everything was read. -/
theorem run_missRest {unread : List UInt8} {budget : ℕ} (h : unread.length < budget)
    (ended : Bool) : (missRest budget).run Input.answer ⟨unread, ended⟩ =
      ((if ended then .error (.unexpectedEof "failed to fill whole buffer")
        else .error .wouldBlock, ()), ⟨[], ended⟩) := by
  induction budget generalizing unread with
  | zero => cases h
  | succ budget ih =>
    rcases unread with _ | ⟨b, unread⟩
    · cases ended <;> rfl
    · have hanswer : Input.answer ⟨b :: unread, ended⟩ 1 = (.ok [b], ⟨unread, ended⟩) := by
        unfold Input.answer
        rw [if_neg (by rw [List.length_cons]; omega)]
        rfl
      rw [missRest, Reading.run, hanswer]
      exact ih (Nat.lt_of_succ_lt_succ h)

/-- Of what does not begin nothing is decoded. -/
def waitingDecodes : Decodes unfinished waitingReader where
  Holds _ _ y := y = []
  start := rfl
  given h := h ▸ List.prefix_rfl
  call := by
    rintro s x y ⟨unread, ended⟩ room budget rfl - hbudget taken htaken
    have hrun : (waitingReader.read s room budget).run Input.answer ⟨unread, ended⟩ = _ :=
      run_missRest hbudget ended
    rw [hrun]
    cases ended with
    | true => exact .unexpectedEof rfl rfl not_false not_false rfl
    | false => exact .wouldBlock rfl rfl rfl

end Streaming
