import Exarrow.Csv.Compression
import Exarrow.Foundations.Streaming

/-!
# The pieces of an exported body

The body of an export arrives in pieces, as the tunnel delivers them, compressed as Exasol sent
it. Each piece is pushed into the input of a decoder (`Exarrow.Export.PieceDecoder`), which is
then read block by block until it asks for more, and every block is written before the next one
is decoded (`Exarrow.Export.writeDecoded`). The libraries for the two compressed formats are
decoders in the sense of `Streaming.Decodes`.

**How the body is cut into pieces makes no difference**
(`Exarrow.Export.writeDecoded_pieces`): all of what the body denotes is written, in order, and
its line feeds are counted; a body that is not complete is an error.
-/

namespace Exarrow.Export

open Streaming Csv

/-! ### The input of a decoder -/

/-- The pieces pushed so far, and how much of them has been read. -/
structure FeedState where
  data : List UInt8 := []
  position : ℕ := 0
  ended : Bool := false
  position_le : position ≤ data.length := by decide

/-- Hand out the bytes that wait. -/
def PieceFeed.read (state : FeedState) (room : ℕ) : ReadResult × FeedState :=
  let len := min room (state.data.length - state.position)
  if len = 0 then (if state.ended || room = 0 then .ok [] else .error .wouldBlock, state)
  else
    (.ok ((state.data.drop state.position).take len),
      { state with
        position := state.position + len
        position_le := by have := state.position_le; omega })

/-- Add a piece behind what waits. -/
def FeedState.push (state : FeedState) (piece : List UInt8) : FeedState :=
  if state.position = state.data.length then
    { state with data := piece, position := 0, position_le := Nat.zero_le _ }
  else
    { state with
      data := state.data ++ piece
      position_le := le_trans state.position_le (List.length_append ▸ Nat.le_add_right _ _) }

/-- What waits in the input. -/
def FeedState.input (state : FeedState) : Input := ⟨state.data.drop state.position, state.ended⟩

/-- The input hands out what waits in it. -/
theorem answer_input (state : FeedState) (room : ℕ) :
    state.input.answer room =
      ((PieceFeed.read state room).1, (PieceFeed.read state room).2.input) := by
  unfold Input.answer PieceFeed.read FeedState.input
  dsimp only
  rw [List.length_drop]
  split
  · rfl
  · rename_i hlen
    have htake : (state.data.drop state.position).take room =
        (state.data.drop state.position).take (min room (state.data.length - state.position)) := by
      rw [← List.length_drop, List.take_eq_take_min]
    have hdrop : (state.data.drop state.position).drop room =
        state.data.drop (state.position + min room (state.data.length - state.position)) := by
      rw [← List.drop_drop]
      rcases Nat.le_total room (state.data.length - state.position) with h | h
      · rw [Nat.min_eq_left h]
      · rw [Nat.min_eq_right h, List.drop_eq_nil_of_le (by rw [List.length_drop]; exact h),
          List.drop_eq_nil_of_le (by rw [List.length_drop])]
    rw [htake, hdrop]

/-- What waits after a piece was pushed. -/
theorem input_push (state : FeedState) (piece : List UInt8) :
    (state.push piece).input = ⟨state.input.unread ++ piece, state.ended⟩ := by
  unfold FeedState.push FeedState.input
  split
  · rename_i hall
    rw [hall, List.drop_length]
    rfl
  · dsimp only
    rw [List.drop_append_of_le_length state.position_le]

/-! ### The decoder of a body -/

/-- The libraries for the compressed formats. -/
structure Decoders where
  /-- Reads gzip streams, one behind the other. -/
  multiGzDecoder : ByteReader
  /-- Reads a bzip2 stream. -/
  bzDecoder : ByteReader

/-- The decoder for a compression. -/
def Decoders.reader (decoders : Decoders) : Compression → ByteReader
  | .none => inputReader
  | .gzip => decoders.multiGzDecoder
  | .bzip2 => decoders.bzDecoder

/-- The name of a compression. -/
def codecName : Compression → String
  | .none => "plain"
  | .gzip => "gzip"
  | .bzip2 => "bzip2"

/-- The greatest number of bytes of a block. -/
def decodedBlockMaxBytes : ℕ := 64 * 1024

/-- Decodes a body piece by piece into blocks. -/
structure PieceDecoder (reader : ByteReader) where
  feed : FeedState
  state : reader.State
  codec : String

namespace PieceDecoder

variable {reader : ByteReader}

/-- The decoder before the first piece. -/
def new (decoders : Decoders) (compression : Compression) :
    PieceDecoder (decoders.reader compression) :=
  { feed := {}, state := (decoders.reader compression).start, codec := codecName compression }

/-- Add the next piece of the body. -/
def push (decoder : PieceDecoder reader) (piece : List UInt8) : PieceDecoder reader :=
  { decoder with feed := decoder.feed.push piece }

/-- Mark the end of the body. -/
def finish (decoder : PieceDecoder reader) : PieceDecoder reader :=
  { decoder with feed := { decoder.feed with ended := true } }

/-- The next decoded block, none when the input is used up or the body is complete. -/
def nextBlock (decoder : PieceDecoder reader) :
    Except ExportError (Option (List UInt8)) × PieceDecoder reader :=
  -- No more calls to the input come to a result than there are bytes that wait.
  let budget := decoder.feed.data.length - decoder.feed.position + 1
  let ((result, state), feed) :=
    (reader.read decoder.state decodedBlockMaxBytes budget).run PieceFeed.read decoder.feed
  (match result with
    | .ok [] => .ok none
    | .ok block => .ok (some block)
    | .error .wouldBlock => .ok none
    | .error (.unexpectedEof e) => .error (.decompressionError
        s!"The {decoder.codec} stream of the export body ended before it was complete: {e}")
    | .error (.other e) =>
      .error (.decompressionError s!"Failed to decode the {decoder.codec} export body: {e}"),
    { decoder with feed, state })

end PieceDecoder

/-! ### Writing what is decoded -/

/-- Where the decoded bytes go. Its errors are texts. -/
structure Writer (W : Type) where
  writeAll : List UInt8 → EStateM String W Unit
  flush : EStateM String W Unit

/-- A writer takes bytes one after the other, however they are put together. -/
structure Writer.Lawful {W : Type} (writer : Writer W) : Prop where
  nil : writer.writeAll [] = pure ()
  append : ∀ a b, writer.writeAll (a ++ b) = do writer.writeAll a; writer.writeAll b

/-- The number of line feeds. -/
def countLineFeeds (data : List UInt8) : ℕ := data.count 10

section Writing

variable {W : Type} {reader : ByteReader} (writer : Writer W)

/-- Write some bytes. -/
def write (bytes : List UInt8) : EStateM ExportError W Unit :=
  (writer.writeAll bytes).adaptExcept .ioError

/-- Write every block that can be decoded, so many at most; none if there are more. -/
def writeBlocks : ℕ → PieceDecoder reader →
    EStateM ExportError W (Option (ℕ × PieceDecoder reader))
  | 0, _ => pure none
  | fuel + 1, decoder =>
    match decoder.nextBlock with
    | (.error e, _) => throw e
    | (.ok none, decoder) => pure (some (0, decoder))
    | (.ok (some block), decoder) => do
      write writer block
      let rest ← writeBlocks fuel decoder
      return rest.map fun (lineFeeds, decoder) => (countLineFeeds block + lineFeeds, decoder)

/-- Push every piece and write what can be decoded then. -/
def writePieces (fuel : ℕ) : PieceDecoder reader → List (List UInt8) →
    EStateM ExportError W (Option (ℕ × PieceDecoder reader))
  | decoder, [] => pure (some (0, decoder))
  | decoder, piece :: pieces => do
    match ← writeBlocks writer fuel (decoder.push piece) with
    | none => return none
    | some (lineFeeds, decoder) =>
      let rest ← writePieces fuel decoder pieces
      return rest.map fun (more, decoder) => (lineFeeds + more, decoder)

/-- Write the decoded body, and give the number of line feeds written. -/
def writeDecoded (decoders : Decoders) (compression : Compression) (fuel : ℕ)
    (pieces : List (List UInt8)) : EStateM ExportError W (Option ℕ) := do
  match ← writePieces writer fuel (.new decoders compression) pieces with
  | none => return none
  | some (lineFeeds, decoder) =>
    match ← writeBlocks writer fuel decoder.finish with
    | none => return none
    | some (last, _) =>
      writer.flush.adaptExcept .ioError
      return some (lineFeeds + last)

end Writing

/-! ### What is written -/

section Contract

variable {W : Type} {writer : Writer W} {reader : ByteReader} {F : Format}

theorem write_nil (h : writer.Lawful) : write writer [] = pure () := by
  unfold write
  rw [h.nil]
  rfl

theorem write_append (h : writer.Lawful) (a b : List UInt8) :
    write writer (a ++ b) = (do write writer a; write writer b) := by
  unfold write
  rw [h.append]
  funext w
  show EStateM.adaptExcept _ (EStateM.bind _ _) w = EStateM.bind _ _ w
  unfold EStateM.adaptExcept EStateM.bind
  dsimp only
  rcases writer.writeAll a w with ⟨u, w'⟩ | ⟨e, w'⟩
  · rfl
  · rfl

theorem countLineFeeds_append (a b : List UInt8) :
    countLineFeeds (a ++ b) = countLineFeeds a + countLineFeeds b := List.count_append ..

/-- The decoder waits: for more input, or it is at the end. -/
def Paused (F : Format) (ended : Bool) (rest x y : List UInt8) : Prop :=
  ended = false ∧ rest = [] ∨ y = F.output x ∧ (ended = true ∧ rest = [] ∧ F.Finished x ∨ F.Closed x)

/-- What a call for the next block gives. -/
inductive NextBlock (c : Decodes F reader) (decoder : PieceDecoder reader) (x y : List UInt8) :
    Except ExportError (Option (List UInt8)) × PieceDecoder reader → Prop
  | block {block taken : List UInt8} {next : PieceDecoder reader} (hne : block ≠ [])
    (htaken : decoder.feed.input.unread = taken ++ next.feed.input.unread)
    (hended : next.feed.ended = decoder.feed.ended)
    (hholds : c.Holds next.state (x ++ taken) (y ++ block)) :
    NextBlock c decoder x y (.ok (some block), next)
  | paused {taken : List UInt8} {next : PieceDecoder reader}
    (htaken : decoder.feed.input.unread = taken ++ next.feed.input.unread)
    (hended : next.feed.ended = decoder.feed.ended) (hholds : c.Holds next.state (x ++ taken) y)
    (hpaused : Paused F decoder.feed.ended next.feed.input.unread (x ++ taken) y) :
    NextBlock c decoder x y (.ok none, next)
  | incomplete {e : String} {next : PieceDecoder reader} (hended : decoder.feed.ended = true)
    (hunfinished : ¬F.Finished (x ++ decoder.feed.input.unread))
    (hcorrupt : ¬F.Corrupt (x ++ decoder.feed.input.unread))
    (hall : y = F.output (x ++ decoder.feed.input.unread)) :
    NextBlock c decoder x y (.error (.decompressionError e), next)
  | corrupt {e : String} {next : PieceDecoder reader}
    (hcorrupt : F.Corrupt (x ++ decoder.feed.input.unread)) :
    NextBlock c decoder x y (.error (.decompressionError e), next)

/-- **A block is decoded by one call**, on what waits in the input. -/
theorem nextBlock_cases (c : Decodes F reader) {decoder : PieceDecoder reader}
    {x y : List UInt8} (h : c.Holds decoder.state x y) :
    NextBlock c decoder x y decoder.nextBlock := by
  unfold PieceDecoder.nextBlock
  have hbudget : decoder.feed.input.unread.length <
      decoder.feed.data.length - decoder.feed.position + 1 := by
    have hlen : decoder.feed.input.unread.length =
        decoder.feed.data.length - decoder.feed.position := List.length_drop
    omega
  generalize decoder.feed.data.length - decoder.feed.position + 1 = budget at *
  have hrun := Reading.run_map (f := FeedState.input) answer_input
    (reader.read decoder.state decodedBlockMaxBytes budget) decoder.feed
  obtain ⟨taken, htaken, hended⟩ :=
    exists_taken (reader.read decoder.state decodedBlockMaxBytes budget) decoder.feed.input
  have hcall := @Decodes.call _ _ c _ _ _ decoder.feed.input decodedBlockMaxBytes budget h
    (by decide) hbudget taken htaken
  rw [hrun] at htaken hended hcall
  dsimp only
  generalize (reader.read decoder.state decodedBlockMaxBytes budget).run PieceFeed.read
    decoder.feed = answer at *
  obtain ⟨⟨result, state⟩, feed⟩ := answer
  dsimp only at htaken hended hcall ⊢
  cases hcall with
  | @bytes bs hne _ hnext =>
    rcases bs with _ | ⟨b, bs⟩
    · exact absurd rfl hne
    · exact .block hne htaken hended hnext
  | finished hnext hall hend => exact .paused htaken hended hnext (.inr ⟨hall, hend⟩)
  | wouldBlock hopen hrest hnext => exact .paused htaken hended hnext (.inl ⟨hopen, hrest⟩)
  | unexpectedEof hend hrest hunfinished hcorrupt hall =>
    rw [hrest, List.append_nil] at htaken
    rw [← htaken] at hunfinished hcorrupt hall
    exact .incomplete hend hunfinished hcorrupt hall
  | other hcorrupt =>
    refine .corrupt ?_
    rw [htaken, ← List.append_assoc]
    exact F.corrupt_append _ _ hcorrupt

/-- **What is made of the rest of a body**: all that it denotes is written, and the decoder waits
or is at the end; or the body is not complete, or corrupt. The bytes `total` are those of the
body that have arrived, of which `y` was written before. -/
inductive Leaves (writer : Writer W) (c : Decodes F reader) (ended : Bool) (total y : List UInt8)
    (m : EStateM ExportError W (Option (ℕ × PieceDecoder reader))) : Prop
  | paused {z x : List UInt8} {decoder : PieceDecoder reader}
    (hm : m = do write writer z; pure (some (countLineFeeds z, decoder)))
    (hended : decoder.feed.ended = ended) (htotal : total = x ++ decoder.feed.input.unread)
    (hholds : c.Holds decoder.state x (y ++ z))
    (hpaused : Paused F ended decoder.feed.input.unread x (y ++ z))
  | incomplete {z : List UInt8} {e : String}
    (hm : m = do write writer z; throw (.decompressionError e)) (hended : ended = true)
    (hunfinished : ¬F.Finished total) (hcorrupt : ¬F.Corrupt total) (hall : y ++ z = F.output total)
  | corrupt {z : List UInt8} {e : String}
    (hm : m = do write writer z; throw (.decompressionError e))
    (hgiven : y ++ z <+: F.output total) (hcorrupt : F.Corrupt total)

/-- Something is written before the rest. -/
theorem Leaves.after (hw : writer.Lawful) {c : Decodes F reader} {ended : Bool}
    {total y block : List UInt8} {m : EStateM ExportError W (Option (ℕ × PieceDecoder reader))}
    (h : Leaves writer c ended total (y ++ block) m) :
    Leaves writer c ended total y (do
      write writer block
      let rest ← m
      return rest.map fun (lineFeeds, decoder) => (countLineFeeds block + lineFeeds, decoder)) := by
  cases h with
  | paused hm hended htotal hholds hpaused =>
    rw [List.append_assoc] at hholds hpaused
    refine .paused ?_ hended htotal hholds hpaused
    rw [hm, write_append hw, countLineFeeds_append]
    simp only [bind_assoc, pure_bind, Option.map_some]
  | @incomplete z e hm hended hunfinished hcorrupt hall =>
    rw [List.append_assoc] at hall
    refine .incomplete (e := e) ?_ hended hunfinished hcorrupt hall
    rw [hm, write_append hw]
    simp only [bind_assoc]
    rfl
  | @corrupt z e hm hgiven hcorrupt =>
    rw [List.append_assoc] at hgiven
    refine .corrupt (e := e) ?_ hgiven hcorrupt
    rw [hm, write_append hw]
    simp only [bind_assoc]
    rfl

/-- **The blocks of what has arrived are written**, if there is enough fuel for them: every block
has a byte, and all together are no more than what the bytes denote. -/
theorem writeBlocks_leaves (hw : writer.Lawful) (c : Decodes F reader)
    {decoder : PieceDecoder reader} {x y : List UInt8} (h : c.Holds decoder.state x y) {fuel : ℕ}
    (hfuel : (F.output (x ++ decoder.feed.input.unread)).length < fuel + y.length) :
    Leaves writer c decoder.feed.ended (x ++ decoder.feed.input.unread) y
      (writeBlocks writer fuel decoder) := by
  induction fuel generalizing decoder x y with
  | zero =>
    have hlen := ((c.given h).trans (F.output_append x decoder.feed.input.unread)).length_le
    omega
  | succ fuel ih =>
    unfold writeBlocks
    have hnext := nextBlock_cases c h
    generalize decoder.nextBlock = answer at hnext
    cases hnext with
    | @block block taken next hne htaken hended hholds =>
      have hpos := List.length_pos_of_ne_nil hne
      have hih := @ih next (x ++ taken) (y ++ block) hholds (by
        rw [List.append_assoc, ← htaken, List.length_append]
        omega)
      rw [List.append_assoc, ← htaken, hended] at hih
      exact hih.after hw
    | @paused taken next htaken hended hholds hpaused =>
      refine .paused (z := []) ?_ hended (x := x ++ taken) ?_ ?_ ?_
      · rw [write_nil hw]
        rfl
      · rw [List.append_assoc, ← htaken]
      · rw [List.append_nil]
        exact hholds
      · rw [List.append_nil]
        exact hpaused
    | @incomplete e next hended hunfinished hcorrupt hall =>
      refine .incomplete (z := []) (e := e) ?_ hended hunfinished hcorrupt
        ((List.append_nil y).trans hall)
      rw [write_nil hw]
      rfl
    | @corrupt e next hcorrupt =>
      refine .corrupt (z := []) (e := e) ?_ ?_ hcorrupt
      · rw [write_nil hw]
        rfl
      · rw [List.append_nil]
        exact (c.given h).trans (F.output_append x _)

/-- **The pieces are written one after the other.** -/
theorem writePieces_leaves (hw : writer.Lawful) (c : Decodes F reader) {pieces : List (List UInt8)}
    {decoder : PieceDecoder reader} {x y : List UInt8} (h : c.Holds decoder.state x y)
    (hopen : decoder.feed.ended = false) (hpaused : Paused F false decoder.feed.input.unread x y)
    {fuel : ℕ} (hfuel : (F.output (x ++ decoder.feed.input.unread ++ pieces.flatten)).length <
      fuel + y.length) :
    Leaves writer c false (x ++ decoder.feed.input.unread ++ pieces.flatten) y
      (writePieces writer fuel decoder pieces) := by
  induction pieces generalizing decoder x y with
  | nil =>
    rw [List.flatten_nil, List.append_nil]
    refine .paused (z := []) ?_ hopen rfl (by rwa [List.append_nil]) (by rwa [List.append_nil])
    rw [write_nil hw]
    rfl
  | cons piece pieces ih =>
    have hpush : (decoder.push piece).feed.input.unread = decoder.feed.input.unread ++ piece :=
      congrArg Input.unread (input_push decoder.feed piece)
    have hstill : (decoder.push piece).feed.ended = false :=
      (congrArg Input.ended (input_push decoder.feed piece)).trans hopen
    have hsplit : x ++ decoder.feed.input.unread ++ (piece :: pieces).flatten =
        x ++ (decoder.push piece).feed.input.unread ++ pieces.flatten := by
      rw [hpush, List.flatten_cons, List.append_assoc, List.append_assoc, List.append_assoc]
    rw [hsplit] at hfuel ⊢
    have hmono := F.output_append (x ++ (decoder.push piece).feed.input.unread) pieces.flatten
    have hblocks := @writeBlocks_leaves _ _ _ _ hw c (decoder.push piece) x y h fuel
      (lt_of_le_of_lt hmono.length_le hfuel)
    rw [hstill] at hblocks
    unfold writePieces
    generalize (decoder.push piece).feed.input.unread = waiting at *
    cases hblocks with
    | @paused z x' next hm hended htotal hholds hwaits =>
      rw [htotal] at hfuel ⊢
      have hrest := @ih next x' (y ++ z) hholds hended hwaits (by
        rw [List.length_append]
        omega)
      rw [hm]
      simp only [bind_assoc, pure_bind]
      exact hrest.after hw
    | incomplete _ hended => cases hended
    | @corrupt z e hm hgiven hcorrupt =>
      refine .corrupt (z := z) (e := e) ?_ (hgiven.trans hmono) (F.corrupt_append _ _ hcorrupt)
      rw [hm]
      simp only [bind_assoc]
      rfl

/-- Everything that a body denotes is written and counted. -/
def writeAllOf (writer : Writer W) (bytes : List UInt8) : EStateM ExportError W (Option ℕ) := do
  write writer bytes
  writer.flush.adaptExcept .ioError
  return some (countLineFeeds bytes)

/-- Some bytes are written, and then the decoder fails. -/
def writeThenFail (writer : Writer W) (bytes : List UInt8) (e : String) :
    EStateM ExportError W (Option ℕ) := do
  write writer bytes
  throw (.decompressionError e)

/-- **What becomes of a body.** -/
inductive Decoded (writer : Writer W) (F : Format) (body : List UInt8)
    (m : EStateM ExportError W (Option ℕ)) : Prop
  | complete (hfinished : F.Finished body) (hm : m = writeAllOf writer (F.output body))
  | incomplete {e : String} (hunfinished : ¬F.Finished body) (hcorrupt : ¬F.Corrupt body)
    (hm : m = writeThenFail writer (F.output body) e)
  | corrupt {z : List UInt8} {e : String} (hcorrupt : F.Corrupt body) (hgiven : z <+: F.output body)
    (hm : m = writeThenFail writer z e)

/-- **Every body is decoded**, in whatever pieces it arrives. -/
theorem writeDecoded_decoded (hw : writer.Lawful) (decoders : Decoders) (compression : Compression)
    (c : Decodes F (decoders.reader compression)) (pieces : List (List UInt8)) {fuel : ℕ}
    (hfuel : (F.output pieces.flatten).length < fuel) :
    Decoded writer F pieces.flatten (writeDecoded writer decoders compression fuel pieces) := by
  have hpieces := @writePieces_leaves _ _ _ _ hw c pieces (.new decoders compression) [] [] c.start
    rfl (.inl ⟨rfl, rfl⟩) fuel (lt_of_lt_of_le hfuel (Nat.le_add_right _ _))
  have htotal : [] ++ (PieceDecoder.new decoders compression).feed.input.unread ++
      pieces.flatten = pieces.flatten := rfl
  rw [htotal] at hpieces
  unfold writeDecoded
  cases hpieces with
  | @paused z x decoder hm hended htotal hholds hpaused =>
    rw [List.nil_append] at hholds
    have hlast := @writeBlocks_leaves _ _ _ _ hw c decoder.finish x z hholds fuel (by
      have hinput : decoder.finish.feed.input.unread = decoder.feed.input.unread := rfl
      rw [hinput, ← htotal]
      omega)
    have hinput : x ++ decoder.finish.feed.input.unread = pieces.flatten := htotal.symm
    rw [hinput] at hlast
    rw [hm]
    simp only [bind_assoc, pure_bind]
    cases hlast with
    | @paused z' x' last hm' hended' htotal' hholds' hpaused' =>
      obtain ⟨h, -⟩ | ⟨hall, hend⟩ := hpaused'
      · cases h
      have hbody : F.Finished pieces.flatten ∧ F.output pieces.flatten = z ++ z' := by
        rw [htotal', hall]
        rcases hend with ⟨-, hrest, hfinished⟩ | hclosed
        · rw [hrest, List.append_nil]
          exact ⟨hfinished, rfl⟩
        · exact hclosed _
      refine .complete hbody.1 ?_
      rw [hbody.2, hm']
      unfold writeAllOf
      simp only [bind_assoc, pure_bind]
      rw [write_append hw, countLineFeeds_append]
      simp only [bind_assoc]
    | @incomplete z' e hm' _ hunfinished hcorrupt hall =>
      refine .incomplete (e := e) hunfinished hcorrupt ?_
      rw [← hall, hm']
      unfold writeThenFail
      rw [write_append hw]
      simp only [bind_assoc]
      rfl
    | @corrupt z' e hm' hgiven hcorrupt =>
      refine .corrupt (z := z ++ z') (e := e) hcorrupt hgiven ?_
      rw [hm']
      unfold writeThenFail
      rw [write_append hw]
      simp only [bind_assoc]
      rfl
  | incomplete _ hended => cases hended
  | @corrupt z e hm hgiven hcorrupt =>
    refine .corrupt (z := z) (e := e) hcorrupt hgiven ?_
    rw [hm]
    unfold writeThenFail
    simp only [bind_assoc]
    rfl

/-- **Two ways for a body to arrive come to the same**: what it denotes is written, and counted if
it is complete; otherwise both are errors. -/
structure SameDecoding (writer : Writer W) (F : Format) (body : List UInt8)
    (m m' : EStateM ExportError W (Option ℕ)) : Prop where
  /-- A whole body is written, and its line feeds are counted. -/
  complete : F.Finished body → m = writeAllOf writer (F.output body) ∧ m' = m
  /-- What a body denotes that is not complete is written, and is an error. -/
  incomplete : ¬F.Finished body → ¬F.Corrupt body →
    ∃ e e', m = writeThenFail writer (F.output body) e ∧
      m' = writeThenFail writer (F.output body) e'
  /-- What a corrupt body denotes is written in order up to an error. -/
  corrupt : F.Corrupt body → ∃ z z' e e', z <+: F.output body ∧ z' <+: F.output body ∧
    m = writeThenFail writer z e ∧ m' = writeThenFail writer z' e'

theorem Decoded.same {body : List UInt8} {m m' : EStateM ExportError W (Option ℕ)}
    (h : Decoded writer F body m) (h' : Decoded writer F body m') :
    SameDecoding writer F body m m' := by
  refine ⟨fun hfinished => ?_, fun hunfinished hcorrupt => ?_, fun hcorrupt => ?_⟩
  · obtain ⟨-, hm⟩ | ⟨hun, -, -⟩ | ⟨hcorrupt, -, -⟩ := h
    · obtain ⟨-, hm'⟩ | ⟨hun, -, -⟩ | ⟨hcorrupt, -, -⟩ := h'
      · exact ⟨hm, hm'.trans hm.symm⟩
      · exact absurd hfinished hun
      · exact absurd hfinished (F.not_finished _ hcorrupt)
    · exact absurd hfinished hun
    · exact absurd hfinished (F.not_finished _ hcorrupt)
  · obtain ⟨hfinished, -⟩ | ⟨-, -, hm⟩ | ⟨hbad, -, -⟩ := h
    · exact absurd hfinished hunfinished
    · obtain ⟨hfinished, -⟩ | ⟨-, -, hm'⟩ | ⟨hbad, -, -⟩ := h'
      · exact absurd hfinished hunfinished
      · exact ⟨_, _, hm, hm'⟩
      · exact absurd hbad hcorrupt
    · exact absurd hbad hcorrupt
  · obtain ⟨hfinished, -⟩ | ⟨-, hgood, -⟩ | ⟨-, hz, hm⟩ := h
    · exact absurd hfinished (F.not_finished _ hcorrupt)
    · exact absurd hcorrupt hgood
    · obtain ⟨hfinished, -⟩ | ⟨-, hgood, -⟩ | ⟨-, hz', hm'⟩ := h'
      · exact absurd hfinished (F.not_finished _ hcorrupt)
      · exact absurd hcorrupt hgood
      · exact ⟨_, _, _, _, hz, hz', hm, hm'⟩

end Contract

/-! ### Whole exports -/

/-- The formats of bodies. -/
def formatOf (gzip bzip2 : Format) : Compression → Format
  | .none => plain
  | .gzip => gzip
  | .bzip2 => bzip2

/-- The decoder for a compression decodes its format. -/
def decodesOf {decoders : Decoders} {gzip bzip2 : Format}
    (hgzip : Decodes gzip decoders.multiGzDecoder) (hbzip2 : Decodes bzip2 decoders.bzDecoder) :
    (compression : Compression) →
      Decodes (formatOf gzip bzip2 compression) (decoders.reader compression)
  | .none => plainDecodes
  | .gzip => hgzip
  | .bzip2 => hbzip2

/-- **A body may be cut anywhere.** Whatever the pieces are, and empty ones among them, the same
is written in the same order as when the body arrives in one piece, and the same number of line
feeds is given. A body that is not a whole stream is an error. -/
theorem writeDecoded_pieces {W : Type} {writer : Writer W} (hw : writer.Lawful)
    (decoders : Decoders) {gzip bzip2 : Format} (hgzip : Decodes gzip decoders.multiGzDecoder)
    (hbzip2 : Decodes bzip2 decoders.bzDecoder) (compression : Compression)
    (pieces : List (List UInt8)) {fuel : ℕ}
    (hfuel : ((formatOf gzip bzip2 compression).output pieces.flatten).length < fuel) :
    SameDecoding writer (formatOf gzip bzip2 compression) pieces.flatten
      (writeDecoded writer decoders compression fuel pieces)
      (writeDecoded writer decoders compression fuel [pieces.flatten]) := by
  have c := decodesOf hgzip hbzip2 compression
  have hone : [pieces.flatten].flatten = pieces.flatten := List.append_nil _
  have hpieces := writeDecoded_decoded hw decoders compression c pieces hfuel
  have hwhole := writeDecoded_decoded hw decoders compression c [pieces.flatten]
    (hone.symm ▸ hfuel)
  rw [hone] at hwhole
  exact hpieces.same hwhole

/-- A writer that keeps what is written. -/
def memoryWriter : Writer (List UInt8) where
  writeAll bytes := modify (· ++ bytes)
  flush := pure ()

theorem memoryWriter_lawful : memoryWriter.Lawful where
  nil := funext fun w => congrArg (EStateM.Result.ok ()) (List.append_nil w)
  append a b := funext fun w => congrArg (EStateM.Result.ok ()) (List.append_assoc w a b).symm

/-- The first two bytes of a gzip stream, in three pieces. -/
theorem writeDecoded_pieces_header :
    SameDecoding memoryWriter unfinished [0x1f, 0x8b]
      (writeDecoded memoryWriter ⟨waitingReader, waitingReader⟩ .gzip 1 [[0x1f], [], [0x8b]])
      (writeDecoded memoryWriter ⟨waitingReader, waitingReader⟩ .gzip 1 [[0x1f, 0x8b]]) :=
  writeDecoded_pieces memoryWriter_lawful ⟨waitingReader, waitingReader⟩ waitingDecodes
    waitingDecodes .gzip [[0x1f], [], [0x8b]] Nat.one_pos

end Exarrow.Export
