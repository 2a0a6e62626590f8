import Exarrow.Foundations.Numeral
import Exarrow.Http.Stream

/-!
# Bodies in chunks

A body is sent in chunks (`Exarrow.Http.chunkedBody`): a line with the number of bytes in
base sixteen, the bytes, and the end of a line. A chunk without bytes ends the body, so an
empty piece of data is not sent at all. The reader (`Exarrow.Http.forwardChunkedBody`) hands
the bytes on in pieces of bounded length, and returns when it has read the last chunk.

**A body is forwarded exactly, and nothing behind it is read**
(`Exarrow.Http.forwardChunkedBody_chunkedBody`). A reader that returns does the same when
more bytes follow (`Exarrow.Http.forwardChunkedBody_append`), so **it cannot return before the
last chunk has come** (`Exarrow.Http.forwardChunkedBody_cut`).
-/

namespace Exarrow.Http

open Numeral

/-- The end of a line. -/
def crlf : List UInt8 := [13, 10]

/-! ### The sender -/

/-- A chunk; without data, the last one. -/
def encodeChunk (data : List UInt8) : List UInt8 :=
  if data = [] then Text.bytes "0\r\n\r\n".toList
  else Text.bytes (hexText data.length) ++ crlf ++ data ++ crlf

/-- What is written for a piece of data. -/
def writeChunkedBody (data : List UInt8) : List UInt8 := if data = [] then [] else encodeChunk data

/-- What is written at the end. -/
def writeFinalChunk : List UInt8 := encodeChunk []

/-- What the sender writes for some pieces of data. -/
def chunkedBody (pieces : List (List UInt8)) : List UInt8 :=
  pieces.flatMap writeChunkedBody ++ writeFinalChunk

/-! ### The reader -/

/-- The number of bytes of a forwarded piece, at most. -/
def exportPieceMaxBytes : ℕ := 64 * 1024

/-- The number of bytes of the address space. -/
def usizeBound : ℕ := 2 ^ 64

/-- The number of bytes of a chunk, from its first line. -/
def parseChunkSize (sizeLine : List Char) : Except TransportError ℕ :=
  let size := Text.trimWhitespace (sizeLine.takeWhile (· ≠ ';'))
  match parseHex usizeBound size with
  | .ok n => .ok n
  | .error e => .error (.protocolError s!"Invalid chunk size '{String.ofList size}': {e.text}")

/-- A reader: the stream, and the pieces it has handed on. The consumer may have closed its
end; the pieces are handed on all the same, and are lost. -/
structure Forwarding where
  stream : List UInt8
  sent : List (List UInt8) := []

section Reader

variable (utf8ErrorText : List UInt8 → String)

/-- Forward bytes of a body of a known length, of which some are remaining. -/
def forwardSizedBody (len remaining : ℕ) (s : Forwarding) :
    Except TransportError Unit × Forwarding :=
  if remaining = 0 then (.ok (), s)
  else
    let size := min remaining exportPieceMaxBytes
    match readExact size s.stream with
    | .error e => (.error (.ioError (s!"Failed to read body: {remaining} of {len} bytes still " ++
        s!"expected: {e.text utf8ErrorText}")), { s with stream := [] })
    | .ok (piece, rest) => forwardSizedBody len (remaining - size) ⟨rest, s.sent ++ [piece]⟩
termination_by remaining
decreasing_by
  simp only [exportPieceMaxBytes]
  omega

/-- Forwarding bytes of a body does not lengthen the stream. -/
theorem length_forwardSizedBody (len remaining : ℕ) (s : Forwarding) :
    (forwardSizedBody utf8ErrorText len remaining s).2.stream.length ≤ s.stream.length := by
  fun_induction forwardSizedBody utf8ErrorText len remaining s with
  | case1 => exact le_rfl
  | case2 => exact Nat.zero_le _
  | case3 remaining s h size piece rest hread ih =>
    obtain ⟨-, hstream⟩ := readExact_eq_ok hread
    rw [hstream, List.length_append]
    exact ih.trans (Nat.le_add_left _ _)

/-- Forward a body in chunks up to its last one. -/
def forwardChunkedBody (s : Forwarding) : Except TransportError Unit × Forwarding :=
  match hread : readLine s.stream with
  | .error e => (.error (.protocolError
      s!"Failed to read chunk size: {e.text utf8ErrorText}"), { s with stream := [] })
  | .ok (sizeLine, rest) =>
    match parseChunkSize sizeLine with
    | .error e => (.error e, { s with stream := rest })
    | .ok chunkSize =>
      match hbody : forwardSizedBody utf8ErrorText chunkSize chunkSize { s with stream := rest } with
      | (.error e, s') => (.error e, s')
      | (.ok (), s') =>
        match hend : readExact 2 s'.stream with
        | .error e => (.error (.protocolError (s!"Failed to read the CRLF after a " ++
            s!"{chunkSize}-byte chunk: {e.text utf8ErrorText}")), { s' with stream := [] })
        | .ok (_, rest') =>
          if chunkSize = 0 then (.ok (), { s' with stream := rest' })
          else forwardChunkedBody { s' with stream := rest' }
termination_by s.stream.length
decreasing_by
  have hshort := length_of_readLine hread
  have hsized := length_forwardSizedBody utf8ErrorText chunkSize chunkSize { s with stream := rest }
  obtain ⟨-, hstream⟩ := readExact_eq_ok hend
  rw [hbody, hstream, List.length_append] at hsized
  dsimp only at hsized ⊢
  omega

end Reader

/-! ### What is forwarded -/

section Forwarding

variable {utf8ErrorText : List UInt8 → String} {s s' : Forwarding}

/-- A reader that has returned does the same when more bytes follow. -/
theorem forwardSizedBody_append {len remaining : ℕ}
    (h : forwardSizedBody utf8ErrorText len remaining s = (.ok (), s')) (more : List UInt8) :
    forwardSizedBody utf8ErrorText len remaining { s with stream := s.stream ++ more } =
      (.ok (), { s' with stream := s'.stream ++ more }) := by
  fun_induction forwardSizedBody utf8ErrorText len remaining s with
  | case1 s =>
    cases h
    rw [forwardSizedBody, if_pos rfl]
  | case2 => cases h
  | case3 remaining s hne size piece rest hread ih =>
    obtain ⟨hlen, hstream⟩ := readExact_eq_ok hread
    have hmore : readExact size (s.stream ++ more) = .ok (piece, rest ++ more) := by
      rw [hstream, List.append_assoc]
      exact readExact_append hlen
    rw [forwardSizedBody, if_neg hne]
    dsimp only
    rw [hmore]
    exact ih h

/-- **So many bytes are forwarded**, in pieces of bounded length. -/
theorem forwardSizedBody_data (len : ℕ) (data rest : List UInt8) (sent : List (List UInt8)) :
    ∃ out, forwardSizedBody utf8ErrorText len data.length ⟨data ++ rest, sent⟩ =
        (.ok (), ⟨rest, sent ++ out⟩) ∧
      out.flatten = data ∧ ∀ piece ∈ out, piece.length ≤ exportPieceMaxBytes := by
  induction hn : data.length using Nat.strongRecOn generalizing data sent with
  | ind n ih =>
    rw [forwardSizedBody]
    split
    · rename_i hzero
      have hnil : data = [] := List.length_eq_zero_iff.mp (hn.trans hzero)
      exact ⟨[], by rw [hnil, List.append_nil]; rfl, hnil.symm, fun _ h => (nomatch h)⟩
    · rename_i hne
      dsimp only
      -- The next piece is the beginning of the data.
      generalize hsize : min n exportPieceMaxBytes = size
      have hpos : 0 < size := by
        rw [← hsize, exportPieceMaxBytes]
        omega
      have hle : size ≤ n := hsize ▸ Nat.min_le_left ..
      have htake : (data.take size).length = size := List.length_take_of_le (hn ▸ hle)
      have hsplit : data ++ rest = data.take size ++ (data.drop size ++ rest) := by
        rw [← List.append_assoc, List.take_append_drop]
      have hdrop : (data.drop size).length = n - size := by rw [List.length_drop, hn]
      obtain ⟨out, hout, hflat, hbound⟩ := ih (n - size) (by omega) (data.drop size)
        (sent ++ [data.take size]) hdrop
      rw [hsplit, readExact_append htake]
      refine ⟨data.take size :: out, ?_, ?_, ?_⟩
      · dsimp only
        rw [hout, List.append_assoc]
        rfl
      · rw [List.flatten_cons, hflat, List.take_append_drop]
      · rintro piece hpiece
        rcases List.mem_cons.mp hpiece with rfl | hpiece
        · rw [htake, ← hsize]
          exact Nat.min_le_right ..
        · exact hbound piece hpiece

/-- A reader goes on behind a chunk that it can read, unless it was the last one. -/
theorem forwardChunkedBody_eq {sizeLine : List Char} {size : ℕ} {rest rest' ending : List UInt8}
    (hline : readLine s.stream = .ok (sizeLine, rest)) (hsize : parseChunkSize sizeLine = .ok size)
    (hbody : forwardSizedBody utf8ErrorText size size ⟨rest, s.sent⟩ = (.ok (), s'))
    (hend : readExact 2 s'.stream = .ok (ending, rest')) :
    forwardChunkedBody utf8ErrorText s =
      if size = 0 then (.ok (), ⟨rest', s'.sent⟩)
      else forwardChunkedBody utf8ErrorText ⟨rest', s'.sent⟩ := by
  rw [forwardChunkedBody]
  split
  · rename_i hread
    rw [hline] at hread
    cases hread
  · rename_i hread
    rw [hline] at hread
    cases hread
    rw [hsize]
    dsimp only
    split
    · rename_i hread
      rw [hbody] at hread
      cases hread
    · rename_i hread
      rw [hbody] at hread
      cases hread
      split
      · rename_i hread
        rw [hend] at hread
        cases hread
      · rename_i hread
        rw [hend] at hread
        cases hread
        rfl

/-- **A chunk is forwarded**, in pieces of bounded length. -/
theorem forwardChunkedBody_chunk {sizeLine : List Char} {size : ℕ} {data rest : List UInt8}
    (hline : readLine s.stream = .ok (sizeLine, data ++ crlf ++ rest))
    (hsize : parseChunkSize sizeLine = .ok size) (hdata : data.length = size) :
    ∃ out, out.flatten = data ∧ (∀ piece ∈ out, piece.length ≤ exportPieceMaxBytes) ∧
      forwardChunkedBody utf8ErrorText s =
        if size = 0 then (.ok (), ⟨rest, s.sent ++ out⟩)
        else forwardChunkedBody utf8ErrorText ⟨rest, s.sent ++ out⟩ := by
  obtain ⟨out, hout, hflat, hbound⟩ :=
    @forwardSizedBody_data utf8ErrorText size data (crlf ++ rest) s.sent
  rw [hdata, ← List.append_assoc] at hout
  exact ⟨out, hflat, hbound, forwardChunkedBody_eq hline hsize hout (readExact_append rfl)⟩

/-- The first line of a chunk is read as the number of its bytes. -/
theorem parseChunkSize_hexText {n : ℕ} (hn : n < usizeBound) :
    parseChunkSize (hexText n) = .ok n := by
  have hdigit : ∀ d < 16, (Nat.digitChar d).toUpper ≠ ';' ∧
      Text.isWhitespace (Nat.digitChar d).toUpper = false := by decide
  have hmem (c : Char) (hc : c ∈ hexText n) : c ≠ ';' ∧ Text.isWhitespace c = false := by
    obtain ⟨d, hd, rfl⟩ := exists_digitChar_of_mem_hexText hc
    exact hdigit d hd
  have htake : (hexText n).takeWhile (· ≠ ';') = hexText n :=
    List.takeWhile_eq_self_iff.mpr fun c hc => by simpa using (hmem c hc).1
  have htrim : Text.trimWhitespace (hexText n) = hexText n :=
    Text.trimWhitespace_eq (fun c hc => (hmem c (List.mem_of_mem_head? hc)).2)
      fun c hc => (hmem c (List.mem_of_mem_getLast? hc)).2
  unfold parseChunkSize
  rw [htake, htrim]
  dsimp only
  rw [parseHex_hexText hn]

/-- Digits hold no end of a line. -/
theorem not_mem_bytes_hexText (n : ℕ) : (13 : UInt8) ∉ Text.bytes (hexText n) := by
  have hdigit : ∀ d < 16, (13 : UInt8) ∉ String.utf8EncodeChar (Nat.digitChar d).toUpper := by
    decide
  intro h
  obtain ⟨c, hc, hmem⟩ := List.mem_flatMap.mp h
  obtain ⟨d, hd, rfl⟩ := exists_digitChar_of_mem_hexText hc
  exact hdigit d hd hmem

/-- **A body is forwarded exactly**, in pieces of bounded length, and nothing behind it is
read. -/
theorem forwardChunkedBody_chunkedBody {pieces : List (List UInt8)}
    (hpieces : ∀ piece ∈ pieces, piece.length < usizeBound) (more : List UInt8)
    (sent : List (List UInt8)) :
    ∃ out, forwardChunkedBody utf8ErrorText ⟨chunkedBody pieces ++ more, sent⟩ =
        (.ok (), ⟨more, sent ++ out⟩) ∧
      out.flatten = pieces.flatten ∧ ∀ piece ∈ out, piece.length ≤ exportPieceMaxBytes := by
  induction pieces generalizing sent with
  | nil =>
    have hline : readLine (chunkedBody [] ++ more) = .ok (['0'], crlf ++ more) := by
      have hzero := @readLine_bytes ['0'] (by decide) (crlf ++ more)
      rwa [show chunkedBody [] ++ more = Text.bytes ['0'] ++ 13 :: 10 :: (crlf ++ more) from rfl]
    obtain ⟨out, hflat, hbound, hrun⟩ := @forwardChunkedBody_chunk utf8ErrorText
      ⟨chunkedBody [] ++ more, sent⟩ ['0'] 0 [] more hline (by decide) rfl
    exact ⟨out, hrun, hflat, hbound⟩
  | cons piece pieces ih =>
    have ih := ih fun p hp => hpieces p (List.mem_cons_of_mem piece hp)
    by_cases hnil : piece = []
    · -- A piece without bytes is not sent.
      subst hnil
      exact ih sent
    · have hbody : chunkedBody (piece :: pieces) ++ more = Text.bytes (hexText piece.length) ++
          13 :: 10 :: (piece ++ crlf ++ (chunkedBody pieces ++ more)) := by
        unfold chunkedBody
        rw [List.flatMap_cons, writeChunkedBody, if_neg hnil, encodeChunk, if_neg hnil]
        simp [crlf]
      have hline := readLine_bytes (not_mem_bytes_hexText piece.length)
        (piece ++ crlf ++ (chunkedBody pieces ++ more))
      rw [← hbody] at hline
      obtain ⟨out, hflat, hbound, hrun⟩ := @forwardChunkedBody_chunk utf8ErrorText
        ⟨chunkedBody (piece :: pieces) ++ more, sent⟩ _ _ piece _ hline
        (parseChunkSize_hexText (hpieces piece (List.mem_cons_self ..))) rfl
      have hpos : piece.length ≠ 0 := fun h => hnil (List.length_eq_zero_iff.mp h)
      rw [if_neg hpos] at hrun
      obtain ⟨out', hrun', hflat', hbound'⟩ := ih (sent ++ out)
      refine ⟨out ++ out', ?_, ?_, ?_⟩
      · rw [hrun, hrun', List.append_assoc]
      · rw [List.flatten_append, hflat, hflat', List.flatten_cons]
      · rintro p hp
        exact (List.mem_append.mp hp).elim (hbound p) (hbound' p)

/-- **A reader that has returned does the same when more bytes follow.** -/
theorem forwardChunkedBody_append
    (h : forwardChunkedBody utf8ErrorText s = (.ok (), s')) (more : List UInt8) :
    forwardChunkedBody utf8ErrorText { s with stream := s.stream ++ more } =
      (.ok (), { s' with stream := s'.stream ++ more }) := by
  have hcrlf {s₁ : Forwarding} {ending rest : List UInt8}
      (hend : readExact 2 s₁.stream = .ok (ending, rest)) :
      readExact 2 (s₁.stream ++ more) = .ok (ending, rest ++ more) := by
    obtain ⟨hlen, hstream⟩ := readExact_eq_ok hend
    rw [hstream, List.append_assoc]
    exact readExact_append hlen
  fun_induction forwardChunkedBody utf8ErrorText s with
  | case1 => cases h
  | case2 => cases h
  | case3 => cases h
  | case4 => cases h
  | case5 s sizeLine rest hline s₁ ending rest' hend hsize hbody =>
    cases h
    exact @forwardChunkedBody_eq utf8ErrorText ⟨s.stream ++ more, s.sent⟩
      ⟨s₁.stream ++ more, s₁.sent⟩ sizeLine 0 _ _ ending (readLine_append hline more) hsize
      (forwardSizedBody_append hbody more) (hcrlf hend)
  | case6 s sizeLine rest hline size hsize s₁ hbody ending rest' hend hne ih =>
    have hrun := @forwardChunkedBody_eq utf8ErrorText ⟨s.stream ++ more, s.sent⟩ _ sizeLine size _ _
      ending (readLine_append hline more) hsize (forwardSizedBody_append hbody more) (hcrlf hend)
    rw [hrun, if_neg hne]
    exact ih h

/-- **A body that ends too early is an error.** -/
theorem forwardChunkedBody_cut {pieces : List (List UInt8)}
    (hpieces : ∀ piece ∈ pieces, piece.length < usizeBound) {cut rest : List UInt8}
    (hcut : cut ++ rest = chunkedBody pieces) (hrest : rest ≠ []) (sent : List (List UInt8)) :
    ∃ e s', forwardChunkedBody utf8ErrorText ⟨cut, sent⟩ = (.error e, s') := by
  rcases hrun : forwardChunkedBody utf8ErrorText ⟨cut, sent⟩ with ⟨e | ⟨⟩, s'⟩
  · exact ⟨e, s', rfl⟩
  · have hmore := forwardChunkedBody_append hrun rest
    dsimp only at hmore
    obtain ⟨out, hout, -⟩ := @forwardChunkedBody_chunkedBody utf8ErrorText pieces hpieces [] sent
    rw [hcut, ← List.append_nil (chunkedBody pieces), hout] at hmore
    have hstream := congrArg (fun r => r.2.stream) hmore
    exact absurd (List.append_eq_nil_iff.mp hstream.symm).2 hrest

/-- **The reader follows the sender**: behind a whole body it has forwarded all data and read
nothing else, and a part of a body is an error. -/
theorem forwardChunkedBody_spec (utf8ErrorText : List UInt8 → String) {pieces : List (List UInt8)}
    (hpieces : ∀ piece ∈ pieces, piece.length < usizeBound) (sent : List (List UInt8)) :
    (∀ more, ∃ out, forwardChunkedBody utf8ErrorText ⟨chunkedBody pieces ++ more, sent⟩ =
        (.ok (), ⟨more, sent ++ out⟩) ∧
      out.flatten = pieces.flatten ∧ ∀ piece ∈ out, piece.length ≤ exportPieceMaxBytes) ∧
    ∀ cut rest, cut ++ rest = chunkedBody pieces → rest ≠ [] →
      ∃ e s', forwardChunkedBody utf8ErrorText ⟨cut, sent⟩ = (.error e, s') :=
  ⟨fun more => forwardChunkedBody_chunkedBody hpieces more sent,
    fun _ _ hcut hrest => forwardChunkedBody_cut hpieces hcut hrest sent⟩

/-- Two pieces and one without bytes between them. -/
theorem forwardChunkedBody_spec_small :
    (∀ more, ∃ out, forwardChunkedBody (fun _ => "invalid utf-8")
        ⟨chunkedBody [[1, 2, 3], [], [4]] ++ more, []⟩ = (.ok (), ⟨more, [] ++ out⟩) ∧
      out.flatten = [[1, 2, 3], [], [4]].flatten ∧
      ∀ piece ∈ out, piece.length ≤ exportPieceMaxBytes) ∧
    ∀ cut rest, cut ++ rest = chunkedBody [[1, 2, 3], [], [4]] → rest ≠ [] →
      ∃ e s', forwardChunkedBody (fun _ => "invalid utf-8") ⟨cut, []⟩ = (.error e, s') :=
  forwardChunkedBody_spec _ (by simp [usizeBound]) []

end Forwarding

end Exarrow.Http
