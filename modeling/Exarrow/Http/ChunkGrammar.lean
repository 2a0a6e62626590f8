import Exarrow.Http.Chunked

/-!
# Which bodies are taken for bodies in chunks

A body in chunks has a grammar (`Exarrow.Http.ChunkedBody`): the line of each chunk has the
number of its bytes in base sixteen, with an extension or without, the bytes are followed by
the end of a line, and the last chunk by its trailer. The reader is to reject what is no such
body.

It takes a stream apart into places (`Exarrow.Http.Places`), and at three kinds of them it does
not look at what is there: around the digits of a size, where a plus sign and white space
pass; at the two bytes behind the data of a chunk; and at what is behind the line of the last
chunk. **The reader accepts only bodies exactly on the streams that have nothing else at these
places** (`Exarrow.Http.forwardChunkedBody_strict_iff`). A chunk that is longer than announced
is cut without an error (`Exarrow.Http.forwardChunkedBody_not_strict`).
-/

namespace Exarrow.Http

open Numeral

/-! ### The grammar -/

/-- An extension of the line of a chunk: nothing, or a text behind a semicolon, in front of
which there may be blanks. -/
def IsExtension (ext : List Char) : Prop :=
  ext = [] ∨ ∃ blanks rest, ext = blanks ++ ';' :: rest ∧ ∀ c ∈ blanks, c = ' ' ∨ c = '\t'

/-- The line of a chunk of so many bytes. -/
def IsSizeLine (line : List Char) (n : ℕ) : Prop :=
  ∃ digits ext, line = digits ++ ext ∧ digits ≠ [] ∧
    (∀ c ∈ digits, (hexDigitValue? c).isSome = true) ∧ hexValue digits = n ∧
    IsExtension ext ∧ '\r' ∉ ext ∧ '\n' ∉ ext

/-- The bytes of the name of a field. -/
def isTokenByte (b : UInt8) : Bool :=
  (48 ≤ b && b ≤ 57) || (65 ≤ b && b ≤ 90) || (97 ≤ b && b ≤ 122) ||
    (Text.bytes "!#$%&'*+-.^_|~\u0060".toList).contains b

/-- The line of a field: a name, a colon, and a value. -/
def IsFieldLine (line : List UInt8) : Prop :=
  ∃ name value, line = name ++ 58 :: value ∧ name ≠ [] ∧ (∀ b ∈ name, isTokenByte b = true) ∧
    (13 : UInt8) ∉ value ∧ (10 : UInt8) ∉ value

/-- The stream begins with a trailer: lines of fields, and a line without anything. -/
inductive Trailer : List UInt8 → Prop
  | done (rest : List UInt8) : Trailer (crlf ++ rest)
  | field {line rest : List UInt8} (hline : IsFieldLine line) (hrest : Trailer rest) :
    Trailer (line ++ crlf ++ rest)

/-- **The stream begins with a body in chunks.** -/
inductive ChunkedBody : List UInt8 → Prop
  | last {line : List Char} {rest : List UInt8} (hline : IsSizeLine line 0)
    (hrest : Trailer rest) : ChunkedBody (Text.bytes line ++ crlf ++ rest)
  | chunk {line : List Char} {data rest : List UInt8} (hline : IsSizeLine line data.length)
    (hdata : data ≠ []) (hrest : ChunkedBody rest) :
    ChunkedBody (Text.bytes line ++ crlf ++ (data ++ crlf ++ rest))

/-! ### What the reader does not look at -/

/-- A place of a stream. -/
inductive Place where
  /-- The line of a chunk. -/
  | sizeLine (line : List Char)
  /-- The two bytes behind the data of a chunk. -/
  | ending (bytes : List UInt8)
  /-- What is behind the line of the last chunk. -/
  | behind (rest : List UInt8)

/-- The places of a stream, as long as its sizes are numbers: so many bytes of data are behind
each line, and two more bytes behind the data. -/
inductive Places : List UInt8 → List Place → Prop
  | last {stream rest : List UInt8} {line : List Char} (hline : readLine stream = .ok (line, rest))
    (hsize : parseChunkSize line = .ok 0) (hrest : 2 ≤ rest.length) :
    Places stream [.sizeLine line, .behind rest]
  | chunk {stream data ending rest : List UInt8} {line : List Char} {places : List Place}
    (hline : readLine stream = .ok (line, data ++ (ending ++ rest)))
    (hsize : parseChunkSize line = .ok data.length) (hdata : data ≠ []) (hending : ending.length = 2)
    (hrest : Places rest places) : Places stream (.sizeLine line :: .ending ending :: places)

/-- The line of a size without a plus sign and without white space, but for blanks in front of
a semicolon, and without a part of the end of a line in it. -/
structure PlainLine (line : List Char) : Prop where
  /-- It begins with neither a plus sign nor white space. -/
  head : ∀ c ∈ line.head?, c ≠ '+' ∧ Text.isWhitespace c = false
  /-- White space in front of a semicolon is blanks. -/
  gap : ∀ c ∈ line.takeWhile (· ≠ ';'), Text.isWhitespace c = true →
    (c = ' ' ∨ c = '\t') ∧ ';' ∈ line
  /-- It holds no part of the end of a line. -/
  unbroken : '\r' ∉ line ∧ '\n' ∉ line

/-- There is nothing at a place but what belongs there. -/
def Place.Clean : Place → Prop
  | sizeLine line => PlainLine line
  | ending bytes => bytes = crlf
  | behind rest => Trailer rest

/-! ### The line of a chunk -/

theorem ne_of_hexDigit {c : Char} (h : (hexDigitValue? c).isSome = true) :
    Text.isWhitespace c = false ∧ c ≠ ';' ∧ c ≠ '+' ∧ c ≠ '\r' ∧ c ≠ '\n' := by
  have hrange : 48 ≤ c.toNat ∧ c.toNat ≤ 57 ∨ 97 ≤ c.toNat ∧ c.toNat ≤ 102 ∨
      65 ≤ c.toNat ∧ c.toNat ≤ 70 := by
    unfold hexDigitValue? at h
    split at h
    · rename_i hc
      unfold Char.isDigit at hc
      simp only [Bool.and_eq_true, decide_eq_true_eq, UInt32.le_iff_toNat_le, ge_iff_le] at hc
      exact .inl hc
    · split at h
      · rename_i hc
        simp only [Char.le_def, UInt32.le_iff_toNat_le] at hc
        exact .inr (.inl hc)
      · split at h
        · rename_i hc
          simp only [Char.le_def, UInt32.le_iff_toNat_le] at hc
          exact .inr (.inr hc)
        · cases h
  have hne {d : Char} (hd : c.toNat ≠ d.toNat) : c ≠ d := fun h => hd (congrArg Char.toNat h)
  refine ⟨?_, hne ?_, hne ?_, hne ?_, hne ?_⟩
  · unfold Text.isWhitespace
    simp only [Bool.or_eq_false_iff, Bool.and_eq_false_iff, decide_eq_false_iff_not]
    omega
  · have : ';'.toNat = 59 := rfl
    omega
  · have : '+'.toNat = 43 := rfl
    omega
  · have : '\r'.toNat = 13 := rfl
    omega
  · have : '\n'.toNat = 10 := rfl
    omega

/-- What is in front of the semicolon of the line of a chunk. -/
theorem takeWhile_sizeLine {digits ext : List Char}
    (hdigits : ∀ c ∈ digits, (hexDigitValue? c).isSome = true) (hext : IsExtension ext) :
    ∃ blanks, (digits ++ ext).takeWhile (· ≠ ';') = digits ++ blanks ∧
      (∀ c ∈ blanks, c = ' ' ∨ c = '\t') ∧ (blanks ≠ [] → ';' ∈ digits ++ ext) := by
  have hd : ∀ c ∈ digits, decide (c ≠ ';') = true := fun c hc => by
    simpa using (ne_of_hexDigit (hdigits c hc)).2.1
  rw [List.takeWhile_append_of_pos hd]
  rcases hext with rfl | ⟨blanks, rest, rfl, hblanks⟩
  · exact ⟨[], rfl, List.forall_mem_nil _, fun h => absurd rfl h⟩
  · have hb : ∀ c ∈ blanks, decide (c ≠ ';') = true := fun c hc => by
      rcases hblanks c hc with rfl | rfl <;> decide
    refine ⟨blanks, ?_, hblanks, fun _ => by simp⟩
    rw [List.takeWhile_append_of_pos hb, List.takeWhile_cons_of_neg (by simp), List.append_nil]

/-- The size that is read from the line of a chunk is the size it announces. -/
theorem size_unique {line : List Char} {n m : ℕ} (h : IsSizeLine line m)
    (hsize : parseChunkSize line = .ok n) : n = m := by
  obtain ⟨digits, ext, rfl, hne, hdigits, rfl, hext, -⟩ := h
  obtain ⟨blanks, htake, hblanks, -⟩ := takeWhile_sizeLine hdigits hext
  have htrim : Text.trimWhitespace (digits ++ blanks) = digits :=
    Text.trimWhitespace_append (fun c hc => (ne_of_hexDigit (hdigits c hc)).1) fun c hc => by
      rcases hblanks c hc with rfl | rfl <;> decide
  unfold parseChunkSize at hsize
  rw [htake, htrim] at hsize
  dsimp only at hsize
  split at hsize
  · rename_i hparse
    cases hsize
    obtain ⟨digits', hsign, -, -, rfl⟩ := parseHex_eq_ok hparse
    rcases hsign with rfl | rfl
    · rfl
    · exact absurd rfl (ne_of_hexDigit (hdigits '+' List.mem_cons_self)).2.2.1
  · cases hsize

/-- **A line whose size is read is the line of a chunk exactly if it is plain.** -/
theorem isSizeLine_iff_plainLine {line : List Char} {n : ℕ} (hsize : parseChunkSize line = .ok n) :
    IsSizeLine line n ↔ PlainLine line := by
  constructor
  · rintro ⟨digits, ext, rfl, hne, hdigits, -, hext, hcr, hlf⟩
    obtain ⟨blanks, htake, hblanks, hsemicolon⟩ := takeWhile_sizeLine hdigits hext
    refine ⟨fun c hc => ?_, fun c hc hspace => ?_, ?_, ?_⟩
    · obtain ⟨d, digits, rfl⟩ := List.exists_cons_of_ne_nil hne
      obtain rfl := Option.some.inj hc
      have hd := ne_of_hexDigit (hdigits d List.mem_cons_self)
      exact ⟨hd.2.2.1, hd.1⟩
    · rw [htake] at hc
      rcases List.mem_append.mp hc with hc | hc
      · rw [(ne_of_hexDigit (hdigits c hc)).1] at hspace
        cases hspace
      · exact ⟨hblanks c hc, hsemicolon (List.ne_nil_of_mem hc)⟩
    · rw [List.mem_append]
      exact not_or.mpr ⟨fun h => (ne_of_hexDigit (hdigits _ h)).2.2.2.1 rfl, hcr⟩
    · rw [List.mem_append]
      exact not_or.mpr ⟨fun h => (ne_of_hexDigit (hdigits _ h)).2.2.2.2 rfl, hlf⟩
  · intro hplain
    unfold parseChunkSize at hsize
    dsimp only at hsize
    split at hsize
    case h_2 => cases hsize
    rename_i hparse
    cases hsize
    obtain ⟨front, hfront⟩ : ∃ front, line.takeWhile (· ≠ ';') = front := ⟨_, rfl⟩
    obtain ⟨rest, hrest⟩ : ∃ rest, line.dropWhile (· ≠ ';') = rest := ⟨_, rfl⟩
    have hline : line = front ++ rest := by
      rw [← hfront, ← hrest, List.takeWhile_append_dropWhile]
    obtain ⟨digits, hsign, hne, hdigits, rfl⟩ := parseHex_eq_ok hparse
    have hgap := hplain.gap
    rw [hfront] at hgap hsign
    obtain ⟨a, b, hab, ha, hb⟩ := Text.exists_trimWhitespace front
    -- Neither white space nor a sign is in front of the digits.
    have htrim : front = digits ++ b := by
      have hhead := hplain.head
      cases a with
      | cons c a =>
        have hc := (hhead c (by rw [hline, hab]; rfl)).2
        rw [ha c List.mem_cons_self] at hc
        cases hc
      | nil =>
        rcases hsign with hsign | hsign
        · rw [hab, hsign]
          rfl
        · exact absurd rfl (hhead '+' (by rw [hline, hab, hsign]; rfl)).1
    refine ⟨digits, b ++ rest, ?_, hne, hdigits, rfl, ?_, ?_⟩
    · rw [hline, htrim, List.append_assoc]
    · have hblanks : ∀ c ∈ b, (c = ' ' ∨ c = '	') ∧ ';' ∈ line := fun c hc =>
        hgap c (by rw [htrim]; exact List.mem_append_right _ hc) (hb c hc)
      cases rest with
      | nil =>
        refine .inl ?_
        rw [List.append_nil]
        refine List.eq_nil_iff_forall_not_mem.mpr fun c hc => ?_
        have hmem := (hblanks c hc).2
        rw [hline, List.append_nil, ← hfront] at hmem
        simpa using List.mem_takeWhile_imp hmem
      | cons c rest =>
        have hc : c = ';' := by
          have hnot := List.head?_dropWhile_not (· ≠ ';') line
          rw [hrest] at hnot
          simpa using hnot
        exact .inr ⟨b, rest, by rw [hc], fun d hd => (hblanks d hd).1⟩
    · have hunbroken := hplain.unbroken
      rw [hline, htrim, List.append_assoc] at hunbroken
      exact ⟨fun h => hunbroken.1 (List.mem_append_right _ h),
        fun h => hunbroken.2 (List.mem_append_right _ h)⟩

/-! ### Lines of a stream -/

/-- A line that is read is in front of the end of a line. -/
theorem append_of_readLineBytes {line line' stream rest : List UInt8}
    (h : readLineBytes line stream = some (line', rest)) :
    line ++ stream = line' ++ crlf ++ rest := by
  fun_induction readLineBytes line stream <;> grind [crlf]

/-- A line that is read is in front of the end of a line. -/
theorem eq_of_readLine {stream rest : List UInt8} {line : List Char}
    (h : readLine stream = .ok (line, rest)) : stream = Text.bytes line ++ crlf ++ rest := by
  obtain ⟨bytes, hbytes, hdecode⟩ := readLine_eq_ok_iff.mp h
  rw [Text.bytes_of_decode? hdecode]
  exact append_of_readLineBytes hbytes

/-- The bytes of a text without a carriage return have none. -/
theorem not_mem_bytes {line : List Char} (h : '\r' ∉ line) : (13 : UInt8) ∉ Text.bytes line :=
  fun hmem => h (Text.mem_of_mem_bytes (d := '\r') (by decide) hmem)

/-- The line of a chunk is read. -/
theorem readLine_sizeLine {line : List Char} {n : ℕ} (h : IsSizeLine line n) (rest : List UInt8) :
    readLine (Text.bytes line ++ crlf ++ rest) = .ok (line, rest) := by
  obtain ⟨digits, ext, rfl, -, hdigits, -, -, hcr, -⟩ := h
  have hline : '\r' ∉ digits ++ ext := by
    rw [List.mem_append]
    exact not_or.mpr ⟨fun h => (ne_of_hexDigit (hdigits _ h)).2.2.2.1 rfl, hcr⟩
  have hread := readLine_bytes (not_mem_bytes hline) rest
  rwa [List.append_assoc]

/-! ### Places -/

section Acceptance

variable {utf8ErrorText : List UInt8 → String} {s s' : Forwarding}

/-- Forwarding takes so many bytes of the stream. -/
theorem exists_of_forwardSizedBody {len remaining : ℕ}
    (h : forwardSizedBody utf8ErrorText len remaining s = (.ok (), s')) :
    ∃ data, data.length = remaining ∧ s.stream = data ++ s'.stream := by
  fun_induction forwardSizedBody utf8ErrorText len remaining s with
  | case1 s =>
    cases h
    exact ⟨[], rfl, rfl⟩
  | case2 => cases h
  | case3 remaining s hne size piece rest hread ih =>
    obtain ⟨hlen, hstream⟩ := readExact_eq_ok hread
    obtain ⟨data, hdata, hrest⟩ := ih h
    dsimp only at hrest
    have hle : size ≤ remaining := Nat.min_le_left ..
    refine ⟨piece ++ data, ?_, ?_⟩
    · rw [List.length_append, hlen, hdata]
      omega
    · rw [hstream, hrest, List.append_assoc]

/-- A stream that is accepted has places. -/
theorem exists_places (h : forwardChunkedBody utf8ErrorText s = (.ok (), s')) :
    ∃ places, Places s.stream places := by
  fun_induction forwardChunkedBody utf8ErrorText s with
  | case1 => cases h
  | case2 => cases h
  | case3 => cases h
  | case4 => cases h
  | case5 s line rest hline s₁ ending rest' hend hsize hbody =>
    obtain ⟨data, hdata, hrest⟩ := exists_of_forwardSizedBody hbody
    obtain rfl := List.length_eq_zero_iff.mp hdata
    obtain ⟨hlen, hstream⟩ := readExact_eq_ok hend
    dsimp only at hrest
    refine ⟨_, .last hline hsize ?_⟩
    rw [hrest, hstream, List.nil_append, List.length_append]
    omega
  | case6 s line rest hline size hsize s₁ hbody ending rest' hend hne ih =>
    obtain ⟨data, hdata, hrest⟩ := exists_of_forwardSizedBody hbody
    obtain ⟨hlen, hstream⟩ := readExact_eq_ok hend
    obtain ⟨places, hplaces⟩ := ih h
    dsimp only at hrest
    rw [hrest, hstream] at hline
    refine ⟨_, .chunk hline (hdata.symm ▸ hsize) (fun hnil => hne ?_) hlen hplaces⟩
    rw [← hdata, hnil]
    rfl

/-- A stream that has places is accepted. -/
theorem exists_forwardChunkedBody {stream : List UInt8} {places : List Place}
    (h : Places stream places) (sent : List (List UInt8)) :
    ∃ s', forwardChunkedBody utf8ErrorText ⟨stream, sent⟩ = (.ok (), s') := by
  induction h generalizing sent with
  | @last stream rest line hline hsize hrest =>
    obtain ⟨out, hout, -⟩ := @forwardSizedBody_data utf8ErrorText 0 [] rest sent
    have hend : readExact 2 rest = .ok (rest.take 2, rest.drop 2) := if_pos hrest
    exact ⟨_, forwardChunkedBody_eq hline hsize hout hend⟩
  | @chunk stream data ending rest line places hline hsize hdata hending _ ih =>
    obtain ⟨out, hout, -⟩ := @forwardSizedBody_data utf8ErrorText data.length data
      (ending ++ rest) sent
    have hrun := @forwardChunkedBody_eq utf8ErrorText ⟨stream, sent⟩ _ _ _ _ _ _ hline hsize hout
      (readExact_append hending)
    rw [if_neg fun h => hdata (List.length_eq_zero_iff.mp h)] at hrun
    obtain ⟨s', hs'⟩ := ih (sent ++ out)
    exact ⟨s', hrun.trans hs'⟩

/-- **A stream begins with a body exactly if its places have nothing else.** -/
theorem chunkedBody_iff_clean {stream : List UInt8} {places : List Place}
    (h : Places stream places) : ChunkedBody stream ↔ ∀ p ∈ places, p.Clean := by
  induction h with
  | @last stream rest line hline hsize hrest =>
    constructor
    · intro hbody
      cases hbody with
      | last hsizeLine htrailer =>
        rw [readLine_sizeLine hsizeLine] at hline
        cases hline
        have hplain := (isSizeLine_iff_plainLine hsize).mp hsizeLine
        exact List.forall_mem_cons.mpr
          ⟨hplain, List.forall_mem_cons.mpr ⟨htrailer, List.forall_mem_nil _⟩⟩
      | chunk hsizeLine hdata _ =>
        rw [readLine_sizeLine hsizeLine] at hline
        cases hline
        exact absurd (size_unique hsizeLine hsize).symm fun h =>
          hdata (List.length_eq_zero_iff.mp h)
    · intro hclean
      obtain ⟨hplain, htrailer⟩ := List.forall_mem_cons.mp hclean
      rw [eq_of_readLine hline]
      exact .last ((isSizeLine_iff_plainLine hsize).mpr hplain)
        (List.forall_mem_cons.mp htrailer).1
  | @chunk stream data ending rest line places hline hsize hdata hending _ ih =>
    constructor
    · intro hbody
      cases hbody with
      | last hsizeLine _ =>
        rw [readLine_sizeLine hsizeLine] at hline
        cases hline
        exact absurd (size_unique hsizeLine hsize) fun h => hdata (List.length_eq_zero_iff.mp h)
      | @chunk line' data' rest' hsizeLine _ hrest' =>
        rw [readLine_sizeLine hsizeLine] at hline
        have hstream := (Prod.ext_iff.mp (Except.ok.inj hline)).2
        obtain rfl : line' = line := (Prod.ext_iff.mp (Except.ok.inj hline)).1
        have hlen : data'.length = data.length := (size_unique hsizeLine hsize).symm
        rw [List.append_assoc] at hstream
        obtain ⟨rfl, hbehind⟩ := List.append_inj hstream hlen
        obtain ⟨hcrlf, rfl⟩ := List.append_inj hbehind (by rw [hending]; rfl)
        have hplain := (isSizeLine_iff_plainLine hsize).mp hsizeLine
        exact List.forall_mem_cons.mpr
          ⟨hplain, List.forall_mem_cons.mpr ⟨hcrlf.symm, ih.mp hrest'⟩⟩
    · intro hclean
      obtain ⟨hplain, hclean⟩ := List.forall_mem_cons.mp hclean
      obtain ⟨hcrlf, hclean⟩ := List.forall_mem_cons.mp hclean
      have hending : ending = crlf := hcrlf
      rw [eq_of_readLine hline, hending, ← List.append_assoc data]
      exact .chunk ((isSizeLine_iff_plainLine hsize).mpr hplain) hdata (ih.mpr hclean)

/-! ### Strictness -/

/-- **The reader is strict on a stream**: it accepts the stream only if that begins with a
body in chunks. -/
def StrictOn (utf8ErrorText : List UInt8 → String) (s : Forwarding) : Prop :=
  ∀ s', forwardChunkedBody utf8ErrorText s = (.ok (), s') → ChunkedBody s.stream

/-- A body whose only chunk is longer than announced. -/
def longChunk : List UInt8 :=
  Text.bytes ['3'] ++ crlf ++ (Text.bytes "abc".toList ++ (Text.bytes "de".toList ++
    (Text.bytes ['0'] ++ crlf ++ crlf)))

theorem places_longChunk : Places longChunk
    [.sizeLine ['3'], .ending (Text.bytes "de".toList), .sizeLine ['0'], .behind crlf] := by
  have hread (c : Char) (hc : (13 : UInt8) ∉ Text.bytes [c]) (rest : List UInt8) :
      readLine (Text.bytes [c] ++ crlf ++ rest) = .ok ([c], rest) := by
    rw [List.append_assoc]
    exact readLine_bytes hc rest
  exact @Places.chunk _ (Text.bytes "abc".toList) _ _ _ _ (hread '3' (by decide) _)
    (by decide +kernel) (by decide +kernel) (by decide +kernel)
    (.last (hread '0' (by decide) crlf) (by decide +kernel) (by decide))

/-- **A chunk that is longer than announced** is cut, and the body is accepted. -/
theorem forwardChunkedBody_not_strict : ¬StrictOn (fun _ => "") ⟨longChunk, []⟩ := by
  intro h
  obtain ⟨s', hs'⟩ := @exists_forwardChunkedBody (fun _ => "") _ _ places_longChunk []
  have hclean := (chunkedBody_iff_clean places_longChunk).mp (h s' hs')
  have hending : Text.bytes "de".toList = crlf := hclean (.ending _) (by simp)
  revert hending
  decide +kernel

/-- **The reader is strict exactly on the streams that have nothing else where it does not
look**: around the digits of a size, behind the data of a chunk, and behind the line of the
last chunk. -/
theorem forwardChunkedBody_strict_iff (utf8ErrorText : List UInt8 → String) (s : Forwarding) :
    StrictOn utf8ErrorText s ↔ ∀ places, Places s.stream places → ∀ p ∈ places, p.Clean := by
  constructor
  · intro h places hplaces
    obtain ⟨s', hs'⟩ := @exists_forwardChunkedBody utf8ErrorText _ _ hplaces s.sent
    exact (chunkedBody_iff_clean hplaces).mp (h s' hs')
  · intro h s' hs'
    obtain ⟨places, hplaces⟩ := exists_places hs'
    exact (chunkedBody_iff_clean hplaces).mpr (h places hplaces)

end Acceptance

end Exarrow.Http
