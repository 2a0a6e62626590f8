import Exarrow.Native.Parts

/-!
# Counted envelopes

A counted envelope as a server writes it: the number of its parts, and the parts one after
another. A part that ends where its bytes end can stand anywhere. Three others cannot.

* The rest of a row transfer (`Exarrow.Native.Part.moreRows`) is all that is left. It may
  only be the last part, and the parser says so.
* A message whose state is left out (`Exarrow.Native.Part.cut`) has to be the last part,
  since the state is only missed at the end of the response.
* A statement handle (`Exarrow.Native.Part.handle`) is followed by parts that describe the
  statement, as many as there are bytes. The parser does not say that it has to be last,
  and reads what comes after it as belonging to it.

**An envelope is understood exactly if a handle, where it has one, is its last part**, and
if the values of its result sets fit their Arrow types
(`Exarrow.Native.Envelope.understood_iff`). Then every warning is returned in order with
the one result. Otherwise the parser fails, so that a result is never taken for another.
-/

namespace Exarrow.Native

open Machine Ieee Checked Arrow Wire Calendar

/-! ### Parts of an envelope -/

/-- A part of an envelope. -/
inductive Part where
  /-- A part that ends where its bytes end. -/
  | leaf (l : Leaf)
  /-- A statement handle, with the parts that describe the statement. -/
  | handle (statement : SInt 32) (subs : List Leaf)
  /-- The rest of a row transfer. -/
  | moreRows (rest : List UInt8)
  /-- A message without its state, an exception or else a warning. -/
  | cut (failed : Bool) (text : WireText)

namespace Part

/-- The bytes of a part. -/
def encode : Part → List UInt8
  | leaf l => l.encode
  | handle statement subs => 2 :: (toLE 4 statement.val ++ subs.flatMap Leaf.encode)
  | moreRows rest => 6 :: rest
  | cut failed text => (if failed then 255 else 4) :: prefixed (Text.bytes text.val)

/-- The part is a result. -/
def isTerminal : Part → Bool
  | leaf l => l.isTerminal
  | handle .. => true
  | moreRows _ => true
  | cut failed _ => failed

/-- The part is a statement handle. -/
def isHandle : Part → Bool
  | handle .. => true
  | _ => false

/-- The part has its end in its own bytes, or is a statement handle. -/
def canPrecede : Part → Bool
  | leaf _ => true
  | handle .. => true
  | _ => false

/-- The warnings of a part. -/
def warnings : Part → List NativeWarning
  | leaf l => l.warnings
  | handle _ subs => subs.flatMap Leaf.warnings
  | moreRows _ => []
  | cut failed text => if failed then [] else [⟨String.ofList text.val, "?????"⟩]

/-- The response is the result that the part is. -/
def Answers : Part → NativeResponse → Prop
  | leaf l, response => l.Answers response
  | handle statement subs, response =>
    response = .preparedStatement statement (describe subs).parameters
      (describe subs).resultColumns
  | moreRows rest, response => response = .moreRows rest
  | cut failed text, response =>
    failed = true ∧ response = .exception (String.ofList text.val) "?????"

/-- There is room for the columns of a part. -/
def Room (lib : Libraries) : Part → Prop
  | leaf l => l.Room lib
  | handle _ subs => ∀ l ∈ subs, l.Room lib
  | _ => True

/-- The values of a part fit their Arrow types. -/
def InRange : Part → Prop
  | leaf l => l.InRange
  | handle _ subs => ∀ l ∈ subs, l.InRange
  | _ => True

/-- No exception describes a statement. -/
def Proper : Part → Prop
  | handle _ subs => ∀ l ∈ subs, l.isException = false
  | _ => True

end Part

/-- What parts add to what came before them: their warnings in order, and the result, if
one of them is one. -/
structure Parts.Collects (ps : List Part) (before after : Parts) : Prop where
  warnings : after.warnings = before.warnings ++ ps.flatMap Part.warnings
  terminal : match ps.find? Part.isTerminal with
    | none => after.terminal = before.terminal
    | some p => ∃ response, after.terminal = some response ∧ p.Answers response

section Read

variable {lib : Libraries} {limit : ℕ}

/-- The first result is assigned. -/
theorem reads_assign {parts : Parts} (hnone : parts.terminal = none) {p : Parse NativeResponse}
    {bs : List UInt8} {response : NativeResponse}
    (h : Reads (Guard.holds lib) limit p bs response) :
    Reads (Guard.holds lib) limit (p.bind fun response =>
        (assignTerminalResult parts.terminal response).bind fun terminal =>
          .done { parts with terminal := terminal }) bs
      { parts with terminal := some response } := by
  rw [← List.append_nil bs]
  refine h.bind ?_
  rw [hnone]
  exact .done

/-- **A part that ends itself is added**, the last one or not. -/
theorem reads_part (hlimit : limit ≤ 2 ^ 63) {l : Leaf} (hroom : l.Room lib) (h : l.InRange)
    {parts : Parts} (hfree : l.isTerminal = true → parts.terminal = none) (data : List UInt8)
    (isLast : Bool) :
    ∃ after, Reads (Guard.holds lib) limit
        (parsePart lib data isLast parts (asI8 l.code.toNat)) l.body after ∧
      Parts.Collects [.leaf l] parts after := by
  have hleaf := fun ht => @reads_leaf lib limit hlimit l ht hroom h
  unfold parsePart
  rw [l.ofCode_code]
  cases l with
  | warning m => exact ⟨_, (reads_message hlimit m).map _, rfl, rfl⟩
  | exception m =>
    obtain ⟨response, hread, hanswers⟩ := hleaf rfl
    exact ⟨_, reads_assign (hfree rfl) hread, (List.append_nil _).symm, response, rfl, hanswers⟩
  | rowCount count =>
    obtain ⟨response, hread, hanswers⟩ := hleaf rfl
    exact ⟨_, reads_assign (hfree rfl) hread, (List.append_nil _).symm, response, rfl, hanswers⟩
  | empty =>
    obtain ⟨response, hread, hanswers⟩ := hleaf rfl
    exact ⟨_, reads_assign (hfree rfl) hread, (List.append_nil _).symm, response, rfl, hanswers⟩
  | resultSet r =>
    obtain ⟨response, hread, hanswers⟩ := hleaf rfl
    exact ⟨_, reads_assign (hfree rfl) hread, (List.append_nil _).symm, response, rfl, hanswers⟩

/-- A part is refused if its values do not fit. -/
theorem refuses_part (hlimit : limit ≤ 2 ^ 63) {l : Leaf} (hroom : l.Room lib) (h : ¬l.InRange)
    (parts : Parts) (data : List UInt8) (isLast : Bool) :
    Refuses (Guard.holds lib) limit (parsePart lib data isLast parts (asI8 l.code.toNat))
      l.body := by
  obtain ⟨-, hrefuses⟩ := @refuses_leaf lib limit hlimit l hroom h
  unfold parsePart
  rw [l.ofCode_code]
  cases l with
  | resultSet r => exact hrefuses.map
  | _ => exact absurd trivial h

/-- The kind of a statement handle is read. -/
theorem parsePart_handle (data : List UInt8) (isLast : Bool) (parts : Parts) :
    parsePart lib data isLast parts (asI8 (2 : UInt8).toNat) =
      (parseHandleOnlyAt (parseLegacyPart lib)).bind fun envelope =>
        (assignTerminalResult parts.terminal envelope.terminal).bind fun terminal =>
          .done { warnings := parts.warnings ++ envelope.warnings, terminal := terminal } := by
  have hkind : ResponseType.ofCode (asI8 (2 : UInt8).toNat).val = some .handle := by
    decide +kernel
  unfold parsePart
  rw [hkind]
  rfl

/-- An exception is read and assigned. -/
theorem parsePart_exception (data : List UInt8) (isLast : Bool) (parts : Parts) :
    parsePart lib data isLast parts (asI8 (255 : UInt8).toNat) =
      (parseMessagePart lib).bind fun w =>
        (assignTerminalResult parts.terminal (.exception w.message w.sqlState)).bind
          fun terminal => .done { parts with terminal := terminal } := by
  have hkind : ResponseType.ofCode (asI8 (255 : UInt8).toNat).val = some .exception := by
    decide +kernel
  unfold parsePart
  rw [hkind]
  exact Reader.bind_bind ..

/-- A warning is read and added. -/
theorem parsePart_warning (data : List UInt8) (isLast : Bool) (parts : Parts) :
    parsePart lib data isLast parts (asI8 (4 : UInt8).toNat) =
      (parseMessagePart lib).bind fun w =>
        .done { parts with warnings := parts.warnings ++ [w] } := by
  have hkind : ResponseType.ofCode (asI8 (4 : UInt8).toNat).val = some .warning := by
    decide +kernel
  unfold parsePart
  rw [hkind]
  rfl

/-- What is left after the last part but one of a response. -/
theorem parsePart_moreRows (data : List UInt8) (parts : Parts) :
    parsePart lib data true parts (asI8 (6 : UInt8).toNat) =
      readRest.bind fun rest => (assignTerminalResult parts.terminal (.moreRows rest)).bind
        fun terminal => .done { parts with terminal := terminal } := by
  have hkind : ResponseType.ofCode (asI8 (6 : UInt8).toNat).val = some .moreRows := by
    decide +kernel
  unfold parsePart
  rw [hkind]
  rfl

/-- A message at the end of a response has no state. -/
theorem run_message_cut (text : WireText) {o : ℕ}
    (hlt : o + (prefixed (Text.bytes text.val)).length < 2 ^ 63) :
    (parseMessagePart lib).run (Guard.holds lib) o (prefixed (Text.bytes text.val)) =
      .ok (⟨String.ofList text.val, "?????"⟩, o + (prefixed (Text.bytes text.val)).length, []) := by
  have hdecode := @reads_decodeText lib (2 ^ 63) (.protocolError
    ("Invalid exception UTF-8: " ++ lib.utf8ErrorText (Text.bytes text.val)))
    (String.ofList text.val)
  rw [String.toList_ofList] at hdecode
  have hpasses : Passes (Guard.holds lib) (2 ^ 63) (parseMessagePart lib)
      (prefixed (Text.bytes text.val) ++ []) _ :=
    (reads_bytes le_rfl _ text.length_bytes_lt).passes.trans hdecode.passes
  rw [List.append_nil] at hpasses
  have hrun := hpasses o [] hlt
  rw [List.append_nil] at hrun
  exact hrun

/-- A part is read after its kind. -/
theorem passes_kind (data : List UInt8) (n : ℕ) (parts : Parts) (c : UInt8) :
    Passes (Guard.holds lib) limit (parseParts lib data (n + 1) parts) [c]
      ((parsePart lib data (n == 0) parts (asI8 c.toNat)).bind (parseParts lib data n)) :=
  (reads_i8 c).passes

/-- What a result assigns. -/
theorem collects_result {p : Part} (hp : p.isTerminal = true) {parts : Parts}
    {response : NativeResponse} (h : p.Answers response) :
    Parts.Collects [p] parts
      { warnings := parts.warnings ++ p.warnings, terminal := some response } := by
  refine ⟨by rw [List.flatMap_singleton], ?_⟩
  rw [List.find?_singleton, if_pos hp]
  exact ⟨response, rfl, h⟩

/-- **A statement handle is read** at the end of a response, with all that describes the
statement. -/
theorem run_handle {statement : SInt 32} {subs : List Leaf} (hroom : ∀ l ∈ subs, l.Room lib)
    (h : ∀ l ∈ subs, l.InRange ∧ l.isException = false) {o : ℕ}
    (hlt : o + (toLE 4 statement.val ++ subs.flatMap Leaf.encode).length < 2 ^ 63) :
    (parseHandleOnlyAt (parseLegacyPart lib)).run (Guard.holds lib) o
        (toLE 4 statement.val ++ subs.flatMap Leaf.encode) =
      .ok (⟨subs.flatMap Leaf.warnings, .preparedStatement statement (describe subs).parameters
          (describe subs).resultColumns⟩,
        o + (toLE 4 statement.val ++ subs.flatMap Leaf.encode).length, []) := by
  rw [List.length_append, ← Nat.add_assoc] at hlt
  have hsubs := @run_subResults_leaves lib subs hroom h _ {} (o + (toLE 4 statement.val).length)
    le_rfl hlt
  have hwarnings : (describe subs).warnings = subs.flatMap Leaf.warnings :=
    (warnings_foldl_addLeaf {} subs).trans (List.nil_append _)
  refine ((reads_i32 statement).passes o _ hlt).trans ((Reader.run_bind ..).trans ?_)
  show ((subResults (parseLegacyPart lib) _ {}).run _ _ _ >>= _) = _
  rw [hsubs, ← hwarnings, List.length_append, ← Nat.add_assoc]
  rfl

/-- The last part is read if its bytes behind the kind are. -/
theorem run_parseParts_last {data : List UInt8} {parts after : Parts} {c : UInt8}
    {body : List UInt8} {o : ℕ} (hlt : o + (c :: body).length < 2 ^ 63)
    (h : (parsePart lib data true parts (asI8 c.toNat)).run (Guard.holds lib) (o + 1) body =
      .ok (after, o + 1 + body.length, [])) :
    (parseParts lib data 1 parts).run (Guard.holds lib) o (c :: body) =
      .ok (after, o + (c :: body).length, []) := by
  have hadd : o + (c :: body).length = o + 1 + body.length := by
    rw [List.length_cons]
    omega
  rw [hadd] at hlt ⊢
  refine (passes_kind data 0 parts c o body hlt).trans ((Reader.run_bind ..).trans ?_)
  show ((parsePart lib data true parts (asI8 c.toNat)).run (Guard.holds lib) (o + 1) body >>= _) = _
  rw [h]
  rfl

/-- **The last part is read**, whatever it is. -/
theorem run_lastPart {p : Part} (hroom : p.Room lib) (hproper : p.Proper) (h : p.InRange)
    {parts : Parts} (hfree : p.isTerminal = true → parts.terminal = none) (data : List UInt8)
    {o : ℕ} (hlt : o + p.encode.length < 2 ^ 63) :
    ∃ after, (parseParts lib data 1 parts).run (Guard.holds lib) o p.encode =
        .ok (after, o + p.encode.length, []) ∧ Parts.Collects [p] parts after := by
  cases p with
  | leaf l =>
    obtain ⟨after, hread, hcollects⟩ :=
      @reads_part lib (2 ^ 63) le_rfl l hroom h parts hfree data true
    refine ⟨after, run_parseParts_last hlt ?_, hcollects⟩
    have hbody : o + 1 + l.body.length + 0 < 2 ^ 63 := by
      have hlen : (Part.leaf l).encode.length = l.body.length + 1 := rfl
      omega
    have hrun := hread (o + 1) [] hbody
    rwa [List.append_nil] at hrun
  | handle statement subs =>
    have hnone := hfree rfl
    have hbody : o + 1 + (toLE 4 statement.val ++ subs.flatMap Leaf.encode).length < 2 ^ 63 := by
      rw [Part.encode, List.length_cons] at hlt
      omega
    have hhandle := @run_handle lib statement subs hroom (fun l hl => ⟨h l hl, hproper l hl⟩) _
      hbody
    refine ⟨_, run_parseParts_last hlt ?_, collects_result rfl rfl⟩
    rw [parsePart_handle, hnone, Reader.run_bind, hhandle]
    rfl
  | moreRows rest =>
    have hnone := hfree rfl
    have hrest : readRest.run (Guard.holds lib) (o + 1) rest =
        .ok (rest, o + 1 + rest.length, []) := by
      show (Reader.take rest.length _ .done).run _ _ _ = _
      rw [Reader.run_take, if_pos le_rfl, List.take_length, List.drop_length]
      rfl
    refine ⟨_, run_parseParts_last hlt ?_, collects_result rfl rfl⟩
    rw [parsePart_moreRows, hnone, Reader.run_bind, hrest]
    rw [show (Part.moreRows rest).warnings = [] from rfl, List.append_nil]
    rfl
  | cut failed text =>
    have hbody : o + 1 + (prefixed (Text.bytes text.val)).length < 2 ^ 63 := by
      rw [Part.encode, List.length_cons] at hlt
      omega
    have hmessage := @run_message_cut lib text _ hbody
    cases failed with
    | true =>
      have hnone := hfree rfl
      refine ⟨_, run_parseParts_last hlt ?_, collects_result rfl ⟨rfl, rfl⟩⟩
      rw [if_pos rfl, parsePart_exception, hnone, Reader.run_bind, hmessage,
        show (Part.cut true text).warnings = [] from rfl, List.append_nil]
      rfl
    | false =>
      refine ⟨{ parts with warnings := parts.warnings ++ (Part.cut false text).warnings },
        run_parseParts_last hlt ?_, ⟨by rw [List.flatMap_singleton], rfl⟩⟩
      rw [if_neg Bool.false_ne_true, parsePart_warning, Reader.run_bind, hmessage]
      rfl

/-- A part and the parts after it add what they add one after the other. -/
theorem Parts.Collects.cons {p : Part} {ps : List Part} {before between after : Parts}
    (h : Parts.Collects [p] before between) (h' : Parts.Collects ps between after)
    (hone : p.isTerminal = true → ∀ q ∈ ps, q.isTerminal = false) :
    Parts.Collects (p :: ps) before after := by
  refine ⟨?_, ?_⟩
  · rw [h'.warnings, h.warnings, List.append_assoc, List.flatMap_singleton]
    rfl
  · have hp := h.terminal
    have hps := h'.terminal
    rw [List.find?_singleton] at hp
    by_cases ht : p.isTerminal = true
    · have hnone : ps.find? Part.isTerminal = none :=
        List.find?_eq_none.mpr fun q hq => by rw [hone ht q hq]; exact Bool.false_ne_true
      rw [hnone] at hps
      rw [if_pos ht] at hp
      rw [List.find?_cons_of_pos ht, hps]
      exact hp
    · rw [if_neg ht] at hp
      rw [List.find?_cons_of_neg ht]
      dsimp only at hp
      rw [← hp]
      exact hps

/-- At most one of the parts is a result, and none if there is one already. -/
structure Parts.Free (parts : Parts) (ps : List Part) : Prop where
  one : ps.countP Part.isTerminal ≤ 1
  none : parts.terminal ≠ none → ps.countP Part.isTerminal = 0

/-- A result finds no other. -/
theorem Parts.Free.terminal_eq_none {parts : Parts} {p : Part} {ps : List Part}
    (h : parts.Free (p :: ps)) (hp : p.isTerminal = true) : parts.terminal = .none := by
  by_contra hne
  have hzero := h.none hne
  rw [List.countP_cons_of_pos hp] at hzero
  omega

/-- After a result there is no other. -/
theorem Parts.Free.not_terminal {parts : Parts} {p : Part} {ps : List Part}
    (h : parts.Free (p :: ps)) (hp : p.isTerminal = true) : ∀ q ∈ ps, q.isTerminal = false := by
  have hone := h.one
  rw [List.countP_cons_of_pos hp] at hone
  have hzero : ps.countP Part.isTerminal = 0 := by omega
  exact fun q hq => Bool.eq_false_iff.mpr (List.countP_eq_zero.mp hzero q hq)

/-- After a part, the parts behind it find what it left. -/
theorem Parts.Free.tail {parts between : Parts} {p : Part} {ps : List Part}
    (h : parts.Free (p :: ps)) (hc : Parts.Collects [p] parts between) : between.Free ps := by
  have hterminal := hc.terminal
  rw [List.find?_singleton] at hterminal
  by_cases hp : p.isTerminal = true
  · have hzero : ps.countP Part.isTerminal = 0 :=
      List.countP_eq_zero.mpr fun q hq => by rw [h.not_terminal hp q hq]; exact Bool.false_ne_true
    exact ⟨by omega, fun _ => hzero⟩
  · rw [if_neg hp] at hterminal
    have hone := h.one
    have hnone := h.none
    rw [List.countP_cons_of_neg hp] at hone hnone
    dsimp only at hterminal
    rw [← hterminal] at hnone
    exact ⟨hone, hnone⟩

/-- The part is passed that ends itself. -/
theorem passes_part (hlimit : limit ≤ 2 ^ 63) {l : Leaf} (hroom : l.Room lib) (h : l.InRange)
    {parts : Parts} (hfree : l.isTerminal = true → parts.terminal = none) (data : List UInt8)
    (n : ℕ) : ∃ between, Passes (Guard.holds lib) limit (parseParts lib data (n + 1) parts) l.encode
      (parseParts lib data n between) ∧ Parts.Collects [.leaf l] parts between := by
  obtain ⟨between, hread, hcollects⟩ := reads_part hlimit hroom h hfree data (n == 0)
  exact ⟨between, (passes_kind data n parts l.code).trans hread.passes, hcollects⟩

/-- What is asked of the parts of an envelope, besides their order. -/
structure PartsOk (lib : Libraries) (ps : List Part) : Prop where
  room : ∀ p ∈ ps, p.Room lib
  proper : ∀ p ∈ ps, p.Proper
  canPrecede : ∀ p ∈ ps.dropLast, p.canPrecede = true

/-- A handle is the last part, and the values of all parts fit their Arrow types. -/
structure HandleLast (ps : List Part) : Prop where
  last : ∀ p ∈ ps.dropLast, p.isHandle = false
  inRange : ∀ p ∈ ps, p.InRange

theorem PartsOk.tail {p q : Part} {ps : List Part} (h : PartsOk lib (p :: q :: ps)) :
    PartsOk lib (q :: ps) :=
  ⟨fun x hx => h.room x (List.mem_cons_of_mem p hx),
    fun x hx => h.proper x (List.mem_cons_of_mem p hx),
    fun x hx => h.canPrecede x (List.mem_cons_of_mem p hx)⟩

/-- **The parts of an envelope are read**, if a handle among them is the last. -/
theorem run_parts {ps : List Part} (hne : ps ≠ []) (hok : PartsOk lib ps) (hlast : HandleLast ps)
    {parts : Parts} (hfree : parts.Free ps) (data : List UInt8) {o : ℕ}
    (hlt : o + (ps.flatMap Part.encode).length < 2 ^ 63) :
    ∃ after, (parseParts lib data ps.length parts).run (Guard.holds lib) o
        (ps.flatMap Part.encode) = .ok (after, o + (ps.flatMap Part.encode).length, []) ∧
      Parts.Collects ps parts after := by
  induction ps generalizing parts o with
  | nil => exact absurd rfl hne
  | cons p ps ih =>
    cases ps with
    | nil =>
      rw [List.flatMap_singleton] at hlt ⊢
      exact run_lastPart (hok.room p List.mem_cons_self) (hok.proper p List.mem_cons_self)
        (hlast.inRange p List.mem_cons_self) hfree.terminal_eq_none data hlt
    | cons q ps =>
      cases p with
      | moreRows rest => exact absurd (hok.canPrecede _ List.mem_cons_self) Bool.false_ne_true
      | cut failed text => exact absurd (hok.canPrecede _ List.mem_cons_self) Bool.false_ne_true
      | handle statement subs =>
        exact absurd (hlast.last _ List.mem_cons_self).symm Bool.false_ne_true
      | leaf l =>
        have hsplit : (Part.leaf l :: q :: ps).flatMap Part.encode =
          l.encode ++ (q :: ps).flatMap Part.encode := rfl
        rw [hsplit, List.length_append, ← Nat.add_assoc] at hlt ⊢
        obtain ⟨between, hpasses, hcollects⟩ := @passes_part lib (2 ^ 63) le_rfl l
          (hok.room _ List.mem_cons_self) (hlast.inRange _ List.mem_cons_self) parts
          hfree.terminal_eq_none data (ps.length + 1)
        obtain ⟨after, hrun, hrest⟩ := ih (List.cons_ne_nil q ps) hok.tail
          ⟨fun x hx => hlast.last x (List.mem_cons_of_mem _ hx),
            fun x hx => hlast.inRange x (List.mem_cons_of_mem _ hx)⟩ (hfree.tail hcollects)
          (o := o + l.encode.length) hlt
        exact ⟨after, (hpasses o _ hlt).trans hrun, hcollects.cons hrest hfree.not_terminal⟩

/-- A part whose values do not fit is not passed. -/
theorem run_parts_leaf_ne_ok {l : Leaf} (hroom : l.Room lib) (h : ¬l.InRange) {data : List UInt8}
    {n : ℕ} {parts : Parts} {o : ℕ} {post : List UInt8}
    (hlt : o + l.encode.length + post.length < 2 ^ 63) {r : Parts × ℕ × List UInt8} :
    (parseParts lib data (n + 1) parts).run (Guard.holds lib) o (l.encode ++ post) ≠ .ok r :=
  ((passes_kind data n parts l.code).refuses
    (@refuses_part lib (2 ^ 63) le_rfl l hroom h parts data _).map) o post hlt r

/-- What comes behind a statement handle is read as belonging to it: nothing is left for
the parts after it. -/
theorem handle_of_run {statement : SInt 32} {bs : List UInt8} {data : List UInt8} {n : ℕ}
    {parts : Parts} {o : ℕ} (hlt : o + 1 + (toLE 4 statement.val ++ bs).length < 2 ^ 63)
    {r : Parts × ℕ × List UInt8}
    (h : (parseParts lib data (n + 1) parts).run (Guard.holds lib) o
      (2 :: (toLE 4 statement.val ++ bs)) = .ok r) :
    (∃ x, (subResults (parseLegacyPart lib) bs.length {}).run (Guard.holds lib)
        (o + 1 + (toLE 4 statement.val).length) bs = .ok x) ∧
      ∃ parts' o', (parseParts lib data n parts').run (Guard.holds lib) o' [] = .ok r := by
  have hrun := ((@passes_kind lib (2 ^ 63) data n parts 2) o _ hlt).symm.trans h
  rw [parsePart_handle, Reader.run_bind] at hrun
  obtain ⟨⟨parts', o', rest⟩, hpart, hrest⟩ := bind_eq_ok.mp hrun
  rw [Reader.run_bind] at hpart
  obtain ⟨⟨envelope, o₁, bs₁⟩, hhandle, hassign⟩ := bind_eq_ok.mp hpart
  have hlt' : o + 1 + (toLE 4 statement.val).length + bs.length < 2 ^ 63 := by
    rw [List.length_append] at hlt
    omega
  have hsubs := ((@reads_i32 lib (2 ^ 63) statement).passes (o + 1) bs hlt').symm.trans hhandle
  obtain ⟨⟨d, o₂, bs₂⟩, hd, hdone⟩ := bind_eq_ok.mp ((Reader.run_bind ..).symm.trans hsubs)
  have hnil : bs₂ = [] := eq_nil_of_run_subResults le_rfl hd
  have hle₁ : bs₁.length ≤ bs₂.length := length_le_of_run hdone
  have hle : rest.length ≤ bs₁.length := length_le_of_run hassign
  have hrest' : rest = [] := by
    rw [hnil, List.length_nil] at hle₁
    exact List.eq_nil_of_length_eq_zero (by omega)
  subst hrest'
  exact ⟨⟨_, hd⟩, parts', o', hrest⟩

/-- There is no part where there are no bytes. -/
theorem run_parts_nil_ne_ok {data : List UInt8} {n : ℕ} {parts : Parts} {o : ℕ}
    {r : Parts × ℕ × List UInt8} :
    (parseParts lib data (n + 1) parts).run (Guard.holds lib) o [] ≠ .ok r :=
  fun h => Nat.not_lt_zero _ (progress_readI8.bind h)

/-- The parts that describe a statement have values that fit. -/
theorem inRange_of_run {subs : List Leaf} (hroom : ∀ l ∈ subs, l.Room lib)
    (hproper : ∀ l ∈ subs, l.isException = false) {o : ℕ}
    (hlt : o + (subs.flatMap Leaf.encode).length < 2 ^ 63) {x : Description × ℕ × List UInt8}
    (h : (subResults (parseLegacyPart lib) (subs.flatMap Leaf.encode).length {}).run
      (Guard.holds lib) o (subs.flatMap Leaf.encode) = .ok x) : ∀ l ∈ subs, l.InRange := by
  by_contra hbad
  obtain ⟨l, hl⟩ := not_forall.mp hbad
  exact run_subResults_ne_ok hroom hproper ⟨l, Classical.not_imp.mp hl⟩ le_rfl hlt h

/-- **What an envelope must be if its parts are read.** -/
theorem handleLast_of_run {ps : List Part} (hok : PartsOk lib ps) {parts : Parts}
    (hfree : parts.Free ps) {data : List UInt8} {o : ℕ}
    (hlt : o + (ps.flatMap Part.encode).length < 2 ^ 63) {r : Parts × ℕ × List UInt8}
    (h : (parseParts lib data ps.length parts).run (Guard.holds lib) o (ps.flatMap Part.encode) =
      .ok r) : HandleLast ps := by
  induction ps generalizing parts o with
  | nil => exact ⟨List.forall_mem_nil _, List.forall_mem_nil _⟩
  | cons p ps ih =>
    have hroom := hok.room p List.mem_cons_self
    have hproper := hok.proper p List.mem_cons_self
    have hsplit : (p :: ps).flatMap Part.encode = p.encode ++ ps.flatMap Part.encode := rfl
    rw [hsplit, List.length_append, ← Nat.add_assoc] at hlt
    rw [hsplit, List.length_cons] at h
    cases p with
    | handle statement subs =>
      have hbytes : (Part.handle statement subs).encode ++ ps.flatMap Part.encode =
          2 :: (toLE 4 statement.val ++ (subs.flatMap Leaf.encode ++ ps.flatMap Part.encode)) := by
        rw [← List.append_assoc]
        rfl
      have hlen : (Part.handle statement subs).encode.length =
          (toLE 4 statement.val).length + (subs.flatMap Leaf.encode).length + 1 := by
        rw [Part.encode, List.length_cons, List.length_append]
      rw [hbytes] at h
      obtain ⟨⟨x, hsubs⟩, parts', o', hrest⟩ := handle_of_run (by
        rw [List.length_append, List.length_append]
        omega) h
      cases ps with
      | nil =>
        rw [List.flatMap_nil, List.append_nil] at hsubs
        refine ⟨List.forall_mem_nil _, List.forall_mem_singleton.mpr ?_⟩
        exact inRange_of_run hroom hproper (by omega) hsubs
      | cons q ps => exact absurd hrest run_parts_nil_ne_ok
    | moreRows rest =>
      cases ps with
      | nil => exact ⟨List.forall_mem_nil _, List.forall_mem_singleton.mpr trivial⟩
      | cons q ps => exact absurd (hok.canPrecede _ List.mem_cons_self) Bool.false_ne_true
    | cut failed text =>
      cases ps with
      | nil => exact ⟨List.forall_mem_nil _, List.forall_mem_singleton.mpr trivial⟩
      | cons q ps => exact absurd (hok.canPrecede _ List.mem_cons_self) Bool.false_ne_true
    | leaf l =>
      have hrange : l.InRange := by
        by_contra hbad
        exact run_parts_leaf_ne_ok hroom hbad hlt h
      cases ps with
      | nil => exact ⟨List.forall_mem_nil _, List.forall_mem_singleton.mpr hrange⟩
      | cons q ps =>
        obtain ⟨between, hpasses, hcollects⟩ := @passes_part lib (2 ^ 63) le_rfl l hroom hrange
          parts hfree.terminal_eq_none data (ps.length + 1)
        obtain ⟨hlast, hranges⟩ := ih hok.tail (hfree.tail hcollects) (o := o + l.encode.length) hlt
          ((hpasses o _ hlt).symm.trans h)
        exact ⟨List.forall_mem_cons.mpr ⟨rfl, hlast⟩, List.forall_mem_cons.mpr ⟨hrange, hranges⟩⟩

end Read

/-! ### What looks like an envelope -/

section Looks

variable {lib : Libraries} {data : List UInt8}

/-- What looks like a counted envelope begins with the number of its parts. -/
theorem exists_count_of_looksCounted (h : looksCounted data = true) : ∃ count : SInt 32,
    data = toLE 4 count.val ++ data.drop 4 ∧ count.val = resultCount data ∧
      asUsize count.val = (resultCount data).toNat ∧ 5 ≤ data.length := by
  unfold looksCounted at h
  simp only [Bool.and_eq_true, decide_eq_true_eq] at h
  obtain ⟨⟨⟨hlength, hpos⟩, hle⟩, -⟩ := h
  have htake : (data.take 4).length = 4 := List.length_take_of_le (by omega)
  obtain ⟨count, hcount⟩ : ∃ count : SInt 32, toLE 4 count.val = data.take 4 :=
    exists_toLE_eq (by norm_num) htake
  have hval : count.val = resultCount data := by
    rw [resultCount, ← hcount]
    exact (@ofLE_toLE 4 (by norm_num) count).symm
  refine ⟨count, by rw [hcount, List.take_append_drop], hval, ?_, hlength⟩
  rw [asUsize, hval]
  omega

/-- **What looks like a counted envelope is read part by part**, and has to end with its last
part. -/
theorem parse_of_looksCounted (h : looksCounted data = true) (hlt : data.length < 2 ^ 63) :
    parse lib (tryParseCountedEnvelope lib data) data =
      ((parseParts lib data (resultCount data).toNat {}).run (Guard.holds lib) 4 (data.drop 4) >>=
        fun r => if r.2.2.length ≠ 0 then .ok none
          else .ok (some ⟨r.1.warnings, r.1.terminal.getD .empty⟩)) := by
  obtain ⟨count, hdata, -, hsize, hlength⟩ := exists_count_of_looksCounted h
  have hlen : (toLE 4 count.val).length = 4 := length_toLE 4 _
  have hlt' : 0 + (toLE 4 count.val).length + (data.drop 4).length < 2 ^ 63 := by
    rw [hlen, List.length_drop]
    omega
  let go : Parts → Parse (Option NativeResponseEnvelope) := fun parts => .remaining fun r =>
    if r ≠ 0 then .done none else .done (some ⟨parts.warnings, parts.terminal.getD .empty⟩)
  have hgo : tryParseCountedEnvelope lib data = readI32.bind fun count =>
      (parseParts lib data (asUsize count.val) {}).bind go := if_pos h
  have hrun := (@reads_i32 lib (2 ^ 63) count).passes (f := fun count =>
    (parseParts lib data (asUsize count.val) {}).bind go) 0 _ hlt'
  rw [hsize, ← hdata, ← hgo, hlen, Nat.zero_add, Reader.run_bind] at hrun
  rw [parse, hrun]
  rcases (parseParts lib data (resultCount data).toNat {}).run (Guard.holds lib) 4
    (data.drop 4) with f | ⟨parts, o, bs⟩
  · rfl
  · show ((Reader.run (Guard.holds lib) (if bs.length ≠ 0 then _ else _) o bs) >>= _) = _
    by_cases hbs : bs.length ≠ 0
    · rw [if_pos hbs]
      exact (if_pos hbs).symm
    · rw [if_neg hbs]
      exact (if_neg hbs).symm

/-- What looks like a counted envelope is read as one first. -/
theorem parseResponse_of_looksCounted (h : looksCounted data = true) : parseResponse lib data =
    (parse lib (tryParseCountedEnvelope lib data) data >>= fun found => match found with
      | some envelope => .ok envelope
      | none => parse lib (parseLegacyResponse lib) data) := by
  obtain ⟨-, -, -, -, hlength⟩ := exists_count_of_looksCounted h
  have hnil : data ≠ [] := List.ne_nil_of_length_pos (by omega)
  have hfour : ¬(data.length = 4 ∧ ofLE data = 0) := fun h => by omega
  rw [parseResponse, if_neg hnil, if_neg hfour]
  rfl

end Looks

/-! ### Envelopes -/

/-- A counted envelope: any number of warnings and one result at most. -/
structure Envelope where
  parts : List Part
  count : 1 ≤ parts.length ∧ parts.length ≤ 64
  oneResult : parts.countP Part.isTerminal ≤ 1
  /-- The rest of a row transfer, and a message without its state, only come last. -/
  canPrecede : ∀ p ∈ parts.dropLast, p.canPrecede = true
  proper : ∀ p ∈ parts, p.Proper

namespace Envelope

/-- The bytes of an envelope. -/
def encode (e : Envelope) : List UInt8 :=
  toLE 4 e.parts.length ++ e.parts.flatMap Part.encode

/-- There is room for the columns of the result sets. -/
def Room (lib : Libraries) (e : Envelope) : Prop := ∀ p ∈ e.parts, p.Room lib

/-- **The envelope is understood**: every warning is returned, in order, with the one
result, or an empty one. -/
def Understood (lib : Libraries) (e : Envelope) : Prop :=
  ∃ envelope, parseResponse lib e.encode = .ok envelope ∧
    envelope.warnings = e.parts.flatMap Part.warnings ∧
    match e.parts.find? Part.isTerminal with
    | none => envelope.terminal = .empty
    | some p => p.Answers envelope.terminal

variable {lib : Libraries} (e : Envelope)

/-- A part begins with the byte of its kind. -/
theorem exists_code (p : Part) : ∃ c body, p.encode = c :: body ∧
    (ResponseType.ofCode (asI8 c.toNat).val).isSome = true := by
  cases p with
  | leaf l => exact ⟨l.code, l.body, rfl, by rw [l.ofCode_code]; rfl⟩
  | handle statement subs => exact ⟨2, _, rfl, by decide +kernel⟩
  | moreRows rest => exact ⟨6, rest, rfl, by decide +kernel⟩
  | cut failed text =>
    cases failed with
    | true => exact ⟨255, _, rfl, by decide +kernel⟩
    | false => exact ⟨4, _, rfl, by decide +kernel⟩

/-- The number of parts has 32 bits. -/
theorem exists_count : ∃ count : SInt 32, count.val = e.parts.length := by
  have hcount := e.count
  exact ⟨⟨e.parts.length, by norm_num, by norm_num; omega⟩, rfl⟩

/-- An envelope looks like one. -/
theorem looksCounted_encode : looksCounted e.encode = true := by
  obtain ⟨hpos, hle⟩ := e.count
  obtain ⟨p, ps, hparts⟩ := List.exists_cons_of_length_pos hpos
  obtain ⟨c, body, hcode, hknown⟩ := exists_code p
  obtain ⟨count, hval⟩ := e.exists_count
  have hsplit : e.encode = toLE 4 count.val ++ c :: (body ++ ps.flatMap Part.encode) := by
    rw [hval, encode, hparts, List.flatMap_cons, hcode]
    rfl
  have hlen : (toLE 4 count.val).length = 4 := length_toLE 4 _
  have htake : e.encode.take 4 = toLE 4 count.val := by rw [hsplit, List.take_left' hlen]
  have hfirst : e.encode.getD 4 0 = c := by
    rw [hsplit, List.getD_eq_getElem?_getD, List.getElem?_append_right (by omega), hlen]
    rfl
  unfold looksCounted resultCount firstPartType
  have hlength : 5 ≤ e.encode.length := by
    rw [hsplit, List.length_append, List.length_cons, hlen]
    omega
  rw [htake, hfirst, hknown, @ofLE_toLE 4 (by norm_num) count, hval, decide_eq_true hlength,
    decide_eq_true (by omega), decide_eq_true (by omega)]
  rfl

/-- The parts of an envelope are in order, apart from statement handles. -/
theorem partsOk (hroom : e.Room lib) : PartsOk lib e.parts := ⟨hroom, e.proper, e.canPrecede⟩

theorem free : Parts.Free {} e.parts := ⟨e.oneResult, fun h => absurd rfl h⟩

/-- **An envelope is read part by part**, and has to end with its last part. -/
theorem parse_counted (hlt : e.encode.length < 2 ^ 63) :
    parse lib (tryParseCountedEnvelope lib e.encode) e.encode =
      ((parseParts lib e.encode e.parts.length {}).run (Guard.holds lib) 4
        (e.parts.flatMap Part.encode) >>= fun r =>
          if r.2.2.length ≠ 0 then .ok none
          else .ok (some ⟨r.1.warnings, r.1.terminal.getD .empty⟩)) := by
  obtain ⟨count, hval⟩ := e.exists_count
  have hlen : (toLE 4 (e.parts.length : ℤ)).length = 4 := length_toLE 4 _
  have hcount : resultCount e.encode = e.parts.length := by
    rw [resultCount, encode, List.take_left' hlen, ← hval]
    exact @ofLE_toLE 4 (by norm_num) count
  have hdrop : e.encode.drop 4 = e.parts.flatMap Part.encode := List.drop_left' hlen
  rw [parse_of_looksCounted e.looksCounted_encode hlt, hcount, hdrop, Int.toNat_natCast]

/-- An envelope is read as a counted one first. -/
theorem parseResponse_encode : parseResponse lib e.encode =
    (parse lib (tryParseCountedEnvelope lib e.encode) e.encode >>= fun found => match found with
      | some envelope => .ok envelope
      | none => parse lib (parseLegacyResponse lib) e.encode) :=
  parseResponse_of_looksCounted e.looksCounted_encode

theorem length_parts_lt (hlt : e.encode.length < 2 ^ 63) :
    4 + (e.parts.flatMap Part.encode).length < 2 ^ 63 := by
  rw [encode, List.length_append, length_toLE] at hlt
  exact hlt

/-- What an envelope must be if the parser returns a response. -/
theorem handleLast_of_parseResponse (hroom : e.Room lib) (hlt : e.encode.length < 2 ^ 63)
    {envelope : NativeResponseEnvelope} (h : parseResponse lib e.encode = .ok envelope) :
    HandleLast e.parts := by
  rw [e.parseResponse_encode, e.parse_counted hlt] at h
  obtain ⟨found, hfound, -⟩ := bind_eq_ok.mp h
  obtain ⟨r, hr, -⟩ := bind_eq_ok.mp hfound
  exact handleLast_of_run (e.partsOk hroom) e.free (e.length_parts_lt hlt) hr

/-- **An envelope is understood exactly if a statement handle is its last part**, where it
has one, and the values of its result sets fit their Arrow types. -/
theorem understood_iff (hroom : e.Room lib) (hlt : e.encode.length < 2 ^ 63) :
    e.Understood lib ↔ HandleLast e.parts := by
  have hne : e.parts ≠ [] := List.ne_nil_of_length_pos e.count.1
  constructor
  · rintro ⟨envelope, hparsed, -⟩
    exact e.handleLast_of_parseResponse hroom hlt hparsed
  · intro hlast
    obtain ⟨after, hrun, hcollects⟩ :=
      run_parts hne (e.partsOk hroom) hlast e.free e.encode (e.length_parts_lt hlt)
    refine ⟨⟨after.warnings, after.terminal.getD .empty⟩, ?_, ?_, ?_⟩
    · rw [e.parseResponse_encode, e.parse_counted hlt, hrun]
      rfl
    · exact hcollects.warnings.trans (List.nil_append _)
    · have hterminal := hcollects.terminal
      cases hfind : e.parts.find? Part.isTerminal with
      | none =>
        rw [hfind] at hterminal
        dsimp only at hterminal ⊢
        rw [hterminal]
        rfl
      | some p =>
        rw [hfind] at hterminal
        obtain ⟨response, hresponse, hanswers⟩ := hterminal
        dsimp only
        rw [hresponse]
        exact hanswers

/-- A warning. -/
def careful : WireMessage :=
  ⟨⟨"careful".toList, by decide⟩, ⟨"01000".toList, by decide⟩⟩

/-- A number of rows after a warning. -/
def warnedRowCount : Envelope where
  parts := [.leaf (.warning careful), .leaf (.rowCount 7)]
  count := by decide
  oneResult := by decide
  canPrecede := by decide
  proper := List.forall_mem_cons.mpr ⟨trivial, List.forall_mem_singleton.mpr trivial⟩

theorem understood_iff_warnedRowCount :
    warnedRowCount.Understood plainLibraries ↔ HandleLast warnedRowCount.parts :=
  warnedRowCount.understood_iff
    (List.forall_mem_cons.mpr ⟨trivial, List.forall_mem_singleton.mpr trivial⟩) (by decide)

/-- A warning after a statement handle. -/
def handleFirst : Envelope where
  parts := [.handle 31 [], .leaf (.warning careful)]
  count := by decide
  oneResult := by decide
  canPrecede := by decide
  proper := List.forall_mem_cons.mpr ⟨List.forall_mem_nil _, List.forall_mem_singleton.mpr trivial⟩

/-- The warning is read as a part of the description, and then missed. -/
theorem handleFirst_not_understood : ¬handleFirst.Understood plainLibraries := by
  rintro ⟨envelope, hparsed, -⟩
  have hroom : handleFirst.Room plainLibraries :=
    List.forall_mem_cons.mpr ⟨List.forall_mem_nil _, List.forall_mem_singleton.mpr trivial⟩
  have hlast := handleFirst.handleLast_of_parseResponse hroom (by decide) hparsed
  exact Bool.false_ne_true (hlast.last _ List.mem_cons_self).symm

end Envelope

end Exarrow.Native
