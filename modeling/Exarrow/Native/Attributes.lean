import Exarrow.Native.Framing

/-!
# Attributes, byte by byte

`Exarrow.Native.parseAttributes` reads attributes off the front of a byte string. The program keeps
an offset into the bytes instead, compares it with their number before it reads, and then indexes
them (`Exarrow.Native.Attributes.parseAttributes`). An index or a range beyond the bytes stops the
program here, and so does a sum of sizes that is too large for the machine, if the build checks it.

The two are tied by `Exarrow.Native.Attributes.Tracks`: what one reader leaves is what stands
behind the offset of the other. It follows that **the reader returns on all bytes**
(`Exarrow.Native.Attributes.parseAttributes_ne_stop`), and that the offset it ends with is the
number of bytes of the attributes that it gives (`Exarrow.Native.Attributes.offset_of_parse`).

The number of bytes of an attribute set is sent as 32 bits, and so are the length of each text and
the number of attributes. Attributes are read back as long as they have fewer than 2³² bytes
altogether (`Exarrow.Native.Attributes.readsBack_of_lt`), and from there on they never are.
-/

namespace Exarrow.Native

open Machine Checked

/-! ### The lengths of attributes -/

/-- The number of bytes of an attribute. -/
def serializedLen (attr : UInt16 × AttributeValue) : ℕ :=
  2 + match attr.2 with
    | .string s => 4 + Text.byteLen s.toList
    | .binary bytes => 4 + bytes.length
    | .int32 _ => 4
    | .int64 _ => 8
    | .bool _ => 1

namespace AttributeSet

/-- The number of attributes, in 32 bits. -/
def numAttributes (attrs : AttributeSet) : UInt32 := UInt32.ofNat attrs.length

/-- The number of bytes of all attributes. -/
def byteCount (attrs : AttributeSet) : ℕ := (attrs.map serializedLen).sum

/-- The number of bytes of all attributes, in 32 bits. -/
def dataLen (attrs : AttributeSet) : UInt32 := UInt32.ofNat attrs.byteCount

end AttributeSet

/-- An attribute has the bytes that are counted for it. -/
theorem length_serializeAttribute (attr : UInt16 × AttributeValue) :
    (serializeAttribute attr).length = serializedLen attr := by
  obtain ⟨id, value⟩ := attr
  cases value <;> simp [serializeAttribute, serializedLen, prefixed, Text.length_bytes]

/-- **The attributes have the bytes that are counted for them.** -/
theorem AttributeSet.length_serialize (attrs : AttributeSet) :
    attrs.serialize.length = attrs.byteCount := by
  rw [AttributeSet.serialize, AttributeSet.byteCount, List.length_flatMap]
  exact congrArg List.sum (List.map_congr_left fun attr _ => length_serializeAttribute attr)

/-- The variant of a value. -/
def AttributeValue.attrType : AttributeValue → AttrType
  | .string _ => .str
  | .binary _ => .bin
  | .int32 _ => .i32
  | .int64 _ => .i64
  | .bool _ => .bool

/-- **Every value has the variant that its number prescribes.** -/
def AttributeSet.WellTyped (attrs : AttributeSet) : Prop :=
  ∀ attr ∈ attrs, attr.2.attrType = attributeType attr.1

namespace Attributes

/-! ### The reader with an offset -/

/-- The bytes of a slice: there are no more than a signed machine word can count. -/
structure Slice where
  bytes : List UInt8
  length_lt : bytes.length < 2 ^ 63

/-- A sum of two sizes. -/
def addUsize (ov : Overflow) (a b : ℕ) : Exec TransportError ℕ :=
  if a + b < 2 ^ 64 then .ok (a + b)
  else match ov with
    | .panics => stop
    | .wraps => .ok ((a + b) % 2 ^ 64)

/-- A difference of two sizes. -/
def subUsize (ov : Overflow) (a b : ℕ) : Exec TransportError ℕ :=
  if b ≤ a then .ok (a - b)
  else match ov with
    | .panics => stop
    | .wraps => .ok (2 ^ 64 + a - b)

section Read

variable (lib : Libraries) (ov : Overflow) (data : Slice)

/-- The byte at an index; an index beyond the bytes stops the program. -/
def index (i : ℕ) : Exec TransportError UInt8 :=
  match data.bytes[i]? with
  | some b => .ok b
  | none => stop

/-- The bytes of a range; a range that is not within the bytes stops the program. -/
def range (first last : ℕ) : Exec TransportError (List UInt8) :=
  if first ≤ last ∧ last ≤ data.bytes.length then .ok ((data.bytes.drop first).take (last - first))
  else stop

/-- So many bytes from an offset on, each by its index. -/
def array (n offset : ℕ) : Exec TransportError (List UInt8) :=
  (List.range n).mapM fun i => do index data (← addUsize ov offset i)

/-- A field of so many bytes, and the offset behind it. -/
def readField (n : ℕ) (what : String) (offset : ℕ) : Exec TransportError (List UInt8 × ℕ) := do
  let last ← addUsize ov offset n
  if data.bytes.length < last then fail (attributesTruncated what)
  else return (← array ov data n offset, last)

/-- The number of an attribute. -/
def readAttributeId (offset : ℕ) : Exec TransportError (UInt16 × ℕ) := do
  let (bytes, offset) ← readField ov data 2 "missing attr_id" offset
  return (UInt16.ofNat (natOfLE bytes), offset)

/-- Bytes after their length. -/
def readLengthPrefixed (offset : ℕ) : Exec TransportError (List UInt8 × ℕ) := do
  let (length, offset) ← readField ov data 4 "missing length" offset
  let last ← addUsize ov offset (natOfLE length)
  if data.bytes.length < last then do
    let have_ ← subUsize ov data.bytes.length offset
    fail (attributesTruncated s!"need {natOfLE length} bytes, have {have_}")
  else return (← range data offset last, last)

/-- A text. -/
def readString (id : UInt16) (offset : ℕ) : Exec TransportError (AttributeValue × ℕ) := do
  let (bytes, offset) ← readLengthPrefixed ov data offset
  match Text.decode? bytes with
  | some s => return (.string (String.ofList s), offset)
  | none => fail (.protocolError
      (s!"invalid UTF-8 in attribute {id.toNat}: " ++ lib.utf8ErrorText bytes))

/-- An integer of 32 bits. -/
def readInt32 (offset : ℕ) : Exec TransportError (AttributeValue × ℕ) := do
  let (bytes, offset) ← readField ov data 4 "missing i32" offset
  return (.int32 (SInt.wrap 32 SInt.pos_32 (natOfLE bytes)), offset)

/-- An integer of 64 bits. -/
def readInt64 (offset : ℕ) : Exec TransportError (AttributeValue × ℕ) := do
  let (bytes, offset) ← readField ov data 8 "missing i64" offset
  return (.int64 (SInt.wrap 64 SInt.pos_64 (natOfLE bytes)), offset)

/-- A truth value. -/
def readBool (offset : ℕ) : Exec TransportError (AttributeValue × ℕ) :=
  if data.bytes.length ≤ offset then fail (attributesTruncated "missing bool")
  else do
    let b ← index data offset
    return (.bool (b != 0), ← addUsize ov offset 1)

/-- The value of an attribute, from its number. -/
def readAttributeValue (id : UInt16) (offset : ℕ) : Exec TransportError (AttributeValue × ℕ) :=
  match attributeType id with
  | .str => readString lib ov data id offset
  | .bin => do
    let (bytes, offset) ← readLengthPrefixed ov data offset
    return (.binary bytes, offset)
  | .i32 => readInt32 ov data offset
  | .i64 => readInt64 ov data offset
  | .bool => readBool ov data offset

/-- So many attributes from an offset on, and the offset behind them. -/
def parseFrom : ℕ → ℕ → Exec TransportError (AttributeSet × ℕ)
  | 0, offset => .ok ([], offset)
  | count + 1, offset => do
    let (id, offset) ← readAttributeId ov data offset
    let (value, offset) ← readAttributeValue lib ov data id offset
    let (attrs, offset) ← parseFrom count offset
    return ((id, value) :: attrs, offset)

/-- Read so many attributes. The offset, which the program keeps to itself, is where it ends. -/
def parseAttributes (count : UInt32) : Exec TransportError (AttributeSet × ℕ) :=
  parseFrom lib ov data count.toNat 0

end Read

/-! ### The two readers -/

section Track

variable {lib : Libraries} {ov : Overflow} {data : Slice} {α β : Type} {offset : ℕ}

/-- **The reader with an offset does what the other does** on the bytes behind the offset. -/
structure Tracks (data : Slice) (offset : ℕ) (run : Exec TransportError (α × ℕ))
    (read : Except TransportError (α × List UInt8)) : Prop where
  ok : ∀ a rest, read = .ok (a, rest) → ∃ next, offset ≤ next ∧ next ≤ data.bytes.length ∧
    rest = data.bytes.drop next ∧ run = .ok (a, next)
  error : ∀ e, read = .error e → run = fail e

/-- One after the other. -/
theorem Tracks.bind {run : Exec TransportError (α × ℕ)}
    {read : Except TransportError (α × List UInt8)} {f : α × ℕ → Exec TransportError (β × ℕ)}
    {g : α × List UInt8 → Except TransportError (β × List UInt8)} (h : Tracks data offset run read)
    (hf : ∀ a next, next ≤ data.bytes.length → read = .ok (a, data.bytes.drop next) →
      Tracks data next (f (a, next)) (g (a, data.bytes.drop next))) :
    Tracks data offset (run >>= f) (read >>= g) where
  ok b rest hread := by
    obtain ⟨⟨a, rest'⟩, ha, hg⟩ := bind_eq_ok.mp hread
    obtain ⟨next, hle, hnext, rfl, hrun⟩ := h.ok a rest' ha
    obtain ⟨last, hle', hlast, hrest, hrun'⟩ := (hf a next hnext ha).ok b rest hg
    refine ⟨last, hle.trans hle', hlast, hrest, ?_⟩
    rw [hrun, ok_bind, hrun']
  error e hread := by
    cases hr : read with
    | error e' =>
      rw [hr] at hread
      cases hread
      rw [h.error _ hr, fail_bind]
    | ok p =>
      obtain ⟨a, rest'⟩ := p
      rw [hr] at hread
      obtain ⟨next, -, hnext, rfl, hrun⟩ := h.ok a rest' hr
      rw [hrun, ok_bind]
      exact (hf a next hnext hr).error e hread

/-- A value is given back. -/
theorem tracks_pure (a : α) (hle : offset ≤ data.bytes.length) :
    Tracks data offset (pure (a, offset)) (pure (a, data.bytes.drop offset)) where
  ok b rest h := by
    cases h
    exact ⟨offset, le_rfl, hle, rfl, rfl⟩
  error e h := by cases h

/-- An error is given back. -/
theorem tracks_fail (e : TransportError) :
    @Tracks α data offset (fail e) (.error e) where
  ok b rest h := by cases h
  error e' h := by
    cases h
    rfl

/-- A reader that is tracked does not stop the program. -/
theorem Tracks.ne_stop {run : Exec TransportError (α × ℕ)}
    {read : Except TransportError (α × List UInt8)} (h : Tracks data offset run read) :
    run ≠ stop := by
  intro hstop
  cases hr : read with
  | error e =>
    rw [h.error e hr] at hstop
    cases hstop
  | ok p =>
    obtain ⟨next, -, -, -, hrun⟩ := h.ok p.1 p.2 hr
    rw [hrun] at hstop
    cases hstop

/-- Sizes that are within the machine's are added. -/
theorem addUsize_ok {a b : ℕ} (h : a + b < 2 ^ 64) : addUsize ov a b = .ok (a + b) := if_pos h

/-- A size is taken from one that is not smaller. -/
theorem subUsize_ok {a b : ℕ} (h : b ≤ a) : subUsize ov a b = .ok (a - b) := if_pos h

/-- Bytes within the slice, by their indices. -/
theorem array_ok {n : ℕ} (h : offset + n ≤ data.bytes.length) :
    array ov data n offset = .ok ((data.bytes.drop offset).take n) := by
  have hlt := data.length_lt
  refine mapM_eq_ok.mpr (List.forall₂_iff_get.mpr ⟨?_, fun i hi hi' => ?_⟩)
  · rw [List.length_range, List.length_take, List.length_drop]
    omega
  · rw [List.length_range] at hi
    have hget : data.bytes[offset + i]? = some ((data.bytes.drop offset).take n)[i] := by
      rw [List.getElem_take, List.getElem_drop]
      exact List.getElem?_eq_getElem _
    simp only [List.get_eq_getElem, List.getElem_range]
    rw [addUsize_ok (by omega), ok_bind, index, hget]

theorem length_of_splitBytes {n : ℕ} {what : String} {bytes taken rest : List UInt8}
    (h : splitBytes n what bytes = .ok (taken, rest)) : taken.length = n := by
  unfold splitBytes at h
  split at h
  · rename_i hle
    cases h
    exact List.length_take_of_le hle
  · cases h

/-- A field. -/
theorem tracks_readField {n : ℕ} (what : String) (hn : n < 2 ^ 32)
    (hle : offset ≤ data.bytes.length) :
    Tracks data offset (readField ov data n what offset)
      (splitBytes n what (data.bytes.drop offset)) := by
  have hlt := data.length_lt
  unfold readField splitBytes
  rw [addUsize_ok (by omega), ok_bind, List.length_drop]
  split
  · rename_i hshort
    rw [if_neg (by omega)]
    exact tracks_fail _
  · rename_i hlong
    rw [if_pos (by omega), array_ok (by omega), ok_bind, List.drop_drop]
    refine ⟨fun a rest h => ?_, fun e h => by cases h⟩
    cases h
    exact ⟨offset + n, by omega, by omega, rfl, rfl⟩

/-- The number of an attribute. -/
theorem tracks_readAttributeId (hle : offset ≤ data.bytes.length) :
    Tracks data offset (readAttributeId ov data offset)
      (splitBytes 2 "missing attr_id" (data.bytes.drop offset) >>= fun p =>
        pure (UInt16.ofNat (natOfLE p.1), p.2)) :=
  (tracks_readField _ (by norm_num) hle).bind fun _ _ hnext _ => tracks_pure _ hnext

/-- Bytes after their length. -/
theorem tracks_readLengthPrefixed (hle : offset ≤ data.bytes.length) :
    Tracks data offset (readLengthPrefixed ov data offset)
      (Native.readLengthPrefixed (data.bytes.drop offset)) := by
  refine (tracks_readField _ (by norm_num) hle).bind fun length next hnext hread => ?_
  have hlt := data.length_lt
  have hlength : natOfLE length < 2 ^ 32 := by
    have hbound := natOfLE_lt length
    rwa [length_of_splitBytes hread] at hbound
  dsimp only
  generalize natOfLE length = len at hlength
  unfold splitBytes
  rw [addUsize_ok (by omega), ok_bind, List.length_drop]
  split
  · rename_i hshort
    rw [if_neg (by omega), subUsize_ok hnext, ok_bind]
    exact tracks_fail _
  · rename_i hlong
    rw [if_pos (by omega), range, if_pos ⟨by omega, by omega⟩, ok_bind, Nat.add_sub_cancel_left,
      List.drop_drop]
    refine ⟨fun a rest h => ?_, fun e h => by cases h⟩
    cases h
    exact ⟨next + len, by omega, by omega, rfl, rfl⟩

/-- The value of an attribute. -/
theorem tracks_readAttributeValue (id : UInt16) (hle : offset ≤ data.bytes.length) :
    Tracks data offset (readAttributeValue lib ov data id offset)
      (Native.readAttributeValue lib id (data.bytes.drop offset)) := by
  have hlt := data.length_lt
  unfold readAttributeValue Native.readAttributeValue
  cases attributeType id with
  | str =>
    refine (tracks_readLengthPrefixed hle).bind fun bytes next hnext _ => ?_
    dsimp only
    cases Text.decode? bytes with
    | none => exact tracks_fail _
    | some s => exact tracks_pure _ hnext
  | bin => exact (tracks_readLengthPrefixed hle).bind fun _ _ hnext _ => tracks_pure _ hnext
  | i32 =>
    exact (tracks_readField _ (by norm_num) hle).bind fun _ _ hnext _ => tracks_pure _ hnext
  | i64 =>
    exact (tracks_readField _ (by norm_num) hle).bind fun _ _ hnext _ => tracks_pure _ hnext
  | bool =>
    dsimp only
    unfold readBool splitBytes
    rw [List.length_drop]
    split
    · rename_i hend
      rw [if_neg (by omega)]
      exact tracks_fail _
    · rename_i hmore
      have hget : data.bytes.drop offset =
          data.bytes[offset] :: data.bytes.drop (offset + 1) := List.drop_eq_getElem_cons (by omega)
      rw [if_pos (by omega), index, List.getElem?_eq_getElem (by omega), addUsize_ok (by omega)]
      refine ⟨fun a rest h => ?_, fun e h => by cases h⟩
      rw [hget] at h
      cases h
      exact ⟨offset + 1, by omega, by omega, rfl, rfl⟩

/-- The attributes at the front of some bytes, and what follows them. -/
def parseRest (lib : Libraries) : ℕ → List UInt8 →
    Except TransportError (AttributeSet × List UInt8)
  | 0, bytes => .ok ([], bytes)
  | count + 1, bytes => do
    let (id, bytes) ← splitBytes 2 "missing attr_id" bytes >>= fun p =>
      pure (UInt16.ofNat (natOfLE p.1), p.2)
    let (value, bytes) ← Native.readAttributeValue lib id bytes
    let (attrs, bytes) ← parseRest lib count bytes
    return ((id, value) :: attrs, bytes)

/-- Without what follows them they are the attributes that are read. -/
theorem parseRest_fst (count : ℕ) (bytes : List UInt8) :
    Prod.fst <$> parseRest lib count bytes = Native.parseAttributes lib count bytes := by
  induction count generalizing bytes with
  | zero => rfl
  | succ count ih =>
    unfold parseRest Native.parseAttributes
    cases hid : splitBytes 2 "missing attr_id" bytes with
    | error e => rfl
    | ok p =>
      change Prod.fst <$> (Native.readAttributeValue lib (UInt16.ofNat (natOfLE p.1)) p.2 >>= _) =
        (Native.readAttributeValue lib (UInt16.ofNat (natOfLE p.1)) p.2 >>= _)
      cases hvalue : Native.readAttributeValue lib (UInt16.ofNat (natOfLE p.1)) p.2 with
      | error e => rfl
      | ok q =>
        change Prod.fst <$> (parseRest lib count q.2 >>= _) =
          (Native.parseAttributes lib count q.2 >>= _)
        rw [← ih]
        cases parseRest lib count q.2 <;> rfl

/-- **The reader with an offset gives the attributes that the other gives.** -/
theorem tracks_parseFrom (count : ℕ) (hle : offset ≤ data.bytes.length) :
    Tracks data offset (parseFrom lib ov data count offset)
      (parseRest lib count (data.bytes.drop offset)) := by
  induction count generalizing offset with
  | zero => exact tracks_pure [] hle
  | succ count ih =>
    refine (tracks_readAttributeId hle).bind fun id next hnext _ => ?_
    refine (tracks_readAttributeValue id hnext).bind fun value next hnext _ => ?_
    exact (ih hnext).bind fun attrs next hnext _ => tracks_pure _ hnext

/-- **The reader returns on all bytes.** -/
theorem parseAttributes_ne_stop (lib : Libraries) (ov : Overflow) (data : Slice)
    (count : UInt32) : parseAttributes lib ov data count ≠ stop :=
  (tracks_parseFrom count.toNat (Nat.zero_le _)).ne_stop

end Track

/-! ### How many bytes are read -/

section Count

variable {lib : Libraries}

/-- What is split off and what is left. -/
theorem length_add_of_splitBytes {n : ℕ} {what : String} {bytes taken rest : List UInt8}
    (h : splitBytes n what bytes = .ok (taken, rest)) : n + rest.length = bytes.length := by
  unfold splitBytes at h
  split at h
  · cases h
    rw [List.length_drop]
    omega
  · cases h

/-- Bytes after their length are four more. -/
theorem length_of_readLengthPrefixed {bytes taken rest : List UInt8}
    (h : Native.readLengthPrefixed bytes = .ok (taken, rest)) :
    4 + taken.length + rest.length = bytes.length := by
  obtain ⟨⟨length, rest'⟩, hlength, h⟩ := bind_eq_ok.mp h
  have h4 := length_add_of_splitBytes hlength
  have hlen := length_add_of_splitBytes h
  have htaken := length_of_splitBytes h
  omega

/-- **A value takes the bytes that are counted for it.** -/
theorem length_of_readAttributeValue {id : UInt16} {bytes rest : List UInt8}
    {value : AttributeValue}
    (h : Native.readAttributeValue lib id bytes = .ok (value, rest)) :
    serializedLen (id, value) + rest.length = 2 + bytes.length := by
  unfold Native.readAttributeValue at h
  cases ht : attributeType id with
  | str =>
    rw [ht] at h
    obtain ⟨⟨taken, rest'⟩, htaken, h⟩ := bind_eq_ok.mp h
    have hlen := length_of_readLengthPrefixed htaken
    dsimp only at h
    cases hs : Text.decode? taken with
    | none =>
      rw [hs] at h
      cases h
    | some s =>
      rw [hs] at h
      cases h
      have hbytes := congrArg List.length (Text.bytes_of_decode? hs)
      rw [Text.length_bytes] at hbytes
      simp only [serializedLen, String.toList_ofList]
      omega
  | bin =>
    rw [ht] at h
    obtain ⟨⟨taken, rest'⟩, htaken, h⟩ := bind_eq_ok.mp h
    have hlen := length_of_readLengthPrefixed htaken
    cases h
    simp only [serializedLen]
    omega
  | i32 =>
    rw [ht] at h
    obtain ⟨⟨taken, rest'⟩, htaken, h⟩ := bind_eq_ok.mp h
    have hlen := length_add_of_splitBytes htaken
    cases h
    simp only [serializedLen]
    omega
  | i64 =>
    rw [ht] at h
    obtain ⟨⟨taken, rest'⟩, htaken, h⟩ := bind_eq_ok.mp h
    have hlen := length_add_of_splitBytes htaken
    cases h
    simp only [serializedLen]
    omega
  | bool =>
    rw [ht] at h
    obtain ⟨⟨taken, rest'⟩, htaken, h⟩ := bind_eq_ok.mp h
    have hlen := length_add_of_splitBytes htaken
    cases h
    simp only [serializedLen]
    omega

/-- **The attributes take the bytes that are counted for them.** -/
theorem length_of_parseRest {count : ℕ} {bytes rest : List UInt8} {attrs : AttributeSet}
    (h : parseRest lib count bytes = .ok (attrs, rest)) :
    attrs.byteCount + rest.length = bytes.length := by
  induction count generalizing bytes attrs with
  | zero =>
    cases h
    exact Nat.zero_add _
  | succ count ih =>
    obtain ⟨⟨id, bytes1⟩, hid, h⟩ := bind_eq_ok.mp h
    obtain ⟨⟨idBytes, bytes1⟩, hsplit, hid⟩ := bind_eq_ok.mp hid
    cases hid
    obtain ⟨⟨value, bytes2⟩, hvalue, h⟩ := bind_eq_ok.mp h
    obtain ⟨⟨attrs', bytes3⟩, hattrs, h⟩ := bind_eq_ok.mp h
    cases h
    have hsplit := length_add_of_splitBytes hsplit
    have hvalue := length_of_readAttributeValue hvalue
    have hattrs := ih hattrs
    rw [AttributeSet.byteCount, List.map_cons, List.sum_cons, ← AttributeSet.byteCount]
    dsimp only at hvalue hattrs ⊢
    omega

/-- **The offset at the end** is the number of bytes of the attributes that are given. -/
theorem offset_of_parse {ov : Overflow} {data : Slice} {count : UInt32} {attrs : AttributeSet}
    {next : ℕ} (h : parseAttributes lib ov data count = .ok (attrs, next)) :
    next = attrs.byteCount := by
  have htracks := @tracks_parseFrom lib ov data 0 count.toNat (Nat.zero_le _)
  cases hread : parseRest lib count.toNat (data.bytes.drop 0) with
  | error e =>
    have hfail := (htracks.error e hread).symm.trans h
    cases hfail
  | ok p =>
    obtain ⟨next', -, hnext, hrest, hrun⟩ := htracks.ok p.1 p.2 hread
    obtain ⟨rfl, rfl⟩ := Prod.mk.inj (Except.ok.inj (hrun.symm.trans h))
    have hlen := length_of_parseRest hread
    rw [hrest, List.length_drop, List.drop_zero] at hlen
    omega

/-! ### Attributes that are read back -/

/-- What stands in front is split off. -/
theorem splitBytes_append {n : ℕ} (what : String) {taken : List UInt8} (rest : List UInt8)
    (h : taken.length = n) : splitBytes n what (taken ++ rest) = .ok (taken, rest) := by
  unfold splitBytes
  rw [if_pos (by rw [List.length_append]; omega), List.take_left' h, List.drop_left' h]

/-- Bytes are read back after their length. -/
theorem readLengthPrefixed_prefixed {bytes : List UInt8} (h : bytes.length < 2 ^ 32)
    (rest : List UInt8) :
    Native.readLengthPrefixed (prefixed bytes ++ rest) = .ok (bytes, rest) := by
  have hlength : natOfLE (toLE 4 bytes.length) = bytes.length := by
    rw [toLE, natOfLE_natToLE]
    omega
  unfold Native.readLengthPrefixed prefixed
  rw [List.append_assoc, splitBytes_append _ _ (length_toLE 4 _)]
  change splitBytes (natOfLE (toLE 4 bytes.length)) _ _ = _
  exact splitBytes_append _ _ hlength.symm

/-- An integer is read back. -/
theorem wrap_natOfLE_toLE {n w : ℕ} (hn : 0 < n) (hw : 0 < w) (hwidth : w = 8 * n) (a : SInt w) :
    SInt.wrap w hw (natOfLE (toLE n a.val)) = a := by
  subst hwidth
  have hread := ofLE_toLE hn a
  rw [ofLE, length_toLE] at hread
  exact SInt.ext hread

/-- **A value is read back** from the bytes behind its number, if it has the variant that the number
prescribes and its length fits 32 bits. -/
theorem readAttributeValue_serialize {attr : UInt16 × AttributeValue}
    (ht : attr.2.attrType = attributeType attr.1) (hlen : serializedLen attr < 2 ^ 32)
    (rest : List UInt8) : ∃ payload, serializeAttribute attr = natToLE 2 attr.1.toNat ++ payload ∧
      Native.readAttributeValue lib attr.1 (payload ++ rest) = .ok (attr.2, rest) := by
  obtain ⟨id, value⟩ := attr
  refine ⟨_, rfl, ?_⟩
  unfold Native.readAttributeValue
  dsimp only at ht ⊢
  rw [← ht]
  cases value with
  | string s =>
    simp only [serializedLen] at hlen
    have hread : Native.readLengthPrefixed (prefixed (Text.bytes s.toList) ++ rest) =
        .ok (Text.bytes s.toList, rest) :=
      readLengthPrefixed_prefixed (by rw [Text.length_bytes]; omega) rest
    dsimp only [AttributeValue.attrType]
    rw [hread]
    dsimp only [bind, Except.bind]
    rw [Text.decode?_bytes]
    exact congrArg (fun t => Except.ok (AttributeValue.string t, rest)) String.ofList_toList
  | binary bytes =>
    simp only [serializedLen] at hlen
    change (Native.readLengthPrefixed (prefixed bytes ++ rest) >>= _) = _
    rw [readLengthPrefixed_prefixed (by omega)]
    rfl
  | int32 x =>
    change (splitBytes 4 "missing i32" (toLE 4 x.val ++ rest) >>= _) = _
    rw [splitBytes_append _ _ (length_toLE 4 _)]
    exact congrArg (fun y => Except.ok (AttributeValue.int32 y, rest))
      (@wrap_natOfLE_toLE 4 32 (by norm_num) _ rfl x)
  | int64 x =>
    change (splitBytes 8 "missing i64" (toLE 8 x.val ++ rest) >>= _) = _
    rw [splitBytes_append _ _ (length_toLE 8 _)]
    exact congrArg (fun y => Except.ok (AttributeValue.int64 y, rest))
      (@wrap_natOfLE_toLE 8 64 (by norm_num) _ rfl x)
  | bool b =>
    cases b <;> rfl

/-- **Attributes are read back**, with what stands behind them. -/
theorem parseRest_serialize {attrs : AttributeSet} (ht : attrs.WellTyped)
    (hlen : attrs.byteCount < 2 ^ 32) (rest : List UInt8) :
    parseRest lib attrs.length (attrs.serialize ++ rest) = .ok (attrs, rest) := by
  induction attrs with
  | nil => rfl
  | cons attr attrs ih =>
    rw [AttributeSet.byteCount, List.map_cons, List.sum_cons, ← AttributeSet.byteCount] at hlen
    obtain ⟨payload, hbytes, hvalue⟩ := @readAttributeValue_serialize lib attr
      (ht attr List.mem_cons_self) (by omega) (AttributeSet.serialize attrs ++ rest)
    have hid : UInt16.ofNat (natOfLE (natToLE 2 attr.1.toNat)) = attr.1 := by
      have hlt := attr.1.toNat_lt
      rw [natOfLE_natToLE, Nat.mod_eq_of_lt (by norm_num at hlt ⊢; exact hlt), UInt16.ofNat_toNat]
    have hserialize : AttributeSet.serialize (attr :: attrs) ++ rest =
        natToLE 2 attr.1.toNat ++ (payload ++ (AttributeSet.serialize attrs ++ rest)) := by
      rw [AttributeSet.serialize, List.flatMap_cons, hbytes, List.append_assoc, List.append_assoc]
      rfl
    rw [List.length_cons, parseRest, hserialize, splitBytes_append _ _ (length_natToLE 2 _)]
    change (Native.readAttributeValue lib (UInt16.ofNat (natOfLE (natToLE 2 attr.1.toNat))) _ >>= _)
      = _
    rw [hid, hvalue]
    change (parseRest lib attrs.length (AttributeSet.serialize attrs ++ rest) >>= _) = _
    rw [ih (fun a ha => ht a (List.mem_cons_of_mem _ ha)) (by omega)]
    rfl

/-- **Attributes are read back** when the bytes that are written for them and their number are given
to the reader: it gives the same attributes and ends behind as many bytes as are counted. -/
def ReadsBack (lib : Libraries) (ov : Overflow) (attrs : AttributeSet) : Prop :=
  ∃ data : Slice, data.bytes = attrs.serialize ∧
    parseAttributes lib ov data attrs.numAttributes = .ok (attrs, attrs.dataLen.toNat)

/-- An attribute has three bytes at least. -/
theorem length_le_byteCount (attrs : AttributeSet) : attrs.length ≤ attrs.byteCount := by
  induction attrs with
  | nil => exact Nat.zero_le _
  | cons attr attrs ih =>
    rw [AttributeSet.byteCount, List.map_cons, List.sum_cons, ← AttributeSet.byteCount,
      List.length_cons]
    have htwo : 2 ≤ serializedLen attr := Nat.le_add_right 2 _
    omega

/-- **Fewer than 2³² bytes are read back.** -/
theorem readsBack_of_lt (ov : Overflow) {attrs : AttributeSet} (ht : attrs.WellTyped)
    (hlt : attrs.byteCount < 2 ^ 32) : ReadsBack lib ov attrs := by
  have hlen := attrs.length_serialize
  refine ⟨⟨attrs.serialize, by omega⟩, rfl, ?_⟩
  have hcount : attrs.numAttributes.toNat = attrs.length := by
    have hle := length_le_byteCount attrs
    exact UInt32.toNat_ofNat_of_lt' (by norm_num [UInt32.size] at hlt ⊢; omega)
  have hdata : attrs.dataLen.toNat = attrs.byteCount :=
    UInt32.toNat_ofNat_of_lt' (by norm_num [UInt32.size] at hlt ⊢; omega)
  have hread := @parseRest_serialize lib attrs ht hlt []
  rw [List.append_nil] at hread
  obtain ⟨next, -, -, -, hrun⟩ := (@tracks_parseFrom lib ov ⟨attrs.serialize, by omega⟩ 0
    attrs.length (Nat.zero_le _)).ok attrs [] hread
  rw [← hcount] at hrun
  have hnext := @offset_of_parse lib ov _ attrs.numAttributes attrs next hrun
  rw [hdata, ← hnext]
  exact hrun

/-- **More bytes are not**: the reader ends behind the bytes that it gives attributes for, and their
number is sent in 32 bits. -/
theorem lt_of_readsBack {ov : Overflow} {attrs : AttributeSet} (h : ReadsBack lib ov attrs) :
    attrs.byteCount < 2 ^ 32 := by
  obtain ⟨data, -, hparse⟩ := h
  rw [← offset_of_parse hparse]
  exact attrs.dataLen.toNat_lt

end Count

/-- **Attributes of the right variants are read back exactly when they have fewer than 2³² bytes**
altogether; and the reader returns on all bytes, whatever number of attributes it is to find. -/
theorem attributes_iff (lib : Libraries) (ov : Overflow) (attrs : AttributeSet)
    (ht : attrs.WellTyped) :
    (ReadsBack lib ov attrs ↔ attrs.byteCount < 2 ^ 32) ∧
      ∀ data count, parseAttributes lib ov data count ≠ stop :=
  ⟨⟨lt_of_readsBack, readsBack_of_lt ov ht⟩, parseAttributes_ne_stop lib ov⟩

/-- The attributes of a session that has a user and commits by itself. -/
theorem attributes_iff_session :
    ReadsBack plainLibraries .panics [(1, .string "sys"), (7, .bool true)] := by
  have ht : AttributeSet.WellTyped [(1, .string "sys"), (7, .bool true)] := by
    intro attr hattr
    obtain rfl | hattr := List.mem_cons.mp hattr
    · rfl
    · obtain rfl := List.mem_singleton.mp hattr
      rfl
  exact (attributes_iff plainLibraries .panics _ ht).1.mpr (by decide)

/-- A password is not read back if its length does not fit 32 bits. -/
theorem not_readsBack_of_le {lib : Libraries} {ov : Overflow} {id : UInt16} {bytes : List UInt8}
    (h : 2 ^ 32 ≤ bytes.length) : ¬ReadsBack lib ov [(id, .binary bytes)] := by
  intro hback
  have hlt := lt_of_readsBack hback
  have hlen : serializedLen (id, .binary bytes) = 2 + (4 + bytes.length) := rfl
  rw [AttributeSet.byteCount, List.map_singleton, List.sum_singleton, hlen] at hlt
  omega

/-- An attribute whose variant is that of its number. -/
theorem wellTyped_singleton {id : UInt16} {bytes : List UInt8} (h : attributeType id = .bin) :
    AttributeSet.WellTyped [(id, .binary bytes)] := by
  intro attr hattr
  obtain rfl := List.mem_singleton.mp hattr
  exact h.symm

/-- **A password of 2³² bytes** has the right variant and is not read back: its length is sent as
zero. -/
theorem not_readsBack_password :
    AttributeSet.WellTyped [(attrEncodedPassword, .binary (List.replicate (2 ^ 32) 0))] ∧
      ∀ lib ov, ¬ReadsBack lib ov
        [(attrEncodedPassword, .binary (List.replicate (2 ^ 32) 0))] :=
  ⟨wellTyped_singleton rfl, fun _ _ => not_readsBack_of_le List.length_replicate.ge⟩

end Attributes

end Exarrow.Native
