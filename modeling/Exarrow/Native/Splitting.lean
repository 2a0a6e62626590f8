import Exarrow.Foundations.Packing
import Exarrow.Native.Parameters

/-!
# Splitting rows of parameters into messages

The rows of a set of parameters are encoded once and split into messages that keep within
a limit. What the loop does is to pack the rows in order: it goes through the states of
`Packing.run` for the sizes of the messages, and places each range at the bytes of its rows
(`Exarrow.Native.Places`). What holds of a packing therefore holds of the ranges
(`Exarrow.Native.splitParameterRows_spec`).

The types of the columns are those of the whole set. **The payload of a range is the one
that the encoder without splitting builds for the rows of the range, whenever these rows
alone give the same types** (`Exarrow.Native.Split.subTable`), in particular when the
server reported a type for each column. Where it did not, the rows of a range may suggest
other types than the whole set does (`Exarrow.Native.splitParameterRows_inferred`).
-/

namespace Exarrow.Native

open Machine Checked

/-! ### What is asked of the ranges -/

/-- The columns have one length. -/
def Rectangular (cols : List (List Json.Value)) : Prop := ∀ c ∈ cols, c.length = rowCount cols

/-- The rows of a range. -/
def RowRange.rows (r : RowRange) : Packing.Range := ⟨r.firstRow, r.endRow⟩

/-- The bytes of the rows of a range. -/
def EncodedParameterRows.rangeBytes (encoded : EncodedParameterRows) (r : RowRange) : List UInt8 :=
  (encoded.bytes.drop r.firstByte).take (r.endByte - r.firstByte)

/-- The rows of a range, as a set of their own. -/
def subTable (cols : List (List Json.Value)) (r : RowRange) : List (List Json.Value) :=
  cols.map fun c => (c.drop r.firstRow).take (r.endRow - r.firstRow)

/-- The size of the whole message that holds the rows from one up to before another. -/
def messageSize (lib : EncoderLibraries) (handle : PreparedStatementHandle)
    (cols : List (List Json.Value)) (columns : List ParameterColumn) (first stop : ℕ) : ℕ :=
  match writeParameterRows lib cols columns (List.range' first (stop - first)) with
  | .ok rows => headerSize + (payloadPrefix handle columns (stop - first) ++ rows).length
  | .error _ => 0

/-- What the split rows are. -/
structure Split (lib : EncoderLibraries) (handle : PreparedStatementHandle)
    (cols : List (List Json.Value)) (limit : ℕ) (encoded : EncodedParameterRows) : Prop where
  /-- The types are fixed from the whole set. -/
  columns : encoded.columns = parameterColumns handle cols
  /-- The ranges cover the rows in order, are too large only with a single row, and had no
  room for the next row. -/
  packing : Packing.IsPacking (messageSize lib handle cols encoded.columns) limit (rowCount cols)
    (encoded.ranges.map RowRange.rows)
  /-- The payload of a range holds its rows under these types. -/
  payload : ∀ r ∈ encoded.ranges, ∃ rows,
    writeParameterRows lib cols encoded.columns
      (List.range' r.firstRow (r.endRow - r.firstRow)) = .ok rows ∧
    buildRangePayload handle encoded r =
      payloadPrefix handle encoded.columns (r.endRow - r.firstRow) ++ rows
  /-- It is the payload of these rows alone, if they give the same types. -/
  subTable : ∀ r ∈ encoded.ranges, parameterColumns handle (subTable cols r) = encoded.columns →
    buildExecutePreparedPayload lib handle (some (subTable cols r)) =
      .ok (buildRangePayload handle encoded r)
  /-- They do so if the types were reported. -/
  reported : cols.length ≤ handle.parameterTypes.length → ∀ r ∈ encoded.ranges,
    parameterColumns handle (Native.subTable cols r) = encoded.columns
  /-- The bytes of all ranges are the bytes of all rows. -/
  rows : writeParameterRows lib cols encoded.columns (List.range (rowCount cols)) =
    .ok (encoded.ranges.flatMap encoded.rangeBytes)

/-! ### Encoding and splitting apart -/

/-- A fold that computes from each item is the fold of what is computed. -/
theorem foldlM_eq_mapM_bind {ε α β σ : Type} (f : α → Except ε β) (g : α → β → σ → σ) (xs : List α)
    (s : σ) :
    (xs.foldlM (fun s x => do
      let y ← f x
      return g x y s) s) =
    (xs.mapM f >>= fun ys => .ok ((xs.zip ys).foldl (fun s p => g p.1 p.2 s) s)) := by
  induction xs generalizing s with
  | nil => rfl
  | cons x xs ih =>
    rw [List.foldlM_cons, List.mapM_cons]
    cases f x with
    | error e => rfl
    | ok y =>
      show List.foldlM _ (g x y s) xs = _
      rw [ih]
      cases xs.mapM f <;> rfl

section Rows

variable {lib : EncoderLibraries} {handle : PreparedStatementHandle}
  {cols : List (List Json.Value)} {columns : List ParameterColumn}

/-- A single row. -/
theorem writeParameterRows_singleton (row : ℕ) :
    writeParameterRows lib cols columns [row] = writeParameterRow lib cols columns row := by
  unfold writeParameterRows
  rw [List.mapM_cons, List.mapM_nil]
  cases writeParameterRow lib cols columns row with
  | error e => rfl
  | ok bs =>
    show (Except.ok (bs ++ []) : Exec TransportError (List UInt8)) = .ok bs
    rw [List.append_nil]

/-- Rows are written exactly when each row is. -/
theorem writeParameterRows_eq_ok {rows : List ℕ} {bs : List UInt8} :
    writeParameterRows lib cols columns rows = .ok bs ↔
      ∃ bss, List.Forall₂ (fun row b => writeParameterRow lib cols columns row = .ok b) rows bss ∧
        bs = bss.flatten := by
  unfold writeParameterRows
  rw [bind_eq_ok]
  constructor
  · rintro ⟨bss, hbss, h⟩
    exact ⟨bss, mapM_eq_ok.mp hbss, (Except.ok.inj h).symm⟩
  · rintro ⟨bss, hbss, rfl⟩
    exact ⟨bss, mapM_eq_ok.mpr hbss, rfl⟩

/-- The pieces of consecutive rows. -/
theorem writeParameterRows_range' {bss : List (List UInt8)}
    (h : List.Forall₂ (fun row b => writeParameterRow lib cols columns row = .ok b)
      (List.range bss.length) bss) {first stop : ℕ} (hstop : stop ≤ bss.length) :
    writeParameterRows lib cols columns (List.range' first (stop - first)) =
      .ok ((bss.drop first).take (stop - first)).flatten := by
  refine writeParameterRows_eq_ok.mpr ⟨_, ?_, rfl⟩
  have hcut := List.forall₂_take (stop - first) (List.forall₂_drop first h)
  have hrange : ((List.range bss.length).drop first).take (stop - first) =
      List.range' first (stop - first) := by
    refine List.ext_getElem (by simp; omega) fun i h1 h2 => ?_
    simp
  rwa [hrange] at hcut

end Rows

/-! ### The loop packs the rows -/

section Loop

variable (overhead limit : ℕ) (bss : List (List UInt8))

/-- Where the bytes of a row begin. -/
def offset (row : ℕ) : ℕ := (bss.take row).flatten.length

/-- A range, placed at the bytes of its rows. -/
def place (r : Packing.Range) : RowRange := ⟨r.first, r.stop, offset bss r.first, offset bss r.stop⟩

/-- The loop has come to a state of the packing. -/
structure Places (k : ℕ) (p : Packing.State) (s : Splitting) : Prop where
  bytes : s.bytes = (bss.take k).flatten
  ranges : s.ranges = p.closed.map (place bss)
  firstRow : s.firstRow = p.first
  firstByte : s.firstByte = offset bss p.first

/-- The size of a message, as the loop counts it. -/
def countedSize (first stop : ℕ) : ℕ := overhead + (offset bss stop - offset bss first)

variable {overhead limit bss}

/-- **A row is added as an item is packed.** -/
theorem places_add {k : ℕ} {p : Packing.State} {s : Splitting} (h : Places bss k p s)
    (hk : k < bss.length) :
    Places bss (k + 1) (Packing.step (countedSize overhead bss) limit p k)
      (s.add overhead limit k (bss.get ⟨k, hk⟩)) := by
  obtain ⟨hbytes, hranges, hrow, hbyte⟩ := h
  have hnext : s.bytes ++ bss.get ⟨k, hk⟩ = (bss.take (k + 1)).flatten := by
    rw [hbytes, List.take_succ_eq_append_getElem hk, List.flatten_append, List.flatten_singleton]
    rfl
  have hlen : (s.bytes ++ bss.get ⟨k, hk⟩).length = offset bss (k + 1) := by rw [hnext, offset]
  unfold Splitting.add Packing.step countedSize
  dsimp only
  rw [hlen, hrow, hbyte]
  split
  · refine ⟨hnext, ?_, rfl, ?_⟩
    · rw [List.map_append, hranges]
      show _ ++ [RowRange.mk p.first k (offset bss p.first) s.bytes.length] = _
      rw [hbytes]
      rfl
    · rw [hbytes]
      rfl
  · exact ⟨hnext, hranges, rfl, rfl⟩

/-- The loop over all rows packs them. -/
theorem places_foldl : ∀ k ≤ bss.length,
    Places bss k (Packing.run (countedSize overhead bss) limit k)
      (((List.range k).zip (bss.take k)).foldl (fun s p => s.add overhead limit p.1 p.2)
        ({} : Splitting)) := by
  intro k
  induction k with
  | zero => exact fun _ => ⟨rfl, rfl, rfl, rfl⟩
  | succ k ih =>
    intro hk
    have hadd := @places_add overhead limit bss k _ _ (ih (by omega)) hk
    have hrun : Packing.run (countedSize overhead bss) limit (k + 1) =
        Packing.step (countedSize overhead bss) limit
          (Packing.run (countedSize overhead bss) limit k) k := by
      unfold Packing.run
      rw [List.range_succ, List.foldl_append]
      rfl
    have hzip : (List.range (k + 1)).zip (bss.take (k + 1)) =
        (List.range k).zip (bss.take k) ++ [(k, bss.get ⟨k, hk⟩)] := by
      rw [List.range_succ, List.take_succ_eq_append_getElem hk, List.zip_append (by simp; omega)]
      rfl
    rw [hrun, hzip, List.foldl_append]
    exact hadd

/-- All ranges of the loop. -/
theorem map_place_ranges {n : ℕ} {s : Splitting}
    (h : Places bss n (Packing.run (countedSize overhead bss) limit n) s) :
    (if 0 < n then s.ranges ++ [⟨s.firstRow, n, s.firstByte, s.bytes.length⟩] else s.ranges) =
      (Packing.ranges (countedSize overhead bss) limit n).map (place bss) := by
  obtain ⟨hbytes, hranges, hrow, hbyte⟩ := h
  unfold Packing.ranges
  split
  · rw [List.map_append, hranges, hrow, hbyte, hbytes]
    rfl
  · exact hranges

end Loop

/-! ### The ranges -/

section Ranges

variable {lib : EncoderLibraries} {handle : PreparedStatementHandle}
  {cols : List (List Json.Value)} {columns : List ParameterColumn} {bss : List (List UInt8)}

/-- The bytes of consecutive rows. -/
def piece (bss : List (List UInt8)) (first stop : ℕ) : List UInt8 :=
  ((bss.drop first).take (stop - first)).flatten

theorem piece_self (first : ℕ) : piece bss first first = [] := by
  unfold piece
  rw [Nat.sub_self, List.take_zero, List.flatten_nil]

theorem piece_cut (i j k : ℕ) (hij : i ≤ j) (hjk : j ≤ k) :
    piece bss i k = piece bss i j ++ piece bss j k := by
  unfold piece
  have hk : k - i = (j - i) + (k - j) := by omega
  rw [hk, List.take_add, List.flatten_append, List.drop_drop]
  congr 4
  omega

/-- The bytes up to a row, and those of the rows from there. -/
theorem take_flatten_piece {first stop : ℕ} (h : first ≤ stop) :
    (bss.take stop).flatten = (bss.take first).flatten ++ piece bss first stop := by
  have hcut := @piece_cut bss 0 first stop (Nat.zero_le _) h
  unfold piece at hcut ⊢
  rwa [List.drop_zero, Nat.sub_zero, Nat.sub_zero] at hcut

/-- The size of the bytes of consecutive rows. -/
theorem length_piece (first stop : ℕ) :
    (piece bss first stop).length = offset bss stop - offset bss first := by
  rcases le_total first stop with h | h
  · have hlen := congrArg List.length (@take_flatten_piece bss _ _ h)
    rw [List.length_append] at hlen
    unfold offset
    omega
  · -- There are no rows from there.
    have hlen := congrArg List.length (@take_flatten_piece bss _ _ h)
    rw [List.length_append] at hlen
    unfold offset piece
    rw [Nat.sub_eq_zero_of_le h, List.take_zero, List.flatten_nil, List.length_nil]
    omega

/-- A placed range has the bytes of its rows. -/
theorem drop_take_offset {first stop : ℕ} (h : first ≤ stop) :
    (bss.flatten.drop (offset bss first)).take (offset bss stop - offset bss first) =
      piece bss first stop := by
  have hsplit : bss.flatten =
      (bss.take first).flatten ++ (piece bss first stop ++ (bss.drop stop).flatten) := by
    rw [← List.append_assoc, ← take_flatten_piece h, ← List.flatten_append, List.take_append_drop]
  have hdrop : bss.flatten.drop (offset bss first) =
      piece bss first stop ++ (bss.drop stop).flatten := by
    rw [hsplit]
    exact List.drop_left
  rw [hdrop]
  exact List.take_left' (length_piece first stop)

/-- What comes before the values has one size, however many rows there are. -/
theorem length_payloadPrefix (n : ℕ) :
    (payloadPrefix handle columns n).length = (payloadPrefix handle columns 0).length := by
  unfold payloadPrefix
  simp only [List.length_append, length_toLE]

/-- The loop counts the size of the message. -/
theorem messageSize_eq
    (hrows : List.Forall₂ (fun row b => writeParameterRow lib cols columns row = .ok b)
      (List.range bss.length) bss) {first stop : ℕ} (hstop : stop ≤ bss.length) :
    messageSize lib handle cols columns first stop =
      countedSize (headerSize + executePreparedAttributes.length +
        (payloadPrefix handle columns 0).length) bss first stop := by
  have hpiece := @length_piece bss first stop
  have hprefix := @length_payloadPrefix handle columns (stop - first)
  unfold messageSize countedSize
  rw [writeParameterRows_range' hrows hstop]
  dsimp only
  rw [List.length_append, hprefix]
  unfold piece at hpiece
  rw [hpiece]
  show _ = headerSize + 0 + _ + _
  omega

/-- A row of a range is that row of the whole set. -/
theorem writeParameterRow_subTable (r : RowRange) {i : ℕ} (hi : i < r.endRow - r.firstRow) :
    writeParameterRow lib (subTable cols r) columns i =
      writeParameterRow lib cols columns (r.firstRow + i) := by
  have hget (column : List Json.Value) :
      ((column.drop r.firstRow).take (r.endRow - r.firstRow))[i]? = column[r.firstRow + i]? := by
    rw [List.getElem?_take_of_lt hi, List.getElem?_drop]
  unfold writeParameterRow subTable
  rw [List.zip_map_left, List.mapM_map]
  simp only [Function.comp_def, Prod.map, id, hget]

/-- The rows of a range, as a set of their own, are those rows of the whole set. -/
theorem writeParameterRows_subTable (r : RowRange) :
    writeParameterRows lib (subTable cols r) columns (List.range (r.endRow - r.firstRow)) =
      writeParameterRows lib cols columns
        (List.range' r.firstRow (r.endRow - r.firstRow)) := by
  have hrows : List.range' r.firstRow (r.endRow - r.firstRow) =
      (List.range (r.endRow - r.firstRow)).map (r.firstRow + ·) := by
    rw [List.range_eq_range', List.map_add_range', Nat.add_zero]
  unfold writeParameterRows
  rw [hrows, List.mapM_map]
  congr 1
  exact mapM_congr fun i hi => writeParameterRow_subTable r (List.mem_range.mp hi)

/-- The rows of a range are as many as the range says. -/
theorem rowCount_subTable (h : Rectangular cols) {r : RowRange} (hlt : r.firstRow < r.endRow)
    (hle : r.endRow ≤ rowCount cols) : rowCount (subTable cols r) = r.endRow - r.firstRow := by
  cases cols with
  | nil =>
    have hzero : r.endRow ≤ 0 := hle
    omega
  | cons c cols =>
    have hc : c.length = rowCount (c :: cols) := h c List.mem_cons_self
    show ((c.drop r.firstRow).take (r.endRow - r.firstRow)).length = _
    rw [List.length_take, List.length_drop]
    omega

/-- Reported types are those of any rows. -/
theorem parameterColumns_subTable (h : cols.length ≤ handle.parameterTypes.length) (r : RowRange) :
    parameterColumns handle (subTable cols r) = parameterColumns handle cols := by
  have hinfer {i : ℕ} (hi : i < cols.length) (c c' : List Json.Value) :
      inferWireType handle i c = inferWireType handle i c' := by
    have hget : handle.parameterTypes[i]? = some handle.parameterTypes[i] :=
      List.getElem?_eq_getElem (by omega)
    unfold inferWireType
    rw [hget]
  refine List.ext_getElem? fun i => ?_
  unfold parameterColumns subTable
  rw [List.getElem?_mapIdx, List.getElem?_mapIdx, List.getElem?_map]
  rcases Nat.lt_or_ge i cols.length with hi | hi
  · rw [List.getElem?_eq_getElem hi]
    simp only [Option.map_some, parameterColumn]
    rw [hinfer hi]
  · rw [List.getElem?_eq_none hi]
    rfl

end Ranges

/-! ### The specification -/

section Spec

variable {lib : EncoderLibraries} {handle : PreparedStatementHandle}
  {cols : List (List Json.Value)} {limit : ℕ}

/-- The rows are encoded, and then their bytes are split. -/
theorem splitParameterRows_eq :
    splitParameterRows lib handle cols limit =
      ((List.range (rowCount cols)).mapM
        (writeParameterRow lib cols (parameterColumns handle cols)) >>= fun bss =>
          let overhead := headerSize + executePreparedAttributes.length +
            (payloadPrefix handle (parameterColumns handle cols) 0).length
          let s := ((List.range (rowCount cols)).zip bss).foldl
            (fun s p => s.add overhead limit p.1 p.2) ({} : Splitting)
          .ok ⟨parameterColumns handle cols, s.bytes,
            if 0 < rowCount cols then
              s.ranges ++ [⟨s.firstRow, rowCount cols, s.firstByte, s.bytes.length⟩]
            else s.ranges⟩) := by
  unfold splitParameterRows
  simp only [writeParameterRows_singleton]
  rw [foldlM_eq_mapM_bind]
  cases (List.range (rowCount cols)).mapM
    (writeParameterRow lib cols (parameterColumns handle cols)) <;> rfl

/-- **The split rows are as they should be.** -/
theorem split_of_eq_ok (h : Rectangular cols) {encoded : EncodedParameterRows}
    (hok : splitParameterRows lib handle cols limit = .ok encoded) :
    Split lib handle cols limit encoded := by
  rw [splitParameterRows_eq] at hok
  obtain ⟨bss, hmapM, hencoded⟩ := bind_eq_ok.mp hok
  have hrows := mapM_eq_ok.mp hmapM
  have hlen : bss.length = rowCount cols := by
    rw [← hrows.length_eq, List.length_range]
  have hplaces := @places_foldl (headerSize + executePreparedAttributes.length +
    (payloadPrefix handle (parameterColumns handle cols) 0).length) limit bss _ le_rfl
  rw [List.take_length, hlen] at hplaces
  dsimp only at hencoded
  generalize List.foldl _ _ _ = s at hplaces hencoded
  have hranges := map_place_ranges hplaces
  have hbytes := hplaces.bytes
  rw [← hlen, List.take_length] at hbytes
  rw [← hlen] at hrows
  rw [hranges, hbytes] at hencoded
  obtain rfl := Except.ok.inj hencoded
  have hpack := @Packing.isPacking_ranges (countedSize (headerSize +
    executePreparedAttributes.length +
    (payloadPrefix handle (parameterColumns handle cols) 0).length) bss) limit (rowCount cols)
  have hmem := hpack.covers.mem.2
  have hmap (rs : List Packing.Range) : (rs.map (place bss)).map RowRange.rows = rs := by
    rw [List.map_map]
    exact List.map_id rs
  have hpiece {p : Packing.Range} (hp : p.first < p.stop) :
      (bss.flatten.drop (place bss p).firstByte).take
        ((place bss p).endByte - (place bss p).firstByte) = piece bss p.first p.stop :=
    drop_take_offset hp.le
  have hpayload : ∀ p ∈ Packing.ranges (countedSize (headerSize +
      executePreparedAttributes.length +
      (payloadPrefix handle (parameterColumns handle cols) 0).length) bss) limit (rowCount cols),
      writeParameterRows lib cols (parameterColumns handle cols)
        (List.range' p.first (p.stop - p.first)) = .ok (piece bss p.first p.stop) :=
    fun p hp => writeParameterRows_range' hrows (hlen.symm ▸ (hmem p hp).2.2)
  refine ⟨rfl, ?_, ?_, ?_, ?_, ?_⟩
  · rw [hmap]
    exact hpack.congr fun i j hj => messageSize_eq hrows (hlen.symm ▸ hj)
  · intro r hr
    obtain ⟨p, hp, rfl⟩ := List.mem_map.mp hr
    refine ⟨_, hpayload p hp, ?_⟩
    unfold buildRangePayload
    rw [hpiece (hmem p hp).2.1]
  · intro r hr hcolumns
    obtain ⟨p, hp, rfl⟩ := List.mem_map.mp hr
    obtain ⟨-, hlt, hle⟩ := hmem p hp
    have hcount := rowCount_subTable h (r := place bss p) hlt hle
    have hwritten := (@writeParameterRows_subTable lib cols (parameterColumns handle cols)
      (place bss p)).trans (hpayload p hp)
    unfold buildExecutePreparedPayload buildRangePayload
    dsimp only [Option.getD_some] at hcolumns ⊢
    rw [hcolumns, hcount, hpiece hlt, hwritten]
    rfl
  · exact fun hreported r _ => parameterColumns_subTable hreported r
  · refine writeParameterRows_eq_ok.mpr ⟨bss, hlen ▸ hrows, ?_⟩
    rw [List.flatMap_map]
    have hcut := @Packing.Covers.flatMap _ (piece bss) _ _ _ hpack.covers piece_self piece_cut
    have hall : piece bss 0 (rowCount cols) = bss.flatten := by
      unfold piece
      rw [List.drop_zero, Nat.sub_zero, ← hlen, List.take_length]
    refine Eq.trans (List.flatMap_congr fun p hp => ?_) (hcut.trans hall)
    exact hpiece (hmem p hp).2.1

/-- **Rows are split exactly when they can be written**, and then as they should be. -/
theorem splitParameterRows_spec (lib : EncoderLibraries) (handle : PreparedStatementHandle)
    (cols : List (List Json.Value)) (limit : ℕ) (h : Rectangular cols) :
    (∃ encoded, splitParameterRows lib handle cols limit = .ok encoded ∧
      Split lib handle cols limit encoded) ∨
    ∃ e, splitParameterRows lib handle cols limit = .error e ∧
      writeParameterRows lib cols (parameterColumns handle cols) (List.range (rowCount cols)) =
        .error e := by
  cases hok : splitParameterRows lib handle cols limit with
  | ok encoded => exact .inl ⟨encoded, rfl, split_of_eq_ok h hok⟩
  | error e =>
    refine .inr ⟨e, rfl, ?_⟩
    rw [splitParameterRows_eq] at hok
    unfold writeParameterRows
    cases hrows : (List.range (rowCount cols)).mapM
        (writeParameterRow lib cols (parameterColumns handle cols)) with
    | ok bss => rw [hrows] at hok; cases hok
    | error e' =>
      rw [hrows] at hok
      obtain rfl := Except.error.inj hok
      rfl

/-- A set of one row is split into one range. -/
theorem splitParameterRows_spec_row :
    (∃ encoded, splitParameterRows plainEncoderLibraries ⟨7, 1, [], [], []⟩ [[.bool true]] 0 =
        .ok encoded ∧
      Split plainEncoderLibraries ⟨7, 1, [], [], []⟩ [[.bool true]] 0 encoded) ∨
    ∃ e, splitParameterRows plainEncoderLibraries ⟨7, 1, [], [], []⟩ [[.bool true]] 0 = .error e ∧
      writeParameterRows plainEncoderLibraries [[.bool true]]
        (parameterColumns ⟨7, 1, [], [], []⟩ [[.bool true]])
        (List.range (rowCount [[.bool true]])) = .error e :=
  splitParameterRows_spec _ _ _ _ (List.forall_mem_singleton.mpr rfl)

end Spec

/-- **The types of the whole set need not be those of a range**: a column without a reported
type that begins with NULL is a column of texts, and its second row alone is one of
booleans. -/
theorem splitParameterRows_inferred :
    ¬∀ (lib : EncoderLibraries) (handle : PreparedStatementHandle) (cols : List (List Json.Value))
      (limit : ℕ) (encoded : EncodedParameterRows), Rectangular cols →
      splitParameterRows lib handle cols limit = .ok encoded → ∀ r ∈ encoded.ranges,
      buildExecutePreparedPayload lib handle (some (subTable cols r)) =
        .ok (buildRangePayload handle encoded r) := by
  intro h
  have hsplit : splitParameterRows plainEncoderLibraries ⟨7, 1, [], [], []⟩ [[.null, .bool true]]
      0 = .ok ⟨[⟨"param0", .char, 0⟩], [0, 1, 4, 0, 0, 0, 116, 114, 117, 101],
        [⟨0, 1, 0, 1⟩, ⟨1, 2, 1, 10⟩]⟩ := by decide +kernel
  have hpayload := h plainEncoderLibraries ⟨7, 1, [], [], []⟩ [[.null, .bool true]] 0 _
    (List.forall_mem_singleton.mpr rfl) hsplit ⟨1, 2, 1, 10⟩
    (List.mem_cons_of_mem _ List.mem_cons_self)
  exact absurd hpayload (by decide +kernel)

end Exarrow.Native
