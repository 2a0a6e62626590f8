import Exarrow.Results.ResultSet

/-!
# What reading a result delivers

Reading a result in one go and reading it batch by batch should obey one contract
(`Exarrow.Obeys`): each fails or delivers every row that the server holds, in order
and once, and as many as a known total says; both accept the same pagings; and
after an error the iterator goes on where it stopped.

They do **exactly when the paging is sound** (`Exarrow.obeys_iff_sound`). The
conditions of `Exarrow.Sound` are those under which nothing is overlooked: a result
without handle is counted by one of the two only, a total that is reached is not
questioned, and a page that does not convert has already moved the position.
-/

namespace Exarrow

open Machine Checked Arrow

variable {ρ : Type}

namespace Paging

variable (p : Paging ρ)

/-! ### The pages of a result -/

/-- The total number of rows, zero when it is not known. -/
def total : ℕ := p.totalRows.val.toNat

/-- The position before each request, if every page is taken. -/
def position : ℕ → ℕ
  | 0 => p.inline
  | i + 1 =>
    match p.fetches i with
    | .failed _ => position i
    | .page size => position i + (p.rowsFrom (position i) size).length

/-- The rows that a request gives. -/
def page (i : ℕ) : List ρ :=
  match p.fetches i with
  | .failed _ => []
  | .page size => p.rowsFrom (p.position i) size

theorem page_of_failed {i : ℕ} {e : TransportError} (h : p.fetches i = .failed e) :
    p.page i = [] := by
  unfold page
  rw [h]

theorem page_of_page {i size : ℕ} (h : p.fetches i = .page size) :
    p.page i = (p.held.drop (p.position i)).take (size + 1) := by
  unfold page
  rw [h]
  rfl

theorem position_succ (i : ℕ) : p.position (i + 1) = p.position i + (p.page i).length := by
  unfold page
  rw [position]
  cases p.fetches i <;> rfl

theorem position_mono {i j : ℕ} (h : i ≤ j) : p.position i ≤ p.position j := by
  induction j, h using Nat.le_induction with
  | base => exact le_refl _
  | succ j _ ih => exact ih.trans (by rw [position_succ]; exact Nat.le_add_right ..)

/-- The rows up to a position and the page that follows are those up to the next
position. -/
theorem take_position_succ (i : ℕ) :
    p.held.take (p.position (i + 1)) = p.held.take (p.position i) ++ p.page i := by
  rw [position_succ, List.take_add]
  refine congrArg (p.held.take (p.position i) ++ ·) ?_
  cases h : p.fetches i with
  | failed e => rw [p.page_of_failed h, List.length_nil, List.take_zero]
  | page size => rw [p.page_of_page h, List.length_take, ← List.take_take, List.take_length]

theorem position_le (i : ℕ) : p.position i ≤ p.held.length := by
  induction i with
  | zero => exact p.inline_le
  | succ i ih =>
    rw [position_succ]
    cases h : p.fetches i with
    | failed e => rw [p.page_of_failed h]; exact ih
    | page size =>
      rw [p.page_of_page h, List.length_take, List.length_drop]
      omega

/-- A page that comes is empty at the end only. -/
theorem page_eq_nil_iff {i : ℕ} (h : ∀ e, p.fetches i ≠ .failed e) :
    p.page i = [] ↔ p.position i = p.held.length := by
  have hle := p.position_le i
  cases hf : p.fetches i with
  | failed e => exact absurd hf (h e)
  | page size =>
    rw [p.page_of_page hf, List.take_eq_nil_iff, List.drop_eq_nil_iff]
    omega

/-- The transport before the first request. -/
def start : Cursor := ⟨p.inline, 0, false⟩

/-- The transport after a number of requests whose pages were taken. -/
def cursorAt (i : ℕ) : Cursor := ⟨p.position i, i, false⟩

end Paging

/-! ### What is delivered -/

section Delivery

variable (pf : Platform) (p : Paging ρ) (schema : Schema)

/-- The batch holds the rows. -/
def Converts (rows : List ρ) (b : RecordBatch) : Prop :=
  ResultSet.firstBatch pf schema (p.data rows p.totalRows) = .ok b

/-- The batches hold the given number of rows of the result, the first ones, in
order and once. -/
def Delivers (n : ℕ) (batches : List RecordBatch) : Prop :=
  ∃ chunks : List (List ρ), chunks.flatten = p.held.take n ∧
    List.Forall₂ (Converts pf p schema) chunks batches

/-- The batches hold the whole result, and as many rows as a known total says. -/
def IsComplete (batches : List RecordBatch) : Prop :=
  Delivers pf p schema p.held.length batches ∧
    (0 < p.total → ResultSet.rowCountOf batches = p.total)

end Delivery

/-! ### Draining an iterator -/

/-- An iterator that is read until it ends or fails gives batches or an error. -/
inductive Drains (pf : Platform) (p : Paging ρ) :
    ResultSetIterator → Cursor → Exec QueryError (List RecordBatch) → Prop
  | ended {it it' : ResultSetIterator} {c c' : Cursor}
      (h : it.nextBatch pf p true c = (none, it', c')) : Drains pf p it c (.ok [])
  | batch {it it' : ResultSetIterator} {c c' : Cursor} {b : RecordBatch}
      {r : Exec QueryError (List RecordBatch)}
      (h : it.nextBatch pf p true c = (some (.ok b), it', c')) (rest : Drains pf p it' c' r) :
      Drains pf p it c (r.map (b :: ·))
  | failed {it it' : ResultSetIterator} {c c' : Cursor} {e : Fault QueryError}
      (h : it.nextBatch pf p true c = (some (.error e), it', c')) : Drains pf p it c (.error e)

/-- The iterator and the transport after a number of calls, whatever these gave. -/
def afterCalls (pf : Platform) (p : Paging ρ) :
    ℕ → ResultSetIterator → Cursor → ResultSetIterator × Cursor
  | 0, it, c => (it, c)
  | n + 1, it, c =>
    let (_, it, c) := it.nextBatch pf p true c
    afterCalls pf p n it c

/-! ### The contract -/

/-- The contract of the two ways of reading a result. -/
structure Obeys (pf : Platform) (p : Paging ρ) (s : StreamResult) : Prop where
  /-- Reading in one go delivers everything or fails. -/
  fetchAll_complete : ∀ batches c,
    ResultSet.fetchAll pf p (.stream s) p.start = (.ok batches, c) →
      IsComplete pf p s.metadata.schema batches
  /-- Draining comes to an end. -/
  drain_ends : ∃ r, Drains pf p (.ofStream s) p.start r
  /-- Draining delivers everything or fails. -/
  drain_complete : ∀ batches, Drains pf p (.ofStream s) p.start (.ok batches) →
    IsComplete pf p s.metadata.schema batches
  /-- Both accept or both reject. -/
  same : (∃ batches, (ResultSet.fetchAll pf p (.stream s) p.start).1 = .ok batches) ↔
    ∃ batches, Drains pf p (.ofStream s) p.start (.ok batches)
  /-- After any number of calls, failed ones included, the next page that is asked
  for is the one that follows the rows that were delivered. -/
  noSkip : ∀ n, let (it, c) := afterCalls pf p n (.ofStream s) p.start
    it.complete = true ∨ c.position = ResultSet.rowCountOf it.batches

/-- The pagings on which the contract is kept. -/
structure Sound (pf : Platform) (p : Paging ρ) (schema : Schema) : Prop where
  /-- Without a handle, a known total is the number of rows that came. -/
  noHandle : p.handle = none → p.total = 0 ∨ p.inline = p.total
  /-- With a handle, when the reported number is that of the rows that came – zero
  included – there are no others. -/
  closed : p.handle ≠ none → p.totalRows.val = p.inline → p.inline = p.held.length
  /-- With a handle, no more rows came than a known total says. -/
  inline : p.handle ≠ none → 0 < p.total → p.inline ≤ p.total
  /-- When there are more rows than a known total says, the pages do not stop at
  the total, unless a request failed before. -/
  stops : p.handle ≠ none → p.totalRows.val ≠ p.inline → 0 < p.total → p.total < p.held.length →
    ∀ i, p.position i = p.total → ∃ j < i, ∃ e, p.fetches j = .failed e
  /-- Every page before the total is reached converts. -/
  converts : p.handle ≠ none → p.totalRows.val ≠ p.inline → ∀ i, p.page i ≠ [] →
    (p.total = 0 ∨ p.position i < p.total) → ∃ b, Converts pf p schema (p.page i) b

/-! ### Batches and rows -/

section Rows

variable {pf : Platform} {p : Paging ρ} {schema : Schema}

/-- A batch has as many rows as it was made from. -/
theorem numRows_of_converts {rows : List ρ} {b : RecordBatch} (h : Converts pf p schema rows b) :
    b.numRows = rows.length := by
  unfold Converts ResultSet.firstBatch at h
  split at h
  · rename_i he
    have h0 := (Messages.ResultPayload.isEmpty_iff _).mp he
    have h1 : (p.payload rows).numRows = rows.length := p.numRows_payload rows
    rw [ResultSet.numRows_of_emptyRecordBatch h, ← h1]
    exact h0.symm
  · rw [ResultSet.numRows_of_payloadToRecordBatch h]
    exact p.numRows_payload rows

/-- Batches that deliver a number of rows have that many. -/
theorem rowCountOf_of_delivers {n : ℕ} {batches : List RecordBatch} (hn : n ≤ p.held.length)
    (h : Delivers pf p schema n batches) : ResultSet.rowCountOf batches = n := by
  obtain ⟨chunks, hflat, hconv⟩ := h
  have hlen : (chunks.map List.length).sum = n := by
    rw [← List.length_flatten, hflat, List.length_take]
    omega
  rw [← hlen]
  clear hflat hlen
  induction hconv with
  | nil => rfl
  | cons hb _ ih =>
    have ih' : (List.map RecordBatch.numRows _).sum = _ := ih
    rw [ResultSet.rowCountOf, List.map_cons, List.sum_cons, List.map_cons, List.sum_cons, ih',
      numRows_of_converts hb]

/-- One more page that converts. -/
theorem Delivers.append {i : ℕ} {batches : List RecordBatch} {b : RecordBatch}
    (h : Delivers pf p schema (p.position i) batches) (hb : Converts pf p schema (p.page i) b) :
    Delivers pf p schema (p.position (i + 1)) (batches ++ [b]) := by
  obtain ⟨chunks, hflat, hconv⟩ := h
  refine ⟨chunks ++ [p.page i], ?_, ?_⟩
  · rw [List.flatten_append, hflat, p.take_position_succ]
    simp
  · exact List.rel_append hconv (.cons hb .nil)

/-- The whole result has as many rows as the server holds. -/
theorem IsComplete.rowCount {batches : List RecordBatch} (h : IsComplete pf p schema batches) :
    ResultSet.rowCountOf batches = p.held.length :=
  rowCountOf_of_delivers (le_refl _) h.1

end Rows

/-! ### One page -/

/-- What asking for the page after the delivered rows leads to. -/
inductive PageOutcome (pf : Platform) (p : Paging ρ) (schema : Schema) (i : ℕ) :
    Exec PageFetchError (Option RecordBatch) × Cursor → Prop
  /-- The total has been reached. -/
  | reached (ht : 0 < p.total) (hle : p.total ≤ p.position i) :
    PageOutcome pf p schema i (.ok none, p.cursorAt i)
  /-- The request fails. -/
  | failed {e : TransportError} (hbelow : p.total = 0 ∨ p.position i < p.total)
      (hf : p.fetches i = .failed e) :
    PageOutcome pf p schema i
      (fail (.fetch (.executionFailed (.transport e))), p.cursorAt (i + 1))
  /-- There are no more rows, and none are expected. -/
  | ended (ht : p.total = 0) (hf : ∀ e, p.fetches i ≠ .failed e) (hpage : p.page i = []) :
    PageOutcome pf p schema i (.ok none, p.cursorAt (i + 1))
  /-- The rows are not as many as expected. -/
  | mismatch {message : String} (hbelow : 0 < p.total ∧ p.position i < p.total)
      (hf : ∀ e, p.fetches i ≠ .failed e)
      (hpage : p.page i = [] ∨
        p.total < p.position (i + 1) ∧ ∃ b, Converts pf p schema (p.page i) b) :
    PageOutcome pf p schema i (fail (.rowCountMismatch message), p.cursorAt (i + 1))
  /-- The page does not convert. -/
  | unconvertible {e : Fault PageFetchError} (hbelow : p.total = 0 ∨ p.position i < p.total)
      (hf : ∀ e, p.fetches i ≠ .failed e) (hpage : p.page i ≠ [])
      (hconv : ∀ b, ¬Converts pf p schema (p.page i) b)
      (he : ∀ message, e ≠ .error (.rowCountMismatch message)) :
    PageOutcome pf p schema i (.error e, p.cursorAt (i + 1))
  /-- The page comes. -/
  | page {b : RecordBatch} (hbelow : p.total = 0 ∨ p.position (i + 1) ≤ p.total)
      (hf : ∀ e, p.fetches i ≠ .failed e) (hpage : p.page i ≠ [])
      (hconv : Converts pf p schema (p.page i) b) :
    PageOutcome pf p schema i (.ok (some b), p.cursorAt (i + 1))

section Pages

variable {pf : Platform} {p : Paging ρ} {m : QueryMetadata}

/-- The transport moves from one of its positions to the next. -/
theorem fetchResults_cursorAt (i : ℕ) : p.fetchResults (p.cursorAt i) =
    match p.fetches i with
    | .failed e => (.error e, p.cursorAt (i + 1))
    | .page _ => (.ok (p.data (p.page i) (p.reported (p.page i))), p.cursorAt (i + 1)) := by
  unfold Paging.fetchResults Paging.cursorAt
  dsimp only
  rw [p.position_succ]
  cases h : p.fetches i with
  | failed e =>
    dsimp only
    rw [p.page_of_failed h]
    rfl
  | page size =>
    dsimp only
    rw [p.page_of_page h]
    rfl

variable (pf) in
/-- **Every outcome of asking for a page.** -/
theorem pageOutcome (hm : m.total = p.total) (i : ℕ) :
    PageOutcome pf p m.schema i
      (ResultSet.fetchPageAfter pf p m (p.position i) (p.cursorAt i)) := by
  unfold ResultSet.fetchPageAfter
  rw [hm, fetchResults_cursorAt]
  split
  · rename_i h
    exact .reached h.1 h.2
  · rename_i hbelow
    have hbelow' : p.total = 0 ∨ p.position i < p.total := by omega
    cases hf : p.fetches i with
    | failed e => exact .failed hbelow' hf
    | page size =>
      have hne (e : TransportError) : p.fetches i ≠ .failed e := by
        rw [hf]
        exact fun h => (nomatch h)
      have hempty : (p.payload (p.page i)).isEmpty = true ↔ p.page i = [] := by
        rw [Messages.ResultPayload.isEmpty_iff, p.numRows_payload, List.length_eq_zero_iff]
      dsimp only [Paging.data]
      split
      · rename_i he
        split
        · rename_i h0
          exact .ended h0 hne (hempty.mp he)
        · rename_i h0
          exact .mismatch ⟨by omega, by omega⟩ hne (.inl (hempty.mp he))
      · rename_i he
        have hpage : p.page i ≠ [] := fun h => he (hempty.mpr h)
        -- Conversion looks at the rows only, not at what the page reports of them.
        have hconv (b : RecordBatch) : Converts pf p m.schema (p.page i) b ↔
            ResultSet.payloadToRecordBatch pf
              ⟨p.columns, p.payload (p.page i), p.reported (p.page i)⟩ m.schema = .ok b := by
          unfold Converts ResultSet.firstBatch
          exact iff_of_eq (congrArg (· = Except.ok b) (if_neg he))
        cases hb : ResultSet.payloadToRecordBatch pf
            ⟨p.columns, p.payload (p.page i), p.reported (p.page i)⟩ m.schema with
        | error e =>
          have hnot (b : RecordBatch) : ¬Converts pf p m.schema (p.page i) b := by
            rw [hconv, hb]
            exact fun h => (nomatch h)
          cases e with
          | error e =>
            exact .unconvertible hbelow' hne hpage hnot fun message h => (nomatch h)
          | panic => exact .unconvertible hbelow' hne hpage hnot fun message h => (nomatch h)
        | ok b =>
          have hb' := (hconv b).mpr hb
          rw [mapError_ok]
          dsimp only
          rw [numRows_of_converts hb', ← p.position_succ]
          split
          · rename_i hover
            exact .mismatch ⟨hover.1, by omega⟩ hne (.inr ⟨hover.2, b, hb'⟩)
          · rename_i hover
            exact .page (by omega) hne hpage hb'

/-! ### Reading in one go -/

/-- **What pagination delivers**, when it succeeds: everything up to a later
position, which is the end or the known total, and no request failed on the way. -/
theorem paginate_ok (hm : m.total = p.total) {i : ℕ} {collected batches : List RecordBatch}
    {c : Cursor} (hdel : Delivers pf p m.schema (p.position i) collected)
    (hbelow : p.total = 0 ∨ p.position i ≤ p.total)
    (h : ResultSet.paginateRemaining pf p m (p.cursorAt i) collected = (.ok batches, c)) :
    ∃ j, i ≤ j ∧ Delivers pf p m.schema (p.position j) batches ∧
      (∀ k, i ≤ k → k < j → ∀ e, p.fetches k ≠ .failed e) ∧
      (p.total = 0 → p.position j = p.held.length) ∧ (0 < p.total → p.position j = p.total) := by
  induction hn : p.held.length - p.position i using Nat.strong_induction_on
    generalizing i collected with
  | _ n ih =>
    have hout := pageOutcome pf hm i
    rw [ResultSet.paginateRemaining, rowCountOf_of_delivers (p.position_le i) hdel] at h
    split at h
    · rename_i b c' heq
      rw [heq] at hout
      cases hout with
      | page hle hf hpage hconv =>
        have hle' := p.position_le (i + 1)
        have hsucc := p.position_succ i
        have hpos : 0 < (p.page i).length := List.length_pos_iff.mpr hpage
        obtain ⟨j, hij, hj, hfail, h0, h1⟩ := ih _ (by omega) (hdel.append hconv) hle h rfl
        refine ⟨j, by omega, hj, fun k hik hkj => ?_, h0, h1⟩
        rcases Nat.eq_or_lt_of_le hik with rfl | hlt
        · exact hf
        · exact hfail k hlt hkj
    · rename_i c' heq
      rw [heq] at hout
      obtain rfl := Except.ok.inj (Prod.mk.inj h).1
      refine ⟨i, le_refl i, hdel, fun k hik hki => absurd hik (not_le.mpr hki), ?_⟩
      cases hout with
      | reached ht hle => exact ⟨fun h0 => by omega, fun _ => by omega⟩
      | ended ht hf hpage => exact ⟨fun _ => (p.page_eq_nil_iff hf).mp hpage, fun h1 => by omega⟩
    · rename_i e c' heq
      cases e <;> cases (Prod.mk.inj h).1

/-- A known total that is reached ends pagination. -/
theorem paginate_reached (hm : m.total = p.total) (ht : 0 < p.total) {i : ℕ}
    (hi : p.total ≤ p.position i) {collected : List RecordBatch}
    (hdel : Delivers pf p m.schema (p.position i) collected) :
    ResultSet.paginateRemaining pf p m (p.cursorAt i) collected =
      (.ok collected, p.cursorAt i) := by
  have hpage : ResultSet.fetchPageAfter pf p m (ResultSet.rowCountOf collected) (p.cursorAt i) =
      (.ok none, p.cursorAt i) := by
    unfold ResultSet.fetchPageAfter
    rw [rowCountOf_of_delivers (p.position_le i) hdel, hm, if_pos ⟨ht, hi⟩]
  rw [ResultSet.paginateRemaining]
  split
  · rename_i b c' heq
    rw [hpage] at heq
    cases heq
  · rename_i c' heq
    rw [hpage] at heq
    cases heq
    rfl
  · rename_i e c' heq
    rw [hpage] at heq
    cases heq

/-- Pagination goes through when no request fails, every page converts, and a
known total is reached exactly. -/
theorem paginate_reaches (hm : m.total = p.total) (ht : 0 < p.total)
    (htot : p.total < p.held.length) {i j : ℕ} (hij : i ≤ j) (hj : p.position j = p.total)
    (hfail : ∀ k, k < j → ∀ e, p.fetches k ≠ .failed e)
    (hconv : ∀ k, p.page k ≠ [] → p.position k < p.total → ∃ b, Converts pf p m.schema (p.page k) b)
    {collected : List RecordBatch} (hdel : Delivers pf p m.schema (p.position i) collected) :
    ∃ batches c, ResultSet.paginateRemaining pf p m (p.cursorAt i) collected = (.ok batches, c) ∧
      Delivers pf p m.schema p.total batches := by
  induction hn : j - i generalizing i collected with
  | zero =>
    obtain rfl : i = j := by omega
    exact ⟨collected, _, paginate_reached hm ht hj.ge hdel, hj ▸ hdel⟩
  | succ n ih =>
    have hlt : i < j := by omega
    have hle : p.position (i + 1) ≤ p.position j := p.position_mono hlt
    have hle0 := p.position_mono (Nat.le_add_right i 1)
    rcases Nat.lt_or_ge (p.position i) p.total with hbelow | hreached
    · have hout := pageOutcome pf hm i
      have hne : p.page i ≠ [] := by
        rw [ne_eq, p.page_eq_nil_iff (hfail i hlt)]
        omega
      obtain ⟨b, hb⟩ := hconv i hne hbelow
      rw [ResultSet.paginateRemaining, rowCountOf_of_delivers (p.position_le i) hdel]
      split
      · rename_i b c' heq
        rw [heq] at hout
        cases hout with
        | page _ _ _ hb => exact ih (by omega) (hdel.append hb) (by omega)
      · rename_i c' heq
        rw [heq] at hout
        cases hout with
        | reached _ hle' => omega
        | ended _ _ hpage => exact absurd hpage hne
      · rename_i e c' heq
        rw [heq] at hout
        cases hout with
        | failed _ hf => exact absurd hf (hfail i hlt _)
        | unconvertible _ _ _ hno => exact absurd hb (hno b)
        | mismatch _ _ hbad =>
          rcases hbad with hnil | ⟨hover, -⟩
          · exact absurd hnil hne
          · omega
    · have hi : p.position i = p.total := by omega
      exact ⟨collected, _, paginate_reached hm ht hreached hdel, hi ▸ hdel⟩

/-! ### Reading batch by batch -/

/-- An iterator that has handed out every batch that has come. -/
def readingAt (handle : Option (SInt 32)) (m : QueryMetadata) (batches : List RecordBatch) :
    ResultSetIterator :=
  ⟨handle, m, batches, batches.length, false⟩

theorem readingAt_append (handle : Option (SInt 32)) (m : QueryMetadata)
    (batches : List RecordBatch) (b : RecordBatch) : readingAt handle m (batches ++ [b]) =
      ⟨handle, m, batches ++ [b], batches.length + 1, false⟩ := by
  unfold readingAt
  rw [List.length_append, List.length_singleton]

/-- What the next call does then. -/
inductive NextOutcome (pf : Platform) (p : Paging ρ) (handle : Option (SInt 32))
    (m : QueryMetadata) (i : ℕ) (batches : List RecordBatch) :
    Option (Exec QueryError RecordBatch) × ResultSetIterator × Cursor → Prop
  /-- The iterator ends. -/
  | ended {it : ResultSetIterator} {c : Cursor}
      (hpage : ∃ c, ResultSet.fetchPageAfter pf p m (p.position i) (p.cursorAt i) = (.ok none, c))
      (hit : it.complete = true) (hcur : it.batches[it.currentIndex]? = none) :
    NextOutcome pf p handle m i batches (none, it, c)
  /-- A batch comes. -/
  | batch {b : RecordBatch}
      (hpage : ResultSet.fetchPageAfter pf p m (p.position i) (p.cursorAt i) =
        (.ok (some b), p.cursorAt (i + 1))) :
    NextOutcome pf p handle m i batches
      (some (.ok b), readingAt handle m (batches ++ [b]), p.cursorAt (i + 1))
  /-- The call fails; the iterator goes on unless the numbers of rows differ. -/
  | failed {e : Fault PageFetchError} {it : ResultSetIterator}
      (hpage : ResultSet.fetchPageAfter pf p m (p.position i) (p.cursorAt i) =
        (.error e, p.cursorAt (i + 1)))
      (hit : (∃ message, e = .error (.rowCountMismatch message)) ∧ it.complete = true ∧
          it.batches = batches ∨
        (∀ message, e ≠ .error (.rowCountMismatch message)) ∧ it = readingAt handle m batches) :
    NextOutcome pf p handle m i batches
      (some (mapError PageFetchError.toQueryError (.error e)), it, p.cursorAt (i + 1))

variable (pf) in
/-- **Every outcome of a call** that has to ask for a page. -/
theorem nextOutcome (hm : m.total = p.total) {handle : Option (SInt 32)} (hh : handle ≠ none)
    {i : ℕ} {batches : List RecordBatch} (hrows : ResultSet.rowCountOf batches = p.position i) :
    NextOutcome pf p handle m i batches
      ((readingAt handle m batches).nextBatch pf p true (p.cursorAt i)) := by
  have hcur : batches[batches.length]? = none := List.getElem?_eq_none (le_refl _)
  have hout := pageOutcome pf hm i
  unfold ResultSetIterator.nextBatch ResultSetIterator.fetchNextBatch readingAt
  dsimp only
  rw [hcur, hrows]
  simp only [Bool.false_eq_true, if_false, if_true, if_neg hh]
  generalize hpage : ResultSet.fetchPageAfter pf p m (p.position i) (p.cursorAt i) = r at hout
  cases hout with
  | reached => exact .ended ⟨_, hpage⟩ rfl hcur
  | ended => exact .ended ⟨_, hpage⟩ rfl hcur
  | page =>
    have hb := @NextOutcome.batch _ pf p handle m i batches _ hpage
    rw [readingAt_append] at hb
    exact hb
  | failed => exact .failed hpage (.inr ⟨fun _ h => (nomatch h), rfl⟩)
  | mismatch => exact .failed hpage (.inl ⟨⟨_, rfl⟩, rfl, rfl⟩)
  | @unconvertible e _ _ _ _ he =>
    rcases e with (e | message) | _
    · exact .failed hpage (.inr ⟨he, rfl⟩)
    · exact absurd rfl (he message)
    · exact .failed hpage (.inr ⟨he, rfl⟩)

/-- An iterator that has ended gives nothing. -/
theorem Drains.of_complete {it : ResultSetIterator} {c : Cursor} (hit : it.complete = true)
    (hcur : it.batches[it.currentIndex]? = none) : Drains pf p it c (.ok []) := by
  refine @Drains.ended _ pf p it it c c ?_
  unfold ResultSetIterator.nextBatch
  rw [hcur, hit, if_pos rfl]

/-- Draining has one outcome. -/
theorem Drains.unique {it : ResultSetIterator} {c : Cursor}
    {r r' : Exec QueryError (List RecordBatch)} (h : Drains pf p it c r)
    (h' : Drains pf p it c r') : r = r' := by
  induction h generalizing r' with
  | ended h =>
    cases h' with
    | ended => rfl
    | batch h2 => rw [h] at h2; cases h2
    | failed h2 => rw [h] at h2; cases h2
  | batch h _ ih =>
    cases h' with
    | ended h2 => rw [h] at h2; cases h2
    | batch h2 rest =>
      rw [h] at h2
      cases h2
      rw [ih rest]
    | failed h2 => rw [h] at h2; cases h2
  | failed h =>
    cases h' with
    | ended h2 => rw [h] at h2; cases h2
    | batch h2 => rw [h] at h2; cases h2
    | failed h2 =>
      rw [h] at h2
      cases h2
      rfl

variable (pf) in
/-- **Draining follows pagination**: it gives the same batches or the same error. -/
theorem drains_paginate (hm : m.total = p.total) {handle : Option (SInt 32)} (hh : handle ≠ none)
    {i : ℕ} {batches : List RecordBatch} (hdel : Delivers pf p m.schema (p.position i) batches) :
    ∃ r, Drains pf p (readingAt handle m batches) (p.cursorAt i) r ∧
      (ResultSet.paginateRemaining pf p m (p.cursorAt i) batches).1 = r.map (batches ++ ·) := by
  induction hn : p.held.length - p.position i using Nat.strong_induction_on
    generalizing i batches with
  | _ n ih =>
    have hrows := rowCountOf_of_delivers (p.position_le i) hdel
    have hout := pageOutcome pf hm i
    have hnext := nextOutcome pf hm hh hrows
    generalize hcall : (readingAt handle m batches).nextBatch pf p true (p.cursorAt i) = call
      at hnext
    rw [ResultSet.paginateRemaining, hrows]
    cases hnext with
    | ended hpage hit hcur =>
      obtain ⟨c, hpage⟩ := hpage
      refine ⟨.ok [], .ended hcall, ?_⟩
      split
      · rename_i heq
        rw [hpage] at heq
        cases heq
      · exact congrArg Except.ok (List.append_nil _).symm
      · rename_i heq
        rw [hpage] at heq
        cases heq
    | @batch b hpage =>
      rw [hpage] at hout
      cases hout with
      | page hle hf hne hconv =>
        have hle' := p.position_le (i + 1)
        have hsucc := p.position_succ i
        have hpos : 0 < (p.page i).length := List.length_pos_iff.mpr hne
        obtain ⟨r, hr, heq⟩ := ih _ (by omega) (hdel.append hconv) rfl
        refine ⟨r.map (b :: ·), .batch hcall hr, ?_⟩
        split
        · rename_i b' c' h
          rw [hpage] at h
          cases h
          rw [heq]
          cases r with
          | error e => rfl
          | ok bs => exact congrArg Except.ok (List.append_assoc batches [b] bs)
        · rename_i h
          rw [hpage] at h
          cases h
        · rename_i h
          rw [hpage] at h
          cases h
    | @failed e it hpage hit =>
      rw [hpage] at hout
      have herr : ∃ f, (mapError PageFetchError.toQueryError (.error e) :
          Exec QueryError RecordBatch) = .error f ∧
          (mapError PageFetchError.toQueryError (.error e) :
            Exec QueryError (List RecordBatch)) = .error f := by
        cases e with
        | error e => exact ⟨_, rfl, rfl⟩
        | panic => exact ⟨_, rfl, rfl⟩
      obtain ⟨f, hf, hf'⟩ := herr
      rw [hf] at hcall
      refine ⟨.error f, .failed hcall, ?_⟩
      split
      · rename_i h
        rw [hpage] at h
        cases h
      · rename_i h
        rw [hpage] at h
        cases h
      · rename_i e' c' h
        rw [hpage] at h
        cases h
        exact hf'

end Pages

/-! ### The first answer -/

section Contract

variable {pf : Platform} {p : Paging ρ} {s : StreamResult}

/-- What is known of a result from the first answer: one batch, which is all there
is when there is no handle or when the reported number of rows came with it. -/
theorem fromTransportResult_eq_ok
    (h : ResultSet.fromTransportResult pf p.answer = .ok (.stream s)) :
    ∃ b, s = ⟨p.handle, s.metadata, [b], s.complete⟩ ∧ s.metadata.total = p.total ∧
      Delivers pf p s.metadata.schema p.inline [b] ∧
      (s.complete = true ↔ p.handle = none ∨ p.totalRows.val = p.inline) := by
  obtain ⟨schema, -, h⟩ := bind_eq_ok.mp h
  obtain ⟨b, hb, h⟩ := bind_eq_ok.mp h
  obtain rfl := ResultSetInner.stream.inj (Except.ok.inj h)
  refine ⟨b, rfl, rfl, ⟨[p.held.take p.inline], ?_, .cons (mapError_eq_ok.mp hb) .nil⟩, ?_⟩
  · exact List.append_nil _
  · have hrows : (p.payload (p.held.take p.inline)).numRows = p.inline := by
      rw [p.numRows_payload, List.length_take, Nat.min_eq_left p.inline_le]
    dsimp only [Paging.data]
    rw [hrows, Bool.or_eq_true, Option.isNone_iff_eq_none, beq_iff_eq]

/-- The first call hands out the first batch. -/
theorem nextBatch_first (handle : Option (SInt 32)) (m : QueryMetadata) (b : RecordBatch)
    (complete : Bool) (c : Cursor) :
    (ResultSetIterator.ofStream ⟨handle, m, [b], complete⟩).nextBatch pf p true c =
      (some (.ok b), ⟨handle, m, [b], 1, complete⟩, c) := rfl

/-- A result that is complete is drained without a request. -/
theorem drains_complete (h : ResultSet.fromTransportResult pf p.answer = .ok (.stream s))
    (hc : s.complete = true) : Drains pf p (.ofStream s) p.start (.ok s.batches) := by
  obtain ⟨b, hs, -⟩ := fromTransportResult_eq_ok h
  rw [hc] at hs
  rw [hs]
  exact .batch (nextBatch_first ..) (Drains.of_complete rfl rfl)

/-- Any other result is drained as it is paginated. -/
theorem drains_incomplete (h : ResultSet.fromTransportResult pf p.answer = .ok (.stream s))
    (hc : s.complete = false) : Drains pf p (.ofStream s) p.start
      (ResultSet.paginateRemaining pf p s.metadata (p.cursorAt 0) s.batches).1 := by
  obtain ⟨b, hs, hm, hdel, hcomplete⟩ := fromTransportResult_eq_ok h
  have hh : p.handle ≠ none := fun hn => by
    rw [hcomplete.mpr (.inl hn)] at hc
    cases hc
  obtain ⟨r, hr, heq⟩ := drains_paginate pf (i := 0) hm hh hdel
  rw [hc] at hs
  have hfirst := Drains.batch (nextBatch_first p.handle s.metadata b false p.start) hr
  rw [hs]
  dsimp only
  rw [heq]
  exact hfirst

/-- Reading a complete result in one go is counting its rows. -/
theorem fetchAll_complete (hc : s.complete = true) (c : Cursor) :
    (ResultSet.fetchAll pf p (.stream s) c).1 =
      (do ResultSet.checkBufferedRows s.metadata s.batches; return s.batches) := by
  unfold ResultSet.fetchAll
  dsimp only
  rw [hc, Bool.not_true, Bool.and_false, if_neg Bool.false_ne_true]

/-- Reading any other result in one go is paginating. -/
theorem fetchAll_incomplete (h : ResultSet.fromTransportResult pf p.answer = .ok (.stream s))
    (hc : s.complete = false) (c : Cursor) : (ResultSet.fetchAll pf p (.stream s) c).1 =
      (ResultSet.paginateRemaining pf p s.metadata c s.batches).1 := by
  obtain ⟨b, hs, -, -, hcomplete⟩ := fromTransportResult_eq_ok h
  have hh : s.handle.isSome = true := by
    rw [Option.isSome_iff_ne_none, hs]
    intro hn
    rw [hcomplete.mpr (.inl hn)] at hc
    cases hc
  unfold ResultSet.fetchAll
  dsimp only
  rw [hc, hh, Bool.not_false, Bool.and_true, if_pos rfl]

/-- Counting the rows of a complete result. -/
theorem checkBufferedRows_eq_ok {m : QueryMetadata} {batches r : List RecordBatch} :
    (do ResultSet.checkBufferedRows m batches; return batches : Exec QueryError _) = .ok r ↔
      r = batches ∧ (0 < m.total → ResultSet.rowCountOf batches = m.total) := by
  unfold ResultSet.checkBufferedRows
  split
  · rename_i hne
    constructor
    · intro h
      cases h
    · rintro ⟨-, h⟩
      exact absurd (h hne.1) hne.2
  · rename_i heq
    constructor
    · intro h
      exact ⟨(Except.ok.inj h).symm, fun ht => by_contra fun hne => heq ⟨ht, hne⟩⟩
    · rintro ⟨rfl, -⟩
      rfl

/-! ### Going on after an error -/

/-- One more call. -/
theorem afterCalls_succ (n : ℕ) (it : ResultSetIterator) (c : Cursor) :
    afterCalls pf p (n + 1) it c =
      ((afterCalls pf p n it c).1.nextBatch pf p true (afterCalls pf p n it c).2).2 := by
  induction n generalizing it c with
  | zero => rfl
  | succ n ih =>
    rw [afterCalls]
    exact ih ..

/-- An iterator that has ended hands out what is left, and does not go back. -/
theorem nextBatch_complete {it : ResultSetIterator} (h : it.complete = true) (c : Cursor) :
    (it.nextBatch pf p true c).2.1.complete = true := by
  unfold ResultSetIterator.nextBatch
  split
  · exact h
  · rw [if_pos h]
    exact h

/-- The iterator has ended, or it has seen exactly the rows before the next page. -/
def InStep (pf : Platform) (p : Paging ρ) (m : QueryMetadata) (it : ResultSetIterator)
    (c : Cursor) : Prop :=
  it.complete = true ∨ ∃ i batches current, it = ⟨p.handle, m, batches, current, false⟩ ∧
    current ≤ batches.length ∧ c = p.cursorAt i ∧ Delivers pf p m.schema (p.position i) batches

/-- Such an iterator skips nothing. -/
theorem InStep.noSkip {m : QueryMetadata} {it : ResultSetIterator} {c : Cursor}
    (h : InStep pf p m it c) :
    it.complete = true ∨ c.position = ResultSet.rowCountOf it.batches := by
  rcases h with h | ⟨i, batches, current, rfl, -, rfl, hdel⟩
  · exact .inl h
  · exact .inr (rowCountOf_of_delivers (p.position_le i) hdel).symm

/-- A call stays in step when the pages convert. -/
theorem InStep.nextBatch {m : QueryMetadata} (hm : m.total = p.total) (hh : p.handle ≠ none)
    (hconv : ∀ i, p.page i ≠ [] → (p.total = 0 ∨ p.position i < p.total) →
      ∃ b, Converts pf p m.schema (p.page i) b)
    {it : ResultSetIterator} {c : Cursor} (h : InStep pf p m it c) :
    InStep pf p m (it.nextBatch pf p true c).2.1 (it.nextBatch pf p true c).2.2 := by
  rcases h with h | ⟨i, batches, current, rfl, hle, rfl, hdel⟩
  · exact .inl (nextBatch_complete h c)
  rcases Nat.lt_or_eq_of_le hle with hlt | rfl
  · refine .inr ⟨i, batches, current + 1, ?_, hlt, ?_, hdel⟩ <;>
      rw [ResultSetIterator.nextBatch, List.getElem?_eq_getElem hlt]
  have hrows := rowCountOf_of_delivers (p.position_le i) hdel
  have hnext := nextOutcome pf hm hh hrows
  have hout := pageOutcome pf hm i
  unfold readingAt at hnext
  generalize hcall : ResultSetIterator.nextBatch pf p true
    ⟨p.handle, m, batches, batches.length, false⟩ (p.cursorAt i) = call at hnext ⊢
  cases hnext with
  | ended hpage hit hcur => exact .inl hit
  | @batch b hpage =>
    rw [hpage] at hout
    cases hout with
    | page _ _ _ hb =>
      exact .inr ⟨i + 1, batches ++ [b], _, rfl, le_refl _, rfl, hdel.append hb⟩
  | failed hpage hit =>
    rcases hit with ⟨-, hit, -⟩ | ⟨hno, rfl⟩
    · exact .inl hit
    · rw [hpage] at hout
      cases hout with
      | failed hbelow hf =>
        refine .inr ⟨i + 1, batches, _, rfl, le_refl _, rfl, ?_⟩
        rw [p.position_succ, p.page_of_failed hf]
        exact hdel
      | mismatch => exact absurd rfl (hno _)
      | unconvertible hbelow _ hpage hnot _ =>
        obtain ⟨b, hb⟩ := hconv i hpage hbelow
        exact absurd hb (hnot b)

/-- So does any number of calls. -/
theorem InStep.afterCalls {m : QueryMetadata} (hm : m.total = p.total) (hh : p.handle ≠ none)
    (hconv : ∀ i, p.page i ≠ [] → (p.total = 0 ∨ p.position i < p.total) →
      ∃ b, Converts pf p m.schema (p.page i) b)
    {it : ResultSetIterator} {c : Cursor} (h : InStep pf p m it c) (n : ℕ) :
    InStep pf p m (afterCalls pf p n it c).1 (afterCalls pf p n it c).2 := by
  induction n with
  | zero => exact h
  | succ n ih =>
    rw [afterCalls_succ]
    exact ih.nextBatch hm hh hconv

/-- An iterator that has ended stays so. -/
theorem afterCalls_complete {it : ResultSetIterator} (h : it.complete = true) (c : Cursor)
    (n : ℕ) : (afterCalls pf p n it c).1.complete = true := by
  induction n with
  | zero => exact h
  | succ n ih =>
    rw [afterCalls_succ]
    exact nextBatch_complete ih _

variable (pf) in
/-- As long as the pages convert and the total is not reached, each call asks for
one page. -/
theorem afterCalls_reaches {m : QueryMetadata} (hm : m.total = p.total) (hh : p.handle ≠ none)
    {b : RecordBatch} (hb : Delivers pf p m.schema p.inline [b]) {i : ℕ}
    (hconv : ∀ k < i, p.page k ≠ [] → ∃ b, Converts pf p m.schema (p.page k) b)
    (hmore : p.position i < p.held.length) (hbelow : p.total = 0 ∨ p.position i < p.total) :
    ∃ batches, afterCalls pf p (i + 1) (.ofStream ⟨p.handle, m, [b], false⟩) p.start =
      (readingAt p.handle m batches, p.cursorAt i) ∧
        Delivers pf p m.schema (p.position i) batches := by
  induction i with
  | zero => exact ⟨[b], rfl, hb⟩
  | succ i ih =>
    have hle := p.position_mono (Nat.le_add_right i 1)
    obtain ⟨batches, hafter, hdel⟩ := ih (fun k hk => hconv k (by omega)) (by omega) (by omega)
    have hrows := rowCountOf_of_delivers (p.position_le i) hdel
    have hnext := nextOutcome pf hm hh hrows
    have hout := pageOutcome pf hm i
    rw [afterCalls_succ, hafter]
    dsimp only
    generalize hcall : (readingAt p.handle m batches).nextBatch pf p true (p.cursorAt i) = call
      at hnext
    cases hnext with
    | ended hpage =>
      obtain ⟨c, hpage⟩ := hpage
      rw [hpage] at hout
      cases hout with
      | reached => omega
      | ended _ hf hnil =>
        have := (p.page_eq_nil_iff hf).mp hnil
        omega
    | @batch b hpage =>
      rw [hpage] at hout
      cases hout with
      | page _ _ _ hb => exact ⟨batches ++ [b], rfl, hdel.append hb⟩
    | @failed e it hpage hit =>
      rw [hpage] at hout
      cases hout with
      | failed _ hf =>
        rcases hit with ⟨⟨_, he⟩, -⟩ | ⟨-, rfl⟩
        · cases he
        · refine ⟨batches, rfl, ?_⟩
          rw [p.position_succ, p.page_of_failed hf]
          exact hdel
      | mismatch _ hf hbad =>
        rcases hbad with hnil | ⟨hover, -⟩
        · have := (p.page_eq_nil_iff hf).mp hnil
          omega
        · omega
      | unconvertible _ _ hne hnot =>
        obtain ⟨b, hb⟩ := hconv i (by omega) hne
        exact absurd hb (hnot b)

/-! ### The contract is kept on sound pagings -/

/-- Sound pagings keep the contract. -/
theorem obeys_of_sound (h : ResultSet.fromTransportResult pf p.answer = .ok (.stream s))
    (hs : Sound pf p s.metadata.schema) : Obeys pf p s := by
  obtain ⟨b, hform, hm, hdel, hcomplete⟩ := fromTransportResult_eq_ok h
  have hbatches : s.batches = [b] := by rw [hform]
  cases hc : s.complete with
  | true =>
    have hdrain := drains_complete h hc
    have hheld : p.inline = p.held.length := by
      by_cases hh : p.handle = none
      · exact p.closed hh
      · exact hs.closed hh ((hcomplete.mp hc).resolve_left hh)
    have htotal : 0 < p.total → ResultSet.rowCountOf s.batches = p.total := by
      intro ht
      rw [hbatches, rowCountOf_of_delivers p.inline_le hdel]
      by_cases hh : p.handle = none
      · exact (hs.noHandle hh).resolve_left ht.ne'
      · have := (hcomplete.mp hc).resolve_left hh
        unfold Paging.total
        omega
    have hall : IsComplete pf p s.metadata.schema s.batches := by
      refine ⟨?_, htotal⟩
      rw [hbatches, ← hheld]
      exact hdel
    have hfetch : (ResultSet.fetchAll pf p (.stream s) p.start).1 = .ok s.batches := by
      rw [fetchAll_complete hc, checkBufferedRows_eq_ok, hm]
      exact ⟨rfl, htotal⟩
    refine ⟨fun batches c hok => ?_, ⟨_, hdrain⟩, fun batches hok => ?_,
      ⟨fun _ => ⟨_, hdrain⟩, fun _ => ⟨_, hfetch⟩⟩, fun n => .inl (afterCalls_complete hc _ n)⟩
    · rw [hok] at hfetch
      obtain rfl := Except.ok.inj hfetch
      exact hall
    · obtain rfl := Except.ok.inj (hok.unique hdrain)
      exact hall
  | false =>
    have hdrain := drains_incomplete h hc
    have hfetch := fetchAll_incomplete h hc p.start
    obtain ⟨hh, hne⟩ : p.handle ≠ none ∧ p.totalRows.val ≠ p.inline := by
      rw [← not_or, ← hcomplete, hc]
      exact Bool.false_ne_true
    rw [hbatches] at hdrain hfetch
    -- Whatever pagination delivers is everything: it does not stop at a total below the end.
    have hall {batches : List RecordBatch}
        (hok : (ResultSet.paginateRemaining pf p s.metadata (p.cursorAt 0) [b]).1 = .ok batches) :
        IsComplete pf p s.metadata.schema batches := by
      have hbelow : p.total = 0 ∨ p.position 0 ≤ p.total := by
        rcases Nat.eq_zero_or_pos p.total with h0 | hpos
        · exact .inl h0
        · exact .inr (hs.inline hh hpos)
      obtain ⟨j, -, hdel', hfail, h0, hpos⟩ :=
        paginate_ok (i := 0) hm hdel hbelow (Prod.ext hok rfl)
      have hend : p.position j = p.held.length := by
        by_contra hlt
        have hlt' := lt_of_le_of_ne (p.position_le j) hlt
        rcases Nat.eq_zero_or_pos p.total with ht | ht
        · exact hlt (h0 ht)
        · rw [hpos ht] at hlt'
          obtain ⟨k, hk, e, he⟩ := hs.stops hh hne ht hlt' j (hpos ht)
          exact hfail k (Nat.zero_le k) hk e he
      refine ⟨hend ▸ hdel', fun ht => ?_⟩
      rw [rowCountOf_of_delivers (p.position_le j) hdel', hpos ht]
    refine ⟨fun batches c hok => ?_, ⟨_, hdrain⟩, fun batches hok => ?_, ⟨?_, ?_⟩, fun n => ?_⟩
    · rw [hok] at hfetch
      exact hall hfetch.symm
    · exact hall (hok.unique hdrain).symm
    · rintro ⟨batches, hok⟩
      refine ⟨batches, ?_⟩
      exact hfetch.symm.trans hok ▸ hdrain
    · rintro ⟨batches, hok⟩
      exact ⟨batches, hfetch.trans (hok.unique hdrain).symm⟩
    · have hstart : InStep pf p s.metadata (.ofStream s) p.start := by
        refine .inr ⟨0, [b], 0, ?_, Nat.zero_le _, rfl, hdel⟩
        rw [hform, hc]
        rfl
      exact (hstart.afterCalls hm hh (hs.converts hh hne) n).noSkip

/-- The contract is kept on no others. -/
theorem sound_of_obeys (h : ResultSet.fromTransportResult pf p.answer = .ok (.stream s))
    (ho : Obeys pf p s) : Sound pf p s.metadata.schema := by
  obtain ⟨b, hform, hm, hdel, hcomplete⟩ := fromTransportResult_eq_ok h
  have hbatches : s.batches = [b] := by rw [hform]
  have hrows : ResultSet.rowCountOf s.batches = p.inline := by
    rw [hbatches, rowCountOf_of_delivers p.inline_le hdel]
  have hincomplete (hh : p.handle ≠ none) (hne : p.totalRows.val ≠ p.inline) :
      s.complete = false := by
    rw [← Bool.not_eq_true, hcomplete, not_or]
    exact ⟨hh, hne⟩
  have hpaginate (hh : p.handle ≠ none) (hne : p.totalRows.val ≠ p.inline) :
      (ResultSet.fetchAll pf p (.stream s) p.start).1 =
        (ResultSet.paginateRemaining pf p s.metadata (p.cursorAt 0) [b]).1 :=
    hbatches ▸ fetchAll_incomplete h (hincomplete hh hne) p.start
  -- A page that does not convert is skipped by the call after the one that fails.
  have hconverts (hh : p.handle ≠ none) (hne : p.totalRows.val ≠ p.inline) (i : ℕ) :
      p.page i ≠ [] → (p.total = 0 ∨ p.position i < p.total) →
        ∃ b, Converts pf p s.metadata.schema (p.page i) b := by
    induction i using Nat.strong_induction_on with
    | _ i ih =>
      intro hpage hbelow
      by_contra hno
      have hmore : p.position i < p.held.length := by
        have hpos : 0 < (p.page i).length := List.length_pos_iff.mpr hpage
        have hsucc := p.position_succ i
        have hle := p.position_le (i + 1)
        omega
      obtain ⟨batches, hafter, hdel'⟩ := afterCalls_reaches pf hm hh hdel
        (fun k hk hk' => ih k hk hk' (by
          have := p.position_mono hk.le
          omega)) hmore hbelow
      have hrows' := rowCountOf_of_delivers (p.position_le i) hdel'
      have hnext := nextOutcome pf hm hh hrows'
      have hout := pageOutcome pf hm i
      have hskip := ho.noSkip (i + 2)
      rw [afterCalls_succ, hform, hincomplete hh hne, hafter] at hskip
      dsimp only at hskip
      generalize (readingAt p.handle s.metadata batches).nextBatch pf p true (p.cursorAt i) = call
        at hnext hskip
      cases hnext with
      | ended hnone =>
        obtain ⟨c, hnone⟩ := hnone
        rw [hnone] at hout
        cases hout with
        | reached => omega
        | ended _ _ hnil => exact hpage hnil
      | @batch b hsome =>
        rw [hsome] at hout
        cases hout with
        | page _ _ _ hb => exact hno ⟨b, hb⟩
      | @failed e it hfail hit =>
        rw [hfail] at hout
        cases hout with
        | failed _ hf => exact hpage (p.page_of_failed hf)
        | mismatch _ _ hbad =>
          rcases hbad with hnil | ⟨-, hb⟩
          · exact hpage hnil
          · exact hno hb
        | unconvertible _ _ _ _ he =>
          rcases hit with ⟨⟨message, hmess⟩, -⟩ | ⟨-, rfl⟩
          · exact he message hmess
          · rcases hskip with hc | hrow
            · cases hc
            · have hsame : p.position (i + 1) = p.position i := hrow.trans hrows'
              have hpos : 0 < (p.page i).length := List.length_pos_iff.mpr hpage
              have hsucc := p.position_succ i
              omega
  refine ⟨fun hh => ?_, fun hh heq => ?_, fun hh ht => ?_, fun hh hne ht hlt i hi => ?_, hconverts⟩
  · have hdrain := ho.drain_complete _ (drains_complete h (hcomplete.mpr (.inl hh)))
    rcases Nat.eq_zero_or_pos p.total with h0 | hpos
    · exact .inl h0
    · exact .inr (hrows.symm.trans (hdrain.2 hpos))
  · have hdrain := ho.drain_complete _ (drains_complete h (hcomplete.mpr (.inr heq)))
    exact hrows.symm.trans hdrain.rowCount
  · by_contra hover
    have hne : p.totalRows.val ≠ p.inline := by
      unfold Paging.total at hover ht
      omega
    have hfetch := hpaginate hh hne
    rw [paginate_reached (i := 0) hm ht (not_le.mp hover).le hdel] at hfetch
    have hall := ho.fetchAll_complete [b] (ResultSet.fetchAll pf p (.stream s) p.start).2
      (Prod.ext hfetch rfl)
    have := hall.2 ht
    rw [← hbatches, hrows] at this
    omega
  · by_contra hno
    push Not at hno
    obtain ⟨batches, c, hok, hdel'⟩ := paginate_reaches hm ht hlt (Nat.zero_le i) hi hno
      (fun k hk hbelow => hconverts hh hne k hk (.inr hbelow)) hdel
    have hfetch := hpaginate hh hne
    rw [hok] at hfetch
    have hall := ho.fetchAll_complete batches (ResultSet.fetchAll pf p (.stream s) p.start).2
      (Prod.ext hfetch rfl)
    have := hall.rowCount
    rw [rowCountOf_of_delivers hlt.le hdel'] at this
    omega

/-- **Reading a result obeys the contract exactly when the paging is sound.** -/
theorem obeys_iff_sound (h : ResultSet.fromTransportResult pf p.answer = .ok (.stream s)) :
    Obeys pf p s ↔ Sound pf p s.metadata.schema :=
  ⟨sound_of_obeys h, obeys_of_sound h⟩

/-! ### Three rows of five -/

/-- A result of three truth values without a handle, whatever their reported number. -/
def flagPaging (totalRows : SInt 64) : Paging Bool where
  columns := [{ name := "F", dataType := { typeName := "BOOLEAN" } }]
  handle := none
  totalRows := totalRows
  held := [true, false, true]
  inline := 3
  inline_le := le_refl _
  closed _ := rfl
  reported _ := totalRows
  fetches _ := .failed (.protocolError "")
  payload rows := .json (rows.map fun b => [.bool b])
  numRows_payload _ := List.length_map _

/-- Three rows of which the server says that they are five: reading in one go
fails, and reading batch by batch does not. -/
theorem flag_contract_broken : ∃ s,
    ResultSet.fromTransportResult checkedPlatform
      (flagPaging 5).answer = .ok (.stream s) ∧
    (∀ batches, (ResultSet.fetchAll checkedPlatform (flagPaging 5)
      (.stream s) (flagPaging 5).start).1 ≠ .ok batches) ∧
    (∃ batches, Drains checkedPlatform (flagPaging 5) (.ofStream s)
      (flagPaging 5).start (.ok batches)) ∧
    ¬Obeys checkedPlatform (flagPaging 5) s := by
  obtain ⟨s, hs⟩ : ∃ s, ResultSet.fromTransportResult checkedPlatform
    (flagPaging 5).answer = .ok (.stream s) := ⟨_, rfl⟩
  obtain ⟨b, hform, hm, hdel, hcomplete⟩ := fromTransportResult_eq_ok hs
  have hc : s.complete = true := hcomplete.mpr (.inl rfl)
  have hrows : ResultSet.rowCountOf s.batches = 3 := by
    rw [hform]
    exact rowCountOf_of_delivers (flagPaging _).inline_le hdel
  have hreject (batches : List RecordBatch) : (ResultSet.fetchAll checkedPlatform
      (flagPaging 5) (.stream s)
      (flagPaging 5).start).1 ≠ .ok batches := by
    rw [fetchAll_complete hc, ne_eq, checkBufferedRows_eq_ok, hm, hrows]
    rintro ⟨-, h⟩
    exact absurd (h (by decide)) (by decide)
  refine ⟨s, hs, hreject, ⟨_, drains_complete hs hc⟩, fun ho => ?_⟩
  obtain ⟨batches, hb⟩ := ho.same.mpr ⟨_, drains_complete hs hc⟩
  exact hreject batches hb

/-- When the server says that they are three, the contract is kept. -/
theorem flag_contract_kept : ∃ s,
    ResultSet.fromTransportResult checkedPlatform
      (flagPaging 3).answer = .ok (.stream s) ∧
    Obeys checkedPlatform (flagPaging 3) s := by
  obtain ⟨s, hs⟩ : ∃ s, ResultSet.fromTransportResult checkedPlatform
    (flagPaging 3).answer = .ok (.stream s) := ⟨_, rfl⟩
  refine ⟨s, hs, (obeys_iff_sound hs).mpr ?_⟩
  exact ⟨fun _ => .inr rfl, fun h => absurd rfl h, fun h => absurd rfl h, fun h => absurd rfl h,
    fun h => absurd rfl h⟩

end Contract

end Exarrow
