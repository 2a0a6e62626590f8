import Exarrow.Foundations.Checked

/-!
# Builders of nested columns

A column of texts, numbers, lists or structures is built by appending to builders that hold each
other (`Nested.Builder`). The builder of a list counts the items that have been appended when a list
is closed (`Nested.appendList`), and that of a structure has a builder for each field, which must
have got as many values as there are structures when all is finished (`Nested.Builder.even`). What a
finished column means are its rows (`Nested.Builder.rows`).

A *column of values* (`Nested.ColumnOf`) says what the builder holds once it has been given certain
values. Such columns are put together as the shapes are: texts and numbers
(`Nested.ColumnOf.text`, `Nested.ColumnOf.int`), lists (`Nested.ColumnOf.list`) and structures
(`Nested.ColumnOf.struct`). **Its rows are the values that it has been given**, whatever the lists
in it are (`Nested.listRows_offsets`). A list that is still open has items that belong to no list yet
(`Nested.ColumnOf.openList`), and closing it puts them into one
(`Nested.ColumnOf.appendList_open`).
-/

namespace Nested

open Machine Checked

/-! ### Shapes and builders -/

/-- The shape of a column; a field has a name and says whether it may be null. -/
inductive Shape where
  | utf8
  | int32
  | list (item : Shape)
  | struct (names : List (String × Bool)) (fields : List Shape)

/-- The builder of a column. -/
inductive Builder where
  | utf8 (values : List String)
  | int32 (values : List (SInt 32))
  | list (item : Builder) (offsets : List ℕ) (validity : List Bool)
  | struct (names : List (String × Bool)) (fields : List Builder) (validity : List Bool)

/-- What a row of a column means. -/
inductive Value where
  | null
  | text (s : String)
  | int (n : SInt 32)
  | list (items : List Value)
  | struct (fields : List Value)

mutual

/-- Two shapes are the same. -/
def Shape.same : Shape → Shape → Bool
  | .utf8, .utf8 | .int32, .int32 => true
  | .list a, .list b => a.same b
  | .struct names fields, .struct names' fields' => names = names' && sameFields fields fields'
  | _, _ => false

/-- The same for the fields of a structure. -/
def sameFields : List Shape → List Shape → Bool
  | [], [] => true
  | a :: as, b :: bs => a.same b && sameFields as bs
  | _, _ => false

end

mutual

/-- The builder for a shape. -/
def makeBuilder : Shape → Builder
  | .utf8 => .utf8 []
  | .int32 => .int32 []
  | .list item => .list (makeBuilder item) [0] []
  | .struct names fields => .struct names (makeBuilders fields) []

/-- The builders for the fields of a structure. -/
def makeBuilders : List Shape → List Builder
  | [] => []
  | shape :: shapes => makeBuilder shape :: makeBuilders shapes

end

mutual

/-- The shape of what is built. -/
def Builder.shape : Builder → Shape
  | .utf8 _ => .utf8
  | .int32 _ => .int32
  | .list item _ _ => .list item.shape
  | .struct names fields _ => .struct names (shapes fields)

/-- The shapes of fields. -/
def shapes : List Builder → List Shape
  | [] => []
  | b :: bs => b.shape :: shapes bs

end

namespace Builder

/-- The number of rows that have been appended. -/
def len : Builder → ℕ
  | utf8 values => values.length
  | int32 values => values.length
  | list _ _ validity | struct _ _ validity => validity.length

/-- Whether some row is null. -/
def hasNull : Builder → Bool
  | list _ _ validity | struct _ _ validity => validity.any (!·)
  | _ => false

/-- A builder of texts. -/
def isUtf8 : Builder → Bool
  | utf8 _ => true
  | _ => false

/-- A builder of numbers. -/
def isInt32 : Builder → Bool
  | int32 _ => true
  | _ => false

/-- A builder of lists. -/
def isList : Builder → Bool
  | list .. => true
  | _ => false

/-- A builder of structures. -/
def isStruct : Builder → Bool
  | struct .. => true
  | _ => false

end Builder

mutual

/-- **The builders of each structure have got as many values as there are
structures**, and no null where there may be none. -/
def Builder.even : Builder → Bool
  | .utf8 _ | .int32 _ => true
  | .list item _ _ => item.even
  | .struct names fields validity => evenFields validity.length names fields

/-- The same for the fields of structures. -/
def evenFields (n : ℕ) : List (String × Bool) → List Builder → Bool
  | [], [] => true
  | name :: names, b :: bs =>
    b.len = n && (name.2 || !b.hasNull) && b.even && evenFields n names bs
  | _, _ => false

end

/-- A finished column; the program stops if it is not even. -/
def finish {ε : Type} (b : Builder) : Exec ε Builder := if b.even then .ok b else stop

/-- The lists of a column of items. -/
def listRows (items : List Value) (offsets : List ℕ) (validity : List Bool) : List Value :=
  (validity.zip (offsets.zip offsets.tail)).map fun row =>
    if row.1 then .list ((items.take row.2.2).drop row.2.1) else .null

/-- The structures of columns. -/
def structRows (columns : List (List Value)) (validity : List Bool) : List Value :=
  validity.mapIdx fun i valid =>
    if valid then .struct (columns.map fun column => column.getD i .null) else .null

mutual

/-- **The rows of a column.** -/
def Builder.rows : Builder → List Value
  | .utf8 values => values.map .text
  | .int32 values => values.map .int
  | .list item offsets validity => listRows item.rows offsets validity
  | .struct _ fields validity => structRows (columnRows fields) validity

/-- The rows of the fields of structures. -/
def columnRows : List Builder → List (List Value)
  | [] => []
  | b :: bs => b.rows :: columnRows bs

end

/-! ### Appending -/

section Appending

variable {ε : Type}

/-- The largest offset, which has 32 bits and a sign. -/
def largestOffset : ℕ := 2147483647

/-- The bytes of texts. -/
def textBytes (values : List String) : ℕ := (values.map String.utf8ByteSize).sum

/-- Append a text; the program stops when the texts get too long. -/
def appendText (value : String) : Builder → Exec ε Builder
  | .utf8 values =>
    if textBytes (values ++ [value]) ≤ largestOffset then .ok (.utf8 (values ++ [value])) else stop
  | _ => stop

/-- Append a number. -/
def appendInt (value : SInt 32) : Builder → Exec ε Builder
  | .int32 values => .ok (.int32 (values ++ [value]))
  | _ => stop

/-- Close a list, of the items that have been appended since the last one; the
program stops when there are too many. -/
def appendList (valid : Bool) : Builder → Exec ε Builder
  | .list item offsets validity =>
    if item.len ≤ largestOffset then
      .ok (.list item (offsets ++ [item.len]) (validity ++ [valid]))
    else stop
  | _ => stop

/-- Close a structure. -/
def appendStruct (valid : Bool) : Builder → Exec ε Builder
  | .struct names fields validity => .ok (.struct names fields (validity ++ [valid]))
  | _ => stop

/-- Change the builder of the items of a list. -/
def onItem (change : Builder → Exec ε Builder) : Builder → Exec ε Builder
  | .list item offsets validity => do
    let item ← change item
    return .list item offsets validity
  | _ => stop

/-- Change the builder of a field of a structure. -/
def onField (index : ℕ) (change : Builder → Exec ε Builder) : Builder → Exec ε Builder
  | .struct names fields validity =>
    match fields[index]? with
    | some field => do
      let field ← change field
      return .struct names (fields.set index field) validity
    | none => stop
  | _ => stop

theorem onField_eq {names : List (String × Bool)} {fields : List Builder} {validity : List Bool}
    {index : ℕ} {change : Builder → Exec ε Builder} {b b' : Builder}
    (hfield : fields[index]? = some b) (hchange : change b = .ok b') :
    onField index change (.struct names fields validity) =
      .ok (.struct names (fields.set index b') validity) := by
  rw [onField, hfield]
  dsimp only
  rw [hchange]
  rfl

/-- A field whose change stops the program. -/
theorem onField_stop {names : List (String × Bool)} {fields : List Builder} {validity : List Bool}
    {index : ℕ} {change : Builder → Exec ε Builder} {b : Builder}
    (hfield : fields[index]? = some b) (hchange : change b = stop) :
    onField index change (.struct names fields validity) = stop := by
  rw [onField, hfield]
  dsimp only
  rw [hchange]
  rfl

theorem appendText_eq {values : List String} {value : String}
    (h : textBytes (values ++ [value]) ≤ largestOffset) :
    (appendText value (.utf8 values) : Exec ε Builder) = .ok (.utf8 (values ++ [value])) := if_pos h

end Appending

/-! ### Lists of lists -/

section Lists

variable {α : Type}

/-- The items of lists, one list behind the other; a null has none. -/
def items (lists : List (Option (List α))) : List α := lists.flatMap fun l => l.getD []

/-- The offsets of lists: how many items stand before each, and how many there are. -/
def offsets (lists : List (Option (List α))) : List ℕ :=
  (List.range (lists.length + 1)).map fun i => (items (lists.take i)).length

theorem items_append (lists others : List (Option (List α))) :
    items (lists ++ others) = items lists ++ items others := List.flatMap_append

@[simp] theorem items_singleton (l : Option (List α)) : items [l] = l.getD [] := by
  rw [items, List.flatMap_singleton]

@[simp] theorem length_offsets (lists : List (Option (List α))) :
    (offsets lists).length = lists.length + 1 := by simp [offsets]

/-- Another list adds the offset behind it. -/
theorem offsets_append_singleton (lists : List (Option (List α))) (l : Option (List α)) :
    offsets (lists ++ [l]) = offsets lists ++ [(items (lists ++ [l])).length] := by
  unfold offsets
  rw [List.length_append, List.length_singleton, List.range_succ (n := lists.length + 1),
    List.map_append, List.map_singleton]
  congr 1
  · refine List.map_congr_left fun i hi => ?_
    rw [List.take_append_of_le_length (Nat.le_of_lt_succ (List.mem_range.mp hi))]
  · rw [List.take_of_length_le (by simp)]

/-- The value of a list. -/
def listValue (value : α → Value) : Option (List α) → Value
  | some l => .list (l.map value)
  | none => .null

/-- **The rows of lists are the lists.** -/
theorem listRows_offsets (value : α → Value) (lists : List (Option (List α))) :
    listRows ((items lists).map value) (offsets lists) (lists.map Option.isSome) =
      lists.map (listValue value) := by
  refine List.ext_getElem (by simp [listRows]) fun i hi hi' => ?_
  have hlt : i < lists.length := by simpa using hi'
  -- the items of a list stand between those of the lists before and behind it
  have hsplit : items lists =
      items (lists.take i) ++ ((lists[i]).getD [] ++ items (lists.drop (i + 1))) := by
    conv_lhs => rw [← List.take_append_drop i lists, List.drop_eq_getElem_cons hlt]
    rw [items_append, ← List.singleton_append, items_append, items_singleton]
  have hnext : items (lists.take (i + 1)) = items (lists.take i) ++ (lists[i]).getD [] := by
    rw [List.take_add_one, List.getElem?_eq_getElem hlt, Option.toList_some, items_append,
      items_singleton]
  have hslice : (((items lists).map value).take (items (lists.take (i + 1))).length).drop
      (items (lists.take i)).length = ((lists[i]).getD []).map value := by
    have hfront : (items lists).map value = (items (lists.take (i + 1))).map value ++
        (items (lists.drop (i + 1))).map value := by
      rw [hsplit, hnext, ← List.append_assoc, List.map_append]
    rw [hfront, List.take_left' (List.length_map _), hnext, List.map_append,
      List.drop_left' (List.length_map _)]
  simp only [listRows, List.getElem_map, List.getElem_zip, List.getElem_tail, offsets,
    List.getElem_range]
  rw [hslice]
  cases lists[i] <;> rfl

end Lists

/-! ### Columns of values -/

/-- **What a builder holds once it has been given values**: their rows are these
values. All offsets must fit (`fits`). -/
structure ColumnOf (α : Type) where
  shape : Shape
  build : List α → Builder
  value : α → Value
  fits : List α → Prop
  make : makeBuilder shape = build []
  shape_build : ∀ xs, (build xs).shape = shape
  len_build : ∀ xs, (build xs).len = xs.length
  even_build : ∀ xs, (build xs).even = true
  rows_build : ∀ xs, (build xs).rows = xs.map value
  fits_append : ∀ xs ys, fits (xs ++ ys) → fits xs

theorem textBytes_append (values others : List String) :
    textBytes (values ++ others) = textBytes values + textBytes others := by
  rw [textBytes, List.map_append, List.sum_append]
  rfl

namespace ColumnOf

variable {α β : Type}

/-- A column of texts. -/
def text : ColumnOf String where
  shape := .utf8
  build := .utf8
  value := .text
  fits values := textBytes values ≤ largestOffset
  make := rfl
  shape_build _ := rfl
  len_build _ := rfl
  even_build _ := rfl
  rows_build _ := rfl
  fits_append xs ys h := by
    rw [textBytes_append] at h
    omega

/-- A column of numbers. -/
def int : ColumnOf (SInt 32) where
  shape := .int32
  build := .int32
  value := .int
  fits _ := True
  make := rfl
  shape_build _ := rfl
  len_build _ := rfl
  even_build _ := rfl
  rows_build _ := rfl
  fits_append _ _ _ := trivial

/-- A column of parts of values. -/
def comap (c : ColumnOf β) (f : α → β) : ColumnOf α where
  shape := c.shape
  build xs := c.build (xs.map f)
  value x := c.value (f x)
  fits xs := c.fits (xs.map f)
  make := c.make
  shape_build _ := c.shape_build _
  len_build xs := by rw [c.len_build, List.length_map]
  even_build _ := c.even_build _
  rows_build xs := by
    rw [c.rows_build, List.map_map]
    rfl
  fits_append xs ys h := by
    rw [List.map_append] at h
    exact c.fits_append _ _ h

/-- Lists with items behind them that belong to no list yet. -/
def openList (c : ColumnOf α) (lists : List (Option (List α))) (pending : List α) : Builder :=
  .list (c.build (items lists ++ pending)) (offsets lists) (lists.map Option.isSome)

/-- A column of lists. -/
def list (c : ColumnOf α) : ColumnOf (Option (List α)) where
  shape := .list c.shape
  build lists := c.openList lists []
  value := listValue c.value
  fits lists := c.fits (items lists) ∧ (items lists).length ≤ largestOffset
  make := by
    rw [makeBuilder, c.make]
    rfl
  shape_build lists := by rw [openList, Builder.shape, c.shape_build]
  len_build lists := List.length_map _
  even_build lists := by rw [openList, Builder.even, c.even_build]
  rows_build lists := by
    rw [openList, List.append_nil, Builder.rows, c.rows_build]
    exact listRows_offsets c.value lists
  fits_append xs ys h := by
    rw [items_append, List.length_append] at h
    exact ⟨c.fits_append _ _ h.1, by omega⟩

theorem list_build (c : ColumnOf α) (lists : List (Option (List α))) :
    c.list.build lists = c.openList lists [] := rfl

/-! ### Structures -/

/-- A field of a structure: its name, whether it may be null, and its column. -/
structure FieldOf (α : Type) where
  name : String
  nullable : Bool
  column : ColumnOf α
  admits : nullable = true ∨ ∀ xs, (column.build xs).hasNull = false

theorem makeBuilders_fields (fields : List (FieldOf α)) :
    makeBuilders (fields.map fun f => f.column.shape) =
      fields.map fun f => f.column.build [] := by
  induction fields with
  | nil => rfl
  | cons f fields ih => rw [List.map_cons, List.map_cons, makeBuilders, f.column.make, ih]

theorem shapes_fields (fields : List (FieldOf α)) (xs : List α) :
    shapes (fields.map fun f => f.column.build xs) = fields.map fun f => f.column.shape := by
  induction fields with
  | nil => rfl
  | cons f fields ih => rw [List.map_cons, List.map_cons, shapes, f.column.shape_build, ih]

theorem evenFields_fields (fields : List (FieldOf α)) (xs : List α) :
    evenFields xs.length (fields.map fun f => (f.name, f.nullable))
      (fields.map fun f => f.column.build xs) = true := by
  induction fields with
  | nil => rfl
  | cons f fields ih =>
    have hnull : (f.nullable || !(f.column.build xs).hasNull) = true := by
      rcases f.admits with h | h
      · rw [h]
        rfl
      · rw [h xs]
        exact Bool.or_true _
    rw [List.map_cons, List.map_cons, evenFields, ih, f.column.len_build, f.column.even_build,
      hnull]
    simp

theorem columnRows_fields (fields : List (FieldOf α)) (xs : List α) :
    columnRows (fields.map fun f => f.column.build xs) =
      fields.map fun f => xs.map f.column.value := by
  induction fields with
  | nil => rfl
  | cons f fields ih => rw [List.map_cons, List.map_cons, columnRows, f.column.rows_build, ih]

/-- A column of structures. -/
def struct (fields : List (FieldOf α)) : ColumnOf α where
  shape := .struct (fields.map fun f => (f.name, f.nullable)) (fields.map fun f => f.column.shape)
  build xs := .struct (fields.map fun f => (f.name, f.nullable))
    (fields.map fun f => f.column.build xs) (xs.map fun _ => true)
  value x := .struct (fields.map fun f => f.column.value x)
  fits xs := ∀ f ∈ fields, f.column.fits xs
  make := by rw [makeBuilder, makeBuilders_fields, List.map_nil]
  shape_build xs := by rw [Builder.shape, shapes_fields]
  len_build xs := List.length_map _
  even_build xs := by rw [Builder.even, List.length_map, evenFields_fields]
  rows_build xs := by
    rw [Builder.rows, columnRows_fields]
    refine List.ext_getElem (by simp [structRows]) fun i hi hi' => ?_
    have hlt : i < xs.length := by simpa using hi'
    simp [structRows, Function.comp_def, hlt]
  fits_append xs ys h f hf := f.column.fits_append xs ys (h f hf)

/-! ### Closing a list -/

section Closing

variable {ε : Type} (c : ColumnOf α)

/-- **Closing a list** puts the items into it that belong to none. -/
theorem appendList_open {lists : List (Option (List α))} {pending : List α}
    (h : (items lists ++ pending).length ≤ largestOffset) :
    (appendList true (c.openList lists pending) : Exec ε Builder) =
      .ok (c.openList (lists ++ [some pending]) []) := by
  have hitems : items (lists ++ [some pending]) = items lists ++ pending := by
    rw [items_append, items_singleton, Option.getD_some]
  rw [openList, appendList, c.len_build, if_pos h, openList, offsets_append_singleton, hitems,
    List.append_nil, List.map_append]
  rfl

/-- A null has no items. -/
theorem appendList_null {lists : List (Option (List α))}
    (h : (items lists).length ≤ largestOffset) :
    (appendList false (c.openList lists []) : Exec ε Builder) =
      .ok (c.openList (lists ++ [none]) []) := by
  have hitems : items (lists ++ [none]) = items lists := by
    rw [items_append, items_singleton, Option.getD_none, List.append_nil]
  rw [openList, List.append_nil, appendList, c.len_build, if_pos h, openList,
    offsets_append_singleton, hitems, List.append_nil, List.map_append]
  rfl

/-- Appending an item behind a list that is not closed. -/
theorem onItem_open {lists : List (Option (List α))} {pending : List α} {x : α}
    {change : Builder → Exec ε Builder}
    (h : change (c.build (items lists ++ pending)) = .ok (c.build (items lists ++ pending ++ [x]))) :
    onItem change (c.openList lists pending) = .ok (c.openList lists (pending ++ [x])) := by
  rw [openList, onItem, h, ok_bind, openList, List.append_assoc]
  rfl

/-- **Appending items** behind a list that is not closed, one after the other. -/
theorem foldlM_open {δ : Type} {lists : List (Option (List α))}
    {step : Builder → δ → Exec ε Builder} {f : δ → α}
    (hstep : ∀ pending d, c.fits (items lists ++ (pending ++ [f d])) →
      step (c.openList lists pending) d = .ok (c.openList lists (pending ++ [f d])))
    {ds : List δ} {pending : List α} (hfits : c.fits (items lists ++ (pending ++ ds.map f))) :
    ds.foldlM step (c.openList lists pending) = .ok (c.openList lists (pending ++ ds.map f)) := by
  induction ds generalizing pending with
  | nil => rw [List.map_nil, List.append_nil, List.foldlM_nil]; rfl
  | cons d ds ih =>
    have happend : pending ++ f d :: ds.map f = (pending ++ [f d]) ++ ds.map f := by simp
    rw [List.map_cons, happend] at hfits ⊢
    have hfirst : c.fits (items lists ++ (pending ++ [f d])) := by
      rw [← List.append_assoc] at hfits
      exact c.fits_append _ _ hfits
    rw [List.foldlM_cons, hstep pending d hfirst, ok_bind]
    exact ih hfits

end Closing

end ColumnOf

end Nested
