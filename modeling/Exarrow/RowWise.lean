import Exarrow.Arrow
import Exarrow.Foundations.Checked

/-!
# Columns that are made row by row

Where the cell of a column depends on nothing but its row, the column of many rows is the columns
of the single rows, one after the other. Of such a relation between rows, fields and columns
(`Exarrow.Arrow.RowWise`) the batches are considered that Arrow builds of it
(`Exarrow.Arrow.BatchOf`).

* `Exarrow.Arrow.columnsFor_append` – the columns of two lists of rows are put together.
* `Exarrow.Arrow.exists_batchOf_iff` – **there is a batch of some rows exactly when there is one
  of each of them**.
* `Exarrow.Arrow.Joined.concatBatches` – **the batches of pieces of the rows, put after each other,
  are the batch of all the rows**, however these are cut.
-/

namespace Exarrow.Arrow

open Checked

variable {ρ : Type}

/-! ### Columns -/

/-- A column is made row by row: of some fields none is made, and of the others each cell depends
on its row only. -/
def RowWise (R : List ρ → Field × ℕ → Column → Prop) : Prop :=
  ∀ field, (∀ rows c, ¬R rows field c) ∨ ∃ (t : DataType) (cell : ρ → Option t.Native → Prop),
    ∀ rows c, R rows field c ↔ ∃ cells, c = ⟨t, cells⟩ ∧ List.Forall₂ cell rows cells

/-- The column is one of the rows, and the field admits it. -/
def ColumnFor (R : List ρ → Field × ℕ → Column → Prop) (rows : List ρ) (field : Field × ℕ)
    (c : Column) : Prop :=
  R rows field c ∧ field.1.Admits c

/-- The batch that Arrow builds of the columns of some rows. -/
structure BatchOf (R : List ρ → Field × ℕ → Column → Prop) (schema : Schema) (rows : List ρ)
    (b : RecordBatch) : Prop where
  fields_ne : schema.fields ≠ []
  schema_eq : b.schema = schema
  numRows_eq : b.numRows = rows.length
  columns : List.Forall₂ (ColumnFor R rows) schema.fields.zipIdx b.columns

/-- The elements of two lists, one behind the other, are related to those of two lists. -/
theorem forall₂_append_left_iff {α β : Type} {R : α → β → Prop} {xs ys : List α} {zs : List β} :
    List.Forall₂ R (xs ++ ys) zs ↔
      ∃ as bs, List.Forall₂ R xs as ∧ List.Forall₂ R ys bs ∧ zs = as ++ bs := by
  induction xs generalizing zs with
  | nil =>
    constructor
    · intro h
      exact ⟨[], zs, .nil, h, rfl⟩
    · rintro ⟨as, bs, has, hbs, rfl⟩
      cases has
      exact hbs
  | cons x xs ih =>
    constructor
    · intro h
      obtain ⟨z, zs, hz, hzs, rfl⟩ := List.forall₂_cons_left_iff.mp h
      obtain ⟨as, bs, has, hbs, rfl⟩ := ih.mp hzs
      exact ⟨z :: as, bs, .cons hz has, hbs, rfl⟩
    · rintro ⟨as, bs, has, hbs, rfl⟩
      obtain ⟨z, zs, hz, hzs, rfl⟩ := List.forall₂_cons_left_iff.mp has
      exact .cons hz (ih.mpr ⟨zs, bs, hzs, hbs, rfl⟩)

/-- Relations that agree on the elements of two lists. -/
theorem forall₂_congr_mem {α β : Type} {R S : α → β → Prop} {xs : List α} {ys : List β}
    (h : ∀ x ∈ xs, ∀ y ∈ ys, (R x y ↔ S x y)) : List.Forall₂ R xs ys ↔ List.Forall₂ S xs ys := by
  induction xs generalizing ys with
  | nil => rw [List.forall₂_nil_left_iff, List.forall₂_nil_left_iff]
  | cons x xs ih =>
    cases ys with
    | nil => rw [List.forall₂_nil_right_iff, List.forall₂_nil_right_iff]
    | cons y ys =>
      rw [List.forall₂_cons, List.forall₂_cons, h x List.mem_cons_self y List.mem_cons_self,
        ih fun a ha b hb => h a (List.mem_cons_of_mem x ha) b (List.mem_cons_of_mem y hb)]

/-- Columns of one type are put after each other. -/
theorem append?_mk (t : DataType) (xs ys : List (Option t.Native)) :
    Column.append? ⟨t, xs⟩ ⟨t, ys⟩ = some ⟨t, xs ++ ys⟩ := by
  simp [Column.append?]

/-- A field admits a column exactly when it admits the parts of it. -/
theorem admits_append {f : Field} {t : DataType} {xs ys : List (Option t.Native)} :
    f.Admits ⟨t, xs ++ ys⟩ ↔ f.Admits ⟨t, xs⟩ ∧ f.Admits ⟨t, ys⟩ := by
  unfold Field.Admits
  dsimp only
  rw [List.mem_append]
  constructor
  · rintro ⟨ht, hnull⟩
    exact ⟨⟨ht, fun h hx => hnull h (.inl hx)⟩, ht, fun h hy => hnull h (.inr hy)⟩
  · rintro ⟨⟨ht, hx⟩, -, hy⟩
    exact ⟨ht, fun h hmem => hmem.elim (hx h) (hy h)⟩

section RowWise

variable {R : List ρ → Field × ℕ → Column → Prop} (hR : RowWise R)
include hR

/-- **A column of rows is put together** from the columns of the first rows and of the others. -/
theorem columnFor_append {xs ys : List ρ} {field : Field × ℕ} {c : Column} :
    ColumnFor R (xs ++ ys) field c ↔
      ∃ a b, ColumnFor R xs field a ∧ ColumnFor R ys field b ∧ a.append? b = some c := by
  unfold ColumnFor
  obtain hnone | ⟨t, cell, hcell⟩ := hR field
  · constructor
    · rintro ⟨h, -⟩
      exact absurd h (hnone _ _)
    · rintro ⟨a, b, ⟨h, -⟩, -⟩
      exact absurd h (hnone _ _)
  simp only [hcell]
  constructor
  · rintro ⟨⟨cells, rfl, hcells⟩, hadmits⟩
    obtain ⟨as, bs, has, hbs, rfl⟩ := forall₂_append_left_iff.mp hcells
    obtain ⟨ha, hb⟩ := admits_append.mp hadmits
    exact ⟨_, _, ⟨⟨as, rfl, has⟩, ha⟩, ⟨⟨bs, rfl, hbs⟩, hb⟩, append?_mk _ as bs⟩
  · rintro ⟨_, _, ⟨⟨as, rfl, has⟩, ha⟩, ⟨⟨bs, rfl, hbs⟩, hb⟩, hc⟩
    obtain rfl := Option.some.inj ((append?_mk _ as bs).symm.trans hc)
    exact ⟨⟨as ++ bs, rfl, forall₂_append_left_iff.mpr ⟨as, bs, has, hbs, rfl⟩⟩,
      admits_append.mpr ⟨ha, hb⟩⟩

/-- The columns of rows are put together from those of the first rows and of the others. -/
theorem columnsFor_append {xs ys : List ρ} {fields : List (Field × ℕ)} {cs : List Column} :
    List.Forall₂ (ColumnFor R (xs ++ ys)) fields cs ↔
      ∃ as bs, List.Forall₂ (ColumnFor R xs) fields as ∧ List.Forall₂ (ColumnFor R ys) fields bs ∧
        (as.zip bs).mapM (fun (a, b) => a.append? b) = some cs := by
  induction fields generalizing cs with
  | nil =>
    constructor
    · intro h
      cases h
      exact ⟨[], [], .nil, .nil, rfl⟩
    · rintro ⟨as, bs, has, hbs, hcs⟩
      cases has
      cases hbs
      cases hcs
      exact .nil
  | cons field fields ih =>
    constructor
    · intro h
      obtain ⟨c, cs, hc, hcs, rfl⟩ := List.forall₂_cons_left_iff.mp h
      obtain ⟨a, b, ha, hb, hab⟩ := (columnFor_append hR).mp hc
      obtain ⟨as, bs, has, hbs, hall⟩ := ih.mp hcs
      refine ⟨a :: as, b :: bs, .cons ha has, .cons hb hbs, ?_⟩
      rw [List.zip_cons_cons, List.mapM_cons]
      dsimp only
      rw [hab, hall]
      rfl
    · rintro ⟨_, _, has, hbs, hall⟩
      obtain ⟨a, as, ha, hfirst, rfl⟩ := List.forall₂_cons_left_iff.mp has
      obtain ⟨b, bs, hb, hlast, rfl⟩ := List.forall₂_cons_left_iff.mp hbs
      rw [List.zip_cons_cons, List.mapM_cons] at hall
      obtain ⟨c, hab, hrest⟩ := Option.bind_eq_some_iff.mp hall
      obtain ⟨cs, hmore, hcs⟩ := Option.bind_eq_some_iff.mp hrest
      cases hcs
      exact .cons ((columnFor_append hR).mpr ⟨a, b, ha, hb, hab⟩)
        (ih.mpr ⟨as, bs, hfirst, hlast, hmore⟩)

/-- A column of two lists of rows is there exactly when the columns of both are. -/
theorem exists_columnFor_append {xs ys : List ρ} {field : Field × ℕ} :
    (∃ c, ColumnFor R (xs ++ ys) field c) ↔
      (∃ a, ColumnFor R xs field a) ∧ ∃ b, ColumnFor R ys field b := by
  constructor
  · rintro ⟨c, hc⟩
    obtain ⟨a, b, ha, hb, -⟩ := (columnFor_append hR).mp hc
    exact ⟨⟨a, ha⟩, b, hb⟩
  · rintro ⟨⟨⟨ta, as⟩, ha⟩, ⟨tb, bs⟩, hb⟩
    obtain rfl : ta = tb := ha.2.1.trans hb.2.1.symm
    exact ⟨_, (columnFor_append hR).mpr ⟨_, _, ha, hb, append?_mk ta as bs⟩⟩

/-- A column has one cell for each row. -/
theorem length_of_rowWise {rows : List ρ} {field : Field × ℕ} {c : Column} (h : R rows field c) :
    c.length = rows.length := by
  obtain hnone | ⟨t, cell, hcell⟩ := hR field
  · exact absurd h (hnone _ _)
  · obtain ⟨cells, rfl, hcells⟩ := (hcell rows c).mp h
    exact hcells.length_eq.symm

/-- A row that has a column together with others has one alone. -/
theorem rowWise_single {rows : List ρ} {field : Field × ℕ} {c : Column} (h : R rows field c)
    {row : ρ} (hrow : row ∈ rows) : ∃ c', R [row] field c' := by
  obtain hnone | ⟨t, cell, hcell⟩ := hR field
  · exact absurd h (hnone _ _)
  obtain ⟨cells, -, hcells⟩ := (hcell rows c).mp h
  obtain ⟨a, ha⟩ : ∃ a, cell row a := by
    obtain ⟨i, hi, rfl⟩ := List.getElem_of_mem hrow
    exact ⟨_, (List.forall₂_iff_get.mp hcells).2 i hi (hcells.length_eq ▸ hi)⟩
  exact ⟨_, (hcell _ _).mpr ⟨[a], rfl, .cons ha .nil⟩⟩

/-! ### Batches -/

/-- There is a batch of rows exactly when every field has a column of them. -/
theorem exists_batchOf {schema : Schema} {rows : List ρ} :
    (∃ b, BatchOf R schema rows b) ↔
      schema.fields ≠ [] ∧ ∀ field ∈ schema.fields.zipIdx, ∃ c, ColumnFor R rows field c := by
  constructor
  · rintro ⟨b, hne, -, -, hall⟩
    refine ⟨hne, fun field hfield => ?_⟩
    obtain ⟨i, hi, rfl⟩ := List.getElem_of_mem hfield
    exact ⟨_, (List.forall₂_iff_get.mp hall).2 i hi (hall.length_eq ▸ hi)⟩
  · rintro ⟨hne, hall⟩
    have hcolumns : ∃ cs, List.Forall₂ (ColumnFor R rows) schema.fields.zipIdx cs := by
      generalize schema.fields.zipIdx = fields at hall
      induction fields with
      | nil => exact ⟨[], .nil⟩
      | cons field fields ih =>
        obtain ⟨c, hc⟩ := hall field List.mem_cons_self
        obtain ⟨cs, hcs⟩ := ih fun p hp => hall p (List.mem_cons_of_mem field hp)
        exact ⟨c :: cs, .cons hc hcs⟩
    obtain ⟨cs, hcs⟩ := hcolumns
    have hadmits : List.Forall₂ Field.Admits schema.fields cs := by
      have hfst : List.Forall₂ Field.Admits (schema.fields.zipIdx.map Prod.fst) cs :=
        List.forall₂_map_left_iff.mpr (hcs.imp fun _ _ h => h.2)
      rwa [List.zipIdx_map_fst] at hfst
    have hlengths : ∀ c ∈ cs, c.length = rows.length := by
      intro c hc
      obtain ⟨i, hi, rfl⟩ := List.getElem_of_mem hc
      exact length_of_rowWise hR ((List.forall₂_iff_get.mp hcs).2 i (hcs.length_eq ▸ hi) hi).1
    exact ⟨⟨schema, cs, rows.length, hadmits, hlengths⟩, hne, rfl, rfl, hcs⟩

/-- **There is a batch of rows exactly when there is one of each of them**, alone. -/
theorem exists_batchOf_iff {schema : Schema} {rows : List ρ} (hrows : rows ≠ []) :
    (∃ b, BatchOf R schema rows b) ↔ ∀ row ∈ rows, ∃ b, BatchOf R schema [row] b := by
  have hcolumn (field : Field × ℕ) : (∃ c, ColumnFor R rows field c) ↔
      ∀ row ∈ rows, ∃ c, ColumnFor R [row] field c := by
    induction rows with
    | nil => exact absurd rfl hrows
    | cons row rows ih =>
      have happend := @exists_columnFor_append _ _ hR [row] rows field
      rw [List.singleton_append] at happend
      rw [happend, List.forall_mem_cons]
      by_cases hnil : rows = []
      · subst hnil
        refine ⟨fun h => ⟨h.1, fun _ hmem => absurd hmem List.not_mem_nil⟩, fun h => ⟨h.1, ?_⟩⟩
        -- Where there is a column of one row, there is one of none.
        have hsplit := @exists_columnFor_append _ _ hR [row] [] field
        rw [List.append_nil] at hsplit
        exact (hsplit.mp h.1).2
      · rw [ih hnil]
  simp only [exists_batchOf hR]
  constructor
  · rintro ⟨hne, hall⟩ row hrow
    exact ⟨hne, fun field hfield => (hcolumn field).mp (hall field hfield) row hrow⟩
  · intro h
    obtain ⟨row, hrow⟩ := List.exists_mem_of_ne_nil rows hrows
    exact ⟨(h row hrow).1, fun field hfield => (hcolumn field).mpr fun row hrow =>
      (h row hrow).2 field hfield⟩

end RowWise

/-- **The batch that Arrow builds of arrays**: there is a field, and every field admits its array.
The arrays are the columns of a list of rows. -/
theorem tryNew_of_arrays {ε : Type} {R : List ρ → Field × ℕ → Column → Prop} (hR : RowWise R)
    {g : Field × ℕ → Exec ε Column} {rows : List ρ} {schema : Schema}
    (hg : ∀ p c, g p = .ok c ↔ R rows p c) {err : ArrowError → ε} {b : RecordBatch} :
    (schema.fields.zipIdx.mapM g >>= fun arrays =>
        mapError err (ofExcept (RecordBatch.tryNew schema arrays))) = .ok b ↔
      BatchOf R schema rows b := by
  have hadmits {columns : List Column} : List.Forall₂ Field.Admits schema.fields columns ↔
      List.Forall₂ (fun (p : Field × ℕ) c => p.1.Admits c) schema.fields.zipIdx columns := by
    rw [← List.forall₂_map_left_iff (f := Prod.fst), List.zipIdx_map_fst]
  rw [bind_eq_ok]
  constructor
  · rintro ⟨arrays, harrays, hb⟩
    obtain ⟨hschema, hcolumns, hrows⟩ :=
      RecordBatch.tryNewWithOptions_eq_ok (ofExcept_eq_ok.mp (mapError_eq_ok.mp hb))
    have hfields := b.admits
    rw [hschema, hadmits, hcolumns] at hfields
    have hmade := mapM_eq_ok.mp harrays
    cases arrays with
    | nil => cases hrows
    | cons first arrays =>
      obtain ⟨p, -, hfirst, -, -⟩ := List.forall₂_cons_right_iff.mp hmade
      refine ⟨?_, hschema, ?_, ?_⟩
      · intro hnil
        rw [hnil] at hmade
        cases hmade
      · exact (Option.some.inj hrows).symm.trans (length_of_rowWise hR ((hg p first).mp hfirst))
      · rw [hcolumns]
        exact List.forall₂_iff_get.mpr ⟨hmade.length_eq, fun i hi hi' =>
          ⟨(hg _ _).mp ((List.forall₂_iff_get.mp hmade).2 i hi hi'),
            (List.forall₂_iff_get.mp hfields).2 i hi hi'⟩⟩
  · rintro ⟨hne, hschema, hrows, hall⟩
    have hmade : List.Forall₂ (fun p c => g p = .ok c) schema.fields.zipIdx b.columns :=
      hall.imp fun p c h => (hg p c).mpr h.1
    have hfields : List.Forall₂ Field.Admits schema.fields b.columns :=
      hadmits.mpr (hall.imp fun _ _ h => h.2)
    have hlengths : ∀ c ∈ b.columns, c.length = rows.length := fun c hc => hrows ▸ b.lengths c hc
    have hcount : rowCount? none b.columns = some rows.length := by
      obtain ⟨f, fs, hf⟩ := List.exists_cons_of_ne_nil hne
      rw [hf] at hfields
      obtain ⟨c, cs, -, -, hcs⟩ := List.forall₂_cons_left_iff.mp hfields
      have hc : c.length = rows.length := hlengths c (hcs ▸ List.mem_cons_self)
      rw [hcs, ← hc]
      rfl
    refine ⟨b.columns, mapM_eq_ok.mpr hmade, mapError_eq_ok.mpr (ofExcept_eq_ok.mpr ?_)⟩
    refine (RecordBatch.tryNewWithOptions_ok hfields hcount hlengths).trans (congrArg Except.ok ?_)
    exact RecordBatch.ext hschema.symm rfl hrows.symm

/-! ### Batches put after each other -/

/-- Nothing is added by empty columns. -/
theorem append_empty (columns : List Column) :
    (columns.zip (columns.map fun c => Column.empty c.dataType)).mapM
      (fun (c, d) => c.append? d) = some columns := by
  induction columns with
  | nil => rfl
  | cons c columns ih =>
    have hc : c.append? (Column.empty c.dataType) = some c :=
      (append?_mk c.dataType c.cells []).trans (by rw [List.append_nil])
    rw [List.map_cons, List.zip_cons_cons, List.mapM_cons]
    dsimp only
    rw [hc, ih]
    rfl

/-- Columns of the same types are put after each other. -/
theorem exists_append_columns {as bs : List Column}
    (h : as.map Column.dataType = bs.map Column.dataType) :
    ∃ cs, (as.zip bs).mapM (fun (a, b) => a.append? b) = some cs := by
  induction as generalizing bs with
  | nil => exact ⟨[], rfl⟩
  | cons a as ih =>
    cases bs with
    | nil => exact ⟨[], rfl⟩
    | cons b bs =>
      obtain ⟨t, xs⟩ := a
      obtain ⟨u, ys⟩ := b
      rw [List.map_cons, List.map_cons, List.cons.injEq] at h
      obtain rfl : t = u := h.1
      obtain ⟨cs, hcs⟩ := ih h.2
      refine ⟨⟨t, xs ++ ys⟩ :: cs, ?_⟩
      rw [List.zip_cons_cons, List.mapM_cons]
      dsimp only
      rw [append?_mk, hcs]
      rfl

/-- The columns of rows have the types of their fields. -/
theorem types_of_columnsFor {R : List ρ → Field × ℕ → Column → Prop} {rows : List ρ}
    {fields : List (Field × ℕ)} {cs : List Column} (h : List.Forall₂ (ColumnFor R rows) fields cs) :
    cs.map Column.dataType = fields.map fun field => field.1.dataType := by
  induction h with
  | nil => rfl
  | cons hc _ ih => rw [List.map_cons, List.map_cons, ih, hc.2.1]

/-- One batch, put after nothing. -/
theorem concatColumns_single (b : RecordBatch) :
    concatColumns b.schema.types [b] = some b.columns := by
  have htypes := b.types_columns
  have hlen : b.schema.types.length ≤ b.columns.length := by rw [← htypes, List.length_map]
  have hmap : b.columns.map (fun c => Column.empty c.dataType) =
      b.schema.types.map Column.empty := by
    rw [← htypes, List.map_map]
    rfl
  have hempty := append_empty b.columns
  rw [hmap] at hempty
  simp only [concatColumns, Option.bind_eq_bind, Option.bind_some, if_pos hlen]
  exact hempty

/-- The batch without rows, put after nothing. -/
theorem concatBatches_newEmpty (schema : Schema) :
    ∃ whole, concatBatches schema [RecordBatch.newEmpty schema] = .ok whole := by
  have hadmits := (RecordBatch.newEmpty schema).admits
  have hlengths := (RecordBatch.newEmpty schema).lengths
  unfold concatBatches
  by_cases hnil : schema.fields = []
  · rw [if_pos hnil]
    exact ⟨_, RecordBatch.tryNewWithOptions_ok (hnil ▸ .nil) rfl fun c hc =>
      absurd hc List.not_mem_nil⟩
  · have hsingle : concatColumns schema.types [RecordBatch.newEmpty schema] =
        some (RecordBatch.newEmpty schema).columns :=
      concatColumns_single (RecordBatch.newEmpty schema)
    have hcount : rowCount? none (RecordBatch.newEmpty schema).columns = some 0 := by
      obtain ⟨f, fs, hf⟩ := List.exists_cons_of_ne_nil hnil
      unfold RecordBatch.newEmpty Schema.types
      dsimp only
      rw [hf]
      rfl
    rw [if_neg hnil, hsingle]
    exact ⟨_, RecordBatch.tryNewWithOptions_ok hadmits hcount hlengths⟩

/-- **Batches of the pieces of a list of rows**, none of which is empty. -/
inductive Joined (R : List ρ → Field × ℕ → Column → Prop) (schema : Schema) :
    List ρ → List RecordBatch → Prop
  | nil : Joined R schema [] []
  | cons {xs ys : List ρ} {b : RecordBatch} {batches : List RecordBatch} (hne : xs ≠ [])
    (hb : BatchOf R schema xs b) (hrest : Joined R schema ys batches) :
    Joined R schema (xs ++ ys) (b :: batches)

namespace Joined

variable {R : List ρ → Field × ℕ → Column → Prop} {schema : Schema} {rows : List ρ}
  {batches : List RecordBatch}

/-- Of no rows there are no batches. -/
theorem eq_nil (h : Joined R schema rows batches) (hrows : rows = []) : batches = [] := by
  cases h with
  | nil => rfl
  | cons hne => exact absurd (List.append_eq_nil_iff.mp hrows).1 hne

/-- The batches have the types of the schema. -/
theorem types (h : Joined R schema rows batches) :
    ∀ b ∈ batches, b.columns.map Column.dataType = schema.types := by
  induction h with
  | nil => exact fun b hb => absurd hb List.not_mem_nil
  | cons _ hb _ ih =>
    intro c hc
    obtain rfl | hc := List.mem_cons.mp hc
    · rw [c.types_columns, hb.schema_eq]
    · exact ih c hc

/-- There is a batch of each row. -/
theorem single (hR : RowWise R) (h : Joined R schema rows batches) :
    ∀ row ∈ rows, ∃ b, BatchOf R schema [row] b := by
  induction h with
  | nil => exact fun row hrow => absurd hrow List.not_mem_nil
  | cons hne hb _ ih =>
    intro row hrow
    obtain hrow | hrow := List.mem_append.mp hrow
    · exact (exists_batchOf_iff hR hne).mp ⟨_, hb⟩ row hrow
    · exact ih row hrow

/-- **The batches put after each other** have the columns of all the rows. -/
theorem concatColumns (hR : RowWise R) (h : Joined R schema rows batches) (hne : rows ≠ []) :
    ∃ cs, Arrow.concatColumns schema.types batches = some cs ∧
      List.Forall₂ (ColumnFor R rows) schema.fields.zipIdx cs := by
  induction h with
  | nil => exact absurd rfl hne
  | @cons xs ys b batches _ hb hrest ih =>
    obtain ⟨-, hschema, -, hcolumns⟩ := hb
    by_cases hys : ys = []
    · obtain rfl := hrest.eq_nil hys
      refine ⟨b.columns, hschema ▸ concatColumns_single b, ?_⟩
      rwa [hys, List.append_nil]
    · obtain ⟨cs, hcs, hof⟩ := ih hys
      have hlen : schema.types.length ≤ b.columns.length := by
        rw [← hschema, ← b.types_columns, List.length_map]
      obtain ⟨all, hall⟩ := exists_append_columns
        ((types_of_columnsFor hcolumns).trans (types_of_columnsFor hof).symm)
      refine ⟨all, ?_, (columnsFor_append hR).mpr ⟨b.columns, cs, hcolumns, hof, hall⟩⟩
      rw [Arrow.concatColumns, hcs]
      simp only [Option.bind_eq_bind, Option.bind_some, if_pos hlen]
      exact hall

/-- **The batches put after each other are the batch of all the rows**, if no two columns are
those of the same rows. -/
theorem concatBatches (hR : RowWise R)
    (hunique : ∀ field c c', R rows field c → R rows field c' → c = c')
    (h : Joined R schema rows batches) (hne : rows ≠ []) {whole : RecordBatch}
    (hwhole : BatchOf R schema rows whole) : Arrow.concatBatches schema batches = .ok whole := by
  obtain ⟨cs, hcs, hof⟩ := h.concatColumns hR hne
  obtain ⟨hfields, hschema, hrows, hcolumns⟩ := hwhole
  have heq : cs = whole.columns := by
    refine List.ext_getElem (hof.length_eq.symm.trans hcolumns.length_eq) fun i hi hi' => ?_
    have hlt : i < schema.fields.zipIdx.length := hof.length_eq ▸ hi
    exact hunique _ _ _ ((List.forall₂_iff_get.mp hof).2 i hlt hi).1
      ((List.forall₂_iff_get.mp hcolumns).2 i hlt hi').1
  have hadmits : List.Forall₂ Field.Admits schema.fields whole.columns := hschema ▸ whole.admits
  have hcount : rowCount? none whole.columns = some whole.numRows := by
    obtain ⟨f, fs, hf⟩ := List.exists_cons_of_ne_nil hfields
    rw [hf] at hadmits
    obtain ⟨c, cs', -, -, hc⟩ := List.forall₂_cons_left_iff.mp hadmits
    rw [← whole.lengths c (hc ▸ List.mem_cons_self), hc]
    rfl
  unfold Arrow.concatBatches
  rw [if_neg hfields, hcs, heq]
  refine (RecordBatch.tryNewWithOptions_ok hadmits hcount whole.lengths).trans ?_
  exact congrArg Except.ok (RecordBatch.ext hschema.symm rfl rfl)

end Joined

end Exarrow.Arrow
