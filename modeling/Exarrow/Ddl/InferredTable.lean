import Exarrow.Ddl.Tokens
import Exarrow.Inference

/-!
# Tables for inferred schemas

The statement that creates a table for a schema that has been inferred from files
(`Exarrow.InferredTableSchema.toDdl`). The names of its columns have been written in one of two
modes: in quotes, or made into identifiers that need none. What a server takes for such an
identifier is a parameter (`Exarrow.Ddl.Grammar`): the characters it may begin with, and the words
that are reserved.

**The statement defines the columns** (`Exarrow.Ddl.Defines`), each once and each with an identifier
of its own, **exactly if no two names become the same identifier and each becomes one**
(`Exarrow.Ddl.defines_iff`). Names in quotes always do.
-/

namespace Exarrow

open Lexing Query

/-- The definition of an inferred column. -/
def InferredColumn.definition (column : InferredColumn) : List Char :=
  "    ".toList ++ column.ddlName.toList ++ ' ' :: column.exasolType.toDdlType

/-- **The statement that creates a table for an inferred schema.** -/
def InferredTableSchema.toDdl {Path : Type} (schema : InferredTableSchema Path)
    (tableName : List Char) (schemaName : Option (List Char)) : List Char :=
  "CREATE TABLE ".toList ++ qualifiedName schemaName tableName ++ " (\n".toList ++
    ",\n".toList.intercalate (schema.columns.map InferredColumn.definition) ++ "\n);".toList

namespace Ddl

/-! ### What is meant -/

/-- Which words a server takes for identifiers. -/
structure Grammar where
  /-- The characters that an identifier may begin with. -/
  begins : Char → Bool
  /-- The words that are no identifiers. -/
  reserved : List Char → Bool
  /-- A number is no identifier. -/
  not_digit : ∀ a, a.isDigit = true → begins a = false

/-- An identifier that needs no quotes. -/
structure IsRegular (g : Grammar) (text : List Char) : Prop where
  begins : ∃ a s, text = a :: s ∧ g.begins a = true
  word : ∀ a ∈ text, isWordChar a = true
  free : g.reserved text = false

/-- A token is an identifier for a name: the name itself in quotes, or a regular
identifier. -/
def Identifies (g : Grammar) (mode : ColumnNameMode) (name : String) : Token → Prop
  | .quoted text => mode = .quoted ∧ text = name.toList
  | .word text => mode = .sanitize ∧ IsRegular g text
  | _ => False

/-- What a token identifies: without quotes, case does not matter. -/
def identifier : Token → List Char
  | .word text => text.map Char.toUpper
  | .quoted text => text
  | _ => []

/-- The tokens of a statement with the given identifiers. -/
def inferredTokens (tableName : List Char) (schemaName : Option (List Char)) (ids : List Token)
    (columns : List InferredColumn) : List Token :=
  [keyword "CREATE", keyword "TABLE"] ++ (qualifiedTokens schemaName tableName ++ .symbol '(' ::
    ([Token.symbol ','].intercalate
      (ids.zipWith (fun id column => id :: typeTokens column.exasolType) columns) ++
        [.symbol ')', .symbol ';']))

/-- **The statement defines the columns**: one definition for each, in order,
with identifiers that are valid and pairwise distinct. -/
def Defines {Path : Type} (g : Grammar) (mode : ColumnNameMode)
    (schema : InferredTableSchema Path) : Prop :=
  ∃ ids, List.Forall₂ (fun column id => Identifies g mode column.originalName id)
      schema.columns ids ∧
    (ids.map identifier).Nodup ∧
    ∀ tableName schemaName, IsName tableName → (∀ s ∈ schemaName, IsName s) →
      lex (schema.toDdl tableName schemaName) =
        some (inferredTokens tableName schemaName ids schema.columns)

/-! ### Names that become identifiers -/

/-- The character that stands for a character. -/
def fold (a : Char) : Char := if a.isAlphanum then a.toUpper else '_'

/-- A name, behind an underscore if it is empty or begins with a digit. -/
def padded (name : List Char) : List Char :=
  if name.head?.all Char.isDigit then '_' :: name else name

/-- Two names that agree character by character, up to case and to what is no
letter and no digit. -/
def Alike (s t : List Char) : Prop :=
  List.Forall₂ (fun a b => fold a = fold b) (padded s) (padded t)

/-- A name whose first character may begin an identifier, and which is not
reserved. -/
def Sanitizable (g : Grammar) (name : List Char) : Prop :=
  (∀ a ∈ (padded name).head?, g.begins (fold a) = true) ∧
    g.reserved ((padded name).map fold) = false

/-- **No two names become the same identifier, and each becomes one.** Names in
quotes do as they are. -/
def Distinguished (g : Grammar) (mode : ColumnNameMode) (names : List String) : Prop :=
  mode = .sanitize → names.Pairwise (fun s t => ¬Alike s.toList t.toList) ∧
    ∀ name ∈ names, Sanitizable g name.toList

/-! ### Characters that stand for characters -/

theorem toNat_lt_of_isAlphanum {a : Char} (h : a.isAlphanum = true) : a.toNat < 128 := by
  have hle {b : Char} (hb : a.val ≤ b.val) (hlt : b.toNat < 128) : a.toNat < 128 :=
    Nat.lt_of_le_of_lt (UInt32.le_iff_toNat_le.mp hb) hlt
  rcases Bool.or_eq_true_iff.mp h with h | h
  · rcases Bool.or_eq_true_iff.mp h with h | h
    · have hupper : a.val ≥ 'A'.val ∧ a.val ≤ 'Z'.val := of_decide_eq_true h
      exact hle hupper.2 (by decide)
    · have hlower : a.val ≤ 'z'.val := of_decide_eq_true (Bool.and_eq_true_iff.mp h).2
      exact hle hlower (by decide)
  · have hdigit : a.val ≤ '9'.val := of_decide_eq_true (Bool.and_eq_true_iff.mp h).2
    exact hle hdigit (by decide)

theorem isAlphanum_of_isDigit {a : Char} (h : a.isDigit = true) : a.isAlphanum = true :=
  Bool.or_eq_true_iff.mpr (.inr h)

/-- What folding does on ASCII. -/
theorem fold_ascii : ∀ n < 128, isWordChar (fold (Char.ofNat n)) = true ∧
    fold (fold (Char.ofNat n)) = fold (Char.ofNat n) ∧
    (fold (Char.ofNat n)).isDigit = (Char.ofNat n).isDigit ∧
    (fold (Char.ofNat n)).toUpper = fold (Char.ofNat n) := by decide +kernel

/-- **What folding does**: it gives characters of words, in upper case, and
keeps digits. -/
theorem fold_spec (a : Char) : isWordChar (fold a) = true ∧ fold (fold a) = fold a ∧
    (fold a).isDigit = a.isDigit ∧ (fold a).toUpper = fold a := by
  by_cases h : a.isAlphanum = true
  · have hascii := fold_ascii a.toNat (toNat_lt_of_isAlphanum h)
    rwa [Char.ofNat_toNat] at hascii
  · have hfold : fold a = '_' := if_neg h
    have hdigit : a.isDigit = false :=
      Bool.eq_false_iff.mpr fun hdigit => h (isAlphanum_of_isDigit hdigit)
    rw [hfold, hdigit]
    decide

/-- **A name is made into an identifier** character by character, behind an
underscore where that is needed. -/
theorem sanitizeColumnName_eq (name : String) :
    sanitizeColumnName name = String.ofList ((padded name.toList).map fold) := by
  have hchar (a : Char) : (if a.isAlphanum || a = '_' then a.toUpper else '_') = fold a := by
    by_cases hunderscore : a = '_'
    · rw [hunderscore]
      decide
    · by_cases h : a.isAlphanum = true
      · rw [fold, if_pos h, if_pos (by rw [h]; rfl)]
      · rw [fold, if_neg h, if_neg (by simp [h, hunderscore])]
  unfold sanitizeColumnName padded
  simp only [hchar]
  cases name.toList with
  | nil => rfl
  | cons a s =>
    have hunderscore : fold '_' = '_' := by decide
    rw [List.head?_cons, Option.all_some, List.map_cons]
    dsimp only
    rw [(fold_spec a).2.2.1]
    split_ifs
    · rw [List.map_cons, hunderscore, List.map_cons]
    · rw [List.map_cons]

/-- A padded name begins with no digit. -/
theorem exists_padded (name : List Char) :
    ∃ a s, padded name = a :: s ∧ a.isDigit = false := by
  unfold padded
  split_ifs with h
  · exact ⟨'_', name, rfl, by decide⟩
  · cases name with
    | nil => exact absurd rfl h
    | cons a s => exact ⟨a, s, rfl, Bool.eq_false_iff.mpr h⟩

theorem padded_of_head {a : Char} {s : List Char} (h : a.isDigit = false) :
    padded (a :: s) = a :: s := by
  refine if_neg ?_
  rw [List.head?_cons, Option.all_some, h]
  exact Bool.false_ne_true

/-- **An identifier stays as it is.** -/
theorem sanitizeColumnName_idem (name : String) :
    sanitizeColumnName (sanitizeColumnName name) = sanitizeColumnName name := by
  obtain ⟨a, s, hname, ha⟩ := exists_padded name.toList
  have hdigit : (fold a).isDigit = false := (fold_spec a).2.2.1.trans ha
  rw [sanitizeColumnName_eq (sanitizeColumnName name), sanitizeColumnName_eq name,
    String.toList_ofList, hname, List.map_cons, padded_of_head hdigit, List.map_cons, List.map_map]
  have hfold : fold ∘ fold = fold := funext fun b => (fold_spec b).2.1
  rw [(fold_spec a).2.1, hfold]

/-- **Names become the same identifier** exactly if they are alike. -/
theorem alike_iff (s t : String) :
    Alike s.toList t.toList ↔ sanitizeColumnName s = sanitizeColumnName t := by
  have hmap (x y : List Char) :
      List.Forall₂ (fun a b => fold a = fold b) x y ↔ x.map fold = y.map fold := by
    rw [← List.forall₂_eq_eq_eq, List.forall₂_map_left_iff, List.forall₂_map_right_iff]
  rw [sanitizeColumnName_eq, sanitizeColumnName_eq, Alike, hmap]
  exact ⟨congrArg String.ofList, fun h => String.ofList_injective h⟩

/-! ### What the statement reads -/

/-- The columns are named in a mode. -/
def Named (mode : ColumnNameMode) (columns : List InferredColumn) : Prop :=
  ∀ column ∈ columns, column.ddlName = formatColumnName column.originalName mode

/-- The token of a name in a mode. -/
def nameToken (mode : ColumnNameMode) (name : String) : Token :=
  match mode with
  | .quoted => .quoted name.toList
  | .sanitize => .word (sanitizeColumnName name).toList

/-- The characters of an identifier belong to words, and the first is no digit. -/
theorem exists_sanitizeColumnName (name : String) :
    ∃ a s, (sanitizeColumnName name).toList = a :: s ∧ a.isDigit = false ∧
      ∀ b ∈ a :: s, isWordChar b = true := by
  obtain ⟨a, s, hname, ha⟩ := exists_padded name.toList
  refine ⟨fold a, s.map fold, ?_, (fold_spec a).2.2.1.trans ha, ?_⟩
  · rw [sanitizeColumnName_eq, String.toList_ofList, hname, List.map_cons]
  · rw [← List.map_cons]
    intro b hb
    obtain ⟨d, -, rfl⟩ := List.mem_map.mp hb
    exact (fold_spec d).1

/-- **A name is read back** in either mode. -/
theorem reads_formatColumnName (mode : ColumnNameMode) (name : String) :
    ∃ last, Reads (formatColumnName name mode).toList [nameToken mode name] last ∧
      EndsName last := by
  cases mode with
  | quoted =>
    have htext : (formatColumnName name .quoted).toList = quotedName name.toList :=
      String.toList_ofList
    rw [htext]
    exact reads_quoted name.toList
  | sanitize =>
    obtain ⟨a, s, htext, hdigit, hword⟩ := exists_sanitizeColumnName name
    refine ⟨.word (a :: s), ?_, endsName_word _⟩
    change Reads (sanitizeColumnName name).toList [.word (sanitizeColumnName name).toList] _
    rw [htext]
    exact reads_word hdigit hword

/-- **The definition of a column is read back.** -/
theorem reads_definition {mode : ColumnNameMode} {column : InferredColumn}
    (h : column.ddlName = formatColumnName column.originalName mode) :
    ∃ last, Reads column.definition
      (nameToken mode column.originalName :: typeTokens column.exasolType) last ∧
        EndsName last := by
  obtain ⟨m, hname, hm⟩ := reads_formatColumnName mode column.originalName
  obtain ⟨last, htype, hlast⟩ := reads_toDdlType column.exasolType
  have hindent : Reads "    ".toList [] .between := ⟨[], rfl, rfl⟩
  have hblank : Reads [' '] [] .between := ⟨[], rfl, rfl⟩
  have hne : (formatColumnName column.originalName mode).toList ≠ [] := by
    intro hnil
    obtain ⟨done, hrun, htokens⟩ := hname
    rw [hnil] at hrun
    cases hrun
    cases htokens
  refine ⟨last, ?_, hlast⟩
  rw [InferredColumn.definition, h]
  exact (hindent.append hname hne (parted_between _)).append
    (hblank.append htype (toDdlType_ne_nil _) (parted_between _)) (List.cons_ne_nil _ _)
    (hm.extend ' ' (by decide) (by decide))

/-- **The statement is read back.** -/
theorem lex_toDdl {Path : Type} {mode : ColumnNameMode} {schema : InferredTableSchema Path}
    (h : Named mode schema.columns) {tableName : List Char} {schemaName : Option (List Char)}
    (htable : IsName tableName) (hschema : ∀ s ∈ schemaName, IsName s) :
    lex (schema.toDdl tableName schemaName) = some (inferredTokens tableName schemaName
      (schema.columns.map fun column => nameToken mode column.originalName) schema.columns) := by
  obtain ⟨last, hname, hlast⟩ := clause_qualifiedName hschema htable
  have hcreate : run .between "CREATE TABLE ".toList =
      ([keyword "CREATE", keyword "TABLE"], .between) := by decide +kernel
  have hopen : run .between " (\n".toList = ([.symbol '('], .between) := by decide +kernel
  have hclose : run .between "\n);".toList = ([.symbol ')', .symbol ';'], .between) := by
    decide +kernel
  have hlist := @reads_list
    (schema.columns.map fun column => (column.definition,
      nameToken mode column.originalName :: typeTokens column.exasolType))
    ",\n".toList "\n);".toList _ hclose ⟨'\n', [')', ';'], by decide +kernel, by decide, by decide⟩
    (by decide +kernel) ⟨['\n'], by decide +kernel⟩ fun item hitem => by
      obtain ⟨column, hcolumn, rfl⟩ := List.mem_map.mp hitem
      exact reads_definition (h column hcolumn)
  rw [List.map_map, List.map_map] at hlist
  have hcolumns := Clause.after hopen ⟨_, hlist, closed_between⟩
  have hnames : Clause (qualifiedName schemaName tableName)
      (qualifiedTokens schemaName tableName) := ⟨last, hname, hlast.closed⟩
  have hall := Clause.after hcreate
    (hnames.append hcolumns (spaced_append (by decide +kernel) _))
  have hassoc (create name opening inner close : List Char) :
      create ++ name ++ opening ++ inner ++ close =
        create ++ (name ++ (opening ++ (inner ++ close))) := by simp
  unfold InferredTableSchema.toDdl
  rw [hassoc]
  refine hall.lex_eq.trans (congrArg some ?_)
  rw [inferredTokens, List.zipWith_map_left, List.zipWith_self]
  rfl

/-! ### Which schemas are defined -/

/-- The identifiers of a statement can be told from its tokens. -/
theorem ids_unique {columns : List InferredColumn} {ids ids' : List Token} {closing : List Token}
    (hlength : ids.length = columns.length) (hlength' : ids'.length = columns.length)
    (h : [Token.symbol ','].intercalate
        (ids.zipWith (fun id column => id :: typeTokens column.exasolType) columns) ++ closing =
      [Token.symbol ','].intercalate
        (ids'.zipWith (fun id column => id :: typeTokens column.exasolType) columns) ++ closing) :
    ids = ids' := by
  induction columns generalizing ids ids' with
  | nil => rw [List.length_eq_zero_iff.mp hlength, List.length_eq_zero_iff.mp hlength']
  | cons column columns ih =>
    obtain ⟨id, ids, rfl⟩ := List.exists_cons_of_length_eq_add_one hlength
    obtain ⟨id', ids', rfl⟩ := List.exists_cons_of_length_eq_add_one hlength'
    rw [List.length_cons, List.length_cons, Nat.add_right_cancel_iff] at hlength hlength'
    cases columns with
    | nil =>
      rw [List.length_eq_zero_iff.mp hlength, List.length_eq_zero_iff.mp hlength'] at h ⊢
      rw [(List.cons.inj h).1]
    | cons next columns =>
      obtain ⟨a, ids, rfl⟩ := List.exists_cons_of_length_eq_add_one hlength
      obtain ⟨b, ids', rfl⟩ := List.exists_cons_of_length_eq_add_one hlength'
      simp only [List.zipWith_cons_cons, List.intercalate_cons_cons, List.append_assoc,
        List.cons_append] at h
      obtain ⟨rfl, hrest⟩ := List.cons.inj h
      have htail := (List.cons.inj (List.append_cancel_left hrest)).2
      rw [ih hlength hlength' ?_]
      simpa only [List.zipWith_cons_cons, List.cons_append, List.append_assoc, List.nil_append]
        using htail

section Defined

variable {Path : Type} {g : Grammar} {mode : ColumnNameMode} {schema : InferredTableSchema Path}

/-- **The statement defines the columns** exactly if their identifiers are valid
and pairwise distinct. -/
theorem defines_iff_ids (h : Named mode schema.columns) : Defines g mode schema ↔
    (∀ column ∈ schema.columns,
      Identifies g mode column.originalName (nameToken mode column.originalName)) ∧
    (schema.columns.map fun column =>
      identifier (nameToken mode column.originalName)).Nodup := by
  have hids (P : InferredColumn → Token → Prop) :
      List.Forall₂ P schema.columns (schema.columns.map fun column =>
        nameToken mode column.originalName) ↔
      ∀ column ∈ schema.columns, P column (nameToken mode column.originalName) := by
    rw [List.forall₂_map_right_iff, List.forall₂_same]
  have hmap : (schema.columns.map fun column =>
      nameToken mode column.originalName).map identifier = schema.columns.map fun column =>
        identifier (nameToken mode column.originalName) := by
    rw [List.map_map]
    rfl
  constructor
  · rintro ⟨ids, hvalid, hnodup, hlex⟩
    -- the tokens of one statement tell the identifiers
    have htable : IsName ['T'] := .word 'T' [] (by decide)
      (List.forall_mem_singleton.mpr (by decide))
    have hread := hlex ['T'] none htable fun s hs => by cases hs
    rw [lex_toDdl h htable fun s hs => by cases hs] at hread
    have htokens := Option.some.inj hread
    rw [inferredTokens, inferredTokens] at htokens
    have hcolumns := (List.cons.inj (List.append_cancel_left
      (List.append_cancel_left htokens))).2
    have hsame := ids_unique (by rw [List.length_map]) hvalid.length_eq.symm hcolumns
    rw [← hsame] at hvalid hnodup
    exact ⟨(hids _).mp hvalid, hmap ▸ hnodup⟩
  · rintro ⟨hvalid, hnodup⟩
    exact ⟨_, (hids _).mpr hvalid, hmap.symm ▸ hnodup,
      fun tableName schemaName htable hschema => lex_toDdl h htable hschema⟩

/-- A name becomes a regular identifier exactly if it can be made into one. -/
theorem isRegular_iff (name : String) :
    IsRegular g (sanitizeColumnName name).toList ↔ Sanitizable g name.toList := by
  have htext : (sanitizeColumnName name).toList = (padded name.toList).map fold := by
    rw [sanitizeColumnName_eq, String.toList_ofList]
  obtain ⟨a, s, hname, -⟩ := exists_padded name.toList
  obtain ⟨b, t, hsame, -, hword⟩ := exists_sanitizeColumnName name
  rw [← hsame] at hword
  rw [htext] at hword ⊢
  unfold Sanitizable
  rw [hname] at hword ⊢
  constructor
  · rintro ⟨⟨c, r, hc, hbegins⟩, -, hfree⟩
    refine ⟨fun d hd => ?_, hfree⟩
    rw [List.map_cons] at hc
    cases hd
    rw [(List.cons.inj hc).1]
    exact hbegins
  · rintro ⟨hbegins, hfree⟩
    exact ⟨⟨fold a, s.map fold, rfl, hbegins a rfl⟩, hword, hfree⟩

/-- In upper case an identifier stays as it is. -/
theorem identifier_sanitizeColumnName (name : String) :
    identifier (.word (sanitizeColumnName name).toList) = (sanitizeColumnName name).toList := by
  rw [identifier, sanitizeColumnName_eq, String.toList_ofList, List.map_map]
  have hfold : Char.toUpper ∘ fold = fold := funext fun b => (fold_spec b).2.2.2
  rw [hfold]

/-- **The statement defines the columns exactly if their names are
distinguished**; and an identifier stays as it is. -/
theorem defines_iff (h : Named mode schema.columns)
    (hdistinct : (schema.columns.map InferredColumn.originalName).Nodup) :
    (Defines g mode schema ↔
      Distinguished g mode (schema.columns.map InferredColumn.originalName)) ∧
    ∀ name, sanitizeColumnName (sanitizeColumnName name) = sanitizeColumnName name := by
  refine ⟨(defines_iff_ids h).trans ?_, sanitizeColumnName_idem⟩
  cases mode with
  | quoted =>
    refine iff_of_true ⟨fun column _ => ⟨rfl, rfl⟩, ?_⟩ fun hmode => by cases hmode
    have hinjective : Function.Injective String.toList := fun _ _ => String.toList_inj.mp
    have hnodup := hdistinct.map hinjective
    rwa [List.map_map] at hnodup
  | sanitize =>
    have hvalid (name : String) :
        Identifies g .sanitize name (nameToken .sanitize name) ↔ Sanitizable g name.toList :=
      (and_iff_right rfl).trans (isRegular_iff name)
    have hpair : (schema.columns.map fun column =>
        identifier (nameToken .sanitize column.originalName)).Nodup ↔
        (schema.columns.map InferredColumn.originalName).Pairwise
          fun s t => ¬Alike s.toList t.toList := by
      rw [List.Nodup, List.pairwise_map, List.pairwise_map]
      refine List.Pairwise.iff fun {a b} => not_congr ?_
      rw [alike_iff, nameToken, nameToken, identifier_sanitizeColumnName,
        identifier_sanitizeColumnName, String.toList_inj]
    rw [hpair, and_comm]
    unfold Distinguished
    rw [List.forall_mem_map]
    exact ⟨fun hboth _ => ⟨hboth.1, fun column hcolumn => (hvalid _).mp (hboth.2 column hcolumn)⟩,
      fun hboth => ⟨(hboth rfl).1, fun column hcolumn =>
        (hvalid _).mpr ((hboth rfl).2 column hcolumn)⟩⟩

end Defined

/-! ### Inferred schemas are named in their mode -/

theorem named_mergeColumns {mode : ColumnNameMode} {columns : List InferredColumn}
    (h : Named mode columns) (fileColumns : List InferredColumn) :
    Named mode (mergeColumns columns fileColumns) := by
  intro column hcolumn
  obtain ⟨i, hi, rfl⟩ := List.mem_iff_getElem.mp hcolumn
  have hlt : i < columns.length := by
    rw [mergeColumns, List.length_zipWith] at hi
    exact lt_of_lt_of_le hi (min_le_left _ _)
  have hnamed := h columns[i] (List.getElem_mem hlt)
  simp only [mergeColumns, List.getElem_zipWith]
  exact hnamed

theorem named_of_mergedFrom {Path : Type} {mode : ColumnNameMode} {paths : List Path}
    {columnsOf : Path → Except ImportError (List InferredColumn)} {columns : List InferredColumn}
    (hof : ∀ path d, columnsOf path = .ok d → Named mode d)
    (h : MergedFrom columnsOf paths columns) : Named mode columns := by
  obtain ⟨first, rest, hfiles, -, rfl⟩ := h
  obtain ⟨path, paths, hfirst, -, rfl⟩ := List.forall₂_cons_right_iff.mp hfiles
  have hnamed := hof path first hfirst
  clear hfiles hfirst
  induction rest generalizing first with
  | nil => exact hnamed
  | cons d rest ih => exact ih _ (named_mergeColumns hnamed d)

theorem named_of_isFileSchema {mode : ColumnNameMode} {names : List String}
    {columns : List InferredColumn} (h : IsFileSchema mode names columns) : Named mode columns := by
  induction h with
  | nil => exact List.forall_mem_nil _
  | cons hcolumn _ ih =>
    exact List.forall_mem_cons.mpr ⟨by rw [hcolumn.originalName]; exact hcolumn.ddlName, ih⟩

section Inferred

variable {Path File : Type} {lib : SchemaReaders Path File} {paths : List Path}
  {schema : InferredTableSchema Path}

/-- **The columns of CSV files are named in the mode of the options.** -/
theorem named_inferSchemaFromCsvFiles {options : CsvInferenceOptions}
    (h : inferSchemaFromCsvFiles lib options paths = .ok schema) :
    Named options.columnNameMode schema.columns :=
  named_of_mergedFrom (fun _ _ hd => named_of_isFileSchema (isFileSchema_csvFileColumns hd))
    (inferSchemaFromCsvFiles_eq_ok.mp h).1

/-- **The columns of Parquet files are named in the mode.** -/
theorem named_inferSchemaFromParquetFiles {mode : ColumnNameMode}
    (h : inferSchemaFromParquetFiles lib mode paths = .ok schema) : Named mode schema.columns :=
  named_of_mergedFrom (fun _ _ hd => named_of_isFileSchema (isFileSchema_parquetFileColumns hd))
    (inferSchemaFromParquetFiles_eq_ok.mp h).1

end Inferred

/-! ### Two columns -/

/-- Identifiers begin with letters, and one word is reserved. -/
def letterGrammar : Grammar where
  begins := fun a => 'A' ≤ a && a ≤ 'Z'
  reserved := fun text => text = "SELECT".toList
  not_digit := by
    intro a ha
    have hdigit : a.val ≤ '9'.val := of_decide_eq_true (Bool.and_eq_true_iff.mp ha).2
    refine Bool.and_eq_false_iff.mpr (.inl (decide_eq_false fun hle => ?_))
    exact absurd (UInt32.le_trans hle hdigit) (by decide)

/-- A column of truth values, named for a file in a mode. -/
def sourceColumn (mode : ColumnNameMode) (name : String) : InferredColumn where
  originalName := name
  ddlName := formatColumnName name mode
  exasolType := .boolean
  nullable := true

/-- Two columns of truth values. -/
def twoColumns (first second : String) : InferredTableSchema Unit where
  columns := [sourceColumn .sanitize first, sourceColumn .sanitize second]
  sourceFiles := []

theorem named_twoColumns (first second : String) :
    Named .sanitize (twoColumns first second).columns := by
  refine List.forall_mem_cons.mpr ⟨rfl, List.forall_mem_singleton.mpr rfl⟩

theorem nodup_names {first second : String} (h : first ≠ second) :
    ((twoColumns first second).columns.map InferredColumn.originalName).Nodup :=
  List.nodup_cons.mpr ⟨fun hmem => h (List.mem_singleton.mp hmem), List.nodup_singleton _⟩

/-- Two names that are told apart. -/
theorem defines_iff_apart :
    (Defines letterGrammar .sanitize (twoColumns "id" "name") ↔
      Distinguished letterGrammar .sanitize
        ((twoColumns "id" "name").columns.map InferredColumn.originalName)) ∧
    ∀ name, sanitizeColumnName (sanitizeColumnName name) = sanitizeColumnName name :=
  defines_iff (named_twoColumns _ _) (nodup_names (by decide))

/-- **Two names become the same identifier**, and the table has one column
twice. A reserved word stays one. -/
theorem alike_names_collide :
    (twoColumns "a b" "a_b").toDdl ['T'] none =
      "CREATE TABLE T (\n    A_B BOOLEAN,\n    A_B BOOLEAN\n);".toList ∧
    ¬Defines letterGrammar .sanitize (twoColumns "a b" "a_b") ∧
    ¬Defines letterGrammar .sanitize (twoColumns "id" "select") := by
  refine ⟨by decide +kernel, fun h => ?_, fun h => ?_⟩
  · have hnodup := ((defines_iff_ids (named_twoColumns _ _)).mp h).2
    exact (List.nodup_cons.mp hnodup).1 (List.mem_singleton.mpr (by decide +kernel))
  · have hvalid := ((defines_iff_ids (named_twoColumns _ _)).mp h).1
      (sourceColumn .sanitize "select") (List.mem_cons_of_mem _ (List.mem_singleton_self _))
    exact absurd hvalid.2.free (by decide +kernel)

end Ddl

end Exarrow
