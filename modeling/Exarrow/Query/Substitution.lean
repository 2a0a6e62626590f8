import Exarrow.Query.Literals

/-!
# Where the values of a statement go

A question mark is a placeholder if the lexer, in front of it, is outside of quotes and comments
(`Exarrow.Query.IsPlaceholder`). **The scanner reports these places, in order**
(`Exarrow.Query.mem_scanPlaceholders_iff`, `Exarrow.Query.pairwise_scanPlaceholders`).

A statement is built by replacing one placeholder after the other, from the last to the first. What
comes out is what a single pass over the text writes that knows the literals beforehand
(`Exarrow.Query.replaced`): a literal never is scanned, and no other character changes
(`Exarrow.Query.placeholders_and_substitution`).
-/

namespace Exarrow.Query

open Lexing

/-! ### Places -/

/-- There is a question mark at the byte offset, and what is in front of it ends outside of quotes
and comments. -/
def IsPlaceholder (sql : List Char) (i : ℕ) : Prop :=
  ∃ front back, sql = front ++ '?' :: back ∧ Text.byteLen front = i ∧
    isOpen (run .between front).2 = true

/-- A question mark goes on with nothing, outside of quotes and comments. -/
theorem advance_mark {m : Mode} (hm : isOpen m = true) : (advance m '?').2 = .between := by
  have hmark : extend m '?' = none := by
    cases m with
    | lineComment | blockComment | blockStar | string | quoted => cases hm
    | _ => simp [extend, isWordChar, Char.isAlphanum, Char.isAlpha, Char.isUpper, Char.isLower,
        Char.isDigit]
  rw [advance_of_extend_eq_none hmark]
  rfl

theorem byteLen_cons (c : Char) (s : List Char) :
    Text.byteLen (c :: s) = c.utf8Size + Text.byteLen s := by
  unfold Text.byteLen
  rw [List.map_cons, List.sum_cons]

/-- The places from an offset on, the lexer being in the given mode. -/
def PlaceFrom (m : Mode) (i : ℕ) (s : List Char) (j : ℕ) : Prop :=
  ∃ front back, s = front ++ '?' :: back ∧ i + Text.byteLen front = j ∧
    isOpen (run m front).2 = true

/-- The first character is a place, or the others have it. -/
theorem placeFrom_cons {m : Mode} {i j : ℕ} {c : Char} {s : List Char} :
    PlaceFrom m i (c :: s) j ↔
      (c = '?' ∧ isOpen m = true ∧ i = j) ∨ PlaceFrom (advance m c).2 (i + c.utf8Size) s j := by
  constructor
  · rintro ⟨front, back, hs, hj, hopen⟩
    cases front with
    | nil =>
      obtain ⟨rfl, rfl⟩ := List.cons.inj hs
      exact .inl ⟨rfl, hopen, hj⟩
    | cons d front =>
      obtain ⟨rfl, rfl⟩ := List.cons.inj hs
      refine .inr ⟨front, back, rfl, ?_, hopen⟩
      rw [← hj, byteLen_cons, Nat.add_assoc]
  · rintro (⟨rfl, hopen, rfl⟩ | ⟨front, back, rfl, rfl, hopen⟩)
    · exact ⟨[], s, rfl, rfl, hopen⟩
    · refine ⟨c :: front, back, rfl, ?_, hopen⟩
      rw [byteLen_cons, Nat.add_assoc]

/-- **The scanner reports the places.** -/
theorem mem_scanFrom_iff {state : ScanState} {skip : Bool} {m : Mode} {s : List Char}
    (h : Agrees state skip m s) (i j : ℕ) : j ∈ scanFrom state skip i s ↔ PlaceFrom m i s j := by
  induction s generalizing state skip m i with
  | nil =>
    have hnil : scanFrom state skip i [] = [] := by cases skip <;> rfl
    rw [hnil]
    refine iff_of_false List.not_mem_nil ?_
    rintro ⟨front, back, hs, -⟩
    simp at hs
  | cons c s ih =>
    rw [placeFrom_cons]
    cases skip with
    | true =>
      -- The second character of a pair is no question mark.
      have hne : c ≠ '?' := by
        rintro rfl
        cases h
      rw [scanFrom, ih h.skip]
      exact ⟨.inr, fun h => h.resolve_left fun hc => hne hc.1⟩
    | false =>
      unfold scanFrom
      dsimp only
      by_cases hplaceholder : (scanStep state c (Text.bytes (c :: s.take 1))[1]?).isPlaceholder
      · obtain ⟨rfl, rfl, hstep⟩ := eq_of_isPlaceholder hplaceholder
        rw [if_pos hplaceholder, hstep]
        cases h with
        | normal hquiet =>
          rw [List.mem_cons, ih (agrees_between s), advance_mark hquiet.1]
          exact or_congr_left ⟨fun h => ⟨rfl, hquiet.1, h.symm⟩, fun h => h.2.2.symm⟩
      · rw [if_neg hplaceholder, ih (h.step (Bool.eq_false_iff.mpr hplaceholder))]
        refine ⟨.inr, fun h' => h'.resolve_left ?_⟩
        rintro ⟨rfl, hopen, -⟩
        cases h with
        | normal => exact hplaceholder rfl
        | line | block | star | single | double => cases hopen

/-- What is scanned from an offset on is not in front of it. -/
theorem le_of_mem_scanFrom {state : ScanState} {skip : Bool} {i j : ℕ} {s : List Char}
    (h : j ∈ scanFrom state skip i s) : i ≤ j := by
  induction s generalizing state skip i with
  | nil =>
    have hnil : scanFrom state skip i [] = [] := by cases skip <;> rfl
    rw [hnil] at h
    cases h
  | cons c s ih =>
    have hrest {state' : ScanState} {skip' : Bool}
        (h : j ∈ scanFrom state' skip' (i + c.utf8Size) s) : i ≤ j :=
      (Nat.le_add_right i _).trans (ih h)
    cases skip with
    | true =>
      unfold scanFrom at h
      exact hrest h
    | false =>
      unfold scanFrom at h
      dsimp only at h
      split at h
      · rcases List.mem_cons.mp h with rfl | h
        · exact le_rfl
        · exact hrest h
      · exact hrest h

/-- The places are reported in order. -/
theorem pairwise_scanFrom (state : ScanState) (skip : Bool) (i : ℕ) (s : List Char) :
    (scanFrom state skip i s).Pairwise (· < ·) := by
  induction s generalizing state skip i with
  | nil => cases skip <;> exact .nil
  | cons c s ih =>
    cases skip with
    | true =>
      unfold scanFrom
      exact ih ..
    | false =>
      unfold scanFrom
      dsimp only
      split
      · refine List.pairwise_cons.mpr ⟨fun j hj => ?_, ih ..⟩
        have hle := le_of_mem_scanFrom hj
        have hsize := c.utf8Size_pos
        omega
      · exact ih ..

/-- **A placeholder is what the lexer meets outside of quotes and comments.** -/
theorem mem_scanPlaceholders_iff (sql : List Char) (i : ℕ) :
    i ∈ scanPlaceholders sql ↔ IsPlaceholder sql i := by
  unfold scanPlaceholders IsPlaceholder
  rw [mem_scanFrom_iff (agrees_between sql)]
  unfold PlaceFrom
  simp only [Nat.zero_add]

/-- The placeholders are reported in order. -/
theorem pairwise_scanPlaceholders (sql : List Char) :
    (scanPlaceholders sql).Pairwise (· < ·) := pairwise_scanFrom ..

/-! ### Values -/

/-- The literal of the value that is bound at an index. -/
def literalAt (stmt : Statement) (index : ℕ) : Option (List Char) :=
  match stmt.parameters[index]? with
  | some (some value) => value.toSqlLiteral.toOption
  | _ => none

/-- What is put at a byte offset: the literal of the placeholder there. -/
def filling (stmt : Statement) (i : ℕ) : Option (List Char) :=
  ((scanPlaceholders stmt.sql.toList).zipIdx.lookup i).bind (literalAt stmt)

/-- A text whose characters are replaced at some byte offsets, in one pass. -/
def replaced (fill : ℕ → Option (List Char)) : ℕ → List Char → List Char
  | _, [] => []
  | i, c :: s => (fill i).getD [c] ++ replaced fill (i + c.utf8Size) s

theorem replaced_append (fill : ℕ → Option (List Char)) (i : ℕ) (s t : List Char) :
    replaced fill i (s ++ t) = replaced fill i s ++ replaced fill (i + Text.byteLen s) t := by
  induction s generalizing i with
  | nil => rfl
  | cons c s ih =>
    rw [List.cons_append, replaced, replaced, ih, List.append_assoc, byteLen_cons, Nat.add_assoc]

/-- A text without replacements stays as it is. -/
theorem replaced_of_eq_none {fill : ℕ → Option (List Char)} {i : ℕ} {s : List Char}
    (h : ∀ j, i ≤ j → j < i + Text.byteLen s → fill j = none) : replaced fill i s = s := by
  induction s generalizing i with
  | nil => rfl
  | cons c s ih =>
    have hsize := c.utf8Size_pos
    rw [byteLen_cons] at h
    rw [replaced, h i le_rfl (by omega), ih fun j h1 h2 => h j (by omega) (by omega)]
    rfl

/-- What is between the pieces is behind the first of them. -/
theorem le_of_mem_offsets {i j : ℕ} {piece : List Char} {rest : List (List Char)}
    (h : j ∈ offsets i (piece :: rest)) : i + Text.byteLen piece ≤ j := by
  induction rest generalizing i piece with
  | nil => cases h
  | cons next rest ih =>
    rcases List.mem_cons.mp h with rfl | h
    · exact le_rfl
    · have hle : i + Text.byteLen piece + 1 + Text.byteLen next ≤ j := ih h
      omega

theorem lookup_zip_eq_none {os : List ℕ} {literals : List (List Char)} {j : ℕ}
    (h : j ∉ os) : (os.zip literals).lookup j = none := by
  refine List.lookup_eq_none_iff.mpr fun p hp => ?_
  have hmem : p.1 ∈ os := (List.of_mem_zip hp).1
  rw [bne_iff_ne]
  rintro rfl
  exact h hmem

/-- **Literals between the pieces are written in one pass.** -/
theorem flatten_segments (fill : ℕ → Option (List Char)) {rest literals : List (List Char)} {i : ℕ}
    (hlength : literals.length + 1 = rest.length)
    (hfill : ∀ j, i ≤ j → fill j = ((offsets i rest).zip literals).lookup j) :
    (segments rest literals).flatten = replaced fill i (['?'].intercalate rest) := by
  induction rest generalizing literals i with
  | nil => cases hlength
  | cons piece rest ih =>
    have hpiece : replaced fill i piece = piece := by
      refine replaced_of_eq_none fun j h1 h2 => ?_
      rw [hfill j h1]
      exact lookup_zip_eq_none fun hmem => absurd (le_of_mem_offsets hmem) (by omega)
    cases rest with
    | nil =>
      rw [List.intercalate_singleton, hpiece]
      simp [segments]
    | cons next rest =>
      obtain ⟨literal, literals, rfl⟩ :=
        List.exists_cons_of_length_pos (l := literals) (by
          rw [List.length_cons, List.length_cons] at hlength
          omega)
      obtain ⟨o, ho⟩ : ∃ o, i + Text.byteLen piece = o := ⟨_, rfl⟩
      have hoffsets : offsets i (piece :: next :: rest) = o :: offsets (o + 1) (next :: rest) := by
        rw [← ho]
        rfl
      rw [hoffsets, List.zip_cons_cons] at hfill
      have hmark : fill o = some literal := by
        rw [hfill o (by omega)]
        exact List.lookup_cons_self
      have hlater (j : ℕ) (hj : o + 1 ≤ j) :
          fill j = ((offsets (o + 1) (next :: rest)).zip literals).lookup j := by
        have hne : (j == o) = false := by
          rw [beq_eq_false_iff_ne]
          omega
        rw [hfill j (by omega), List.lookup_cons, hne]
      have hrest := ih (Nat.succ.inj hlength) hlater
      rw [List.intercalate_cons_cons, replaced_append, replaced_append, hpiece, ho,
        byteLen_append, ← Nat.add_assoc, ho, List.append_assoc]
      change _ = piece ++ (_ ++ replaced fill (o + 1) _)
      rw [← hrest]
      change piece ++ (literal ++ _) = piece ++ ((fill o).getD ['?'] ++ [] ++ _)
      rw [hmark, List.append_nil]
      rfl

/-- Values by the index of their place, and by the place itself. -/
theorem lookup_zipIdx {os : List ℕ} {literals : List (List Char)} {f : ℕ → Option (List Char)}
    {k : ℕ} (hlength : os.length = literals.length)
    (hf : ∀ n literal, literals[n]? = some literal → f (k + n) = some literal) (j : ℕ) :
    ((os.zipIdx k).lookup j).bind f = (os.zip literals).lookup j := by
  induction os generalizing literals k with
  | nil => rfl
  | cons o os ih =>
    obtain ⟨literal, literals, rfl⟩ := List.exists_cons_of_length_eq_add_one hlength.symm
    rw [List.zipIdx_cons, List.zip_cons_cons, List.lookup_cons, List.lookup_cons]
    cases j == o with
    | true => exact hf 0 literal rfl
    | false =>
      refine ih (Nat.succ.inj hlength) fun n l hl => ?_
      rw [Nat.add_right_comm, Nat.add_assoc]
      exact hf (n + 1) l hl

/-! ### Success -/

/-- Replacing one placeholder after the other succeeds if each has a value with a
literal. -/
theorem substitute_ok {parameters : List (Option Parameter)} {todo : List (ℕ × ℕ)}
    (h : ∀ p ∈ todo, ∃ value literal, parameters[p.1]? = some (some value) ∧
      value.toSqlLiteral = .ok literal) (sql : List Char) :
    ∃ result, Statement.substitute todo parameters sql = .ok result := by
  induction todo generalizing sql with
  | nil => exact ⟨sql, rfl⟩
  | cons p todo ih =>
    obtain ⟨index, pos⟩ := p
    obtain ⟨⟨value, literal, hvalue, hliteral⟩, hrest⟩ := List.forall_mem_cons.mp h
    obtain ⟨result, hresult⟩ := ih hrest (Statement.replaceAt literal pos sql)
    refine ⟨result, ?_⟩
    unfold Statement.substitute
    rw [hvalue]
    dsimp only
    rw [hliteral]
    exact hresult

theorem literalAt_eq_some {stmt : Statement} {index : ℕ} {literal : List Char} :
    literalAt stmt index = some literal ↔ ∃ value, stmt.parameters[index]? = some (some value) ∧
      value.toSqlLiteral = .ok literal := by
  unfold literalAt
  split
  · rename_i value hvalue
    rw [hvalue]
    constructor
    · intro h
      exact ⟨value, rfl, eq_ok_of_toOption h⟩
    · rintro ⟨_, hv, hliteral⟩
      obtain rfl := Option.some.inj (Option.some.inj hv)
      rw [hliteral]
      rfl
  · rename_i hnone
    refine ⟨nofun, ?_⟩
    rintro ⟨value, hvalue, -⟩
    exact absurd hvalue (hnone value)

/-- **A statement is built exactly if every placeholder has a value with a literal.** -/
theorem buildSql_isOk_iff (stmt : Statement) : (∃ result, stmt.buildSql = .ok result) ↔
    ∀ index < (scanPlaceholders stmt.sql.toList).length,
      ∃ literal, literalAt stmt index = some literal := by
  constructor
  · rintro ⟨result, h⟩ index hindex
    obtain ⟨values, literals, hlength, hliterals, -⟩ := exists_literals_of_buildSql h
    have hcount : values.length = (scanPlaceholders stmt.sql.toList).length :=
      Nat.succ.inj (hlength.trans (length_scanPlaceholders _).symm)
    have hvalue := hliterals.bound index _ (List.getElem?_eq_getElem (hcount ▸ hindex))
    rw [Nat.zero_add] at hvalue
    have hi : index < literals.length := hliterals.rendered.length_eq ▸ hcount ▸ hindex
    exact ⟨literals[index], literalAt_eq_some.mpr
      ⟨_, hvalue, hliterals.rendered.get (hcount ▸ hindex) hi⟩⟩
  · intro h
    have hbound : ¬stmt.parameters.length < (scanPlaceholders stmt.sql.toList).length := by
      intro hlt
      obtain ⟨literal, hliteral⟩ := h _ hlt
      obtain ⟨value, hvalue, -⟩ := literalAt_eq_some.mp hliteral
      rw [List.getElem?_eq_none le_rfl] at hvalue
      cases hvalue
    obtain ⟨result, hresult⟩ := @substitute_ok stmt.parameters
      ((List.range (scanPlaceholders stmt.sql.toList).length).zip
        (scanPlaceholders stmt.sql.toList)).reverse (by
          intro p hp
          have hmem := (List.of_mem_zip (List.mem_reverse.mp hp)).1
          obtain ⟨literal, hliteral⟩ := h p.1 (List.mem_range.mp hmem)
          obtain ⟨value, hvalue, hok⟩ := literalAt_eq_some.mp hliteral
          exact ⟨value, literal, hvalue, hok⟩) stmt.sql.toList
    refine ⟨String.ofList result, ?_⟩
    unfold Statement.buildSql
    dsimp only
    rw [if_neg hbound, hresult]
    rfl

/-- **What is built is the text with the literals in one pass.** -/
theorem toList_of_buildSql {stmt : Statement} {result : String} (h : stmt.buildSql = .ok result) :
    result.toList = replaced (filling stmt) 0 stmt.sql.toList := by
  obtain ⟨values, literals, hlength, hliterals, hresult⟩ := exists_literals_of_buildSql h
  have hcount : literals.length + 1 = (pieces .normal false stmt.sql.toList).length :=
    hliterals.rendered.length_eq ▸ hlength
  have hplaces : scanPlaceholders stmt.sql.toList =
      offsets 0 (pieces .normal false stmt.sql.toList) := scanFrom_eq ..
  have hsize : (scanPlaceholders stmt.sql.toList).length = literals.length :=
    Nat.succ.inj ((length_scanPlaceholders _).trans hcount.symm)
  have hat (n : ℕ) (literal : List Char) (hn : literals[n]? = some literal) :
      literalAt stmt (0 + n) = some literal := by
    obtain ⟨hlt, rfl⟩ := List.getElem?_eq_some_iff.mp hn
    have hlt' : n < values.length := hliterals.rendered.length_eq ▸ hlt
    exact literalAt_eq_some.mpr ⟨values[n],
      hliterals.bound n _ (List.getElem?_eq_getElem hlt'), hliterals.rendered.get hlt' hlt⟩
  have hflatten := flatten_segments (filling stmt) (i := 0) hcount fun j _ => by
    unfold filling
    rw [lookup_zipIdx hsize hat, hplaces]
  rw [hresult, hflatten, intercalate_pieces]

/-- **Placeholders and what becomes of them**: the scanner reports, in order, the question marks
outside of quotes and comments; a statement is built exactly if each of them has a value with a
literal; and it is then the text with these literals at their places and nothing else changed. -/
theorem placeholders_and_substitution (stmt : Statement) :
    (scanPlaceholders stmt.sql.toList).Pairwise (· < ·) ∧
    (∀ i, i ∈ scanPlaceholders stmt.sql.toList ↔ IsPlaceholder stmt.sql.toList i) ∧
    ((∃ result, stmt.buildSql = .ok result) ↔
      ∀ index < (scanPlaceholders stmt.sql.toList).length,
        ∃ literal, literalAt stmt index = some literal) ∧
    ∀ result, stmt.buildSql = .ok result →
      result.toList = replaced (filling stmt) 0 stmt.sql.toList :=
  ⟨pairwise_scanPlaceholders _, mem_scanPlaceholders_iff _, buildSql_isOk_iff stmt,
    fun _ => toList_of_buildSql⟩

end Exarrow.Query
