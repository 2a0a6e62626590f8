import Exarrow.Query.Placeholders

/-!
# Literals in their places

The tokens of a template are those of its pieces, with a question mark between any two
(`Exarrow.Query.lexAt_template`), and a literal has the tokens of its value
(`Exarrow.Query.reads_toSqlLiteral`). But a literal is put in place whatever stands before and behind
it. **The statement has the tokens of the pieces and of the literals exactly if no literal, and no
piece, begins with a character that goes on with the token before**
(`Exarrow.Query.buildSql_splits_iff`).
-/

namespace Exarrow.Query

open Lexing Numeral Machine

/-! ### Segments -/

/-- Pieces with fillings between them end outside of quotes and comments, if the pieces and the
fillings do. -/
theorem isOpen_of_mem_segments {rest fillings : List (List Char)}
    (hrest : ∀ piece ∈ rest.dropLast, isOpen (run .between piece).2 = true)
    (hfillings : ∀ filling ∈ fillings, isOpen (run .between filling).2 = true)
    (hlength : fillings.length + 1 = rest.length) :
    ∀ segment ∈ (segments rest fillings).dropLast, isOpen (run .between segment).2 = true := by
  induction rest generalizing fillings with
  | nil => cases hlength
  | cons piece rest ih =>
    cases rest with
    | nil =>
      cases fillings with
      | nil => exact nofun
      | cons filling fillings => cases hlength
    | cons next rest =>
      cases fillings with
      | nil => cases hlength
      | cons filling fillings =>
        have hnext := ih (fun p hp => hrest p (List.mem_cons_of_mem _ hp))
          (fun f hf => hfillings f (List.mem_cons_of_mem _ hf)) (Nat.succ.inj hlength)
        have hne : segments (next :: rest) fillings ≠ [] := by
          cases rest with
          | nil => exact List.cons_ne_nil _ _
          | cons third rest =>
            cases fillings with
            | nil => cases Nat.succ.inj hlength
            | cons f fillings => exact List.cons_ne_nil _ _
        obtain ⟨first, others, hfirst⟩ := List.exists_cons_of_ne_nil hne
        rw [hfirst] at hnext
        intro segment hsegment
        change segment ∈ (piece :: filling :: segments (next :: rest) fillings).dropLast at hsegment
        rw [hfirst] at hsegment
        rcases List.mem_cons.mp hsegment with rfl | hsegment
        · exact hrest _ List.mem_cons_self
        · rcases List.mem_cons.mp hsegment with rfl | hsegment
          · exact hfillings _ List.mem_cons_self
          · exact hnext segment hsegment

theorem clean_between_cons (segment : List Char) (rest : List (List Char)) :
    Clean .between (segment :: rest) ↔ Clean (run .between segment).2 rest := by
  cases segment with
  | nil => exact Iff.rfl
  | cons c s => exact ⟨fun h => h.2, fun h => ⟨rfl, h⟩⟩

/-- **The template's own tokens** are those of its pieces, with a question mark between any two. -/
theorem lexAt_template (sql : List Char) :
    lexAt 0 .between sql = apart 0 (segments (pieces .normal false sql)
      (List.replicate ((pieces .normal false sql).length - 1) ['?'])) := by
  obtain ⟨piece, rest, hs⟩ := List.exists_cons_of_ne_nil (pieces_ne_nil .normal false sql)
  obtain ⟨hpiece, hrest⟩ := isOpen_of_mem_pieces (agrees_between sql) hs
  have htext := intercalate_pieces .normal false sql
  have hopen : ∀ p ∈ (piece :: rest).dropLast, isOpen (run .between p).2 = true := by
    intro p hp
    cases rest with
    | nil => cases hp
    | cons next rest =>
      rcases List.mem_cons.mp hp with rfl | hp
      · exact hpiece (List.cons_ne_nil _ _)
      · exact hrest p hp
  rw [hs] at htext ⊢
  clear hs hpiece hrest
  have hmark {m : Mode} (hm : isOpen m = true) : extend m '?' = none := by
    cases m with
    | lineComment => cases hm
    | blockComment => cases hm
    | blockStar => cases hm
    | string => cases hm
    | quoted => cases hm
    | _ => simp [extend, isWordChar, Char.isAlphanum, Char.isAlpha, Char.isUpper, Char.isLower,
        Char.isDigit]
  have hflatten (rest : List (List Char)) (piece : List Char) :
      (segments (piece :: rest) (List.replicate rest.length ['?'])).flatten =
        ['?'].intercalate (piece :: rest) := by
    induction rest generalizing piece with
    | nil => simp [segments]
    | cons next rest ih =>
      rw [List.intercalate_cons_cons, ← ih next, List.length_cons, List.replicate_succ]
      simp [segments]
  have hclean (rest : List (List Char)) (piece : List Char)
      (h : ∀ p ∈ (piece :: rest).dropLast, isOpen (run .between p).2 = true) :
      Clean .between (segments (piece :: rest) (List.replicate rest.length ['?'])) := by
    induction rest generalizing piece with
    | nil => exact (clean_between_cons piece []).mpr trivial
    | cons next rest ih =>
      rw [List.length_cons, List.replicate_succ]
      refine (clean_between_cons piece _).mpr ⟨hmark (h piece List.mem_cons_self), ?_⟩
      exact ih next fun p hp => h p (List.mem_cons_of_mem _ hp)
  have hfilling : ∀ filling ∈ List.replicate rest.length ['?'],
      isOpen (run .between filling).2 = true := by
    intro filling hfilling
    rw [List.eq_of_mem_replicate hfilling]
    rfl
  have hsegments := isOpen_of_mem_segments hopen hfilling (by
    rw [List.length_replicate, List.length_cons])
  have hlex := (lexAt_flatten_iff hsegments 0 fun _ => rfl).mpr (hclean rest piece hopen)
  rw [hflatten, htext] at hlex
  exact hlex

/-! ### Literals -/

/-- The tokens of a number. -/
def numberTokens : List Char → List Token
  | '-' :: text => [.symbol '-', .number text]
  | text => [.number text]

/-- **The tokens of a value.** -/
def valueTokens : Parameter → List Token
  | .null => [.word "NULL".toList]
  | .boolean b => [.word (if b then "TRUE".toList else "FALSE".toList)]
  | .integer i => numberTokens (intText i.val)
  | .float f => numberTokens (Ieee.F64.display f)
  | .string s => [.string s.toList]
  | .binary b => [.string (hexEncode b)]

/-- A text of digits with an optional point in it. -/
def IsMagnitude (text : List Char) : Prop :=
  ∃ c rest, text = c :: rest ∧ c.isDigit = true ∧ ∀ d ∈ rest, d.isDigit = true ∨ d = '.'

/-- **A number, with or without a sign, is read back.** -/
theorem reads_numberText {text : List Char} (h : IsMagnitude text) (negative : Bool) :
    ∃ last, Reads ((if negative then ['-'] else []) ++ text)
      (numberTokens ((if negative then ['-'] else []) ++ text)) last ∧ isOpen last = true := by
  obtain ⟨c, rest, rfl, hc, hrest⟩ := h
  have hne : c ≠ '-' := by
    rintro rfl
    cases hc
  have hchars : ∀ d ∈ rest, isWordChar d = true ∨ d = '.' := by
    intro d hd
    refine (hrest d hd).imp_left fun hdigit => ?_
    unfold isWordChar Char.isAlphanum
    rw [hdigit]
    simp
  have hreads := reads_number hc hchars
  refine ⟨.number (c :: rest), ?_, rfl⟩
  cases negative with
  | false =>
    have htokens : numberTokens (c :: rest) = [.number (c :: rest)] := by
      unfold numberTokens
      split
      · rename_i heq
        exact absurd (List.cons.inj heq).1 hne
      · rfl
    change Reads (c :: rest) (numberTokens (c :: rest)) _
    rw [htokens]
    exact hreads
  | true =>
    obtain ⟨done, hrun, hdone⟩ := hreads
    have hextend : extend .minus c = none := by simp [extend, hne]
    refine ⟨.symbol '-' :: done, ?_, congrArg (Token.symbol '-' :: ·) hdone⟩
    change run .between ('-' :: c :: rest) = _
    rw [run_cons]
    change ((run .minus (c :: rest)).1, (run .minus (c :: rest)).2) = _
    rw [run_of_extend_eq_none hextend, hrun]
    rfl

theorem isMagnitude_natText (n : ℕ) : IsMagnitude (natText n) := by
  obtain ⟨c, rest, htext⟩ := List.exists_cons_of_ne_nil (natText_ne_nil n)
  have hdigits := allDigits_natText n
  rw [htext] at hdigits
  exact ⟨c, rest, htext, hdigits c List.mem_cons_self, fun d hd =>
    .inl (hdigits d (List.mem_cons_of_mem _ hd))⟩

theorem isMagnitude_displayMagnitude (d : ℕ) (t : ℤ) :
    IsMagnitude (Ieee.F64.displayMagnitude d t) := by
  unfold Ieee.F64.displayMagnitude
  split
  · exact isMagnitude_natText _
  · obtain ⟨c, rest, htext, hc, hrest⟩ := isMagnitude_natText (d / 10 ^ (-t).toNat)
    refine ⟨c, rest ++ '.' :: pad (-t).toNat (natText (d % 10 ^ (-t).toNat)), ?_, hc, ?_⟩
    · rw [htext]
      rfl
    · intro e he
      rcases List.mem_append.mp he with he | he
      · exact hrest e he
      · rcases List.mem_cons.mp he with rfl | he
        · exact .inr rfl
        · exact .inl (allDigits_padded _ _ e he)

/-- **A literal is read back as its value.** -/
theorem reads_toSqlLiteral {value : Parameter} {literal : List Char}
    (h : value.toSqlLiteral = .ok literal) :
    ∃ last, Reads literal (valueTokens value) last ∧ isOpen last = true := by
  cases value with
  | null =>
    cases h
    exact ⟨.word "NULL".toList, ⟨[], by decide +kernel, rfl⟩, rfl⟩
  | boolean b =>
    cases h
    cases b with
    | true => exact ⟨.word "TRUE".toList, ⟨[], by decide +kernel, rfl⟩, rfl⟩
    | false => exact ⟨.word "FALSE".toList, ⟨[], by decide +kernel, rfl⟩, rfl⟩
  | integer i =>
    cases h
    have hreads := reads_numberText (isMagnitude_natText i.val.natAbs) (decide (i.val < 0))
    have htext : (if decide (i.val < 0) = true then ['-'] else []) ++ natText i.val.natAbs =
        intText i.val := by
      unfold intText
      by_cases hneg : i.val < 0 <;> simp [hneg]
    rw [htext] at hreads
    exact hreads
  | float f =>
    unfold Parameter.toSqlLiteral at h
    dsimp only at h
    split at h
    · cases h
    · rename_i hspecial
      cases h
      have hnan : f.isNan = false := by
        rw [Bool.eq_false_iff]
        intro hnan
        unfold Ieee.Pattern.isNan at hnan
        exact hspecial (Bool.and_eq_true_iff.mp hnan).1
      change ∃ last, Reads (Ieee.F64.display f) (numberTokens (Ieee.F64.display f)) last ∧ _
      unfold Ieee.F64.display
      rw [hnan, if_neg Bool.false_ne_true, if_neg hspecial]
      split
      · have hzero := reads_numberText ⟨'0', [], rfl, rfl, nofun⟩ f.neg
        cases hneg : f.neg with
        | true =>
          rw [hneg] at hzero
          exact hzero
        | false =>
          rw [hneg] at hzero
          exact hzero
      · exact reads_numberText (isMagnitude_displayMagnitude _ _) f.neg
  | string s =>
    unfold Parameter.toSqlLiteral at h
    dsimp only at h
    split at h
    · cases h
    · cases h
      exact ⟨_, reads_quote s.toList, rfl⟩
  | binary b =>
    cases h
    have hquote : '\'' ∉ hexEncode b := by
      unfold hexEncode
      intro hmem
      obtain ⟨x, -, hx⟩ := List.mem_flatMap.mp hmem
      have hdigit : ∀ n < 16, '\'' ≠ hexDigit n := by decide
      have hlt := x.toNat_lt
      rcases List.mem_cons.mp hx with hx | hx
      · exact hdigit _ (by omega) hx
      · exact hdigit _ (by omega) (List.mem_singleton.mp hx)
    have hreads := reads_quote (hexEncode b)
    unfold quote at hreads
    rw [double_of_not_mem hquote] at hreads
    exact ⟨_, hreads, rfl⟩

/-! ### The statement -/

/-- The values of the placeholders of a statement. -/
def boundValues (stmt : Statement) : List Parameter :=
  (stmt.parameters.take (scanPlaceholders stmt.sql.toList).length).reduceOption

/-- The literals of the values. -/
def renderedLiterals (stmt : Statement) : List (List Char) :=
  (boundValues stmt).map fun value => value.toSqlLiteral.toOption.getD []

/-- The pieces of a template and the literals between them. -/
def statementSegments (stmt : Statement) : List (List Char) :=
  segments (pieces .normal false stmt.sql.toList) (renderedLiterals stmt)

/-- **A statement splits into the tokens of its template and of its values**: what is sent has, at
each place, the tokens of the pieces and of the literals; the pieces have the template's own tokens,
and each literal has those of its value. -/
structure Splits (stmt : Statement) (result : String) : Prop where
  tokens : lexAt 0 .between result.toList = apart 0 (statementSegments stmt)
  template : lexAt 0 .between stmt.sql.toList =
    apart 0 (segments (pieces .normal false stmt.sql.toList)
      (List.replicate (scanPlaceholders stmt.sql.toList).length ['?']))
  values : List.Forall₂ (fun value literal => lex literal = some (valueTokens value))
    (boundValues stmt) (renderedLiterals stmt)

theorem length_scanPlaceholders (sql : List Char) :
    (scanPlaceholders sql).length + 1 = (pieces .normal false sql).length := by
  have hlength {rest : List (List Char)} (hrest : rest ≠ []) (i : ℕ) :
      (offsets i rest).length + 1 = rest.length := by
    induction rest generalizing i with
    | nil => exact absurd rfl hrest
    | cons piece rest ih =>
      cases rest with
      | nil => rfl
      | cons next rest => exact congrArg (· + 1) (ih (List.cons_ne_nil _ _) _)
  unfold scanPlaceholders
  rw [scanFrom_eq]
  exact hlength (pieces_ne_nil .normal false sql) 0

/-- The values and the literals of a statement that is built. -/
theorem Literals.eq_of_length {stmt : Statement} {values : List Parameter}
    {literals : List (List Char)} (h : Literals stmt.parameters 0 values literals)
    (hlength : values.length = (scanPlaceholders stmt.sql.toList).length) :
    boundValues stmt = values ∧ renderedLiterals stmt = literals := by
  have htake : stmt.parameters.take values.length = values.map some := by
    apply List.ext_getElem?
    intro j
    rw [List.getElem?_take, List.getElem?_map]
    split
    · rename_i hj
      have hvalue := h.bound j (values.get ⟨j, hj⟩) (List.getElem?_eq_getElem hj)
      rw [Nat.zero_add] at hvalue
      rw [hvalue, List.getElem?_eq_getElem hj]
      rfl
    · rename_i hj
      rw [List.getElem?_eq_none (Nat.not_lt.mp hj)]
      rfl
  have hvalues : boundValues stmt = values := by
    unfold boundValues
    rw [← hlength, htake]
    unfold List.reduceOption
    simp
  refine ⟨hvalues, ?_⟩
  unfold renderedLiterals
  rw [hvalues]
  have hrendered := h.rendered
  clear htake hvalues h hlength
  induction hrendered with
  | nil => rfl
  | cons hliteral _ ih =>
    rw [List.map_cons, hliteral, ih]
    rfl

/-- **A statement splits into the tokens of its template and of its values exactly if no literal,
and no piece behind one, begins with a character that goes on with the token before.** -/
theorem buildSql_splits_iff {stmt : Statement} {result : String} (h : stmt.buildSql = .ok result) :
    Splits stmt result ↔ Clean .between (statementSegments stmt) := by
  obtain ⟨values, literals, hlength, hliterals, hresult⟩ := exists_literals_of_buildSql h
  have hcount : values.length = (scanPlaceholders stmt.sql.toList).length :=
    Nat.succ.inj (hlength.trans (length_scanPlaceholders _).symm)
  obtain ⟨hvalues, hrendered⟩ := hliterals.eq_of_length hcount
  have htemplate := lexAt_template stmt.sql.toList
  rw [← length_scanPlaceholders, Nat.add_sub_cancel] at htemplate
  have hopen : ∀ piece ∈ (pieces .normal false stmt.sql.toList).dropLast,
      isOpen (run .between piece).2 = true := by
    obtain ⟨piece, rest, hs⟩ :=
      List.exists_cons_of_ne_nil (pieces_ne_nil .normal false stmt.sql.toList)
    obtain ⟨hpiece, hrest⟩ := isOpen_of_mem_pieces (agrees_between stmt.sql.toList) hs
    rw [hs]
    intro p hp
    cases rest with
    | nil => cases hp
    | cons next rest =>
      rcases List.mem_cons.mp hp with rfl | hp
      · exact hpiece (List.cons_ne_nil _ _)
      · exact hrest p hp
  have hliteral : ∀ literal ∈ literals, isOpen (run .between literal).2 = true := by
    intro literal hmem
    obtain ⟨j, hj, rfl⟩ := List.getElem_of_mem hmem
    have hvalue := hliterals.rendered.get (hliterals.rendered.length_eq ▸ hj) hj
    obtain ⟨last, ⟨done, hrun, -⟩, hlast⟩ := reads_toSqlLiteral hvalue
    change isOpen (run .between (literals.get ⟨j, hj⟩)).2 = true
    rw [hrun]
    exact hlast
  have hread : List.Forall₂ (fun value literal => lex literal = some (valueTokens value))
      values literals := by
    refine hliterals.rendered.imp fun value literal hvalue => ?_
    obtain ⟨last, hreads, hlast⟩ := reads_toSqlLiteral hvalue
    exact hreads.lex_eq (complete_of_isOpen hlast)
  have hsegments := isOpen_of_mem_segments hopen hliteral (by
    rw [← hliterals.rendered.length_eq, hlength])
  have hiff := lexAt_flatten_iff hsegments 0 (m := .between) fun _ => rfl
  unfold statementSegments
  rw [hrendered]
  refine Iff.trans ⟨fun hsplits => ?_, fun htokens => ?_⟩ hiff
  · have htokens := hsplits.tokens
    unfold statementSegments at htokens
    rw [hresult, hrendered] at htokens
    exact htokens
  · refine ⟨?_, htemplate, ?_⟩
    · unfold statementSegments
      rw [hresult, hrendered]
      exact htokens
    · rw [hvalues, hrendered]
      exact hread

/-- A statement whose placeholder stands behind a minus sign. -/
def minusStatement (value : Parameter) : Statement :=
  { sql := "SELECT 1-?", parameters := [some value] }

/-- Five below zero. -/
def minusFive : SInt 64 := ⟨-5, by norm_num, by norm_num⟩

theorem eq_ok_of_toOption {ε α : Type} {x : Except ε α} {a : α} (h : x.toOption = some a) :
    x = .ok a := by
  cases x with
  | error e => cases h
  | ok b =>
    cases h
    rfl

theorem pieces_minusStatement :
    pieces .normal false "SELECT 1-?".toList = ["SELECT 1-".toList, []] := by decide +kernel

theorem buildSql_splits_iff_minus :
    ∃ result, (minusStatement (.boolean true)).buildSql = .ok result ∧
      Splits (minusStatement (.boolean true)) result := by
  obtain ⟨result, hresult⟩ : ∃ result, (minusStatement (.boolean true)).buildSql = .ok result :=
    ⟨"SELECT 1-TRUE", eq_ok_of_toOption (by decide +kernel)⟩
  refine ⟨result, hresult, (buildSql_splits_iff hresult).mpr ?_⟩
  have hliterals : renderedLiterals (minusStatement (.boolean true)) = ["TRUE".toList] := by
    decide +kernel
  unfold statementSegments
  rw [hliterals]
  change Clean .between (segments (pieces .normal false "SELECT 1-?".toList) _)
  rw [pieces_minusStatement]
  refine (clean_between_cons _ _).mpr ?_
  have hrun : (run .between "SELECT 1-".toList).2 = .minus := by decide +kernel
  have htrue : "TRUE".toList = ['T', 'R', 'U', 'E'] := by decide +kernel
  rw [hrun, htrue]
  exact ⟨rfl, trivial⟩

/-- **A negative number behind a minus sign begins a comment.** -/
theorem buildSql_not_splits :
    ∃ result, (minusStatement (.integer minusFive)).buildSql = .ok result ∧
      ¬Splits (minusStatement (.integer minusFive)) result := by
  have hbuild : (minusStatement (.integer minusFive)).buildSql = .ok "SELECT 1--5" :=
    eq_ok_of_toOption (by decide +kernel)
  refine ⟨_, hbuild, fun h => ?_⟩
  have htokens := h.tokens
  have hliterals : renderedLiterals (minusStatement (.integer minusFive)) = ["-5".toList] := by
    decide +kernel
  unfold statementSegments at htokens
  rw [hliterals] at htokens
  change _ = apart 0 (segments (pieces .normal false "SELECT 1-?".toList) _) at htokens
  rw [pieces_minusStatement] at htokens
  revert htokens
  decide +kernel

end Exarrow.Query
