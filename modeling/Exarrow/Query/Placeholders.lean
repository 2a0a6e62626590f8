import Exarrow.Statement
import Exarrow.Foundations.Segments

/-!
# The placeholders of a statement

The placeholders cut a template into pieces (`Exarrow.Query.pieces`), and **the statement that is
built has the literals of the parameters between them**
(`Exarrow.Query.exists_literals_of_buildSql`).

The scanner that finds the placeholders and the lexer for SQL text go through a template side by
side (`Exarrow.Query.Agrees`), the scanner one character ahead where two characters belong together.
So **each piece but the last ends outside of quotes and comments**
(`Exarrow.Query.isOpen_of_mem_pieces`).
-/

namespace Exarrow.Query

open Lexing

/-! ### Pieces -/

/-- A character in front of the first piece. -/
def consFirst (c : Char) : List (List Char) → List (List Char)
  | [] => [[c]]
  | piece :: pieces => (c :: piece) :: pieces

/-- The pieces of a text between its placeholders. -/
def pieces : ScanState → Bool → List Char → List (List Char)
  | _, _, [] => [[]]
  | state, true, c :: s => consFirst c (pieces state false s)
  | state, false, c :: s =>
    let step := scanStep state c (Text.bytes (c :: s.take 1))[1]?
    let rest := pieces step.state step.consumedPair s
    if step.isPlaceholder then [] :: rest else consFirst c rest

/-- Pieces with fillings between them. -/
def segments : List (List Char) → List (List Char) → List (List Char)
  | piece :: next :: pieces, filling :: fillings =>
    piece :: filling :: segments (next :: pieces) fillings
  | [piece], _ => [piece]
  | _, _ => []

/-- The byte offsets of what is between the pieces, if it is one byte long. -/
def offsets : ℕ → List (List Char) → List ℕ
  | i, piece :: next :: pieces =>
    (i + Text.byteLen piece) :: offsets (i + Text.byteLen piece + 1) (next :: pieces)
  | _, _ => []

theorem consFirst_ne_nil (c : Char) (rest : List (List Char)) : consFirst c rest ≠ [] := by
  cases rest <;> exact List.cons_ne_nil _ _

theorem pieces_ne_nil (state : ScanState) (skip : Bool) (s : List Char) :
    pieces state skip s ≠ [] := by
  cases s with
  | nil => exact List.cons_ne_nil _ _
  | cons c s =>
    cases skip with
    | true => exact consFirst_ne_nil c _
    | false =>
      unfold pieces
      dsimp only
      split
      · exact List.cons_ne_nil _ _
      · exact consFirst_ne_nil c _

/-- A placeholder is a question mark outside of quotes and comments. -/
theorem eq_of_isPlaceholder {state : ScanState} {c : Char} {next : Option UInt8}
    (h : (scanStep state c next).isPlaceholder = true) :
    state = .normal ∧ c = '?' ∧ scanStep state c next = { state := .normal, isPlaceholder := true } := by
  cases state with
  | normal =>
    unfold scanStep stepOutsideLiteral at h ⊢
    dsimp only at h ⊢
    split at h
    · rename_i hc
      exact ⟨rfl, hc, if_pos hc⟩
    · split at h
      · cases h
      · split at h
        · cases h
        · split at h
          · cases h
          · split at h <;> cases h
  | singleQuoted =>
    unfold scanStep stepInsideQuotes at h
    dsimp only at h
    split at h
    · cases h
    · split at h <;> cases h
  | doubleQuoted =>
    unfold scanStep stepInsideQuotes at h
    dsimp only at h
    split at h
    · cases h
    · split at h <;> cases h
  | lineComment =>
    unfold scanStep stepInsideLineComment at h
    dsimp only at h
    split at h <;> cases h
  | blockComment =>
    unfold scanStep stepInsideBlockComment at h
    dsimp only at h
    split at h <;> cases h

/-- The scan of the first character. -/
theorem pieces_cons (state : ScanState) (c : Char) (s : List Char) :
    ((scanStep state c (Text.bytes (c :: s.take 1))[1]?).isPlaceholder = true ∧
        state = .normal ∧ c = '?' ∧ pieces state false (c :: s) = [] :: pieces .normal false s) ∨
      ((scanStep state c (Text.bytes (c :: s.take 1))[1]?).isPlaceholder = false ∧
        pieces state false (c :: s) =
          consFirst c (pieces (scanStep state c (Text.bytes (c :: s.take 1))[1]?).state
            (scanStep state c (Text.bytes (c :: s.take 1))[1]?).consumedPair s)) := by
  cases hplaceholder : (scanStep state c (Text.bytes (c :: s.take 1))[1]?).isPlaceholder with
  | true =>
    obtain ⟨hstate, hc, hstep⟩ := eq_of_isPlaceholder hplaceholder
    refine .inl ⟨rfl, hstate, hc, ?_⟩
    rw [pieces, if_pos hplaceholder, hstep]
  | false =>
    refine .inr ⟨rfl, ?_⟩
    rw [pieces, if_neg (by rw [hplaceholder]; exact Bool.false_ne_true)]

theorem offsets_consFirst (i : ℕ) (c : Char) {rest : List (List Char)} (h : rest ≠ []) :
    offsets i (consFirst c rest) = offsets (i + c.utf8Size) rest := by
  obtain ⟨piece, rest, rfl⟩ := List.exists_cons_of_ne_nil h
  cases rest with
  | nil => rfl
  | cons next rest =>
    have hlen : i + Text.byteLen (c :: piece) = i + c.utf8Size + Text.byteLen piece := by
      unfold Text.byteLen
      rw [List.map_cons, List.sum_cons, Nat.add_assoc]
    unfold consFirst offsets
    rw [hlen]

/-- **The scanner finds what is between the pieces.** -/
theorem scanFrom_eq (state : ScanState) (skip : Bool) (i : ℕ) (s : List Char) :
    scanFrom state skip i s = offsets i (pieces state skip s) := by
  induction s generalizing state skip i with
  | nil => cases skip <;> rfl
  | cons c s ih =>
    cases skip with
    | true =>
      unfold scanFrom pieces
      rw [ih, offsets_consFirst i c (pieces_ne_nil state false s)]
    | false =>
      unfold scanFrom
      dsimp only
      rw [ih]
      rcases pieces_cons state c s with ⟨hplaceholder, rfl, rfl, hpieces⟩ | ⟨hplaceholder, hpieces⟩
      · obtain ⟨-, -, hstep⟩ := eq_of_isPlaceholder hplaceholder
        obtain ⟨piece, rest, hrest⟩ := List.exists_cons_of_ne_nil (pieces_ne_nil .normal false s)
        rw [if_pos hplaceholder, hpieces, hstep, hrest]
        rfl
      · rw [hpieces, offsets_consFirst i c (pieces_ne_nil _ _ s), hplaceholder]
        rfl

/-- The text has a question mark between any two pieces. -/
theorem intercalate_pieces (state : ScanState) (skip : Bool) (s : List Char) :
    ['?'].intercalate (pieces state skip s) = s := by
  have hconsFirst (c : Char) {rest : List (List Char)} (h : rest ≠ []) :
      ['?'].intercalate (consFirst c rest) = c :: ['?'].intercalate rest := by
    obtain ⟨piece, rest, rfl⟩ := List.exists_cons_of_ne_nil h
    cases rest with
    | nil => simp [consFirst]
    | cons next rest =>
      unfold consFirst
      rw [List.intercalate_cons_cons, List.intercalate_cons_cons]
      rfl
  induction s generalizing state skip with
  | nil => cases skip <;> rfl
  | cons c s ih =>
    cases skip with
    | true =>
      unfold pieces
      rw [hconsFirst c (pieces_ne_nil state false s), ih]
    | false =>
      rcases pieces_cons state c s with ⟨-, rfl, rfl, hpieces⟩ | ⟨-, hpieces⟩
      · obtain ⟨piece, rest, hrest⟩ := List.exists_cons_of_ne_nil (pieces_ne_nil .normal false s)
        have ih := ih .normal false
        rw [hrest] at ih
        rw [hpieces, hrest, List.intercalate_cons_cons, ih]
        rfl
      · rw [hpieces, hconsFirst c (pieces_ne_nil _ _ s), ih]

/-! ### Substitution -/

theorem byteLen_append (s t : List Char) :
    Text.byteLen (s ++ t) = Text.byteLen s + Text.byteLen t := by
  unfold Text.byteLen
  rw [List.map_append, List.sum_append]

/-- A character behind a text is replaced. -/
theorem replaceAt_append (literal front rest : List Char) (c : Char) :
    Statement.replaceAt literal (Text.byteLen front) (front ++ c :: rest) =
      front ++ (literal ++ rest) := by
  induction front with
  | nil => rfl
  | cons d front ih =>
    have hsize := d.utf8Size_pos
    have hlen : Text.byteLen (d :: front) = d.utf8Size + Text.byteLen front := by
      unfold Text.byteLen
      rw [List.map_cons, List.sum_cons]
    obtain ⟨n, hn⟩ : ∃ n, Text.byteLen (d :: front) = n + 1 :=
      ⟨Text.byteLen (d :: front) - 1, by omega⟩
    have hrest : n + 1 - d.utf8Size = Text.byteLen front := by omega
    rw [hn, List.cons_append, Statement.replaceAt, hrest, ih]
    rfl

/-- The literals of some values, which are bound from an index on. -/
structure Literals (parameters : List (Option Parameter)) (index : ℕ) (values : List Parameter)
    (literals : List (List Char)) : Prop where
  bound : ∀ j value, values[j]? = some value → parameters[index + j]? = some (some value)
  rendered : List.Forall₂ (fun value literal => value.toSqlLiteral = .ok literal) values literals

/-- **The literals are put between the pieces.** -/
theorem exists_literals_of_substitute {parameters : List (Option Parameter)}
    {rest : List (List Char)} (hrest : rest ≠ []) {front result : List Char} {index n i : ℕ}
    {more : List (ℕ × ℕ)} (hi : Text.byteLen front = i) (hn : (offsets i rest).length = n)
    (h : Statement.substitute (((List.range' index n).zip (offsets i rest)).reverse ++ more)
      parameters (front ++ ['?'].intercalate rest) = .ok result) :
    ∃ values literals, values.length = n ∧ Literals parameters index values literals ∧
      Statement.substitute more parameters (front ++ (segments rest literals).flatten) =
        .ok result := by
  induction rest generalizing front index n i more with
  | nil => exact absurd rfl hrest
  | cons piece rest ih =>
    cases rest with
    | nil =>
      obtain rfl : 0 = n := hn
      have hflatten : (segments [piece] []).flatten = piece := by simp [segments]
      rw [List.intercalate_singleton] at h
      refine ⟨[], [], rfl, ⟨fun j value hvalue => by simp at hvalue, .nil⟩, ?_⟩
      rw [hflatten]
      exact h
    | cons next rest =>
      obtain ⟨n, rfl⟩ : ∃ k, n = k + 1 := ⟨_, hn.symm⟩
      have hfront : Text.byteLen (front ++ (piece ++ ['?'])) =
          i + Text.byteLen piece + 1 := by
        rw [byteLen_append, byteLen_append, hi, Nat.add_assoc]
        rfl
      have htext : front ++ ['?'].intercalate (piece :: next :: rest) =
          front ++ (piece ++ ['?']) ++ ['?'].intercalate (next :: rest) := by
        rw [List.intercalate_cons_cons]
        simp only [List.append_assoc]
      have hlength : (offsets (i + Text.byteLen piece + 1) (next :: rest)).length = n :=
        Nat.succ.inj hn
      have hzip : ((List.range' index (n + 1)).zip (offsets i (piece :: next :: rest))).reverse ++
          more = ((List.range' (index + 1) n).zip
            (offsets (i + Text.byteLen piece + 1) (next :: rest))).reverse ++
            ((index, i + Text.byteLen piece) :: more) := by
        rw [List.range'_succ]
        simp [offsets]
      rw [hzip, htext] at h
      obtain ⟨values, literals, hvalues, hliterals, hsubstitute⟩ :=
        ih (List.cons_ne_nil _ _) hfront hlength h
      unfold Statement.substitute at hsubstitute
      cases hparameter : parameters[index]? with
      | none =>
        rw [hparameter] at hsubstitute
        cases hsubstitute
      | some parameter =>
        cases parameter with
        | none =>
          rw [hparameter] at hsubstitute
          cases hsubstitute
        | some value =>
          rw [hparameter] at hsubstitute
          dsimp only at hsubstitute
          cases hliteral : value.toSqlLiteral with
          | error e =>
            rw [hliteral] at hsubstitute
            cases hsubstitute
          | ok literal =>
            rw [hliteral] at hsubstitute
            change Statement.substitute more parameters _ = _ at hsubstitute
            refine ⟨value :: values, literal :: literals, congrArg (· + 1) hvalues,
              ⟨fun j v hv => ?_, .cons hliteral hliterals.rendered⟩, ?_⟩
            · cases j with
              | zero =>
                cases hv
                exact hparameter
              | succ j =>
                have hbound := hliterals.bound j v hv
                rwa [Nat.add_right_comm] at hbound
            · have hplace := replaceAt_append literal (front ++ piece)
                (segments (next :: rest) literals).flatten '?'
              rw [byteLen_append, hi] at hplace
              have hshape : front ++ (piece ++ ['?']) ++ (segments (next :: rest) literals).flatten =
                  front ++ piece ++ '?' :: (segments (next :: rest) literals).flatten := by
                simp
              rw [hshape, hplace] at hsubstitute
              rw [← hsubstitute]
              simp [segments]

/-- **The statement that is built** has the literals of the parameters between the pieces. -/
theorem exists_literals_of_buildSql {stmt : Statement} {result : String}
    (h : stmt.buildSql = .ok result) :
    ∃ values literals, values.length + 1 = (pieces .normal false stmt.sql.toList).length ∧
      Literals stmt.parameters 0 values literals ∧
      result.toList = (segments (pieces .normal false stmt.sql.toList) literals).flatten := by
  have hlength {rest : List (List Char)} (hrest : rest ≠ []) (i : ℕ) :
      (offsets i rest).length + 1 = rest.length := by
    induction rest generalizing i with
    | nil => exact absurd rfl hrest
    | cons piece rest ih =>
      cases rest with
      | nil => rfl
      | cons next rest => exact congrArg (· + 1) (ih (List.cons_ne_nil _ _) _)
  have htext := intercalate_pieces .normal false stmt.sql.toList
  have hne := pieces_ne_nil .normal false stmt.sql.toList
  unfold Statement.buildSql scanPlaceholders at h
  dsimp only at h
  rw [scanFrom_eq] at h
  obtain ⟨rest, hrest⟩ : ∃ rest, pieces .normal false stmt.sql.toList = rest := ⟨_, rfl⟩
  obtain ⟨n, hn⟩ : ∃ n, (offsets 0 rest).length = n := ⟨_, rfl⟩
  rw [hrest] at h htext hne ⊢
  split at h
  · cases h
  · cases hsubstitute : Statement.substitute ((List.range (offsets 0 rest).length).zip
        (offsets 0 rest)).reverse stmt.parameters stmt.sql.toList with
    | error e =>
      rw [hsubstitute] at h
      cases h
    | ok text =>
      rw [hsubstitute] at h
      cases h
      rw [hn, List.range_eq_range', ← List.append_nil (List.reverse _), ← List.nil_append
        stmt.sql.toList, ← htext] at hsubstitute
      obtain ⟨values, literals, hvalues, hliterals, hresult⟩ :=
        @exists_literals_of_substitute _ _ hne [] _ _ _ _ _ rfl hn hsubstitute
      refine ⟨values, literals, ?_, hliterals, ?_⟩
      · rw [hvalues, ← hn]
        exact hlength hne 0
      · rw [String.toList_ofList]
        cases hresult
        rfl

/-! ### The scanner and the lexer -/

/-- The byte behind a character of the basic alphabet tells whether a certain such character
follows. -/
theorem nextByte_eq_iff {c d : Char} (hc : c.utf8Size = 1) (hd : d.toNat < 128) (s : List Char) :
    (Text.bytes (c :: s.take 1))[1]? = some (UInt8.ofNat d.toNat) ↔ s.head? = some d := by
  have hfirst (e : Char) :
      (String.utf8EncodeChar e)[0]? = some (UInt8.ofNat d.toNat) ↔ e = d := by
    have hbyte {n m : ℕ} (hn : n < 256) (hm : m < 256) :
        some (UInt8.ofNat n) = some (UInt8.ofNat m) ↔ n = m := by
      rw [Option.some.injEq, ← UInt8.toNat_inj, UInt8.toNat_ofNat_of_lt' hn,
        UInt8.toNat_ofNat_of_lt' hm]
    have hne : e ≠ d ↔ e.val.toNat ≠ d.toNat := not_congr ⟨congrArg Char.toNat, fun h =>
      Char.ext (UInt32.toNat_inj.mp h)⟩
    unfold String.utf8EncodeChar
    dsimp only
    split
    · rw [List.getElem?_cons_zero, hbyte (by omega) (by omega)]
      exact not_iff_not.mp hne.symm
    · split
      · rw [List.getElem?_cons_zero, hbyte (by omega) (by omega)]
        refine iff_of_false (by omega) (hne.mpr (by omega))
      · split
        · rw [List.getElem?_cons_zero, hbyte (by omega) (by omega)]
          refine iff_of_false (by omega) (hne.mpr (by omega))
        · rw [List.getElem?_cons_zero, hbyte (by omega) (by omega)]
          refine iff_of_false (by omega) (hne.mpr (by omega))
  have hlength : (String.utf8EncodeChar c).length = 1 := by
    rw [String.length_utf8EncodeChar, hc]
  have hbytes (t : List Char) : (Text.bytes (c :: t))[1]? = (Text.bytes t)[0]? := by
    change (String.utf8EncodeChar c ++ Text.bytes t)[1]? = _
    rw [List.getElem?_append_right (by omega), hlength]
  rw [hbytes]
  cases s with
  | nil => exact iff_of_false nofun nofun
  | cons e s =>
    have hsingle : Text.bytes ((e :: s).take 1) = String.utf8EncodeChar e := by
      change String.utf8EncodeChar e ++ [] = _
      rw [List.append_nil]
    rw [hsingle, hfirst]
    exact (Option.some_inj).symm

/-- The lexer is outside of quotes and comments, and the next character does not take it there. -/
def Quiet (m : Mode) (s : List Char) : Prop :=
  isOpen m = true ∧ ∀ c ∈ s.head?, ∀ read, extend m c = some read → isOpen read.2 = true

/-- The scanner and the lexer at the same place of a text, in front of what remains of it. The
scanner knows pairs of characters already at the first of them. -/
inductive Agrees : ScanState → Bool → Mode → List Char → Prop
  | normal {m : Mode} {s : List Char} (h : Quiet m s) : Agrees .normal false m s
  | commentEnd {s : List Char} : Agrees .normal true .blockStar ('/' :: s)
  | lineStart {s : List Char} : Agrees .lineComment true .minus ('-' :: s)
  | signedStart {text s : List Char} : Agrees .lineComment true (.signed text '-') ('-' :: s)
  | blockStart {s : List Char} : Agrees .blockComment true .slash ('*' :: s)
  | quotePair {text s : List Char} : Agrees .singleQuoted true (.stringQuote text) ('\'' :: s)
  | namePair {text s : List Char} : Agrees .doubleQuoted true (.quotedQuote text) ('"' :: s)
  | line {s : List Char} : Agrees .lineComment false .lineComment s
  | block {s : List Char} : Agrees .blockComment false .blockComment s
  | star {s : List Char} (h : s.head? ≠ some '/') : Agrees .blockComment false .blockStar s
  | single {text s : List Char} : Agrees .singleQuoted false (.string text) s
  | double {text s : List Char} : Agrees .doubleQuoted false (.quoted text) s

theorem agrees_between (s : List Char) : Agrees .normal false .between s :=
  .normal ⟨rfl, fun _ _ _ h => nomatch h⟩

/-- The second character of a pair. -/
theorem Agrees.skip {state : ScanState} {m : Mode} {c : Char} {s : List Char}
    (h : Agrees state true m (c :: s)) : Agrees state false (advance m c).2 s := by
  cases h with
  | commentEnd => exact agrees_between s
  | lineStart => exact .line
  | signedStart => exact .line
  | blockStart => exact .block
  | quotePair => exact .single
  | namePair => exact .double

/-- A quote leads into a literal or a name, whatever it goes on with. -/
theorem isOpen_of_extend_quote {m : Mode} {c : Char} {read : List Token × Mode}
    (hm : isOpen m = true) (hc : c = '\'' ∨ c = '"') (h : extend m c = some read) :
    isOpen read.2 = false := by
  rcases hc with rfl | rfl
  · cases m with
    | stringQuote text =>
      cases h
      rfl
    | lineComment => cases hm
    | blockComment => cases hm
    | blockStar => cases hm
    | string => cases hm
    | quoted => cases hm
    | _ => simp [extend, isWordChar, Char.isAlphanum, Char.isAlpha, Char.isUpper, Char.isLower,
        Char.isDigit] at h
  · cases m with
    | quotedQuote text =>
      cases h
      rfl
    | lineComment => cases hm
    | blockComment => cases hm
    | blockStar => cases hm
    | string => cases hm
    | quoted => cases hm
    | _ => simp [extend, isWordChar, Char.isAlphanum, Char.isAlpha, Char.isUpper, Char.isLower,
        Char.isDigit] at h

/-- A quote that the scanner meets begins a literal or a name. -/
theorem Quiet.advance_quote {m : Mode} {c : Char} {s : List Char} (h : Quiet m (c :: s))
    (hc : c = '\'' ∨ c = '"') : (advance m c).2 = (opening c).2 := by
  unfold advance
  cases hextend : extend m c with
  | none => rfl
  | some read =>
    have hopen := h.2 c rfl read hextend
    rw [isOpen_of_extend_quote h.1 hc hextend] at hopen
    cases hopen

/-- Behind a minus sign. -/
theorem Quiet.advance_minus {m : Mode} {s : List Char} (h : Quiet m ('-' :: s)) :
    (advance m '-').2 = .minus ∨ ∃ text, (advance m '-').2 = .signed text '-' := by
  obtain ⟨hopen, hquiet⟩ := h
  have hquiet := hquiet '-' rfl
  cases m with
  | lineComment => cases hopen
  | blockComment => cases hopen
  | blockStar => cases hopen
  | string => cases hopen
  | quoted => cases hopen
  | minus => cases hquiet _ rfl
  | number text =>
    by_cases hsign : awaitsSign text = true
    · refine .inr ⟨text, ?_⟩
      simp [advance, extend, hsign, isWordChar, Char.isAlphanum, Char.isAlpha, Char.isUpper,
        Char.isLower, Char.isDigit]
    · refine .inl ?_
      have hextend : extend (.number text) '-' = none := by
        simp [extend, hsign, isWordChar, Char.isAlphanum, Char.isAlpha, Char.isUpper,
          Char.isLower, Char.isDigit]
      rw [advance_of_extend_eq_none hextend]
      rfl
  | signed text sign =>
    by_cases hsign : sign = '-'
    · subst hsign
      cases hquiet _ rfl
    · refine .inl ?_
      have hextend : extend (.signed text sign) '-' = none := by
        simp [extend, hsign, Char.isDigit]
      rw [advance_of_extend_eq_none hextend]
      rfl
  | _ => exact .inl rfl

/-- Behind a slash. -/
theorem Quiet.advance_slash {m : Mode} {s : List Char} (h : Quiet m ('/' :: s)) :
    (advance m '/').2 = .slash := by
  obtain ⟨hopen, -⟩ := h
  cases m with
  | lineComment => cases hopen
  | blockComment => cases hopen
  | blockStar => cases hopen
  | string => cases hopen
  | quoted => cases hopen
  | number text =>
    have hextend : extend (.number text) '/' = none := by
      simp [extend, isWordChar, Char.isAlphanum, Char.isAlpha, Char.isUpper, Char.isLower,
        Char.isDigit]
    rw [advance_of_extend_eq_none hextend]
    rfl
  | signed text sign =>
    have hextend : extend (.signed text sign) '/' = none := by
      simp [extend, Char.isDigit]
    rw [advance_of_extend_eq_none hextend]
    rfl
  | _ => rfl

/-- Behind any other character, none can lead into quotes or comments without beginning anew. -/
theorem Quiet.advance_other {m : Mode} {c : Char} {s : List Char} (h : Quiet m (c :: s))
    (hsingle : c ≠ '\'') (hdouble : c ≠ '"') (hminus : c ≠ '-') (hslash : c ≠ '/')
    (rest : List Char) : Quiet (advance m c).2 rest := by
  obtain ⟨hopen, hquiet⟩ := h
  have hword (text : List Char) : Quiet (.word text) rest := by
    refine ⟨rfl, fun d _ read hread => ?_⟩
    simp only [extend] at hread
    split at hread
    · cases hread
      rfl
    · cases hread
  have hnumber (text : List Char) : Quiet (.number text) rest := by
    refine ⟨rfl, fun d _ read hread => ?_⟩
    simp only [extend] at hread
    split at hread
    · cases hread
      rfl
    · split at hread
      · cases hread
        rfl
      · cases hread
  have hbetween : Quiet .between rest := by
    refine ⟨rfl, fun d _ read hread => ?_⟩
    cases hread
  have hdot : Quiet .dot rest := by
    refine ⟨rfl, fun d _ read hread => ?_⟩
    simp only [extend] at hread
    split at hread
    · cases hread
      rfl
    · cases hread
  have hsigned (text : List Char) (hsign : c ≠ '-') : Quiet (.signed text c) rest := by
    refine ⟨rfl, fun d _ read hread => ?_⟩
    simp only [extend, hsign, decide_false, Bool.false_and] at hread
    split at hread
    · cases hread
      rfl
    · cases hread
  have hopening : Quiet (opening c).2 rest := by
    unfold opening
    rw [if_neg hsingle, if_neg hdouble, if_neg hminus, if_neg hslash]
    split
    · exact hbetween
    · split
      · exact hdot
      · split
        · exact hnumber _
        · split
          · exact hword _
          · exact hbetween
  unfold advance
  cases hextend : extend m c with
  | none => exact hopening
  | some read =>
    have hread := hquiet c rfl read hextend
    cases m with
    | lineComment => cases hopen
    | blockComment => cases hopen
    | blockStar => cases hopen
    | string => cases hopen
    | quoted => cases hopen
    | between => cases hextend
    | word text =>
      simp only [extend] at hextend
      split at hextend
      · cases hextend
        exact hword _
      · cases hextend
    | number text =>
      simp only [extend] at hextend
      split at hextend
      · cases hextend
        exact hnumber _
      · split at hextend
        · cases hextend
          exact hsigned _ hminus
        · cases hextend
    | signed text sign =>
      simp only [extend, hminus, decide_false, Bool.and_false] at hextend
      split at hextend
      · cases hextend
        exact hnumber _
      · cases hextend
    | dot =>
      simp only [extend] at hextend
      split at hextend
      · cases hextend
        exact hnumber _
      · cases hextend
    | minus =>
      simp only [extend, if_neg hminus] at hextend
      cases hextend
    | slash =>
      simp only [extend] at hextend
      split at hextend
      · cases hextend
        cases hread
      · cases hextend
    | stringQuote text =>
      simp only [extend, if_neg hsingle] at hextend
      cases hextend
    | quotedQuote text =>
      simp only [extend, if_neg hdouble] at hextend
      cases hextend

/-- The byte that the scanner looks at. -/
theorem nextByte_eq {c d : Char} (s : List Char) (hc : c.utf8Size = 1) (hd : d.toNat < 128)
    {b : UInt8} (hb : b = UInt8.ofNat d.toNat) :
    (Text.bytes (c :: s.take 1))[1]? = some b ↔ s.head? = some d :=
  hb ▸ nextByte_eq_iff hc hd s

/-- A character inside quotes. -/
theorem agrees_insideQuotes {state : ScanState} {quote : Char} {s : List Char} {m m' : Mode}
    (hquote : quote.utf8Size = 1) (hascii : quote.toNat < 128)
    (hend : Quiet m s ∨ s.head? = some quote) (hpair : ∀ t, s = quote :: t → Agrees state true m s)
    (c : Char) (hstay : c ≠ quote → Agrees state false m' s) :
    Agrees (stepInsideQuotes state quote c (Text.bytes (c :: s.take 1))[1]?).state
      (stepInsideQuotes state quote c (Text.bytes (c :: s.take 1))[1]?).consumedPair
      (if c = quote then m else m') s := by
  unfold stepInsideQuotes
  by_cases hc : c = quote
  · subst hc
    rw [if_neg (not_not.mpr rfl), if_pos rfl]
    by_cases hnext : s.head? = some c
    · rw [if_pos ((nextByte_eq_iff hquote hascii s).mpr hnext)]
      cases s with
      | nil => cases hnext
      | cons d s =>
        cases hnext
        exact hpair s rfl
    · rw [if_neg (mt (nextByte_eq_iff hquote hascii s).mp hnext)]
      exact .normal (hend.resolve_right hnext)
  · rw [if_pos hc, if_neg hc]
    exact hstay hc

/-- **The scanner and the lexer agree from one character to the next.** -/
theorem Agrees.step {state : ScanState} {m : Mode} {c : Char} {s : List Char}
    (h : Agrees state false m (c :: s))
    (hplaceholder : (scanStep state c (Text.bytes (c :: s.take 1))[1]?).isPlaceholder = false) :
    Agrees (scanStep state c (Text.bytes (c :: s.take 1))[1]?).state
      (scanStep state c (Text.bytes (c :: s.take 1))[1]?).consumedPair (advance m c).2 s := by
  cases h with
  | normal hquiet =>
    unfold scanStep stepOutsideLiteral at hplaceholder ⊢
    dsimp only at hplaceholder ⊢
    by_cases hmark : c = '?'
    · rw [if_pos hmark] at hplaceholder
      cases hplaceholder
    · rw [if_neg hmark]
      by_cases hsingle : c = '\''
      · subst hsingle
        rw [if_pos rfl, hquiet.advance_quote (.inl rfl)]
        exact .single
      · rw [if_neg hsingle]
        by_cases hdouble : c = '"'
        · subst hdouble
          rw [if_pos rfl, hquiet.advance_quote (.inr rfl)]
          exact .double
        · rw [if_neg hdouble]
          by_cases hminus : c = '-'
          · subst hminus
            have hbyte := @nextByte_eq '-' '-' s rfl (by decide) 0x2D rfl
            by_cases hnext : s.head? = some '-'
            · rw [if_pos ⟨rfl, hbyte.mpr hnext⟩]
              cases s with
              | nil => cases hnext
              | cons d s =>
                cases hnext
                rcases hquiet.advance_minus with hm | ⟨text, hm⟩
                · rw [hm]
                  exact .lineStart
                · rw [hm]
                  exact .signedStart
            · rw [if_neg fun h => hnext (hbyte.mp h.2), if_neg (fun h => absurd h.1 (by decide))]
              refine .normal ?_
              rcases hquiet.advance_minus with hm | ⟨text, hm⟩
              · rw [hm]
                refine ⟨rfl, fun d hd read hread => ?_⟩
                simp only [extend] at hread
                split at hread
                · rename_i hdash
                  subst hdash
                  exact absurd hd hnext
                · cases hread
              · rw [hm]
                refine ⟨rfl, fun d hd read hread => ?_⟩
                simp only [extend] at hread
                split at hread
                · cases hread
                  rfl
                · split at hread
                  · rename_i hdash
                    simp only [decide_true, Bool.true_and, decide_eq_true_eq] at hdash
                    subst hdash
                    exact absurd hd hnext
                  · cases hread
          · rw [if_neg fun h => hminus h.1]
            by_cases hslash : c = '/'
            · subst hslash
              have hbyte := @nextByte_eq '/' '*' s rfl (by decide) 0x2A rfl
              by_cases hnext : s.head? = some '*'
              · rw [if_pos ⟨rfl, hbyte.mpr hnext⟩, hquiet.advance_slash]
                cases s with
                | nil => cases hnext
                | cons d s =>
                  cases hnext
                  exact .blockStart
              · rw [if_neg fun h => hnext (hbyte.mp h.2), hquiet.advance_slash]
                refine .normal ⟨rfl, fun d hd read hread => ?_⟩
                simp only [extend] at hread
                split at hread
                · rename_i hstar
                  subst hstar
                  exact absurd hd hnext
                · cases hread
            · rw [if_neg fun h => hslash h.1]
              exact .normal (hquiet.advance_other hsingle hdouble hminus hslash s)
  | line =>
    unfold scanStep stepInsideLineComment
    dsimp only
    by_cases hc : c = '\n'
    · subst hc
      exact agrees_between s
    · have hm : (advance .lineComment c).2 = .lineComment := by simp [advance, extend, hc]
      rw [if_neg hc, hm]
      exact .line
  | block =>
    unfold scanStep stepInsideBlockComment
    dsimp only
    by_cases hc : c = '*'
    · subst hc
      have hbyte := @nextByte_eq '*' '/' s rfl (by decide) 0x2F rfl
      by_cases hnext : s.head? = some '/'
      · rw [if_pos ⟨rfl, hbyte.mpr hnext⟩]
        cases s with
        | nil => cases hnext
        | cons d s =>
          cases hnext
          exact .commentEnd
      · rw [if_neg fun h => hnext (hbyte.mp h.2)]
        exact .star hnext
    · have hm : (advance .blockComment c).2 = .blockComment := by simp [advance, extend, hc]
      rw [if_neg fun h => hc h.1, hm]
      exact .block
  | star hhead =>
    have hne : c ≠ '/' := fun h => hhead (by rw [h]; rfl)
    unfold scanStep stepInsideBlockComment
    dsimp only
    by_cases hc : c = '*'
    · subst hc
      have hbyte := @nextByte_eq '*' '/' s rfl (by decide) 0x2F rfl
      by_cases hnext : s.head? = some '/'
      · rw [if_pos ⟨rfl, hbyte.mpr hnext⟩]
        cases s with
        | nil => cases hnext
        | cons d s =>
          cases hnext
          exact .commentEnd
      · rw [if_neg fun h => hnext (hbyte.mp h.2)]
        exact .star hnext
    · have hm : (advance .blockStar c).2 = .blockComment := by simp [advance, extend, hc, hne]
      rw [if_neg fun h => hc h.1, hm]
      exact .block
  | @single text =>
    have hm : (advance (.string text) c).2 =
        if c = '\'' then .stringQuote text else .string (text ++ [c]) := by
      by_cases hc : c = '\'' <;> simp [advance, extend, hc]
    rw [hm]
    refine agrees_insideQuotes rfl (by decide) ?_ (fun t ht => ht ▸ .quotePair) c fun _ => .single
    by_cases hnext : s.head? = some '\''
    · exact .inr hnext
    · refine .inl ⟨rfl, fun d hd read hread => ?_⟩
      simp only [extend] at hread
      split at hread
      · rename_i hquote
        subst hquote
        exact absurd hd hnext
      · cases hread
  | @double text =>
    have hm : (advance (.quoted text) c).2 =
        if c = '"' then .quotedQuote text else .quoted (text ++ [c]) := by
      by_cases hc : c = '"' <;> simp [advance, extend, hc]
    rw [hm]
    refine agrees_insideQuotes rfl (by decide) ?_ (fun t ht => ht ▸ .namePair) c fun _ => .double
    by_cases hnext : s.head? = some '"'
    · exact .inr hnext
    · refine .inl ⟨rfl, fun d hd read hread => ?_⟩
      simp only [extend] at hread
      split at hread
      · rename_i hquote
        subst hquote
        exact absurd hd hnext
      · cases hread

/-- **Each piece but the last ends outside of quotes and comments.** -/
theorem isOpen_of_mem_pieces {state : ScanState} {skip : Bool} {m : Mode} {s piece : List Char}
    {rest : List (List Char)} (h : Agrees state skip m s) (hs : pieces state skip s = piece :: rest) :
    (rest ≠ [] → isOpen (run m piece).2 = true) ∧
      ∀ next ∈ rest.dropLast, isOpen (run .between next).2 = true := by
  induction s generalizing state skip m piece rest with
  | nil =>
    have hnil : pieces state skip [] = [[]] := by cases skip <;> rfl
    rw [hnil] at hs
    cases hs
    exact ⟨fun h => absurd rfl h, nofun⟩
  | cons c s ih =>
    have hconsFirst {state' : ScanState} {skip' : Bool} (h : Agrees state' skip' (advance m c).2 s)
        (hs : consFirst c (pieces state' skip' s) = piece :: rest) :
        (rest ≠ [] → isOpen (run m piece).2 = true) ∧
          ∀ next ∈ rest.dropLast, isOpen (run .between next).2 = true := by
      obtain ⟨first, others, hfirst⟩ := List.exists_cons_of_ne_nil (pieces_ne_nil state' skip' s)
      rw [hfirst] at hs
      cases hs
      have hrest := ih h hfirst
      exact hrest
    cases skip with
    | true =>
      unfold pieces at hs
      exact hconsFirst h.skip hs
    | false =>
      rcases pieces_cons state c s with ⟨-, rfl, rfl, hpieces⟩ | ⟨hplaceholder, hpieces⟩
      · rw [hpieces] at hs
        cases hs
        obtain ⟨first, others, hfirst⟩ := List.exists_cons_of_ne_nil (pieces_ne_nil .normal false s)
        obtain ⟨hopen, hothers⟩ := ih (agrees_between s) hfirst
        cases h with
        | normal hquiet =>
          refine ⟨fun _ => hquiet.1, fun next hnext => ?_⟩
          rw [hfirst] at hnext
          cases others with
          | nil => cases hnext
          | cons second others =>
            rcases List.mem_cons.mp hnext with rfl | hnext
            · exact hopen (List.cons_ne_nil _ _)
            · exact hothers next hnext
      · rw [hpieces] at hs
        exact hconsFirst (h.step hplaceholder) hs

end Exarrow.Query
