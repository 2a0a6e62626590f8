import Mathlib

/-!
# The tokens of SQL text

A lexer for SQL text: words, numbers, string literals, quoted names and single symbols, with line
comments and block comments in between, which are no tokens. It is a machine that reads one
character after the other (`Lexing.advance`): a character either goes on with what has been begun
(`Lexing.extend`) or ends it, and then begins something new (`Lexing.opening`).

What is read of a text depends on the text before only through the mode at its end
(`Lexing.run_append`), and **a character that does not go on with a token begins anew**
(`Lexing.lexFrom_of_extend_eq_none`). With these two, texts that are put together are taken apart
again (`Lexing.Reads.lex_append`): a string literal (`Lexing.reads_quote`), a name
(`Lexing.reads_word`, `Lexing.reads_quotedName`), a number (`Lexing.reads_number`). A literal whose
text has not been escaped is not read back if there is a quote in it
(`Lexing.lex_unescaped_iff`).
-/

namespace Lexing

/-- The tokens. Quotes are undone in literals and names. -/
inductive Token where
  | word (text : List Char)
  | number (text : List Char)
  | string (text : List Char)
  | quoted (text : List Char)
  | symbol (c : Char)
  deriving DecidableEq

/-- Where the lexer is. -/
inductive Mode where
  | between
  | word (text : List Char)
  | number (text : List Char)
  /-- Behind a sign, which belongs to the exponent of the number if a digit follows. -/
  | signed (text : List Char) (sign : Char)
  | dot
  | minus
  | slash
  | lineComment
  | blockComment
  /-- Behind an asterisk in a block comment. -/
  | blockStar
  | string (text : List Char)
  /-- Behind a quote in a literal, which closes it unless another one follows. -/
  | stringQuote (text : List Char)
  | quoted (text : List Char)
  | quotedQuote (text : List Char)
  deriving DecidableEq

/-- The characters of words. -/
def isWordChar (c : Char) : Bool :=
  c.isAlphanum || c = '_' || c = '$' || c = '#' || c = '@' || 128 ≤ c.toNat

/-- Whether a number goes on with a sign, behind the letter of its exponent. -/
def awaitsSign (text : List Char) : Bool :=
  text.getLast? = some 'e' || text.getLast? = some 'E'

/-- A character that goes on with what has been begun: the tokens before, and the mode behind. Two
minus signs begin a comment, also behind a number. -/
def extend : Mode → Char → Option (List Token × Mode)
  | .between, _ => none
  | .word text, c => if isWordChar c then some ([], .word (text ++ [c])) else none
  | .number text, c =>
    if isWordChar c || c = '.' then some ([], .number (text ++ [c]))
    else if awaitsSign text && (c = '+' || c = '-') then some ([], .signed text c)
    else none
  | .signed text sign, c =>
    if c.isDigit then some ([], .number (text ++ [sign, c]))
    else if sign = '-' && c = '-' then some ([.number text], .lineComment)
    else none
  | .dot, c => if c.isDigit then some ([], .number ['.', c]) else none
  | .minus, c => if c = '-' then some ([], .lineComment) else none
  | .slash, c => if c = '*' then some ([], .blockComment) else none
  | .lineComment, c => if c = '\n' then some ([], .between) else some ([], .lineComment)
  | .blockComment, c => if c = '*' then some ([], .blockStar) else some ([], .blockComment)
  | .blockStar, c =>
    if c = '/' then some ([], .between)
    else if c = '*' then some ([], .blockStar) else some ([], .blockComment)
  | .string text, c =>
    if c = '\'' then some ([], .stringQuote text) else some ([], .string (text ++ [c]))
  | .stringQuote text, c => if c = '\'' then some ([], .string (text ++ [c])) else none
  | .quoted text, c =>
    if c = '"' then some ([], .quotedQuote text) else some ([], .quoted (text ++ [c]))
  | .quotedQuote text, c => if c = '"' then some ([], .quoted (text ++ [c])) else none

/-- What has been read when a token ends. -/
def pending : Mode → List Token
  | .word text => [.word text]
  | .number text => [.number text]
  | .signed text sign => [.number text, .symbol sign]
  | .dot => [.symbol '.']
  | .minus => [.symbol '-']
  | .slash => [.symbol '/']
  | .stringQuote text => [.string text]
  | .quotedQuote text => [.quoted text]
  | _ => []

/-- Whether a text may end here. -/
def complete : Mode → Bool
  | .blockComment | .blockStar | .string _ | .quoted _ => false
  | _ => true

/-- A character that begins something. -/
def opening (c : Char) : List Token × Mode :=
  if c.isWhitespace then ([], .between)
  else if c = '\'' then ([], .string [])
  else if c = '"' then ([], .quoted [])
  else if c = '-' then ([], .minus)
  else if c = '/' then ([], .slash)
  else if c = '.' then ([], .dot)
  else if c.isDigit then ([], .number [c])
  else if isWordChar c then ([], .word [c])
  else ([.symbol c], .between)

/-- Read a character. -/
def advance (m : Mode) (c : Char) : List Token × Mode :=
  match extend m c with
  | some read => read
  | none => (pending m ++ (opening c).1, (opening c).2)

/-- Read a text: the tokens that end in it, and the mode at its end. -/
def run : Mode → List Char → List Token × Mode
  | m, [] => ([], m)
  | m, c :: s =>
    let (tokens, m') := advance m c
    let (rest, last) := run m' s
    (tokens ++ rest, last)

/-- The tokens of a text that is read up to its end; none if it ends inside of quotes or of a block
comment. -/
def lexFrom (m : Mode) (s : List Char) : Option (List Token) :=
  let (tokens, last) := run m s
  if complete last then some (tokens ++ pending last) else none

/-- **The tokens of a text.** -/
def lex (s : List Char) : Option (List Token) := lexFrom .between s

/-! ### Texts that are put together -/

@[simp] theorem run_nil (m : Mode) : run m [] = ([], m) := rfl

theorem run_cons (m : Mode) (c : Char) (s : List Char) :
    run m (c :: s) =
      ((advance m c).1 ++ (run (advance m c).2 s).1, (run (advance m c).2 s).2) := rfl

/-- **A text is read on from the mode at the end of the text before.** -/
theorem run_append (m : Mode) (s t : List Char) :
    run m (s ++ t) = ((run m s).1 ++ (run (run m s).2 t).1, (run (run m s).2 t).2) := by
  induction s generalizing m with
  | nil => rfl
  | cons c s ih => rw [List.cons_append, run_cons, run_cons, ih, List.append_assoc]

theorem lexFrom_append (m : Mode) (s t : List Char) :
    lexFrom m (s ++ t) = (lexFrom (run m s).2 t).map ((run m s).1 ++ ·) := by
  unfold lexFrom
  rw [run_append]
  dsimp only
  split
  · rw [Option.map_some, List.append_assoc]
  · rfl

/-- A character that ends a token. -/
theorem advance_of_extend_eq_none {m : Mode} {c : Char} (h : extend m c = none) :
    advance m c = (pending m ++ (advance .between c).1, (advance .between c).2) := by
  unfold advance
  rw [h]
  rfl

theorem run_of_extend_eq_none {m : Mode} {c : Char} (h : extend m c = none) (s : List Char) :
    run m (c :: s) = (pending m ++ (run .between (c :: s)).1, (run .between (c :: s)).2) := by
  rw [run_cons, run_cons, advance_of_extend_eq_none h, List.append_assoc]

/-- **A character that does not go on with a token begins anew.** -/
theorem lexFrom_of_extend_eq_none {m : Mode} {c : Char} (h : extend m c = none) (s : List Char) :
    lexFrom m (c :: s) = (lex (c :: s)).map (pending m ++ ·) := by
  unfold lex lexFrom
  rw [run_of_extend_eq_none h]
  dsimp only
  split
  · rw [Option.map_some, List.append_assoc]
  · rfl

/-- A text whose first character does not go on with a token. -/
def Parted (m : Mode) (s : List Char) : Prop :=
  match s with
  | [] => complete m = true
  | c :: _ => extend m c = none

theorem parted_between (s : List Char) : Parted .between s := by
  cases s <;> rfl

/-- A text behind a token. -/
theorem lexFrom_of_parted {m : Mode} {s : List Char} (h : Parted m s) :
    lexFrom m s = (lex s).map (pending m ++ ·) := by
  cases s with
  | nil =>
    have hcomplete : complete m = true := h
    unfold lex lexFrom
    rw [run_nil, run_nil]
    dsimp only
    rw [if_pos hcomplete]
    change some ([] ++ pending m) = some (pending m ++ ([] ++ []))
    rw [List.nil_append, List.append_nil, List.append_nil]
  | cons c s => exact lexFrom_of_extend_eq_none h s

/-! ### What a text reads -/

/-- A text has these tokens, if what follows it does not go on with the last of them. -/
def Reads (s : List Char) (tokens : List Token) (last : Mode) : Prop :=
  ∃ done, run .between s = (done, last) ∧ tokens = done ++ pending last

/-- **A text behind a text.** -/
theorem Reads.lex_append {s rest : List Char} {tokens : List Token} {last : Mode}
    (h : Reads s tokens last) (hrest : Parted last rest) :
    lex (s ++ rest) = (lex rest).map (tokens ++ ·) := by
  obtain ⟨done, hrun, rfl⟩ := h
  unfold lex
  rw [lexFrom_append, hrun]
  change (lexFrom last rest).map (done ++ ·) = _
  rw [lexFrom_of_parted hrest, Option.map_map]
  unfold lex
  congr 1
  funext tokens
  exact (List.append_assoc _ _ _).symm

/-- Two texts, one behind the other. -/
theorem Reads.append {s t : List Char} {a b : List Token} {m last : Mode} (hs : Reads s a m)
    (ht : Reads t b last) (hne : t ≠ []) (hparted : Parted m t) : Reads (s ++ t) (a ++ b) last := by
  obtain ⟨done, hrun, rfl⟩ := hs
  obtain ⟨more, hmore, rfl⟩ := ht
  obtain ⟨c, t, rfl⟩ := List.exists_cons_of_ne_nil hne
  refine ⟨done ++ (pending m ++ more), ?_, by simp only [List.append_assoc]⟩
  rw [run_append, hrun]
  dsimp only
  rw [run_of_extend_eq_none hparted, hmore]

/-- A text that is complete in itself. -/
theorem Reads.lex_eq {s : List Char} {tokens : List Token} {last : Mode} (h : Reads s tokens last)
    (hlast : complete last = true) : lex s = some tokens := by
  have happend := @Reads.lex_append s [] tokens last h hlast
  rw [List.append_nil] at happend
  rw [happend]
  exact congrArg some (List.append_nil tokens)

/-- Tokens ahead are told from the rest. -/
theorem map_append_eq_some_iff {rest : Option (List Token)} {tokens more : List Token} :
    rest.map (tokens ++ ·) = some (tokens ++ more) ↔ rest = some more := by
  rw [Option.map_eq_some_iff]
  constructor
  · rintro ⟨found, rfl, hfound⟩
    rw [List.append_cancel_left hfound]
  · rintro rfl
    exact ⟨more, rfl, rfl⟩

/-- A text with the quotes in it doubled. -/
def double (quote : Char) (text : List Char) : List Char :=
  text.flatMap fun c => if c = quote then [quote, quote] else [c]

/-- A string literal. -/
def quote (text : List Char) : List Char := '\'' :: double '\'' text ++ ['\'']

/-- A name in quotes. -/
def quotedName (text : List Char) : List Char := '"' :: double '"' text ++ ['"']

theorem double_cons (q c : Char) (text : List Char) :
    double q (c :: text) = (if c = q then [q, q] else [c]) ++ double q text := rfl

theorem double_append (q : Char) (s t : List Char) : double q (s ++ t) = double q s ++ double q t :=
  List.flatMap_append

/-- A text without quotes stays as it is. -/
theorem double_of_not_mem {q : Char} {text : List Char} (h : q ∉ text) : double q text = text := by
  induction text with
  | nil => rfl
  | cons c text ih =>
    rw [List.mem_cons, not_or] at h
    rw [double_cons, if_neg (Ne.symm h.1), ih h.2]
    rfl

theorem run_string_double (acc text : List Char) :
    run (.string acc) (double '\'' text) = ([], .string (acc ++ text)) := by
  induction text generalizing acc with
  | nil => rw [List.append_nil]; rfl
  | cons c text ih =>
    have hchar : run (.string acc) (if c = '\'' then ['\'', '\''] else [c]) =
        ([], .string (acc ++ [c])) := by
      split
      · rename_i h
        subst h
        rfl
      · rename_i h
        simp [run, advance, extend, h]
    rw [double_cons, run_append, hchar, ih]
    simp

theorem run_quoted_double (acc text : List Char) :
    run (.quoted acc) (double '"' text) = ([], .quoted (acc ++ text)) := by
  induction text generalizing acc with
  | nil => rw [List.append_nil]; rfl
  | cons c text ih =>
    have hchar : run (.quoted acc) (if c = '"' then ['"', '"'] else [c]) =
        ([], .quoted (acc ++ [c])) := by
      split
      · rename_i h
        subst h
        rfl
      · rename_i h
        simp [run, advance, extend, h]
    rw [double_cons, run_append, hchar, ih]
    simp

/-- **A string literal is read back.** -/
theorem reads_quote (text : List Char) :
    Reads (quote text) [.string text] (.stringQuote text) := by
  refine ⟨[], ?_, rfl⟩
  unfold quote
  rw [List.cons_append, run_cons]
  change ([] ++ (run (.string []) _).1, (run (.string []) _).2) = _
  rw [run_append, run_string_double]
  rfl

/-- **A name in quotes is read back.** -/
theorem reads_quotedName (text : List Char) :
    Reads (quotedName text) [.quoted text] (.quotedQuote text) := by
  refine ⟨[], ?_, rfl⟩
  unfold quotedName
  rw [List.cons_append, run_cons]
  change ([] ++ (run (.quoted []) _).1, (run (.quoted []) _).2) = _
  rw [run_append, run_quoted_double]
  rfl

theorem run_word {text : List Char} (h : ∀ c ∈ text, isWordChar c = true) (acc : List Char) :
    run (.word acc) text = ([], .word (acc ++ text)) := by
  induction text generalizing acc with
  | nil => rw [List.append_nil]; rfl
  | cons c text ih =>
    have hc := h c List.mem_cons_self
    rw [run_cons]
    simp only [advance, extend, hc, if_true, List.nil_append]
    rw [ih (fun d hd => h d (List.mem_cons_of_mem c hd))]
    simp

theorem run_number {text : List Char} (h : ∀ c ∈ text, isWordChar c = true ∨ c = '.')
    (acc : List Char) : run (.number acc) text = ([], .number (acc ++ text)) := by
  induction text generalizing acc with
  | nil => rw [List.append_nil]; rfl
  | cons c text ih =>
    have hc : (isWordChar c || c = '.') = true := by
      rcases h c List.mem_cons_self with hc | rfl
      · rw [hc]
        rfl
      · simp
    rw [run_cons]
    simp only [advance, extend, hc, if_true, List.nil_append]
    rw [ih (fun d hd => h d (List.mem_cons_of_mem c hd))]
    simp

/-! ### Clauses -/

/-- A text that begins with a blank, or is empty. -/
def Spaced (s : List Char) : Prop := ∀ c ∈ s.head?, c.isWhitespace = true

/-- A text that begins with a blank. -/
theorem spaced_append {s : List Char} (h : s.head?.any Char.isWhitespace = true) (t : List Char) :
    Spaced (s ++ t) := by
  cases s with
  | nil => cases h
  | cons c s =>
    intro d hd
    cases hd
    exact h

/-- A mode in which a text may end, and which a blank ends. -/
def Closed (m : Mode) : Prop := ∀ s, Spaced s → Parted m s

theorem closed_between : Closed .between := fun s _ => parted_between s

theorem closed_word (text : List Char) : Closed (.word text) := by
  intro s hs
  cases s with
  | nil => rfl
  | cons c s =>
    have hblank := hs c rfl
    have hword : isWordChar c = false := by
      unfold Char.isWhitespace at hblank
      simp only [Bool.or_eq_true, decide_eq_true_eq] at hblank
      rcases hblank with ((rfl | rfl) | rfl) | rfl <;> decide
    simp [Parted, extend, hword]

theorem closed_number (text : List Char) : Closed (.number text) := by
  intro s hs
  cases s with
  | nil => rfl
  | cons c s =>
    have hblank := hs c rfl
    unfold Char.isWhitespace at hblank
    simp only [Bool.or_eq_true, decide_eq_true_eq] at hblank
    rcases hblank with ((rfl | rfl) | rfl) | rfl <;> simp [Parted, extend, isWordChar]

theorem closed_stringQuote (text : List Char) : Closed (.stringQuote text) := by
  intro s hs
  cases s with
  | nil => rfl
  | cons c s =>
    have hblank := hs c rfl
    have hc : c ≠ '\'' := by
      rintro rfl
      cases hblank
    simp [Parted, extend, hc]

theorem closed_quotedQuote (text : List Char) : Closed (.quotedQuote text) := by
  intro s hs
  cases s with
  | nil => rfl
  | cons c s =>
    have hblank := hs c rfl
    have hc : c ≠ '"' := by
      rintro rfl
      cases hblank
    simp [Parted, extend, hc]

/-- **A text has these tokens, and a blank ends it.** -/
def Clause (s : List Char) (tokens : List Token) : Prop :=
  ∃ last, Reads s tokens last ∧ Closed last

/-- A clause behind a clause. -/
theorem Clause.append {s t : List Char} {a b : List Token} (hs : Clause s a) (ht : Clause t b)
    (hspaced : Spaced t) : Clause (s ++ t) (a ++ b) := by
  obtain ⟨m, hs, hm⟩ := hs
  obtain ⟨last, ht, hlast⟩ := ht
  by_cases hnil : t = []
  · subst hnil
    obtain ⟨done, hrun, rfl⟩ := ht
    cases hrun
    rw [List.append_nil]
    exact ⟨m, by simpa [pending] using hs, hm⟩
  · exact ⟨last, hs.append ht hnil (hm t hspaced), hlast⟩

/-- **Clauses are taken apart.** -/
theorem Clause.lex_append {s rest : List Char} {tokens : List Token} (h : Clause s tokens)
    (hrest : Spaced rest) : lex (s ++ rest) = (lex rest).map (tokens ++ ·) := by
  obtain ⟨last, hs, hlast⟩ := h
  exact hs.lex_append (hlast rest hrest)

/-- A clause in front of the rest changes nothing about the rest. -/
theorem Clause.lex_append_iff {s rest : List Char} {tokens more : List Token} (h : Clause s tokens)
    (hrest : Spaced rest) : lex (s ++ rest) = some (tokens ++ more) ↔ lex rest = some more := by
  rw [h.lex_append hrest]
  exact map_append_eq_some_iff

/-- A text behind which nothing has been begun changes nothing about the rest. -/
theorem lex_append_iff_of_run {s rest : List Char} {tokens more : List Token}
    (h : run .between s = (tokens, .between)) :
    lex (s ++ rest) = some (tokens ++ more) ↔ lex rest = some more := by
  have happend : lex (s ++ rest) = (lex rest).map (tokens ++ ·) := by
    unfold lex
    rw [lexFrom_append, h]
  rw [happend]
  exact map_append_eq_some_iff

theorem Clause.lex_eq {s : List Char} {tokens : List Token} (h : Clause s tokens) :
    lex s = some tokens := by
  obtain ⟨last, hs, hlast⟩ := h
  exact hs.lex_eq (hlast [] nofun)

theorem clause_nil : Clause [] [] := ⟨.between, ⟨[], rfl, rfl⟩, closed_between⟩

/-- A text behind which nothing has been begun. -/
theorem clause_of_run {s : List Char} {tokens : List Token} (h : run .between s = (tokens, .between)) :
    Clause s tokens :=
  ⟨.between, ⟨tokens, h, (List.append_nil tokens).symm⟩, closed_between⟩

/-- A text behind which nothing has been begun, and a clause. -/
theorem Clause.after {s t : List Char} {a b : List Token} (h : run .between s = (a, .between))
    (ht : Clause t b) : Clause (s ++ t) (a ++ b) := by
  obtain ⟨last, ⟨done, hrun, rfl⟩, hlast⟩ := ht
  refine ⟨last, ⟨a ++ done, ?_, (List.append_assoc _ _ _).symm⟩, hlast⟩
  rw [run_append, h]
  dsimp only
  rw [hrun]

theorem clause_quote (text : List Char) : Clause (quote text) [.string text] :=
  ⟨_, reads_quote text, closed_stringQuote text⟩

/-! ### Single characters -/

/-- Digits are no other characters. -/
theorem opening_digit {c : Char} (h : c.isDigit = true) : opening c = ([], .number [c]) := by
  have hne (d : Char) (hd : d.isDigit = false) : c ≠ d := by
    rintro rfl
    rw [h] at hd
    cases hd
  have hspace : c.isWhitespace = false := by
    unfold Char.isWhitespace
    simp [hne ' ' (by decide), hne '\t' (by decide), hne '\r' (by decide), hne '\n' (by decide)]
  unfold opening
  simp [hspace, h, hne '\'' (by decide), hne '"' (by decide), hne '-' (by decide),
    hne '/' (by decide), hne '.' (by decide)]

/-- Letters are no other characters. -/
theorem opening_word {c : Char} (h : isWordChar c = true) (hdigit : c.isDigit = false) :
    opening c = ([], .word [c]) := by
  have hne (d : Char) (hd : isWordChar d = false) : c ≠ d := by
    rintro rfl
    rw [h] at hd
    cases hd
  have hspace : c.isWhitespace = false := by
    unfold Char.isWhitespace
    simp [hne ' ' (by decide), hne '\t' (by decide), hne '\r' (by decide), hne '\n' (by decide)]
  unfold opening
  simp [hspace, h, hdigit, hne '\'' (by decide), hne '"' (by decide), hne '-' (by decide),
    hne '/' (by decide), hne '.' (by decide)]

/-- **A word is read back.** -/
theorem reads_word {c : Char} {text : List Char} (hdigit : c.isDigit = false)
    (h : ∀ d ∈ c :: text, isWordChar d = true) :
    Reads (c :: text) [.word (c :: text)] (.word (c :: text)) := by
  refine ⟨[], ?_, rfl⟩
  have hopening := opening_word (h c List.mem_cons_self) hdigit
  rw [run_cons]
  change ((opening c).1 ++ (run (opening c).2 _).1, (run (opening c).2 _).2) = _
  rw [hopening, run_word fun d hd => h d (List.mem_cons_of_mem c hd)]
  rfl

/-- **A number is read back.** -/
theorem reads_number {c : Char} {text : List Char} (hdigit : c.isDigit = true)
    (h : ∀ d ∈ text, isWordChar d = true ∨ d = '.') :
    Reads (c :: text) [.number (c :: text)] (.number (c :: text)) := by
  refine ⟨[], ?_, rfl⟩
  rw [run_cons]
  change ((opening c).1 ++ (run (opening c).2 _).1, (run (opening c).2 _).2) = _
  rw [opening_digit hdigit, run_number h]
  rfl

/-! ### Literals that are not escaped -/

/-- Read a literal up to the quote that closes it. -/
def readString : List Char → List Char → Option (List Char × List Char)
  | _, [] => none
  | acc, [c] => if c = '\'' then some (acc, []) else none
  | acc, c :: d :: s =>
    if c = '\'' then
      if d = '\'' then readString (acc ++ [c]) s else some (acc, d :: s)
    else readString (acc ++ [c]) (d :: s)

theorem lexFrom_cons (m : Mode) (c : Char) (s : List Char) :
    lexFrom m (c :: s) = (lexFrom (advance m c).2 s).map ((advance m c).1 ++ ·) :=
  (lexFrom_append m [c] s).trans (by rw [run_cons, run_nil, List.append_nil])

/-- The literal comes first. -/
theorem lexFrom_string (acc s : List Char) :
    lexFrom (.string acc) s =
      (readString acc s).bind fun read => (lex read.2).map ([.string read.1] ++ ·) := by
  fun_induction readString acc s with
  | case1 acc => rfl
  | case2 acc => rfl
  | case3 acc c hc =>
    rw [lexFrom_cons]
    simp [advance, extend, hc, lexFrom, complete]
  | case4 acc s ih =>
    rw [lexFrom_cons, lexFrom_cons, ← ih]
    change Option.map _ (Option.map _ (lexFrom (.string (acc ++ ['\''])) s)) = _
    simp [advance, extend]
  | case5 acc d s hd =>
    rw [lexFrom_cons]
    change Option.map _ (lexFrom (.stringQuote acc) (d :: s)) = _
    rw [lexFrom_of_parted (show Parted (.stringQuote acc) (d :: s) by simp [Parted, extend, hd])]
    simp [advance, extend, pending, Function.comp_def]
  | case6 acc c d s hc ih =>
    rw [lexFrom_cons, ← ih]
    simp [advance, extend, hc]

/-- What has been read as a literal is its text with quotes doubled. -/
theorem eq_of_readString {acc s text rest : List Char} (h : readString acc s = some (text, rest)) :
    ∃ more, text = acc ++ more ∧ s = double '\'' more ++ '\'' :: rest := by
  fun_induction readString acc s with
  | case1 acc => cases h
  | case2 acc =>
    cases h
    exact ⟨[], (List.append_nil _).symm, rfl⟩
  | case3 acc c hc => cases h
  | case4 acc s ih =>
    obtain ⟨more, rfl, rfl⟩ := ih h
    refine ⟨'\'' :: more, by rw [List.append_assoc]; rfl, ?_⟩
    rw [double_cons, if_pos rfl]
    rfl
  | case5 acc d s hd =>
    cases h
    exact ⟨[], (List.append_nil _).symm, rfl⟩
  | case6 acc c d s hc ih =>
    obtain ⟨more, rfl, hs⟩ := ih h
    refine ⟨c :: more, by rw [List.append_assoc]; rfl, ?_⟩
    rw [hs, double_cons, if_neg hc]
    rfl

/-- More quotes ahead are never made up for. -/
theorem ne_replicate_append_double {text rest rest' : List Char} {k : ℕ} (hk : 0 < k)
    (hrest : rest.head? ≠ some '\'') :
    text ++ '\'' :: rest ≠ List.replicate k '\'' ++ (double '\'' text ++ '\'' :: rest') := by
  obtain ⟨k, rfl⟩ : ∃ j, k = j + 1 := ⟨k - 1, by omega⟩
  induction text generalizing k with
  | nil =>
    intro h
    rw [List.replicate_succ, List.cons_append, List.nil_append] at h
    injection h with _ h
    rw [h] at hrest
    cases k with
    | zero => exact hrest rfl
    | succ k => exact hrest rfl
  | cons c text ih =>
    intro h
    rw [List.replicate_succ, List.cons_append, List.cons_append] at h
    injection h with hc h
    subst hc
    refine ih (k + 1) (Nat.succ_pos _) ?_
    rw [h, double_cons, if_pos rfl, List.replicate_succ', List.replicate_succ']
    simp

/-- A text that stays as it is has no quotes. -/
theorem not_mem_of_append_eq {text rest rest' : List Char} (hrest : rest.head? ≠ some '\'')
    (h : text ++ '\'' :: rest = double '\'' text ++ '\'' :: rest') : '\'' ∉ text := by
  induction text with
  | nil => exact List.not_mem_nil
  | cons c text ih =>
    rw [double_cons] at h
    split at h
    · rename_i hc
      subst hc
      injection h with _ h
      exact absurd h (ne_replicate_append_double (k := 1) Nat.one_pos hrest)
    · rename_i hc
      injection h with _ h
      rw [List.mem_cons, not_or]
      exact ⟨Ne.symm hc, ih h⟩

/-- **A text that is put in quotes without escaping is read back exactly if there is no quote in
it.** -/
theorem lex_unescaped_iff {text rest : List Char} {tokens : List Token}
    (hrest : rest.head? ≠ some '\'') :
    lex ('\'' :: (text ++ '\'' :: rest)) = some (.string text :: tokens) ↔
      '\'' ∉ text ∧ lex rest = some tokens := by
  have hparted : Parted (.stringQuote text) rest := by
    cases rest with
    | nil => rfl
    | cons c rest =>
      have hc : c ≠ '\'' := fun heq => hrest (by rw [heq]; rfl)
      simp [Parted, extend, hc]
  constructor
  · intro h
    have hopen : lex ('\'' :: (text ++ '\'' :: rest)) =
        lexFrom (.string []) (text ++ '\'' :: rest) :=
      (lexFrom_cons _ _ _).trans Option.map_id'
    rw [hopen, lexFrom_string] at h
    obtain ⟨⟨found, rest'⟩, hread, hfound⟩ := Option.bind_eq_some_iff.mp h
    obtain ⟨more, hlex, hmore⟩ := Option.map_eq_some_iff.mp hfound
    injection hmore with htext htokens
    injection htext with htext
    dsimp only at htext hlex
    subst htext
    obtain ⟨text', htext', hsplit⟩ := eq_of_readString hread
    rw [List.nil_append] at htext'
    subst htext'
    have hmem := not_mem_of_append_eq hrest hsplit
    rw [double_of_not_mem hmem] at hsplit
    injection List.append_cancel_left hsplit with _ hrest'
    subst hrest'
    exact ⟨hmem, hlex.trans (congrArg some htokens)⟩
  · rintro ⟨hmem, hlex⟩
    have hquote : '\'' :: (text ++ '\'' :: rest) = quote text ++ rest := by
      unfold quote
      rw [double_of_not_mem hmem]
      simp
    rw [hquote, (reads_quote text).lex_append hparted, hlex]
    rfl

end Lexing
