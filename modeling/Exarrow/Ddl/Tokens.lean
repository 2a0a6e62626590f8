import Exarrow.Ddl.Types
import Exarrow.Query.Clauses

/-!
# The tokens of DDL

What a server reads of the text of a type (`Exarrow.Ddl.typeTokens`): keywords, and numbers between
parentheses. **Every type is read as it was written** (`Exarrow.Ddl.reads_toDdlType`), and what
follows it in a list of columns does not go on with it.
-/

namespace Exarrow.Ddl

open Lexing Numeral Query

/-- The tokens of an integer. -/
def intTokens (x : ℤ) : List Token :=
  if x < 0 then [.symbol '-', .number (natText x.natAbs)] else [.number (natText x.natAbs)]

/-- Tokens in parentheses. -/
def parenthesised (tokens : List Token) : List Token := .symbol '(' :: (tokens ++ [.symbol ')'])

/-- The tokens of a size. -/
def sizeTokens (size : ℕ) : List Token := parenthesised [.number (natText size)]

/-- **The tokens of a type.** -/
def typeTokens : ExasolType → List Token
  | .boolean => [keyword "BOOLEAN"]
  | .char size => keyword "CHAR" :: sizeTokens size
  | .varchar size => keyword "VARCHAR" :: sizeTokens size
  | .decimal precision scale => keyword "DECIMAL" ::
    parenthesised (.number (natText precision.toNat) :: .symbol ',' :: intTokens scale.val)
  | .double => [keyword "DOUBLE"]
  | .date => [keyword "DATE"]
  | .timestamp true => ["TIMESTAMP", "WITH", "LOCAL", "TIME", "ZONE"].map keyword
  | .timestamp false => [keyword "TIMESTAMP"]
  | .intervalYearToMonth => keyword "INTERVAL" :: keyword "YEAR" ::
    (sizeTokens intervalLeadingPrecision ++ [keyword "TO", keyword "MONTH"])
  | .intervalDayToSecond precision => keyword "INTERVAL" :: keyword "DAY" ::
    (sizeTokens intervalLeadingPrecision ++ keyword "TO" :: keyword "SECOND" ::
      sizeTokens precision.toNat)
  | .geometry (some srid) => keyword "GEOMETRY" :: parenthesised (intTokens srid.val)
  | .geometry none => [keyword "GEOMETRY"]
  | .hashtype size =>
    keyword "HASHTYPE" :: parenthesised [.number (natText size), keyword "BYTE"]

/-! ### Numbers -/

/-- **A number is read back.** -/
theorem reads_natText (n : ℕ) : Reads (natText n) [.number (natText n)] (.number (natText n)) := by
  obtain ⟨a, text, htext⟩ := List.exists_cons_of_ne_nil (natText_ne_nil n)
  have hdigits := allDigits_natText n
  rw [htext] at hdigits ⊢
  refine reads_number (hdigits a List.mem_cons_self) fun d hd => .inl ?_
  unfold isWordChar Char.isAlphanum
  rw [hdigits d (List.mem_cons_of_mem a hd)]
  simp

/-- **An integer is read back**, behind nothing that has been begun. -/
theorem reads_intText (x : ℤ) :
    Reads (intText x) (intTokens x) (.number (natText x.natAbs)) := by
  obtain ⟨done, hrun, htokens⟩ := reads_natText x.natAbs
  unfold intText intTokens
  split_ifs with hneg
  · -- the sign stands alone, since a digit follows it
    obtain ⟨a, text, htext⟩ := List.exists_cons_of_ne_nil (natText_ne_nil x.natAbs)
    have hdigit : a.isDigit = true :=
      allDigits_natText x.natAbs a (htext ▸ List.mem_cons_self)
    have hne : a ≠ '-' := by
      rintro rfl
      exact absurd hdigit (by decide)
    have hextend : extend .minus a = none := if_neg hne
    refine ⟨.symbol '-' :: done, ?_, ?_⟩
    · rw [run_cons]
      change (([] : List Token) ++ (run .minus (natText x.natAbs)).1,
        (run .minus (natText x.natAbs)).2) = _
      rw [htext, run_of_extend_eq_none hextend, ← htext, hrun]
      rfl
    · rw [List.cons_append, ← htokens]
  · exact ⟨done, hrun, htokens⟩

/-- Something in parentheses, behind words. -/
theorem reads_parenthesised {label s : List Char} {words tokens : List Token} {m : Mode}
    (hlabel : run .between label = (words ++ [.symbol '('], .between)) (hs : Reads s tokens m)
    (hm : extend m ')' = none) :
    Reads (label ++ (s ++ [')'])) (words ++ parenthesised tokens) .between := by
  obtain ⟨done, hrun, rfl⟩ := hs
  refine ⟨words ++ (.symbol '(' :: (done ++ (pending m ++ [.symbol ')']))), ?_, ?_⟩
  · rw [run_append, hlabel]
    dsimp only
    rw [run_append, hrun]
    dsimp only
    rw [run_of_extend_eq_none hm]
    refine Prod.ext ?_ rfl
    change words ++ [Token.symbol '('] ++ (done ++ (pending m ++ [Token.symbol ')'])) = _
    rw [List.append_assoc]
    rfl
  · rw [parenthesised]
    change _ = _ ++ []
    simp only [List.append_assoc, List.append_nil]

theorem endsName_between : EndsName .between := ⟨rfl, fun _ _ _ => rfl⟩

theorem endsName_word (text : List Char) : EndsName (.word text) :=
  ⟨rfl, fun _ h _ => if_neg (Bool.eq_false_iff.mp h)⟩

theorem extend_number {a : Char} (text : List Char) (hword : isWordChar a = false)
    (hsign : a ≠ '.' ∧ a ≠ '+' ∧ a ≠ '-') : extend (.number text) a = none := by
  simp [extend, hword, hsign]

/-- A size in parentheses. -/
theorem reads_size {label : List Char} {words : List Token} (n : ℕ)
    (hlabel : run .between label = (words ++ [.symbol '('], .between)) :
    Reads (label ++ (natText n ++ [')'])) (words ++ sizeTokens n) .between :=
  reads_parenthesised hlabel (reads_natText n) (extend_number _ rfl (by decide))

/-- The token of a name in quotes. -/
theorem nameTokens_quotedName (name : List Char) :
    nameTokens (quotedName name) = [.quoted name] := by
  rw [nameTokens, (reads_quotedName name).lex_eq rfl, Option.getD_some]

/-- **A name in quotes is read back.** -/
theorem reads_quoted (name : List Char) :
    ∃ last, Reads (quotedName name) [.quoted name] last ∧ EndsName last := by
  obtain ⟨last, hreads, hlast⟩ := (IsName.quoted name).reads
  rw [nameTokens_quotedName] at hreads
  exact ⟨last, hreads, hlast⟩

/-! ### Types -/

theorem endsName_of_reads {s : List Char} {tokens : List Token} (h : Reads s tokens .between) :
    ∃ last, Reads s tokens last ∧ EndsName last := ⟨_, h, endsName_between⟩

/-- A text that ends with a word. -/
theorem reads_words {s word : List Char} {tokens done : List Token}
    (hrun : run .between s = (done, .word word)) (htokens : tokens = done ++ [.word word]) :
    ∃ last, Reads s tokens last ∧ EndsName last := ⟨_, ⟨done, hrun, htokens⟩, endsName_word word⟩

theorem intText_ne_nil (x : ℤ) : intText x ≠ [] := by
  unfold intText
  split_ifs
  · exact List.cons_ne_nil _ _
  · exact natText_ne_nil _

/-- An integer behind a comma. -/
theorem reads_comma (x : ℤ) :
    Reads (',' :: intText x) (.symbol ',' :: intTokens x) (.number (natText x.natAbs)) := by
  have hsymbol : Reads [','] [.symbol ','] .between := ⟨_, rfl, rfl⟩
  exact hsymbol.append (reads_intText x) (intText_ne_nil x) (parted_between _)

/-- **A type is read as it was written.** -/
theorem reads_toDdlType (t : ExasolType) :
    ∃ last, Reads t.toDdlType (typeTokens t) last ∧ EndsName last := by
  cases t with
  | boolean => exact @reads_words _ "BOOLEAN".toList _ [] (by decide +kernel) rfl
  | double => exact @reads_words _ "DOUBLE".toList _ [] (by decide +kernel) rfl
  | date => exact @reads_words _ "DATE".toList _ [] (by decide +kernel) rfl
  | timestamp tz =>
    cases tz with
    | false => exact @reads_words _ "TIMESTAMP".toList _ [] (by decide +kernel) rfl
    | true =>
      exact @reads_words _ "ZONE".toList _ (["TIMESTAMP", "WITH", "LOCAL", "TIME"].map keyword)
        (by decide +kernel) rfl
  | intervalYearToMonth =>
    exact @reads_words _ "MONTH".toList _ (keyword "INTERVAL" :: keyword "YEAR" ::
      (sizeTokens intervalLeadingPrecision ++ [keyword "TO"])) (by decide +kernel) rfl
  | char size =>
    refine endsName_of_reads ?_
    change Reads ("CHAR(".toList ++ natText size ++ [')']) _ _
    rw [List.append_assoc]
    exact @reads_size _ [keyword "CHAR"] size (by decide +kernel)
  | varchar size =>
    refine endsName_of_reads ?_
    change Reads ("VARCHAR(".toList ++ natText size ++ [')']) _ _
    rw [List.append_assoc]
    exact @reads_size _ [keyword "VARCHAR"] size (by decide +kernel)
  | decimal precision scale =>
    refine endsName_of_reads ?_
    have hpair := (reads_natText precision.toNat).append (reads_comma scale.val)
      (List.cons_ne_nil _ _) (extend_number _ rfl (by decide))
    have hreads := @reads_parenthesised "DECIMAL(".toList _ [keyword "DECIMAL"] _ _
      (by decide +kernel) hpair (extend_number _ rfl (by decide))
    have htext (label x y : List Char) :
        label ++ x ++ [','] ++ y ++ [')'] = label ++ (x ++ ',' :: y ++ [')']) := by simp
    change Reads ("DECIMAL(".toList ++ natText precision.toNat ++ [','] ++ intText scale.val ++
      [')']) _ _
    rw [htext]
    exact hreads
  | intervalDayToSecond precision =>
    refine endsName_of_reads ?_
    have hlabel : run .between ("INTERVAL DAY(".toList ++ natText intervalLeadingPrecision ++
        ") TO SECOND(".toList) = (keyword "INTERVAL" :: keyword "DAY" ::
          (sizeTokens intervalLeadingPrecision ++ [keyword "TO", keyword "SECOND"]) ++
            [.symbol '('], .between) := by decide +kernel
    have hreads := reads_size precision.toNat hlabel
    rw [← List.append_assoc] at hreads
    exact hreads
  | geometry srid =>
    cases srid with
    | none => exact @reads_words _ "GEOMETRY".toList _ [] (by decide +kernel) rfl
    | some srid =>
      refine endsName_of_reads ?_
      change Reads ("GEOMETRY(".toList ++ intText srid.val ++ [')']) _ _
      rw [List.append_assoc]
      exact @reads_parenthesised "GEOMETRY(".toList _ [keyword "GEOMETRY"] _ _ (by decide +kernel)
        (reads_intText srid.val) (extend_number _ rfl (by decide))
  | hashtype size =>
    refine endsName_of_reads ?_
    have hbyte : Reads " BYTE".toList [keyword "BYTE"] (.word "BYTE".toList) :=
      ⟨[], by decide +kernel, rfl⟩
    have hinner := (reads_natText size).append hbyte (by decide) (extend_number _ rfl (by decide))
    have hreads := @reads_parenthesised "HASHTYPE(".toList _ [keyword "HASHTYPE"] _ _
      (by decide +kernel) hinner ((endsName_word _).extend ')' rfl (by decide))
    have htext (label x unit : List Char) :
        label ++ x ++ (unit ++ [')']) = label ++ (x ++ unit ++ [')']) := by simp
    change Reads ("HASHTYPE(".toList ++ natText size ++ (" BYTE".toList ++ [')'])) _ _
    rw [htext]
    exact hreads

/-- No type is written as nothing. -/
theorem toDdlType_ne_nil (t : ExasolType) : t.toDdlType ≠ [] := by
  intro h
  obtain ⟨last, ⟨done, hrun, htokens⟩, -⟩ := reads_toDdlType t
  rw [h] at hrun
  cases hrun
  have hne : typeTokens t ≠ [] := by
    cases t with
    | timestamp tz => cases tz <;> exact List.cons_ne_nil _ _
    | geometry srid => cases srid <;> exact List.cons_ne_nil _ _
    | _ => exact List.cons_ne_nil _ _
  exact hne htokens

end Exarrow.Ddl
