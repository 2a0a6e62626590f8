import Exarrow.Foundations.Lexing

/-!
# Texts that are put together of segments

A text that is put together of segments is to be read as the segments are, one behind the other
(`Lexing.apart`). Equal tokens alone do not say so: a comment that swallows some tokens may make up
for them elsewhere. So each token comes with the offset at which the lexer knows that it has ended
(`Lexing.lexAt`).

**The tokens of the whole text are those of the segments exactly if no segment begins with a
character that goes on with the token before** (`Lexing.lexAt_flatten_iff`).
-/

namespace Lexing

/-- Read a text from an offset on: each token with the offset at which it is known to have ended,
and whether the text may end. -/
def lexAt : ℕ → Mode → List Char → List (ℕ × Token) × Bool
  | i, m, [] => ((pending m).map (i, ·), complete m)
  | i, m, c :: s =>
    let (tokens, m') := advance m c
    let (rest, ended) := lexAt (i + 1) m' s
    (tokens.map (i, ·) ++ rest, ended)

theorem lexAt_cons (i : ℕ) (m : Mode) (c : Char) (s : List Char) :
    lexAt i m (c :: s) =
      ((advance m c).1.map (i, ·) ++ (lexAt (i + 1) (advance m c).2 s).1,
        (lexAt (i + 1) (advance m c).2 s).2) := rfl

/-- Segments that are read on their own, one behind the other. -/
def apart : ℕ → List (List Char) → List (ℕ × Token) × Bool
  | _, [] => ([], true)
  | i, segment :: segments =>
    let (tokens, ended) := lexAt i .between segment
    let (rest, endedRest) := apart (i + segment.length) segments
    (tokens ++ rest, ended && endedRest)

theorem apart_cons (i : ℕ) (segment : List Char) (segments : List (List Char)) :
    apart i (segment :: segments) =
      ((lexAt i .between segment).1 ++ (apart (i + segment.length) segments).1,
        (lexAt i .between segment).2 && (apart (i + segment.length) segments).2) := rfl

/-- Outside of quotes and comments. -/
def isOpen : Mode → Bool
  | .lineComment | .blockComment | .blockStar | .string _ | .quoted _ => false
  | _ => true

/-- No segment begins with a character that goes on with the token before. -/
def Clean : Mode → List (List Char) → Prop
  | _, [] => True
  | m, [] :: segments => Clean m segments
  | m, (c :: s) :: segments => extend m c = none ∧ Clean (run .between (c :: s)).2 segments

/-- Without the offsets, these are the tokens of the text. -/
theorem lexFrom_eq (i : ℕ) (m : Mode) (s : List Char) :
    lexFrom m s = if (lexAt i m s).2 then some ((lexAt i m s).1.map Prod.snd) else none := by
  induction s generalizing i m with
  | nil =>
    have hmap : ((pending m).map (i, ·)).map Prod.snd = pending m := by simp [Function.comp_def]
    change (if complete m = true then some ([] ++ pending m) else none) =
      if complete m = true then some (((pending m).map (i, ·)).map Prod.snd) else none
    rw [hmap, List.nil_append]
  | cons c s ih =>
    rw [lexFrom_cons, ih (i + 1), lexAt_cons]
    dsimp only
    split
    · simp [Function.comp_def]
    · rfl

theorem complete_of_isOpen {m : Mode} (h : isOpen m = true) : complete m = true := by
  cases m <;> first | rfl | cases h

/-- A character that ends a token. -/
theorem lexAt_of_extend_eq_none {m : Mode} {c : Char} (h : extend m c = none) (i : ℕ)
    (s : List Char) :
    lexAt i m (c :: s) =
      ((pending m).map (i, ·) ++ (lexAt i .between (c :: s)).1, (lexAt i .between (c :: s)).2) := by
  rw [lexAt_cons, lexAt_cons, advance_of_extend_eq_none h, List.map_append, List.append_assoc]

/-- A text is read on from the mode at the end of the text before. -/
theorem exists_lexAt_append (i : ℕ) (m : Mode) (s : List Char) :
    ∃ done, ∀ t, lexAt i m (s ++ t) =
      (done ++ (lexAt (i + s.length) (run m s).2 t).1, (lexAt (i + s.length) (run m s).2 t).2) := by
  induction s generalizing i m with
  | nil => exact ⟨[], fun t => rfl⟩
  | cons c s ih =>
    obtain ⟨done, hdone⟩ := ih (i + 1) (advance m c).2
    refine ⟨(advance m c).1.map (i, ·) ++ done, fun t => ?_⟩
    have hlength : i + (c :: s).length = i + 1 + s.length := by
      rw [List.length_cons]
      omega
    rw [List.cons_append, lexAt_cons, hdone, hlength, run_cons, List.append_assoc]

/-- Tokens end behind the offset from which the text is read. -/
theorem le_of_mem_lexAt {i : ℕ} {m : Mode} {s : List Char} {token : ℕ × Token}
    (h : token ∈ (lexAt i m s).1) : i ≤ token.1 := by
  induction s generalizing i m with
  | nil =>
    obtain ⟨t, -, rfl⟩ := List.mem_map.mp h
    exact Nat.le_refl i
  | cons c s ih =>
    rw [lexAt_cons] at h
    rcases List.mem_append.mp h with h | h
    · obtain ⟨t, -, rfl⟩ := List.mem_map.mp h
      exact Nat.le_refl i
    · exact Nat.le_of_succ_le (ih h)

/-- A character that goes on with a token keeps it from ending. -/
theorem length_lt_of_extend {m m' : Mode} {c : Char} {tokens : List Token}
    (h : extend m c = some (tokens, m')) (hm : isOpen m = true) :
    tokens.length < (pending m).length := by
  cases m with
  | lineComment => cases hm
  | blockComment => cases hm
  | blockStar => cases hm
  | string => cases hm
  | quoted => cases hm
  | between => cases h
  | number text =>
    simp only [extend] at h
    split at h
    · cases h
      exact Nat.one_pos
    · split at h
      · cases h
        exact Nat.one_pos
      · cases h
  | signed text sign =>
    simp only [extend] at h
    split at h
    · cases h
      exact Nat.two_pos
    · split at h
      · cases h
        exact Nat.one_lt_two
      · cases h
  | _ =>
    simp only [extend] at h
    split at h
    · cases h
      exact Nat.one_pos
    · cases h

/-- The tokens that end at an offset. -/
def endingAt (i : ℕ) (tokens : List (ℕ × Token)) : ℕ := tokens.countP (·.1 = i)

theorem endingAt_map (i : ℕ) (tokens : List Token) :
    endingAt i (tokens.map (i, ·)) = tokens.length := by
  unfold endingAt
  rw [List.countP_map]
  simp [Function.comp_def]

theorem endingAt_append (i : ℕ) (s t : List (ℕ × Token)) :
    endingAt i (s ++ t) = endingAt i s + endingAt i t := List.countP_append

/-- **A character that goes on with a token** is told from one that ends it by the tokens that end
there. -/
theorem lexAt_ne_of_extend {m : Mode} {c : Char} {read : List Token × Mode}
    (h : extend m c = some read) (hm : isOpen m = true) (i : ℕ) (s : List Char)
    (rest : List (ℕ × Token)) : (lexAt i m (c :: s)).1 ≠ (pending m).map (i, ·) ++ rest := by
  obtain ⟨tokens, m'⟩ := read
  intro heq
  have hadvance : advance m c = (tokens, m') := by
    unfold advance
    rw [h]
  have hlater : endingAt i (lexAt (i + 1) m' s).1 = 0 := by
    unfold endingAt
    rw [List.countP_eq_zero]
    intro token htoken
    have hle := le_of_mem_lexAt htoken
    simp only [decide_eq_true_eq]
    omega
  have hcount := congrArg (endingAt i) heq
  rw [lexAt_cons, hadvance, endingAt_append, endingAt_append, endingAt_map, endingAt_map] at hcount
  dsimp only at hcount
  have hlt := length_lt_of_extend h hm
  omega

/-- **The tokens of a text are those of its segments exactly if each segment begins anew.** All
segments but the last are to end outside of quotes and comments. -/
theorem lexAt_flatten_iff {segments : List (List Char)}
    (h : ∀ segment ∈ segments.dropLast, isOpen (run .between segment).2 = true) (i : ℕ) {m : Mode}
    (hm : segments ≠ [] → isOpen m = true) :
    lexAt i m segments.flatten =
        ((pending m).map (i, ·) ++ (apart i segments).1, complete m && (apart i segments).2) ↔
      Clean m segments := by
  induction segments generalizing i m with
  | nil => simp [lexAt, apart, Clean]
  | cons segment segments ih =>
    have hopen := hm (List.cons_ne_nil _ _)
    have hrest : ∀ segment ∈ segments.dropLast, isOpen (run .between segment).2 = true := by
      intro next hnext
      refine h next ?_
      cases segments with
      | nil => cases hnext
      | cons first segments => exact List.mem_cons_of_mem _ hnext
    have hsegment (hne : segments ≠ []) : isOpen (run .between segment).2 = true := by
      refine h segment ?_
      obtain ⟨first, segments, rfl⟩ := List.exists_cons_of_ne_nil hne
      exact List.mem_cons_self
    cases segment with
    | nil =>
      have happart : apart i ([] :: segments) = apart i segments := by
        simp [apart, lexAt, pending, complete]
      rw [List.flatten_cons, List.nil_append, happart]
      exact ih hrest i fun _ => hopen
    | cons c s =>
      change _ ↔ extend m c = none ∧ Clean (run .between (c :: s)).2 segments
      cases hextend : extend m c with
      | some read =>
        refine iff_of_false (fun heq => ?_) (fun h => Option.some_ne_none _ h.1)
        exact lexAt_ne_of_extend hextend hopen i (s ++ segments.flatten) _ (congrArg Prod.fst heq)
      | none =>
        obtain ⟨done, hdone⟩ := exists_lexAt_append i .between (c :: s)
        have halone := hdone []
        rw [List.append_nil] at halone
        have hwhole : lexAt i m ((c :: s) :: segments).flatten =
            ((pending m).map (i, ·) ++ (done ++
              (lexAt (i + (c :: s).length) (run .between (c :: s)).2 segments.flatten).1),
              (lexAt (i + (c :: s).length) (run .between (c :: s)).2 segments.flatten).2) := by
          have hparted := lexAt_of_extend_eq_none hextend i (s ++ segments.flatten)
          rw [← List.cons_append, hdone segments.flatten] at hparted
          exact hparted
        have happart : apart i ((c :: s) :: segments) =
            (done ++ ((pending (run .between (c :: s)).2).map (i + (c :: s).length, ·) ++
              (apart (i + (c :: s).length) segments).1),
              complete (run .between (c :: s)).2 && (apart (i + (c :: s).length) segments).2) := by
          rw [apart_cons, halone]
          dsimp only
          rw [List.append_assoc]
          rfl
        rw [hwhole, happart, complete_of_isOpen hopen, Bool.true_and,
          ← ih hrest (i + (c :: s).length) hsegment]
        simp only [Prod.ext_iff, List.append_cancel_left_eq, true_and]

end Lexing
