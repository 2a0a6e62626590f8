import Exarrow.Foundations.Checked
import Exarrow.Foundations.Text
import Mathlib.Data.List.Infix

/-!
# Searching a text and cutting it

A pattern is searched for in a text, and the byte at which its first occurrence begins is returned
(`Text.find?`). A slice between two such bytes is what stands between two occurrences
(`Checked.sliceText_append`); a program that asks for a slice that ends before it begins, behind
the end or inside a character is stopped (`Checked.sliceText`), and so is one that asks for such
elements of a list (`Checked.slice`).

Two searches in one text know nothing of each other. **What one pattern ends with before the other
begins** is therefore said without offsets: some occurrence of the second has an occurrence of the
first before it, and if it is the first one then any other has
(`Text.find?_lt_iff`).
-/

namespace Text

/-- The byte at which the first occurrence of a pattern begins. -/
def find? (pattern : List Char) : List Char → Option ℕ
  | [] => if pattern = [] then some 0 else none
  | c :: s => if pattern <+: c :: s then some 0 else (find? pattern s).map (c.utf8Size + ·)

variable {pattern : List Char}

theorem find?_of_start {s : List Char} (h : pattern <+: s) : find? pattern s = some 0 := by
  cases s with
  | nil => exact if_pos (List.prefix_nil.mp h)
  | cons c s => exact if_pos h

theorem find?_cons {c : Char} {s : List Char} (h : ¬pattern <+: c :: s) :
    find? pattern (c :: s) = (find? pattern s).map (c.utf8Size + ·) := if_neg h

/-- A pattern is found where it is. -/
theorem exists_of_find? {s : List Char} {i : ℕ} (h : find? pattern s = some i) :
    ∃ before after, s = before ++ (pattern ++ after) ∧ byteLen before = i := by
  induction s generalizing i with
  | nil =>
    rw [find?] at h
    split at h
    · rename_i hnil
      cases h
      exact ⟨[], [], by simp [hnil], rfl⟩
    · cases h
  | cons c s ih =>
    by_cases hstart : pattern <+: c :: s
    · rw [find?_of_start hstart] at h
      cases h
      obtain ⟨after, hafter⟩ := hstart
      exact ⟨[], after, hafter.symm, rfl⟩
    · rw [find?_cons hstart] at h
      obtain ⟨j, hj, rfl⟩ := Option.map_eq_some_iff.mp h
      obtain ⟨before, after, rfl, rfl⟩ := ih hj
      exact ⟨c :: before, after, rfl, rfl⟩

/-- What is found is the first occurrence. -/
theorem exists_find?_le {before after : List Char} :
    ∃ i, find? pattern (before ++ (pattern ++ after)) = some i ∧ i ≤ byteLen before := by
  induction before with
  | nil => exact ⟨0, find?_of_start (List.prefix_append pattern after), Nat.le_refl 0⟩
  | cons c before ih =>
    rw [List.cons_append]
    by_cases hstart : pattern <+: c :: (before ++ (pattern ++ after))
    · exact ⟨0, find?_of_start hstart, Nat.zero_le _⟩
    · obtain ⟨i, hi, hle⟩ := ih
      exact ⟨c.utf8Size + i, by rw [find?_cons hstart, hi]; rfl, Nat.add_le_add_left hle _⟩

/-- A pattern is found exactly if it is there. -/
theorem find?_eq_none {s : List Char} : find? pattern s = none ↔ ¬pattern <:+: s := by
  constructor
  · rintro h ⟨before, after, rfl⟩
    obtain ⟨i, hi, -⟩ := @exists_find?_le pattern before after
    rw [← List.append_assoc, h] at hi
    cases hi
  · intro h
    cases hfind : find? pattern s with
    | none => rfl
    | some i =>
      obtain ⟨before, after, rfl, -⟩ := exists_of_find? hfind
      exact absurd ⟨before, after, List.append_assoc ..⟩ h

/-- A pattern is found where it is if no occurrence begins before. -/
theorem find?_append {before after : List Char}
    (h : ∀ u v, before = u ++ v → v ≠ [] → ¬pattern <+: v ++ (pattern ++ after)) :
    find? pattern (before ++ (pattern ++ after)) = some (byteLen before) := by
  induction before with
  | nil => exact find?_of_start (List.prefix_append pattern after)
  | cons c before ih =>
    have hstart : ¬pattern <+: c :: (before ++ (pattern ++ after)) :=
      h [] (c :: before) rfl (List.cons_ne_nil c before)
    rw [List.cons_append, find?_cons hstart,
      ih fun u v huv hv => h (c :: u) v (by rw [huv]; rfl) hv]
    rfl

/-! ### Beginnings of a text -/

/-- Of two beginnings of a text the one with fewer bytes is a beginning of the other. -/
theorem prefix_of_byteLen_le {s a b : List Char} (ha : a <+: s) (hb : b <+: s)
    (h : byteLen a ≤ byteLen b) : a <+: b := by
  rcases List.prefix_or_prefix_of_prefix ha hb with hab | ⟨t, rfl⟩
  · exact hab
  · rw [byteLen_append] at h
    have ht : t = [] := byteLen_eq_zero.mp (by omega)
    rw [ht, List.append_nil]

/-- **Which of two patterns is first.** The first occurrence of the one pattern ends behind the
beginning of the first occurrence of the other exactly if the other one has an occurrence with no
whole occurrence of the one before it. -/
theorem find?_lt_iff {other s : List Char} {i j : ℕ} (hi : find? pattern s = some i)
    (hj : find? other s = some j) :
    j < i + byteLen pattern ↔
      ∃ before after, s = before ++ (other ++ after) ∧ ¬pattern <:+: before := by
  obtain ⟨u, v, hu, rfl⟩ := exists_of_find? hi
  constructor
  · intro hlt
    obtain ⟨before, after, rfl, rfl⟩ := exists_of_find? hj
    refine ⟨before, after, rfl, ?_⟩
    rintro ⟨a, b, rfl⟩
    obtain ⟨k, hk, hle⟩ := @exists_find?_le pattern a (b ++ (other ++ after))
    have hsame : a ++ (pattern ++ (b ++ (other ++ after))) = a ++ pattern ++ b ++ (other ++ after) := by
      simp only [List.append_assoc]
    rw [hsame, hi] at hk
    cases hk
    rw [byteLen_append, byteLen_append] at hlt
    omega
  · rintro ⟨before, after, hs, hnot⟩
    by_contra hge
    obtain ⟨k, hk, hle⟩ := @exists_find?_le other before after
    rw [← hs, hj] at hk
    cases hk
    refine hnot ?_
    have hpre : u ++ pattern <+: before := by
      refine @prefix_of_byteLen_le s _ _ ⟨v, ?_⟩ ⟨other ++ after, hs.symm⟩ ?_
      · rw [hu, List.append_assoc]
      · rw [byteLen_append]
        omega
    obtain ⟨t, ht⟩ := hpre
    exact ⟨u, t, ht⟩

/-! ### Cutting behind a beginning -/

theorem dropBytes?_append (a b : List Char) : dropBytes? (byteLen a) (a ++ b) = some b := by
  induction a with
  | nil => cases b <;> rfl
  | cons c a ih =>
    have hc := Char.utf8Size_pos c
    have hlen : byteLen (c :: a) = (c.utf8Size + byteLen a - 1) + 1 := by
      have h : byteLen (c :: a) = c.utf8Size + byteLen a := rfl
      omega
    have hrest : c.utf8Size + byteLen a - 1 + 1 - c.utf8Size = byteLen a := by omega
    rw [hlen, List.cons_append, dropBytes?, if_pos (by omega), hrest, ih]

theorem takeBytes?_append (a b : List Char) : takeBytes? (byteLen a) (a ++ b) = some a := by
  induction a with
  | nil => cases b <;> rfl
  | cons c a ih =>
    have hc := Char.utf8Size_pos c
    have hlen : byteLen (c :: a) = (c.utf8Size + byteLen a - 1) + 1 := by
      have h : byteLen (c :: a) = c.utf8Size + byteLen a := rfl
      omega
    have hrest : c.utf8Size + byteLen a - 1 + 1 - c.utf8Size = byteLen a := by omega
    rw [hlen, List.cons_append, takeBytes?, if_pos (by omega), hrest, ih]
    rfl

end Text

namespace Checked

variable {ε α : Type}

/-- The elements from `i` up to `j`. The program stops if there is no such slice. -/
def slice (i j : ℕ) (xs : List α) : Exec ε (List α) :=
  if i ≤ j ∧ j ≤ xs.length then .ok ((xs.take j).drop i) else stop

/-- The text from the byte `i` up to the byte `j`. The program stops if there is no such slice. -/
def sliceText (i j : ℕ) (s : List Char) : Exec ε (List Char) :=
  if i ≤ j then
    match Text.slice? i j s with
    | some t => .ok t
    | none => stop
  else stop

theorem slice_of_le {i j : ℕ} {xs : List α} (hij : i ≤ j) (hj : j ≤ xs.length) :
    (slice i j xs : Exec ε (List α)) = .ok ((xs.take j).drop i) := if_pos ⟨hij, hj⟩

/-- A slice between two parts of a list. -/
theorem slice_append {i j : ℕ} {a m b : List α} (hi : a.length = i) (hj : i + m.length = j) :
    (slice i j (a ++ (m ++ b)) : Exec ε (List α)) = .ok m := by
  subst hi
  subst hj
  rw [slice_of_le (Nat.le_add_right ..) (by simp only [List.length_append]; omega),
    List.drop_take, List.drop_left, Nat.add_sub_cancel_left, List.take_left]

/-- A slice between two parts of a text. -/
theorem sliceText_append (a m b : List Char) :
    (sliceText (Text.byteLen a) (Text.byteLen a + Text.byteLen m) (a ++ (m ++ b)) :
      Exec ε (List Char)) = .ok m := by
  have hslice : Text.slice? (Text.byteLen a) (Text.byteLen a + Text.byteLen m) (a ++ (m ++ b)) =
      some m := by
    rw [Text.slice?, Text.dropBytes?_append, Nat.add_sub_cancel_left]
    exact Text.takeBytes?_append m b
  rw [sliceText, if_pos (Nat.le_add_right ..), hslice]

end Checked
