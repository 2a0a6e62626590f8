import Mathlib.Algebra.GroupWithZero.Nat
import Mathlib.Data.List.TakeDrop
import Mathlib.Data.List.TakeWhile
import Mathlib.Tactic.Common

/-!
# Texts and their bytes

Texts are lists of characters, but a program may cut them at byte offsets. An
offset that falls inside a character cuts nothing: `Text.takeBytes?` and
`Text.slice?` are undefined there. Splitting and trimming by a character never
meets that question.
-/

namespace Text

/-- The number of bytes of a text in UTF-8. -/
def byteLen (s : List Char) : ℕ := (s.map Char.utf8Size).sum

/-- The bytes of a text in UTF-8. -/
def bytes (s : List Char) : List UInt8 := s.flatMap String.utf8EncodeChar

/-- The first `n` bytes of a text, if they end where a character ends. -/
def takeBytes? : ℕ → List Char → Option (List Char)
  | 0, _ => some []
  | _ + 1, [] => none
  | n + 1, c :: s =>
    if c.utf8Size ≤ n + 1 then (takeBytes? (n + 1 - c.utf8Size) s).map (c :: ·) else none
termination_by structural _ s => s

/-- The text without its first `n` bytes, if they end where a character ends. -/
def dropBytes? : ℕ → List Char → Option (List Char)
  | 0, s => some s
  | _ + 1, [] => none
  | n + 1, c :: s =>
    if c.utf8Size ≤ n + 1 then dropBytes? (n + 1 - c.utf8Size) s else none
termination_by structural _ s => s

/-- The bytes from `i` up to `j`, if both ends are ends of characters. -/
def slice? (i j : ℕ) (s : List Char) : Option (List Char) :=
  (dropBytes? i s).bind (takeBytes? (j - i))

/-- Cut the text at the first occurrence of a character. -/
def splitOnce (a : Char) (s : List Char) : Option (List Char × List Char) :=
  match s.span (· ≠ a) with
  | (before, _ :: after) => some (before, after)
  | (_, []) => none

/-- Cut the text at the last occurrence of a character. -/
def rsplitOnce (a : Char) (s : List Char) : Option (List Char × List Char) :=
  (splitOnce a s.reverse).map fun parts => (parts.2.reverse, parts.1.reverse)

/-- What follows a beginning, if the text has that beginning. -/
def stripPrefix? (beginning s : List Char) : Option (List Char) :=
  if beginning <+: s then some (s.drop beginning.length) else none

/-- The text without the given character at its beginning. -/
def trimStart (a : Char) (s : List Char) : List Char := s.dropWhile (· = a)

/-- The text without the given character at both ends. -/
def trim (a : Char) (s : List Char) : List Char :=
  (trimStart a (trimStart a s).reverse).reverse

/-- The characters that Unicode counts as white space. -/
def isWhitespace (c : Char) : Bool :=
  let n := c.toNat
  (9 ≤ n && n ≤ 13) || n = 0x20 || n = 0x85 || n = 0xA0 || n = 0x1680 ||
    (0x2000 ≤ n && n ≤ 0x200A) || n = 0x2028 || n = 0x2029 || n = 0x202F || n = 0x205F || n = 0x3000

/-- The text without white space at both ends. -/
def trimWhitespace (s : List Char) : List Char :=
  ((s.dropWhile isWhitespace).reverse.dropWhile isWhitespace).reverse

/-- The words of a text, between which there is white space. -/
def splitWhitespace (s : List Char) : List (List Char) :=
  (s.splitOnP isWhitespace).filter (· ≠ [])

/-- Cut the text into at most three parts. -/
def splitThree (a : Char) (s : List Char) : List (List Char) :=
  match splitOnce a s with
  | none => [s]
  | some (x, r) =>
    match splitOnce a r with
    | none => [x, r]
    | some (y, z) => [x, y, z]

/-- The text that a byte string is in UTF-8, if it is one. -/
def decode? (bs : List UInt8) : Option (List Char) :=
  bs.toByteArray.utf8Decode?.map Array.toList

/-- **The bytes of a text are decoded as that text.** -/
@[simp] theorem decode?_bytes (s : List Char) : decode? (bytes s) = some s := by
  have h : (bytes s).toByteArray = s.utf8Encode := rfl
  unfold decode?
  rw [h, List.utf8Decode?_utf8Encode]
  rfl

/-- A byte below 128 of a text is a character of the text. -/
theorem mem_of_mem_bytes {s : List Char} {d : Char} (hd : d.toNat < 128)
    (h : UInt8.ofNat d.toNat ∈ bytes s) : d ∈ s := by
  obtain ⟨c, hc, hmem⟩ := List.mem_flatMap.mp h
  have hbyte {n : ℕ} (hn : n < 256) (heq : UInt8.ofNat d.toNat = UInt8.ofNat n) :
      d.toNat = n := by
    have hnat := congrArg UInt8.toNat heq
    have hd256 : d.toNat < UInt8.size := hd.trans (by decide)
    rwa [UInt8.toNat_ofNat_of_lt' hd256, UInt8.toNat_ofNat_of_lt' hn] at hnat
  have hfar {n : ℕ} (hn : 128 ≤ n) (hn' : n < 256) : UInt8.ofNat d.toNat ≠ UInt8.ofNat n :=
    fun heq => by
      have := hbyte hn' heq
      omega
  suffices hcd : c.val.toNat = d.toNat by
    have heq : c = d := Char.ext (UInt32.toNat_inj.mp hcd)
    exact heq ▸ hc
  unfold String.utf8EncodeChar at hmem
  dsimp only at hmem
  split at hmem
  · rename_i hle
    exact (hbyte (by omega) (List.mem_singleton.mp hmem)).symm
  · split at hmem
    · simp only [List.mem_cons, List.not_mem_nil, or_false] at hmem
      rcases hmem with hmem | hmem <;> exact absurd hmem (hfar (by omega) (by omega))
    · split at hmem
      · simp only [List.mem_cons, List.not_mem_nil, or_false] at hmem
        rcases hmem with hmem | hmem | hmem <;> exact absurd hmem (hfar (by omega) (by omega))
      · simp only [List.mem_cons, List.not_mem_nil, or_false] at hmem
        rcases hmem with hmem | hmem | hmem | hmem <;>
          exact absurd hmem (hfar (by omega) (by omega))

/-- **Bytes that are decoded as a text** are those of the text. -/
theorem bytes_of_decode? {bs : List UInt8} {s : List Char} (h : decode? bs = some s) :
    bytes s = bs := by
  obtain ⟨chars, hchars, rfl⟩ := Option.map_eq_some_iff.mp h
  have hsome : bs.toByteArray.utf8Decode?.isSome := by rw [hchars]; rfl
  have hencode : (bs.toByteArray.utf8Decode?.get hsome).toList.utf8Encode = bs.toByteArray :=
    ByteArray.utf8Encode_get_utf8Decode?
  have hget : bs.toByteArray.utf8Decode?.get hsome = chars := by simp [hchars]
  rw [hget] at hencode
  have hbytes : (bytes chars.toList).toByteArray = bs.toByteArray := hencode
  exact List.toByteArray_inj.mp hbytes

/-- The characters of a piece are those of the text, the separator excepted. -/
theorem mem_of_mem_splitOn {a c : Char} {s piece : List Char} (hp : piece ∈ s.splitOn a)
    (hc : c ∈ piece) : c ∈ s ∧ c ≠ a := by
  induction s generalizing piece with
  | nil =>
    rw [List.splitOn_nil, List.mem_singleton] at hp
    rw [hp] at hc
    cases hc
  | cons x s ih =>
    rw [List.splitOn_cons_eq_if_modifyHead] at hp
    split at hp
    · rcases List.mem_cons.mp hp with rfl | hp
      · cases hc
      · obtain ⟨hmem, hne⟩ := ih hp hc
        exact ⟨List.mem_cons_of_mem x hmem, hne⟩
    · rename_i hx
      obtain ⟨first, rest, hsplit⟩ := List.exists_cons_of_ne_nil (List.splitOn_ne_nil a s)
      rw [hsplit, List.modifyHead_cons] at hp
      rcases List.mem_cons.mp hp with rfl | hp
      · rcases List.mem_cons.mp hc with rfl | hc
        · exact ⟨List.mem_cons_self, fun h => hx (beq_iff_eq.mpr h)⟩
        · obtain ⟨hmem, hne⟩ := ih (hsplit ▸ List.mem_cons_self) hc
          exact ⟨List.mem_cons_of_mem x hmem, hne⟩
      · obtain ⟨hmem, hne⟩ := ih (hsplit ▸ List.mem_cons_of_mem first hp) hc
        exact ⟨List.mem_cons_of_mem x hmem, hne⟩

/-! ### Putting together what was cut -/

/-- A text that was cut once. -/
theorem eq_of_splitOnce {a : Char} {s x y : List Char} (h : splitOnce a s = some (x, y)) :
    s = x ++ a :: y := by
  unfold splitOnce at h
  rw [List.span_eq_takeWhile_dropWhile] at h
  have hparts := List.takeWhile_append_dropWhile (p := fun c => decide (c ≠ a)) (l := s)
  split at h
  · rename_i before c after heq
    cases h
    obtain ⟨hx, hy⟩ := Prod.mk.inj heq
    have hne : s.dropWhile (fun c => decide (c ≠ a)) ≠ [] := by
      rw [hy]
      exact List.cons_ne_nil _ _
    have hhead := List.head_dropWhile_not (fun c => decide (c ≠ a)) hne
    simp only [hy, List.head_cons, decide_eq_false_iff_not, not_not] at hhead
    rw [hx, hy, hhead] at hparts
    exact hparts.symm
  · cases h

/-- A text that is not cut. -/
theorem splitThree_eq_one {a : Char} {s x : List Char} (h : splitThree a s = [x]) : s = x := by
  unfold splitThree at h
  split at h
  · exact List.head_eq_of_cons_eq h
  · split at h <;> cases h

/-- A text that is cut into two parts. -/
theorem splitThree_eq_two {a : Char} {s x y : List Char} (h : splitThree a s = [x, y]) :
    s = x ++ a :: y := by
  unfold splitThree at h
  split at h
  · cases h
  · rename_i hx
    split at h
    · cases h
      exact eq_of_splitOnce hx
    · cases h

/-- A text that is cut into three parts. -/
theorem splitThree_eq_three {a : Char} {s x y z : List Char} (h : splitThree a s = [x, y, z]) :
    s = x ++ a :: (y ++ a :: z) := by
  unfold splitThree at h
  split at h
  · cases h
  · rename_i hx
    split at h
    · cases h
    · rename_i hy
      cases h
      rw [eq_of_splitOnce hx, eq_of_splitOnce hy]

/-- What is trimmed at the beginning. -/
theorem exists_eq_trimStart (a : Char) (s : List Char) :
    ∃ k, s = List.replicate k a ++ trimStart a s := by
  refine ⟨(s.takeWhile fun c => decide (c = a)).length, ?_⟩
  have hall : s.takeWhile (fun c => decide (c = a)) =
      List.replicate (s.takeWhile fun c => decide (c = a)).length a :=
    List.eq_replicate_of_mem fun c hc =>
      of_decide_eq_true (List.mem_takeWhile_imp (p := fun c => decide (c = a)) hc)
  rw [← hall]
  exact (List.takeWhile_append_dropWhile (p := fun c => decide (c = a))).symm

/-- What is trimmed at both ends. -/
theorem exists_eq_trim (a : Char) (s : List Char) :
    ∃ k k', s = List.replicate k a ++ trim a s ++ List.replicate k' a := by
  obtain ⟨k, hk⟩ := exists_eq_trimStart a s
  obtain ⟨k', hk'⟩ := exists_eq_trimStart a (trimStart a s).reverse
  refine ⟨k, k', ?_⟩
  have hrev : trimStart a s = trim a s ++ List.replicate k' a := by
    rw [← List.reverse_reverse (trimStart a s), hk', List.reverse_append, List.reverse_replicate]
    rfl
  rw [List.append_assoc, ← hrev]
  exact hk

/-! ### Counting bytes -/

/-- Every character takes a byte. -/
theorem length_le_byteLen (s : List Char) : s.length ≤ byteLen s := by
  induction s with
  | nil => exact Nat.le_refl 0
  | cons c s ih =>
    have hc := Char.utf8Size_pos c
    simp only [byteLen, List.map_cons, List.sum_cons, List.length_cons] at ih ⊢
    omega

/-- The number of bytes of a text is the length of its bytes. -/
theorem length_bytes (s : List Char) : (bytes s).length = byteLen s := by
  induction s with
  | nil => rfl
  | cons c s ih =>
    have hc := String.length_utf8EncodeChar c
    have h1 : bytes (c :: s) = String.utf8EncodeChar c ++ bytes s := rfl
    have h2 : byteLen (c :: s) = c.utf8Size + byteLen s := rfl
    rw [h1, h2, List.length_append, hc, ih]

/-- The bytes of one text behind the other. -/
theorem bytes_append (s t : List Char) : bytes (s ++ t) = bytes s ++ bytes t := List.flatMap_append

/-- The number of bytes of one text behind the other. -/
theorem byteLen_append (s t : List Char) : byteLen (s ++ t) = byteLen s + byteLen t := by
  rw [← length_bytes, bytes_append, List.length_append, length_bytes, length_bytes]

/-- Only the empty text takes no byte. -/
theorem byteLen_eq_zero {s : List Char} : byteLen s = 0 ↔ s = [] := by
  refine ⟨fun h => ?_, fun h => by rw [h]; rfl⟩
  have hlen := length_le_byteLen s
  exact List.length_eq_zero_iff.mp (by omega)

/-- A character takes four bytes at most. -/
theorem byteLen_le (s : List Char) : byteLen s ≤ 4 * s.length := by
  induction s with
  | nil => exact Nat.zero_le _
  | cons c s ih =>
    have hc := c.utf8Size_le_four
    have h : byteLen (c :: s) = c.utf8Size + byteLen s := rfl
    rw [h, List.length_cons]
    omega

/-- The first bytes of a text have as many bytes as were asked for. -/
theorem byteLen_takeBytes? {n : ℕ} {s t : List Char} (h : takeBytes? n s = some t) :
    byteLen t = n := by
  induction s generalizing n t with
  | nil =>
    cases n with
    | zero => cases h; rfl
    | succ n => cases h
  | cons c s ih =>
    cases n with
    | zero => cases h; rfl
    | succ n =>
      rw [takeBytes?] at h
      split at h
      · obtain ⟨r, hr, rfl⟩ := Option.map_eq_some_iff.mp h
        have h1 : byteLen (c :: r) = c.utf8Size + byteLen r := rfl
        rw [h1, ih hr]
        omega
      · cases h

/-- The first bytes of a text are its beginning. -/
theorem takeBytes?_prefix {n : ℕ} {s t : List Char} (h : takeBytes? n s = some t) : t <+: s := by
  induction s generalizing n t with
  | nil =>
    cases n with
    | zero => cases h; exact List.nil_prefix
    | succ n => cases h
  | cons c s ih =>
    cases n with
    | zero => cases h; exact List.nil_prefix
    | succ n =>
      rw [takeBytes?] at h
      split at h
      · obtain ⟨r, hr, rfl⟩ := Option.map_eq_some_iff.mp h
        exact List.cons_prefix_cons.mpr ⟨rfl, ih hr⟩
      · cases h

example : slice? 1 3 "aéb".toList = some ['é'] := by decide

example : slice? 2 3 "aéb".toList = none := by decide

/-- A text without white space at its ends is left as it is. -/
theorem trimWhitespace_eq {s : List Char} (hhead : ∀ c ∈ s.head?, isWhitespace c = false)
    (hlast : ∀ c ∈ s.getLast?, isWhitespace c = false) : trimWhitespace s = s := by
  have hdrop (t : List Char) (ht : ∀ c ∈ t.head?, isWhitespace c = false) :
      t.dropWhile isWhitespace = t := by
    cases t with
    | nil => rfl
    | cons c t => rw [List.dropWhile_cons_of_neg (by simpa using ht c rfl)]
  unfold trimWhitespace
  rw [hdrop s hhead, hdrop s.reverse (by rwa [List.head?_reverse]), List.reverse_reverse]

/-- Trimming takes white space away, at both ends. -/
theorem exists_trimWhitespace (s : List Char) : ∃ a b, s = a ++ trimWhitespace s ++ b ∧
    (∀ c ∈ a, isWhitespace c = true) ∧ ∀ c ∈ b, isWhitespace c = true := by
  refine ⟨s.takeWhile isWhitespace, ((s.dropWhile isWhitespace).reverse.takeWhile
    isWhitespace).reverse, ?_, fun c hc => List.mem_takeWhile_imp hc, fun c hc =>
    List.mem_takeWhile_imp (List.mem_reverse.mp hc)⟩
  unfold trimWhitespace
  rw [List.append_assoc, ← List.reverse_append, List.takeWhile_append_dropWhile,
    List.reverse_reverse, List.takeWhile_append_dropWhile]

/-- A text without white space is what trimming leaves, whatever white space is behind
it. -/
theorem trimWhitespace_append {s b : List Char} (hs : ∀ c ∈ s, isWhitespace c = false)
    (hb : ∀ c ∈ b, isWhitespace c = true) : trimWhitespace (s ++ b) = s := by
  have hkeep (t : List Char) (ht : ∀ c ∈ t, isWhitespace c = false) :
      t.dropWhile isWhitespace = t := by
    cases t with
    | nil => rfl
    | cons c t => rw [List.dropWhile_cons_of_neg (by simp [ht c List.mem_cons_self])]
  have hall (t : List Char) (ht : ∀ c ∈ t, isWhitespace c = true) :
      t.dropWhile isWhitespace = [] := List.dropWhile_eq_nil_iff.mpr ht
  unfold trimWhitespace
  cases s with
  | nil =>
    rw [List.nil_append, hall b hb]
    rfl
  | cons c s =>
    have hc : ((c :: s) ++ b).dropWhile isWhitespace = (c :: s) ++ b := by
      rw [List.cons_append, List.dropWhile_cons_of_neg (by simp [hs c List.mem_cons_self])]
    have hback : ∀ d ∈ b.reverse, isWhitespace d = true := fun d hd => hb d (List.mem_reverse.mp hd)
    have hfront : ∀ d ∈ (c :: s).reverse, isWhitespace d = false := fun d hd =>
      hs d (List.mem_reverse.mp hd)
    rw [hc, List.reverse_append, List.dropWhile_append_of_pos hback, hkeep _ hfront,
      List.reverse_reverse]

/-- A text is cut at the first occurrence of a character. -/
theorem splitOnce_append {a : Char} {s : List Char} (h : a ∉ s) (t : List Char) :
    splitOnce a (s ++ a :: t) = some (s, t) := by
  have hall (c : Char) (hc : c ∈ s) : decide (c ≠ a) = true := by
    rw [decide_eq_true_eq]
    rintro rfl
    exact h hc
  have hspan : (s ++ a :: t).span (· ≠ a) = (s, a :: t) := by
    rw [List.span_eq_takeWhile_dropWhile, List.takeWhile_append_of_pos hall,
      List.dropWhile_append_of_pos hall]
    simp
  unfold splitOnce
  rw [hspan]

/-- A text without the character is not cut. -/
theorem splitOnce_eq_none {a : Char} {s : List Char} (h : a ∉ s) : splitOnce a s = none := by
  have hall (c : Char) (hc : c ∈ s) : decide (c ≠ a) = true := by
    rw [decide_eq_true_eq]
    rintro rfl
    exact h hc
  have hspan : s.span (· ≠ a) = (s, []) := by
    rw [List.span_eq_takeWhile_dropWhile, List.takeWhile_eq_self_iff.mpr hall,
      List.dropWhile_eq_nil_iff.mpr hall]
  unfold splitOnce
  rw [hspan]

/-- **The cut at the first occurrence**, in one statement. -/
theorem splitOnce_eq_some {a : Char} {s x y : List Char} :
    splitOnce a s = some (x, y) ↔ s = x ++ a :: y ∧ a ∉ x := by
  constructor
  · intro h
    refine ⟨eq_of_splitOnce h, fun hmem => ?_⟩
    unfold splitOnce at h
    rw [List.span_eq_takeWhile_dropWhile] at h
    split at h
    · rename_i before c after heq
      cases h
      rw [← (Prod.mk.inj heq).1] at hmem
      simpa using List.mem_takeWhile_imp hmem
    · cases h
  · rintro ⟨rfl, h⟩
    exact splitOnce_append h y

theorem splitOnce_eq_none_iff {a : Char} {s : List Char} : splitOnce a s = none ↔ a ∉ s := by
  refine ⟨fun h hmem => ?_, splitOnce_eq_none⟩
  obtain ⟨x, y, rfl⟩ := List.append_of_mem hmem
  unfold splitOnce at h
  rw [List.span_eq_takeWhile_dropWhile] at h
  split at h
  · cases h
  · rename_i before heq
    have hnil := List.dropWhile_eq_nil_iff.mp (Prod.mk.inj heq).2 a hmem
    simp at hnil

/-- **The cut at the last occurrence**, in one statement. -/
theorem rsplitOnce_eq_some {a : Char} {s x y : List Char} :
    rsplitOnce a s = some (x, y) ↔ s = x ++ a :: y ∧ a ∉ y := by
  constructor
  · intro h
    obtain ⟨⟨u, v⟩, hsplit, hparts⟩ := Option.map_eq_some_iff.mp h
    obtain ⟨hs, hu⟩ := splitOnce_eq_some.mp hsplit
    obtain ⟨rfl, rfl⟩ := Prod.mk.inj hparts
    refine ⟨?_, fun hmem => hu (List.mem_reverse.mp hmem)⟩
    rw [← List.reverse_reverse s, hs]
    simp
  · rintro ⟨rfl, h⟩
    have hu : a ∉ y.reverse := fun hmem => h (List.mem_reverse.mp hmem)
    have hs : (x ++ a :: y).reverse = y.reverse ++ a :: x.reverse := by simp
    rw [rsplitOnce, hs, splitOnce_append hu, Option.map_some, List.reverse_reverse,
      List.reverse_reverse]

/-- A text is cut at the last occurrence of a character. -/
theorem rsplitOnce_append {a : Char} {t : List Char} (s : List Char) (h : a ∉ t) :
    rsplitOnce a (s ++ a :: t) = some (s, t) := rsplitOnce_eq_some.mpr ⟨rfl, h⟩

theorem rsplitOnce_eq_none {a : Char} {s : List Char} (h : a ∉ s) : rsplitOnce a s = none := by
  rw [rsplitOnce, splitOnce_eq_none fun hmem => h (List.mem_reverse.mp hmem), Option.map_none]

@[simp] theorem stripPrefix?_append (beginning s : List Char) :
    stripPrefix? beginning (beginning ++ s) = some s := by
  rw [stripPrefix?, if_pos (List.prefix_append beginning s), List.drop_left]


/-- Nothing is trimmed from a text that begins with other characters. -/
theorem trimStart_append {a : Char} {s : List Char} (hne : s ≠ []) (h : a ∉ s) (t : List Char) :
    trimStart a (s ++ t) = s ++ t := by
  obtain ⟨c, r, rfl⟩ := List.exists_cons_of_ne_nil hne
  have hc : ¬ decide (c = a) = true := by
    rw [decide_eq_true_eq]
    rintro rfl
    exact h (List.mem_cons_self ..)
  exact List.dropWhile_cons_of_neg hc

/-- Nothing is trimmed from a text that begins and ends with other characters. -/
theorem trim_append {a : Char} {s t : List Char} (hs : s ≠ []) (h : a ∉ s) (ht : t ≠ [])
    (h' : a ∉ t) (r : List Char) : trim a (s ++ r ++ t) = s ++ r ++ t := by
  have hreverse : t.reverse ≠ [] := by simpa using ht
  have hmem : a ∉ t.reverse := by simpa using h'
  unfold trim
  rw [List.append_assoc, trimStart_append hs h, ← List.append_assoc, List.reverse_append,
    trimStart_append hreverse hmem, ← List.reverse_append, List.reverse_reverse]

/-- Nothing is trimmed from a text without the character. -/
theorem trim_eq_self {a : Char} {s : List Char} (h : a ∉ s) : trim a s = s := by
  have hstart {t : List Char} (ht : a ∉ t) : trimStart a t = t := by
    cases t with
    | nil => rfl
    | cons c r => simpa using trimStart_append (List.cons_ne_nil c r) ht []
  have hreverse : a ∉ s.reverse := by simpa using h
  unfold trim
  rw [hstart h, hstart hreverse, List.reverse_reverse]

/-- Leading occurrences of the character are trimmed. -/
theorem trimStart_replicate (a : Char) (n : ℕ) (s : List Char) :
    trimStart a (List.replicate n a ++ s) = trimStart a s := by
  refine List.dropWhile_append_of_pos fun c hc => ?_
  rw [decide_eq_true_eq]
  exact List.eq_of_mem_replicate hc

/-- Occurrences of the character around a text make no difference. -/
theorem trim_replicate (a : Char) (n m : ℕ) (s : List Char) :
    trim a (List.replicate n a ++ s ++ List.replicate m a) = trim a s := by
  have hblank (k : ℕ) : trimStart a (List.replicate k a) = [] := by
    have h := trimStart_replicate a k []
    rwa [List.append_nil] at h
  have hend : trimStart a (s ++ List.replicate m a) =
      if (trimStart a s).isEmpty then trimStart a (List.replicate m a)
      else trimStart a s ++ List.replicate m a := List.dropWhile_append
  unfold trim
  rw [List.append_assoc, trimStart_replicate, hend, hblank]
  by_cases h : (trimStart a s).isEmpty = true
  · rw [if_pos h, List.isEmpty_iff.mp h]
  · rw [if_neg h, List.reverse_append, List.reverse_replicate, trimStart_replicate]

end Text
