import Exarrow.Transport.PublicKey

/-!
# Reading a key back

A modulus and an exponent are written as a sequence of two integers
(`Exarrow.Transport.WebSocket.pkcs1Content?`), and the sequence as base64 between two markers, with
white space wherever the writer likes. **What was written is read back exactly if the two integers
take fewer than 2²⁴ bytes** (`Exarrow.Transport.WebSocket.parseRsaPublicKey_eq_ok_iff`): a length
of more than three bytes is refused.

The markers are found where they were written (`Exarrow.Transport.WebSocket.pemToPkcs1Der_eq`). The
one place where this is in danger is the end of the start marker: its five dashes could begin an end
marker, and they would if base64 could spell the words between the dashes. It cannot, since what is
left of these words without white space is no whole number of groups.
-/

namespace Exarrow.Transport.WebSocket

open Machine Checked Native

/-! ### Writing a key -/

/-- The bytes of a length: the length itself if it is small, and its bytes behind their number
otherwise. There are 126 of them at most. -/
def derLength? (len : ℕ) : Option (List UInt8) :=
  if len < 0x80 then some [UInt8.ofNat len]
  else if (natToBE len).length < 0x7F then
    some (UInt8.ofNat (0x80 + (natToBE len).length) :: natToBE len)
  else none

/-- An element: a tag, the length of the content, and the content. -/
def derElement? (tag : UInt8) (content : List UInt8) : Option (List UInt8) :=
  (derLength? content.length).map fun len => tag :: (len ++ content)

/-- An integer, with a zero in front of bytes that would be those of a negative one. -/
def derInteger? (n : ℕ) : Option (List UInt8) :=
  derElement? 0x02 (if 0x80 ≤ ((natToBE n).headD 0).toNat then 0 :: natToBE n else natToBE n)

/-- The two integers of a key. -/
def pkcs1Content? (n e : ℕ) : Option (List UInt8) := do
  let modulus ← derInteger? n
  let exponent ← derInteger? e
  return modulus ++ exponent

/-- The bytes of a length are put together. -/
theorem foldl_eq (bytes : List UInt8) (acc : ℕ) :
    bytes.foldl (fun len b => len <<< 8 ||| b.toNat) acc = acc * 256 ^ bytes.length + natOfBE bytes := by
  induction bytes generalizing acc with
  | nil =>
    rw [List.foldl_nil, List.length_nil, pow_zero, mul_one]
    rfl
  | cons b bytes ih =>
    have hb : b.toNat < 2 ^ 8 := b.toNat_lt
    rw [List.foldl_cons, ih, ← Nat.shiftLeft_add_eq_or_of_lt hb, Nat.shiftLeft_eq, natOfBE_cons,
      List.length_cons, pow_succ]
    ring

theorem natToBE_ne_nil (n : ℕ) : natToBE n ≠ [] := by
  unfold natToBE
  split_ifs with hzero
  · exact List.cons_ne_nil 0 []
  · rw [ne_eq, List.reverse_eq_nil_iff, List.map_eq_nil_iff, Nat.digits_eq_nil_iff_eq_zero]
    exact hzero

/-- The rest of a list is a slice of it. -/
theorem slice_one (x : UInt8) (xs : List UInt8) :
    (slice 1 (x :: xs).length (x :: xs) : Exec String (List UInt8)) = .ok xs := by
  have hlen : 1 ≤ (x :: xs).length := Nat.le_add_left ..
  rw [slice_of_le hlen le_rfl, List.take_length]
  rfl

/-- A length in one byte. -/
theorem readDerLength_of_small {len : ℕ} (h : len < 0x80) (rest : List UInt8) :
    readDerLength (UInt8.ofNat len :: rest) = .ok (len, 1) := by
  have hsize : UInt8.size = 256 := rfl
  have hnat : (UInt8.ofNat len).toNat = len := UInt8.toNat_ofNat_of_lt' (by omega)
  have hlt : UInt8.ofNat len < 0x80 := by
    rw [UInt8.lt_iff_toNat_lt, hnat]
    exact h
  rw [readDerLength, if_pos hlt, hnat]

/-- A length in the bytes behind their number: more than three are refused. -/
theorem readDerLength_of_bytes {bytes : List UInt8} (hpos : 0 < bytes.length)
    (h : bytes.length < 0x7F) (rest : List UInt8) :
    readDerLength (UInt8.ofNat (0x80 + bytes.length) :: (bytes ++ rest)) =
      if bytes.length ≤ 3 then .ok (natOfBE bytes, 1 + bytes.length)
      else fail "Invalid DER: truncated" := by
  have hsize : UInt8.size = 256 := rfl
  have hnat : (UInt8.ofNat (0x80 + bytes.length)).toNat = 0x80 + bytes.length :=
    UInt8.toNat_ofNat_of_lt' (by omega)
  have hlt : ¬UInt8.ofNat (0x80 + bytes.length) < 0x80 := by
    rw [UInt8.lt_iff_toNat_lt, hnat]
    exact Nat.not_lt.mpr (Nat.le_add_right ..)
  -- The seven low bits of the first byte are the number of those that follow.
  have hand : (UInt8.ofNat (0x80 + bytes.length) &&& 0x7F).toNat = bytes.length := by
    have hmod := Nat.and_two_pow_sub_one_eq_mod (0x80 + bytes.length) 7
    have h127 : (0x7F : UInt8).toNat = 2 ^ 7 - 1 := rfl
    rw [UInt8.toNat_and, hnat, h127, hmod]
    omega
  rw [readDerLength, if_neg hlt]
  dsimp only
  rw [hand]
  by_cases hthree : bytes.length ≤ 3
  · have henough : ¬(UInt8.ofNat (0x80 + bytes.length) :: (bytes ++ rest)).length <
        1 + bytes.length := by
      rw [List.length_cons, List.length_append]
      omega
    have hslice : (slice 1 (1 + bytes.length)
        (UInt8.ofNat (0x80 + bytes.length) :: (bytes ++ rest)) : Exec String (List UInt8)) =
        .ok bytes := @slice_append _ _ _ _ [_] bytes rest rfl rfl
    rw [if_neg (by omega), if_neg henough, hslice, ok_bind, if_pos hthree, foldl_eq, zero_mul,
      zero_add]
    rfl
  · rw [if_pos (by omega), if_neg hthree]

/-- **A length is read back** if it has three bytes at most. -/
theorem readDerLength_append {len : ℕ} {bytes : List UInt8} (h : derLength? len = some bytes)
    (rest : List UInt8) :
    readDerLength (bytes ++ rest) =
      if len < 2 ^ 24 then .ok (len, bytes.length) else fail "Invalid DER: truncated" := by
  unfold derLength? at h
  split_ifs at h with hsmall hcount
  · cases h
    rw [List.singleton_append, readDerLength_of_small hsmall, if_pos (by omega)]
    rfl
  · cases h
    have hpos : 0 < (natToBE len).length := List.length_pos_iff.mpr (natToBE_ne_nil len)
    have hthree : (natToBE len).length ≤ 3 ↔ len < 2 ^ 24 :=
      length_natToBE_le_iff (by norm_num) len
    rw [List.cons_append, readDerLength_of_bytes hpos hcount, natOfBE_natToBE, List.length_cons,
      Nat.add_comm 1]
    by_cases hlong : len < 2 ^ 24
    · rw [if_pos hlong, if_pos (hthree.mpr hlong)]
    · rw [if_neg hlong, if_neg (mt hthree.mp hlong)]

/-- A zero in front of a number is nothing. -/
theorem natOfBE_strip (value : List UInt8) :
    natOfBE (if 1 < value.length ∧ value.head? = some 0 then value.tail else value) =
      natOfBE value := by
  split_ifs with hzero
  · obtain ⟨rest, rfl⟩ := List.head?_eq_some_iff.mp hzero.2
    rw [List.tail_cons, natOfBE_cons]
    exact (Nat.zero_add _).symm.trans (congrArg (· + natOfBE rest) (Nat.zero_mul _).symm)
  · rfl

/-- The content of an element is shorter than the element. -/
theorem length_lt_of_derElement? {tag : UInt8} {content bytes : List UInt8}
    (h : derElement? tag content = some bytes) : content.length < bytes.length := by
  obtain ⟨len, -, rfl⟩ := Option.map_eq_some_iff.mp h
  rw [List.length_cons, List.length_append]
  omega

/-- **An integer is read back.** -/
theorem readDerInteger_append {n : ℕ} {bytes : List UInt8} (h : derInteger? n = some bytes)
    (hfew : bytes.length < 2 ^ 24) (rest : List UInt8) :
    ∃ value, readDerInteger (bytes ++ rest) = .ok (value, bytes.length) ∧ natOfBE value = n := by
  unfold derInteger? at h
  have hshort := (length_lt_of_derElement? h).trans hfew
  have hcontent : natOfBE (if 0x80 ≤ ((natToBE n).headD 0).toNat then 0 :: natToBE n
      else natToBE n) = n := by
    split_ifs with hsign
    · rw [natOfBE_cons, natOfBE_natToBE]
      exact (congrArg (· + n) (Nat.zero_mul _)).trans (Nat.zero_add n)
    · exact natOfBE_natToBE n
  generalize (if 0x80 ≤ ((natToBE n).headD 0).toNat then 0 :: natToBE n else natToBE n) = content
    at h hshort hcontent
  obtain ⟨len, hlen, rfl⟩ := Option.map_eq_some_iff.mp h
  refine ⟨if 1 < content.length ∧ content.head? = some 0 then content.tail else content, ?_,
    (natOfBE_strip content).trans hcontent⟩
  have hslice : (slice (1 + len.length) (1 + len.length + content.length)
      (0x02 :: (len ++ (content ++ rest))) : Exec String (List UInt8)) = .ok content :=
    @slice_append _ _ _ _ (0x02 :: len) content rest (Nat.add_comm ..) rfl
  rw [List.cons_append, List.append_assoc, readDerInteger, if_neg (by simp), slice_one, ok_bind,
    readDerLength_append hlen, if_pos hshort, ok_bind]
  dsimp only
  rw [if_neg (by simp only [List.length_cons, List.length_append]; omega), hslice, ok_bind,
    List.length_cons, List.length_append]
  have hsize : 1 + len.length + content.length = len.length + content.length + 1 := by omega
  rw [hsize]
  rfl

/-- A sequence of two integers is read as these. -/
theorem parseRsaPublicKey_sequence {len modulus exponent v v' : List UInt8}
    (hlen : derLength? (modulus ++ exponent).length = some len)
    (hshort : (modulus ++ exponent).length < 2 ^ 24)
    (hv : readDerInteger (modulus ++ exponent) = .ok (v, modulus.length))
    (hv' : readDerInteger exponent = .ok (v', exponent.length)) :
    parseRsaPublicKey (0x30 :: (len ++ (modulus ++ exponent))) = .ok (natOfBE v, natOfBE v') := by
  have htag : ¬(0x30 :: (len ++ (modulus ++ exponent)))[0]? ≠ some 0x30 := fun h => h rfl
  have hboth : (slice (1 + len.length) (1 + len.length + (modulus ++ exponent).length)
      (0x30 :: (len ++ (modulus ++ exponent))) : Exec String (List UInt8)) =
      .ok (modulus ++ exponent) := by
    have h := @slice_append String UInt8 _ _ (0x30 :: len) (modulus ++ exponent) []
      (Nat.add_comm ..) rfl
    rwa [List.append_nil] at h
  have hsecond : (slice (1 + len.length + modulus.length)
      (1 + len.length + (modulus ++ exponent).length)
      (0x30 :: (len ++ (modulus ++ exponent))) : Exec String (List UInt8)) = .ok exponent := by
    have h := @slice_append String UInt8 (1 + len.length + modulus.length)
      (1 + len.length + (modulus ++ exponent).length) (0x30 :: (len ++ modulus)) exponent []
      (by simp only [List.length_cons, List.length_append]; omega)
      (by rw [List.length_append, Nat.add_assoc])
    rwa [List.append_nil, List.cons_append, List.append_assoc] at h
  rw [parseRsaPublicKey, if_neg htag, slice_one, ok_bind, readDerLength_append hlen,
    if_pos hshort, ok_bind]
  dsimp only
  rw [if_neg (by simp only [List.length_cons, List.length_append]; omega), hboth, ok_bind, hv,
    ok_bind]
  dsimp only
  rw [hsecond, ok_bind, hv', ok_bind]
  dsimp only
  rw [if_neg (by rw [List.length_append]; omega)]
  rfl

/-- **A key is read back** exactly if its two integers take fewer than 2²⁴ bytes. -/
theorem parseRsaPublicKey_eq_ok_iff {n e : ℕ} {content der : List UInt8}
    (hcontent : pkcs1Content? n e = some content) (hder : derElement? 0x30 content = some der) :
    parseRsaPublicKey der = .ok (n, e) ↔ content.length < 2 ^ 24 := by
  obtain ⟨len, hlen, rfl⟩ := Option.map_eq_some_iff.mp hder
  by_cases hshort : content.length < 2 ^ 24
  · refine iff_of_true ?_ hshort
    obtain ⟨modulus, hmodulus, h⟩ := Option.bind_eq_some_iff.mp hcontent
    obtain ⟨exponent, hexponent, h⟩ := Option.bind_eq_some_iff.mp h
    cases h
    have hsum := hshort
    rw [List.length_append] at hsum
    obtain ⟨v, hv, hvn⟩ := readDerInteger_append hmodulus (by omega) exponent
    obtain ⟨v', hv', hve⟩ := readDerInteger_append hexponent (by omega) []
    rw [List.append_nil] at hv'
    rw [parseRsaPublicKey_sequence hlen hshort hv hv', hvn, hve]
  · refine iff_of_false ?_ hshort
    have htag : ¬(0x30 :: (len ++ content))[0]? ≠ some 0x30 := fun h => h rfl
    rw [parseRsaPublicKey, if_neg htag, slice_one, ok_bind, readDerLength_append hlen,
      if_neg hshort]
    exact nofun

/-! ### Finding what was written -/

/-- The words between the dashes of the end marker. -/
def endLabel : List Char := "END RSA PUBLIC KEY".toList

theorem endMarker_eq :
    endMarker = List.replicate 5 '-' ++ (endLabel ++ List.replicate 5 '-') := by decide

theorem startMarker_eq :
    startMarker = '-' :: ("----BEGIN RSA PUBLIC KEY".toList ++ List.replicate 5 '-') := by decide

/-- A marker begins with a dash. -/
theorem not_prefix_of_notMem {marker rest u v s : List Char} (hmarker : marker = '-' :: rest)
    (hs : '-' ∉ u ++ v) (hv : v ≠ []) (t : List Char) (hst : s = v ++ t) : ¬marker <+: s := by
  intro h
  obtain ⟨c, v, rfl⟩ := List.exists_cons_of_ne_nil hv
  rw [hmarker, hst, List.cons_append, List.cons_prefix_cons] at h
  exact hs (List.mem_append_right u (h.1 ▸ List.mem_cons_self))

/-- Before its last five dashes no end marker begins in the start marker. -/
theorem take_endMarker_ne : ∀ i < 25, endMarker.take 6 ≠ (startMarker.drop i).take 6 := by decide

/-- **No end marker begins with dashes of the start marker**, unless the words of the end marker
follow them. -/
theorem not_endMarker_prefix_dashes {j : ℕ} {body after : List Char} (hj : 0 < j) (hj5 : j ≤ 5)
    (hbody : '-' ∉ body) (hlabel : body ≠ endLabel) :
    ¬endMarker <+: List.replicate j '-' ++ (body ++ (endMarker ++ after)) := by
  intro h
  have hdashes : List.replicate 5 '-' = List.replicate j '-' ++ List.replicate (5 - j) '-' := by
    rw [List.replicate_append_replicate, Nat.add_sub_cancel' hj5]
  have hstart : endMarker = List.replicate j '-' ++
      (List.replicate (5 - j) '-' ++ (endLabel ++ List.replicate 5 '-')) := by
    rw [← List.append_assoc, ← hdashes]
    exact endMarker_eq
  rw [hstart, List.prefix_append_right_inj] at h
  rcases Nat.lt_or_ge j 5 with hlt | hge
  · obtain ⟨i, hi⟩ := Nat.exists_eq_succ_of_ne_zero (show 5 - j ≠ 0 by omega)
    rcases body with _ | ⟨c, body⟩
    · -- The dashes are more than five, and the sixth is no letter.
      have hswap : List.replicate 5 '-' = List.replicate (5 - j) '-' ++ List.replicate j '-' := by
        rw [List.replicate_append_replicate, Nat.sub_add_cancel hj5]
      rw [← hstart, endMarker_eq, hswap, List.nil_append, List.append_assoc, List.append_assoc,
        List.prefix_append_right_inj] at h
      obtain ⟨m, rfl⟩ := Nat.exists_eq_succ_of_ne_zero hj.ne'
      rw [List.replicate_succ] at h
      exact absurd (List.cons_prefix_cons.mp h).1 (by decide)
    · rw [hi, List.replicate_succ, List.cons_append, List.cons_append, List.cons_prefix_cons] at h
      exact hbody (h.1 ▸ List.mem_cons_self)
  · -- Both texts are cut at their first dash.
    obtain ⟨t, ht⟩ := h
    have hzero : 5 - j = 0 := by omega
    have hcut : Text.splitOnce '-' (body ++ (endMarker ++ after)) =
        some (body, endMarker.tail ++ after) := Text.splitOnce_append hbody _
    have hcut' : Text.splitOnce '-' (body ++ (endMarker ++ after)) =
        some (endLabel, List.replicate 4 '-' ++ t) := by
      rw [← hstart] at ht
      rw [← ht, hzero, List.replicate_zero, List.nil_append, List.append_assoc]
      exact Text.splitOnce_append (by decide) _
    rw [hcut] at hcut'
    exact hlabel (Prod.mk.inj (Option.some.inj hcut')).1

/-- No end marker begins in a start marker with a body behind it. -/
theorem not_endMarker_prefix_startMarker {u v body after : List Char} (huv : startMarker = u ++ v)
    (hv : v ≠ []) (hbody : '-' ∉ body) (hlabel : body ≠ endLabel) :
    ¬endMarker <+: v ++ (body ++ (endMarker ++ after)) := by
  have hdrop : startMarker.drop u.length = v := by rw [huv, List.drop_left]
  have hlen : u.length + v.length = 30 := by
    rw [← List.length_append, ← huv]
    decide
  rcases Nat.lt_or_ge u.length 25 with hlt | hge
  · intro h
    have hsix : (v ++ (body ++ (endMarker ++ after))).take 6 = v.take 6 :=
      List.take_append_of_le_length (by omega)
    have htake := List.prefix_iff_eq_take.mp (h.take 6)
    rw [hsix, List.take_take, ← hdrop] at htake
    exact take_endMarker_ne u.length hlt htake
  · have hlast : startMarker.drop 25 = List.replicate 5 '-' := by decide
    have hv : v = List.replicate v.length '-' := by
      rw [← hdrop, ← Nat.add_sub_cancel' hge, ← List.drop_drop, hlast, List.drop_replicate,
        List.length_replicate]
    rw [hv]
    exact not_endMarker_prefix_dashes (List.length_pos_iff.mpr ‹v ≠ []›) (by omega) hbody hlabel

/-- The start marker is found where it was written. -/
theorem find?_startMarker {before : List Char} (hbefore : '-' ∉ before) (rest : List Char) :
    Text.find? startMarker (before ++ (startMarker ++ rest)) = some (Text.byteLen before) :=
  Text.find?_append fun _ _ huv hv =>
    not_prefix_of_notMem startMarker_eq (huv ▸ hbefore) hv _ rfl

/-- The end marker is found where it was written. -/
theorem find?_endMarker {before body : List Char} (hbefore : '-' ∉ before) (hbody : '-' ∉ body)
    (hlabel : body ≠ endLabel) (after : List Char) :
    Text.find? endMarker (before ++ (startMarker ++ body) ++ (endMarker ++ after)) =
      some (Text.byteLen (before ++ (startMarker ++ body))) := by
  refine Text.find?_append fun u v huv hv => ?_
  have hhead : endMarker = '-' :: endMarker.tail := by decide
  rcases List.append_eq_append_iff.mp huv with ⟨w, rfl, hw⟩ | ⟨w, hw, rfl⟩
  · rcases List.append_eq_append_iff.mp hw with ⟨w', rfl, rfl⟩ | ⟨w', hstart, rfl⟩
    · exact not_prefix_of_notMem hhead hbody hv _ rfl
    · rcases eq_or_ne w' [] with rfl | hw'
      · exact not_prefix_of_notMem (u := []) hhead hbody hv _ rfl
      · rw [List.append_assoc]
        exact not_endMarker_prefix_startMarker hstart hw' hbody hlabel
  · rcases eq_or_ne w [] with rfl | hw'
    · rw [List.nil_append, List.append_assoc]
      exact not_endMarker_prefix_startMarker (u := []) rfl (by decide) hbody hlabel
    · refine not_prefix_of_notMem hhead (hw ▸ hbefore) hw' (startMarker ++ body ++ (endMarker ++ after)) ?_
      rw [List.append_assoc]

/-- A body holds no dash, and it is not the words of the end marker. -/
theorem body_spec {base64 : Base64.Codec} {body : List Char} {der : List UInt8}
    (h : body.filter (fun c => !Text.isWhitespace c) = base64.encode der) :
    '-' ∉ body ∧ body ≠ endLabel := by
  constructor
  · intro hmem
    have hdash : '-' ∈ base64.encode der := h ▸ List.mem_filter.mpr ⟨hmem, by decide⟩
    rcases base64.mem_encode der '-' hdash with halphabet | heq
    · exact absurd halphabet (by decide)
    · exact absurd heq (by decide)
  · rintro rfl
    have hlen := base64.length_encode der
    have hfifteen : (endLabel.filter fun c => !Text.isWhitespace c).length = 15 := by decide
    rw [← h, hfifteen] at hlen
    omega

/-- **What is between the markers is read**, whatever is around them and whatever white space is in
it. -/
theorem pemToPkcs1Der_eq {base64 : Base64.Codec} {before body : List Char} {der : List UInt8}
    (hbefore : '-' ∉ before)
    (hbody : body.filter (fun c => !Text.isWhitespace c) = base64.encode der) (after : List Char) :
    pemToPkcs1Der base64 (before ++ (startMarker ++ (body ++ (endMarker ++ after)))) = .ok der := by
  obtain ⟨hdash, hlabel⟩ := body_spec hbody
  have hend := find?_endMarker hbefore hdash hlabel after
  rw [List.append_assoc, List.append_assoc] at hend
  have hslice := @sliceText_append String (before ++ startMarker) body (endMarker ++ after)
  rw [List.append_assoc, ← Text.byteLen_append, List.append_assoc, Text.byteLen_append before] at hslice
  rw [pemToPkcs1Der, find?_startMarker hbefore, orFail_some, ok_bind, hend, orFail_some, ok_bind,
    hslice, ok_bind, hbody, base64.decode_encode, orFail_some]

/-! ### What the login can rely on -/

/-- **Encrypting a password**, in three statements.

* The program is stopped by no password, and by a key exactly if an end marker comes early in it.
* A key that was written as text is read back, wherever white space is in it, exactly if its integers
  take fewer than 2²⁴ bytes.
* The block of a password that leaves eleven bytes is as long as it should be and holds the
  password, and there is one where no request for random bytes fails. -/
theorem encryptPassword_returns_reads_unpads (base64 : Base64.Codec) (rng : SystemRandom) :
    (∀ password publicKeyPem : List Char,
      encryptPassword base64 rng password publicKeyPem ≠ stop ↔ ¬EndsEarly publicKeyPem) ∧
    (∀ (n e : ℕ) (content der : List UInt8), pkcs1Content? n e = some content →
      derElement? 0x30 content = some der →
      ∀ before body after : List Char, '-' ∉ before →
        body.filter (fun c => !Text.isWhitespace c) = base64.encode der →
        ((pemToPkcs1Der base64 (before ++ (startMarker ++ (body ++ (endMarker ++ after)))) >>=
          parseRsaPublicKey) = .ok (n, e) ↔ content.length < 2 ^ 24)) ∧
    ∀ (password : List Char) (k : ℕ), (Text.bytes password).length + 11 ≤ k →
      (∀ em, pkcs1V15Pad rng (Text.bytes password) k = .ok em →
        em.length = k ∧ unpad em = some (Text.bytes password)) ∧
      ((∀ i, rng.fill i ≠ none) → ∃ em, pkcs1V15Pad rng (Text.bytes password) k = .ok em) := by
  refine ⟨fun password pem => encryptPassword_stops_iff, ?_, ?_⟩
  · intro n e content der hcontent hder before body after hbefore hbody
    rw [pemToPkcs1Der_eq hbefore hbody, ok_bind]
    exact parseRsaPublicKey_eq_ok_iff hcontent hder
  · intro password k hk
    exact ⟨fun em => unpad_of_pkcs1V15Pad hk, fun hall => exists_pkcs1V15Pad hall hk⟩

/-- Random bytes that are all one. -/
def SystemRandom.ones : SystemRandom where
  fill _ := some 1
  settles i := ⟨i, le_rfl, by decide⟩

/-- The text of a small key, in two lines. -/
def smallKey : List Char :=
  startMarker ++ ("\nMAcCAgyh\nAgER\n".toList ++ (endMarker ++ ['\n']))

theorem encryptPassword_returns_reads_unpads_smallKey :
    encryptPassword Base64.standard SystemRandom.ones "exasol".toList [] ≠ stop ∧
    (pemToPkcs1Der Base64.standard smallKey >>= parseRsaPublicKey) = .ok (3233, 17) ∧
    ∃ em, pkcs1V15Pad SystemRandom.ones (Text.bytes "exasol".toList) 128 = .ok em ∧
      em.length = 128 ∧ unpad em = some (Text.bytes "exasol".toList) := by
  obtain ⟨hreturns, hreads, hunpads⟩ :=
    encryptPassword_returns_reads_unpads Base64.standard SystemRandom.ones
  refine ⟨?_, ?_, ?_⟩
  · refine (hreturns _ []).mpr fun h => ?_
    exact absurd (List.infix_nil.mp h.1) (by decide)
  · have hn : natToBE 3233 = [12, 161] := by
      rw [natToBE, if_neg (by norm_num), show Nat.digits 256 3233 = [161, 12] by norm_num]
      rfl
    have he : natToBE 17 = [17] := by
      rw [natToBE, if_neg (by norm_num), show Nat.digits 256 17 = [17] by norm_num]
      rfl
    have hcontent : pkcs1Content? 3233 17 = some [2, 2, 12, 161, 2, 1, 17] := by
      rw [pkcs1Content?, derInteger?, derInteger?, hn, he]
      rfl
    exact (hreads 3233 17 _ [48, 7, 2, 2, 12, 161, 2, 1, 17] hcontent rfl []
      "\nMAcCAgyh\nAgER\n".toList ['\n'] List.not_mem_nil (by decide +kernel)).mpr (by decide)
  · have hlen : (Text.bytes "exasol".toList).length = 6 := by decide +kernel
    obtain ⟨hblock, hexists⟩ := hunpads "exasol".toList 128 (by rw [hlen]; norm_num)
    obtain ⟨em, hem⟩ := hexists fun i => nofun
    exact ⟨em, hem, hblock em hem⟩

/-- A text in which the markers stand in the wrong order. -/
def swappedMarkers : List Char := endMarker ++ '\n' :: (startMarker ++ ['\n'])

/-- The markers in the wrong order stop the program. -/
theorem encryptPassword_swappedMarkers :
    encryptPassword Base64.standard SystemRandom.ones "exasol".toList swappedMarkers = stop := by
  have hstart : Text.find? startMarker swappedMarkers = some 29 := by decide +kernel
  have hend : Text.find? endMarker swappedMarkers = some 0 := by decide +kernel
  rw [encryptPassword, pemToPkcs1Der, hstart, hend, orFail_some, ok_bind, orFail_some, ok_bind]
  rfl

end Exarrow.Transport.WebSocket
