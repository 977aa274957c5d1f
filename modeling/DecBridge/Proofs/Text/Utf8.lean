import DecBridge.Text.Utf8

/-!
# The bytes of a text and back

Reading the bytes of a text gives back the text, also when they are read with
replacement characters (`decodeLossy_encode`): the scanner takes exactly the
bytes of one character off the front (`scan_encodeChar`). Strict reading accepts
nothing else (`decode_eq_ok_iff`). A line feed is the only character with the
byte of a line feed in it, so cutting bytes into lines is cutting the text.
-/

namespace DecBridge.Text

/-! ## The bytes of a text -/

theorem byteArray_toList_loop (b : ByteArray) (i : Nat) (r : List UInt8) :
    ByteArray.toList.loop b i r = r.reverse ++ b.data.toList.drop i := by
  fun_induction ByteArray.toList.loop b i r with
  | case1 i r hlt ih =>
      have hi : i < b.data.toList.length := by simpa using hlt
      have hget : b.get! i = b.data.toList[i] := by simp [ByteArray.get!, hlt]
      rw [ih, List.drop_eq_getElem_cons hi, hget]
      simp
  | case2 i r hge =>
      have hdrop : b.data.toList.drop i = [] :=
        List.drop_eq_nil_of_le (by simpa using hge)
      rw [hdrop, List.append_nil]

/-- The bytes of a text are those of its characters in turn. -/
theorem encode_eq_flatMap (s : String) :
    encode s = s.toList.flatMap String.utf8EncodeChar := by
  have hdata : (s.toUTF8).data.toList = s.toList.flatMap String.utf8EncodeChar := by
    rw [String.toUTF8_eq_toByteArray, ← String.utf8Encode_toList]
    exact List.toList_data_toByteArray
  unfold encode ByteArray.toList
  rw [byteArray_toList_loop, hdata]
  rfl

@[simp]
theorem encode_append (s t : String) : encode (s ++ t) = encode s ++ encode t := by
  simp only [encode_eq_flatMap, String.toList_append, List.flatMap_append]

/-! ## Scanning one character -/

theorem takeFollowers_zero (range : Nat × Nat) (acc : Nat) (bs : Bytes) :
    takeFollowers 0 range acc bs = (acc, 0) := by
  cases bs <;> rfl

theorem takeFollowers_succ (n : Nat) {range : Nat × Nat} (acc : Nat) {b : UInt8}
    (bs : Bytes) (hlo : range.1 ≤ b.toNat) (hhi : b.toNat ≤ range.2) :
    takeFollowers (n + 1) range acc (b :: bs) =
      ((takeFollowers n (0x80, 0xbf) (acc * 64 + (b.toNat - 0x80)) bs).1,
        (takeFollowers n (0x80, 0xbf) (acc * 64 + (b.toNat - 0x80)) bs).2 + 1) := by
  rw [takeFollowers]
  simp [hlo, hhi]

theorem scan_one {b : UInt8} (hb : b.toNat < 0x80) (rest : Bytes) :
    scan b rest = .char (Char.ofNat b.toNat) 1 := by
  have hn : followers? b.toNat = some 0 := by simp [followers?, hb]
  unfold scan
  dsimp only
  rw [hn]
  simp [takeFollowers_zero]

theorem scan_two {b b₁ : UInt8} (hlo : 0xc2 ≤ b.toNat) (hhi : b.toNat ≤ 0xdf)
    (hlo₁ : 0x80 ≤ b₁.toNat) (hhi₁ : b₁.toNat ≤ 0xbf) (rest : Bytes) :
    scan b (b₁ :: rest) =
      .char (Char.ofNat ((b.toNat - 0xc0) * 64 + (b₁.toNat - 0x80))) 2 := by
  have hn : followers? b.toNat = some 1 := by
    have : ¬ b.toNat < 0x80 := by omega
    simp [followers?, this, hlo, hhi]
  have hrange : secondByteRange b.toNat = (0x80, 0xbf) := by
    unfold secondByteRange
    simp only [beq_iff_eq]
    repeat rw [if_neg (by omega)]
  unfold scan
  dsimp only
  rw [hn, hrange]
  dsimp only
  rw [takeFollowers_succ _ _ _ hlo₁ hhi₁, takeFollowers_zero]
  rfl

theorem scan_three {b b₁ b₂ : UInt8} (hlo : 0xe0 ≤ b.toNat) (hhi : b.toNat ≤ 0xef)
    (hlo₁ : (secondByteRange b.toNat).1 ≤ b₁.toNat)
    (hhi₁ : b₁.toNat ≤ (secondByteRange b.toNat).2)
    (hlo₂ : 0x80 ≤ b₂.toNat) (hhi₂ : b₂.toNat ≤ 0xbf) (rest : Bytes) :
    scan b (b₁ :: b₂ :: rest) =
      .char (Char.ofNat (((b.toNat - 0xe0) * 64 + (b₁.toNat - 0x80)) * 64
        + (b₂.toNat - 0x80))) 3 := by
  have hn : followers? b.toNat = some 2 := by
    have h₀ : ¬ b.toNat < 0x80 := by omega
    have h₁ : ¬ b.toNat ≤ 0xdf := by omega
    simp [followers?, h₀, h₁, hlo, hhi]
  unfold scan
  dsimp only
  rw [hn]
  dsimp only
  rw [takeFollowers_succ _ _ _ hlo₁ hhi₁, takeFollowers_succ _ _ _ hlo₂ hhi₂,
    takeFollowers_zero]
  rfl

theorem scan_four {b b₁ b₂ b₃ : UInt8} (hlo : 0xf0 ≤ b.toNat) (hhi : b.toNat ≤ 0xf4)
    (hlo₁ : (secondByteRange b.toNat).1 ≤ b₁.toNat)
    (hhi₁ : b₁.toNat ≤ (secondByteRange b.toNat).2)
    (hlo₂ : 0x80 ≤ b₂.toNat) (hhi₂ : b₂.toNat ≤ 0xbf)
    (hlo₃ : 0x80 ≤ b₃.toNat) (hhi₃ : b₃.toNat ≤ 0xbf) (rest : Bytes) :
    scan b (b₁ :: b₂ :: b₃ :: rest) =
      .char (Char.ofNat ((((b.toNat - 0xf0) * 64 + (b₁.toNat - 0x80)) * 64
        + (b₂.toNat - 0x80)) * 64 + (b₃.toNat - 0x80))) 4 := by
  have hn : followers? b.toNat = some 3 := by
    have h₀ : ¬ b.toNat < 0x80 := by omega
    have h₁ : ¬ b.toNat ≤ 0xdf := by omega
    have h₂ : ¬ b.toNat ≤ 0xef := by omega
    simp [followers?, h₀, h₁, h₂, hlo, hhi]
  unfold scan
  dsimp only
  rw [hn]
  dsimp only
  rw [takeFollowers_succ _ _ _ hlo₁ hhi₁, takeFollowers_succ _ _ _ hlo₂ hhi₂,
    takeFollowers_succ _ _ _ hlo₃ hhi₃, takeFollowers_zero]
  rfl

theorem toNat_ofNat_of_lt {n : Nat} (h : n < 256) : (UInt8.ofNat n).toNat = n := by
  rw [UInt8.toNat_ofNat']
  exact Nat.mod_eq_of_lt h

/-- The numbers of characters: surrogates are left out. -/
theorem char_toNat_valid (c : Char) :
    c.toNat < 0xd800 ∨ 0xdfff < c.toNat ∧ c.toNat < 0x110000 := c.valid

/-- The second of three bytes is in range: shorter encodings are not cut in
two, and surrogates do not occur. -/
theorem second_of_three {n : Nat} (hlo : 0x7ff < n) (hhi : n ≤ 0xffff)
    (hvalid : n < 0xd800 ∨ 0xdfff < n ∧ n < 0x110000) :
    (secondByteRange (n / 4096 + 0xe0)).1 ≤ n / 64 % 0x40 + 0x80 ∧
      n / 64 % 0x40 + 0x80 ≤ (secondByteRange (n / 4096 + 0xe0)).2 := by
  unfold secondByteRange
  simp only [beq_iff_eq]
  split
  · constructor <;> dsimp only <;> omega
  split
  · constructor <;> dsimp only <;> omega
  rw [if_neg (by omega), if_neg (by omega)]
  constructor <;> dsimp only <;> omega

/-- The second of four bytes is in range: nothing lies beyond the last
character. -/
theorem second_of_four {n : Nat} (hlo : 0xffff < n)
    (hvalid : n < 0xd800 ∨ 0xdfff < n ∧ n < 0x110000) :
    (secondByteRange (n / 262144 + 0xf0)).1 ≤ n / 4096 % 0x40 + 0x80 ∧
      n / 4096 % 0x40 + 0x80 ≤ (secondByteRange (n / 262144 + 0xf0)).2 := by
  unfold secondByteRange
  simp only [beq_iff_eq]
  rw [if_neg (by omega), if_neg (by omega)]
  split
  · constructor <;> dsimp only <;> omega
  split
  · constructor <;> dsimp only <;> omega
  constructor <;> dsimp only <;> omega

theorem follower_toNat (n : Nat) :
    (UInt8.ofNat (n % 0x40 + 0x80)).toNat = n % 0x40 + 0x80 :=
  toNat_ofNat_of_lt (by omega)

theorem scan_encoded_two {n : Nat} (hlo : 0x7f < n) (hhi : n ≤ 0x7ff) (rest : Bytes) :
    scan (UInt8.ofNat (n / 64 % 0x20 + 0xc0)) (UInt8.ofNat (n % 0x40 + 0x80) :: rest) =
      .char (Char.ofNat n) 2 := by
  have hb : (UInt8.ofNat (n / 64 % 0x20 + 0xc0)).toNat = n / 64 + 0xc0 := by
    rw [toNat_ofNat_of_lt (by omega)]
    omega
  have hb₁ := follower_toNat n
  have hn : (n / 64 + 0xc0 - 0xc0) * 64 + (n % 0x40 + 0x80 - 0x80) = n := by omega
  rw [scan_two (by omega) (by omega) (by omega) (by omega), hb, hb₁, hn]

theorem scan_encoded_three {n : Nat} (hlo : 0x7ff < n) (hhi : n ≤ 0xffff)
    (hvalid : n < 0xd800 ∨ 0xdfff < n ∧ n < 0x110000) (rest : Bytes) :
    scan (UInt8.ofNat (n / 4096 % 0x10 + 0xe0)) (UInt8.ofNat (n / 64 % 0x40 + 0x80) ::
        UInt8.ofNat (n % 0x40 + 0x80) :: rest) = .char (Char.ofNat n) 3 := by
  have hb : (UInt8.ofNat (n / 4096 % 0x10 + 0xe0)).toNat = n / 4096 + 0xe0 := by
    rw [toNat_ofNat_of_lt (by omega)]
    omega
  have hb₁ := follower_toNat (n / 64)
  have hb₂ := follower_toNat n
  have hn : ((n / 4096 + 0xe0 - 0xe0) * 64 + (n / 64 % 0x40 + 0x80 - 0x80)) * 64 +
      (n % 0x40 + 0x80 - 0x80) = n := by omega
  obtain ⟨hlo₁, hhi₁⟩ := second_of_three hlo hhi hvalid
  rw [scan_three (by omega) (by omega) (by rw [hb, hb₁]; exact hlo₁)
    (by rw [hb, hb₁]; exact hhi₁) (by omega) (by omega), hb, hb₁, hb₂, hn]

theorem scan_encoded_four {n : Nat} (hlo : 0xffff < n)
    (hvalid : n < 0xd800 ∨ 0xdfff < n ∧ n < 0x110000) (rest : Bytes) :
    scan (UInt8.ofNat (n / 262144 % 0x08 + 0xf0)) (UInt8.ofNat (n / 4096 % 0x40 + 0x80) ::
        UInt8.ofNat (n / 64 % 0x40 + 0x80) :: UInt8.ofNat (n % 0x40 + 0x80) :: rest) =
      .char (Char.ofNat n) 4 := by
  have hb : (UInt8.ofNat (n / 262144 % 0x08 + 0xf0)).toNat = n / 262144 + 0xf0 := by
    rw [toNat_ofNat_of_lt (by omega)]
    omega
  have hb₁ := follower_toNat (n / 4096)
  have hb₂ := follower_toNat (n / 64)
  have hb₃ := follower_toNat n
  have hn : (((n / 262144 + 0xf0 - 0xf0) * 64 + (n / 4096 % 0x40 + 0x80 - 0x80)) * 64 +
      (n / 64 % 0x40 + 0x80 - 0x80)) * 64 + (n % 0x40 + 0x80 - 0x80) = n := by omega
  obtain ⟨hlo₁, hhi₁⟩ := second_of_four hlo hvalid
  rw [scan_four (by omega) (by omega) (by rw [hb, hb₁]; exact hlo₁)
    (by rw [hb, hb₁]; exact hhi₁) (by omega) (by omega) (by omega) (by omega),
    hb, hb₁, hb₂, hb₃, hn]

/-- The scanner takes the bytes of one character, whatever follows them. -/
theorem scan_encodeChar (c : Char) (rest : Bytes) :
    ∃ b bs, String.utf8EncodeChar c = b :: bs ∧
      scan b (bs ++ rest) = .char c (bs.length + 1) := by
  have hvalid := char_toNat_valid c
  have hc : c.val.toNat = c.toNat := rfl
  unfold String.utf8EncodeChar
  rw [hc]
  generalize hn : c.toNat = n at hvalid
  obtain rfl : Char.ofNat n = c := by rw [← hn, Char.ofNat_toNat]
  dsimp only
  split
  case isTrue h₁ =>
    refine ⟨_, _, rfl, ?_⟩
    have hb : (UInt8.ofNat n).toNat = n := toNat_ofNat_of_lt (by omega)
    rw [List.nil_append, scan_one (by omega), hb]
    rfl
  case isFalse h₁ =>
    split
    case isTrue h₂ => exact ⟨_, _, rfl, scan_encoded_two (by omega) h₂ rest⟩
    case isFalse h₂ =>
      split
      case isTrue h₃ => exact ⟨_, _, rfl, scan_encoded_three (by omega) h₃ hvalid rest⟩
      case isFalse h₃ => exact ⟨_, _, rfl, scan_encoded_four (by omega) hvalid rest⟩

/-! ## Reading the bytes of a text -/

theorem decodeLossyFrom_skip (acc : List Char) (bs rest : Bytes) :
    decodeLossyFrom bs.length acc (bs ++ rest) = decodeLossyFrom 0 acc rest := by
  induction bs with
  | nil => rfl
  | cons b bs ih => exact ih

theorem decodeLossyFrom_encodeChar (acc : List Char) (c : Char) (rest : Bytes) :
    decodeLossyFrom 0 acc (String.utf8EncodeChar c ++ rest) =
      decodeLossyFrom 0 (c :: acc) rest := by
  obtain ⟨b, bs, hbytes, hscan⟩ := scan_encodeChar c rest
  rw [hbytes, List.cons_append, decodeLossyFrom, hscan]
  exact decodeLossyFrom_skip (c :: acc) bs rest

theorem decodeLossyFrom_encode (acc cs : List Char) :
    decodeLossyFrom 0 acc (cs.flatMap String.utf8EncodeChar) = acc.reverse ++ cs := by
  induction cs generalizing acc with
  | nil => simp [decodeLossyFrom]
  | cons c cs ih =>
      rw [List.flatMap_cons, decodeLossyFrom_encodeChar, ih]
      simp

/-- The bytes of a text are read as that text. -/
@[simp]
theorem decodeLossy_encode (s : String) : decodeLossy (encode s) = s := by
  rw [decodeLossy, encode_eq_flatMap, decodeLossyFrom_encode]
  simp

theorem decodeFrom_skip (offset : Nat) (acc : List Char) (bs rest : Bytes) :
    decodeFrom offset bs.length acc (bs ++ rest) =
      decodeFrom (offset + bs.length) 0 acc rest := by
  induction bs generalizing offset with
  | nil => rfl
  | cons b bs ih =>
      show decodeFrom (offset + 1) bs.length acc (bs ++ rest) = _
      rw [ih, List.length_cons, Nat.add_assoc, Nat.add_comm 1]

theorem decodeFrom_encode (offset : Nat) (acc cs : List Char) :
    decodeFrom offset 0 acc (cs.flatMap String.utf8EncodeChar) =
      .ok (acc.reverse ++ cs) := by
  induction cs generalizing offset acc with
  | nil => simp [decodeFrom]
  | cons c cs ih =>
      obtain ⟨b, bs, hbytes, hscan⟩ :=
        scan_encodeChar c (cs.flatMap String.utf8EncodeChar)
      rw [List.flatMap_cons, hbytes, List.cons_append, decodeFrom, hscan]
      show decodeFrom (offset + 1) bs.length (c :: acc) _ = _
      rw [decodeFrom_skip, ih]
      simp

/-- The bytes of a text are UTF-8. -/
@[simp]
theorem decode_encode (s : String) : decode (encode s) = .ok s := by
  rw [decode, encode_eq_flatMap, decodeFrom_encode]
  simp [Except.map]

@[simp]
theorem encode_eq_nil_iff {s : String} : encode s = [] ↔ s = "" := by
  have hempty : encode "" = [] := by simp [encode_eq_flatMap]
  constructor
  · intro h
    have hdecode := decode_encode s
    rw [h, ← hempty, decode_encode] at hdecode
    exact (Except.ok.inj hdecode).symm
  · rintro rfl
    exact hempty

/-! ## Only the bytes of a text are read as a text -/

theorem exists_follower {n : Nat} {range : Nat × Nat} {acc code : Nat} {bs : Bytes}
    (h : takeFollowers (n + 1) range acc bs = (code, n + 1)) :
    ∃ b rest, bs = b :: rest ∧ range.1 ≤ b.toNat ∧ b.toNat ≤ range.2 ∧
      takeFollowers n (0x80, 0xbf) (acc * 64 + (b.toNat - 0x80)) rest = (code, n) := by
  cases bs with
  | nil => simp [takeFollowers] at h
  | cons b rest =>
      by_cases hb : range.1 ≤ b.toNat ∧ b.toNat ≤ range.2
      · rw [takeFollowers_succ _ _ _ hb.1 hb.2, Prod.mk.injEq, Nat.add_right_cancel_iff] at h
        exact ⟨b, rest, rfl, hb.1, hb.2, Prod.ext h.1 h.2⟩
      · rw [takeFollowers, if_neg (by simpa using hb)] at h
        cases h

theorem encodeChar_ofNat {n : Nat} (h : n < 0xd800 ∨ 0xdfff < n ∧ n < 0x110000) :
    String.utf8EncodeChar (Char.ofNat n) =
      if n ≤ 0x7f then [UInt8.ofNat n]
      else if n ≤ 0x7ff then
        [UInt8.ofNat (n / 64 % 0x20 + 0xc0), UInt8.ofNat (n % 0x40 + 0x80)]
      else if n ≤ 0xffff then
        [UInt8.ofNat (n / 4096 % 0x10 + 0xe0), UInt8.ofNat (n / 64 % 0x40 + 0x80),
          UInt8.ofNat (n % 0x40 + 0x80)]
      else
        [UInt8.ofNat (n / 262144 % 0x08 + 0xf0), UInt8.ofNat (n / 4096 % 0x40 + 0x80),
          UInt8.ofNat (n / 64 % 0x40 + 0x80), UInt8.ofNat (n % 0x40 + 0x80)] := by
  have hvalid : n.isValidChar := h
  have hval : (Char.ofNat n).val.toNat = n := by
    rw [Char.ofNat, dif_pos hvalid]
    rfl
  unfold String.utf8EncodeChar
  rw [hval]

theorem ofNat_eq_of_toNat {n : Nat} {b : UInt8} (h : n = b.toNat) : UInt8.ofNat n = b := by
  rw [h, UInt8.ofNat_toNat]

theorem scan_eq_char {b : UInt8} {rest : Bytes} {c : Char} {size : Nat}
    (h : scan b rest = .char c size) :
    ∃ n code, followers? b.toNat = some n ∧ size = n + 1 ∧ c = Char.ofNat code ∧
      takeFollowers n (secondByteRange b.toNat)
        (if n == 0 then b.toNat else if n == 1 then b.toNat - 0xc0
          else if n == 2 then b.toNat - 0xe0 else b.toNat - 0xf0) rest = (code, n) := by
  unfold scan at h
  dsimp only at h
  cases hn : followers? b.toNat with
  | none => rw [hn] at h; cases h
  | some n =>
      rw [hn] at h
      dsimp only at h
      generalize hpayload : (if n == 0 then b.toNat else if n == 1 then b.toNat - 0xc0
          else if n == 2 then b.toNat - 0xe0 else b.toNat - 0xf0) = payload at h
      split at h
      · next htaken =>
        cases h
        refine ⟨n, _, rfl, rfl, rfl, ?_⟩
        rw [hpayload]
        exact Prod.ext rfl (by simpa using htaken)
      · cases h

/-- The lead byte of a sequence and the range of its second byte rule out
shorter encodings, surrogates and numbers that are too large. -/
theorem secondByteRange_three {v w : Nat} (hlo : 0xe0 ≤ v) (hhi : v ≤ 0xef)
    (hw : (secondByteRange v).1 ≤ w ∧ w ≤ (secondByteRange v).2) :
    0x80 ≤ w ∧ w ≤ 0xbf ∧ (v = 0xe0 → 0xa0 ≤ w) ∧ (v = 0xed → w ≤ 0x9f) := by
  unfold secondByteRange at hw
  simp only [beq_iff_eq] at hw
  split at hw
  · simp_all; omega
  split at hw
  · simp_all; omega
  rw [if_neg (by omega), if_neg (by omega)] at hw
  simp_all

theorem secondByteRange_four {v w : Nat} (hlo : 0xf0 ≤ v) (hhi : v ≤ 0xf4)
    (hw : (secondByteRange v).1 ≤ w ∧ w ≤ (secondByteRange v).2) :
    0x80 ≤ w ∧ w ≤ 0xbf ∧ (v = 0xf0 → 0x90 ≤ w) ∧ (v = 0xf4 → w ≤ 0x8f) := by
  unfold secondByteRange at hw
  simp only [beq_iff_eq] at hw
  rw [if_neg (by omega), if_neg (by omega)] at hw
  split at hw
  · simp_all; omega
  split at hw
  · simp_all; omega
  simp_all

/-- A character that the scanner takes has exactly the bytes that it took. -/
theorem encodeChar_of_scan {b : UInt8} {rest : Bytes} {c : Char} {size : Nat}
    (h : scan b rest = .char c size) :
    ∃ bs rest', rest = bs ++ rest' ∧ size = bs.length + 1 ∧
      String.utf8EncodeChar c = b :: bs := by
  obtain ⟨n, code, hn, rfl, rfl, hcode⟩ := scan_eq_char h
  unfold followers? at hn
  simp only [Bool.and_eq_true, decide_eq_true_eq] at hn
  split at hn
  case isTrue hb =>
    cases hn
    rw [takeFollowers_zero] at hcode
    obtain rfl : b.toNat = code := congrArg Prod.fst hcode
    refine ⟨[], rest, rfl, rfl, ?_⟩
    rw [encodeChar_ofNat (by omega), if_pos (by omega), UInt8.ofNat_toNat]
  split at hn
  case isTrue hb =>
    cases hn
    obtain ⟨b₁, rest, rfl, hlo₁, hhi₁, hcode⟩ := exists_follower hcode
    have hcode := congrArg Prod.fst hcode
    simp only [takeFollowers_zero, Nat.reduceBEq, Bool.false_eq_true, if_false,
      if_true] at hcode
    have hrange : secondByteRange b.toNat = (0x80, 0xbf) := by
      unfold secondByteRange
      simp only [beq_iff_eq]
      repeat rw [if_neg (by omega)]
    rw [hrange] at hlo₁ hhi₁
    dsimp only at hlo₁ hhi₁
    subst hcode
    refine ⟨[b₁], rest, rfl, rfl, ?_⟩
    rw [encodeChar_ofNat (by omega), if_neg (by omega), if_pos (by omega),
      ofNat_eq_of_toNat (b := b) (by omega), ofNat_eq_of_toNat (b := b₁) (by omega)]
  split at hn
  case isTrue hb =>
    cases hn
    obtain ⟨b₁, rest, rfl, hlo₁, hhi₁, hcode⟩ := exists_follower hcode
    obtain ⟨b₂, rest, rfl, hlo₂, hhi₂, hcode⟩ := exists_follower hcode
    have hcode := congrArg Prod.fst hcode
    simp only [takeFollowers_zero, Nat.reduceBEq, Bool.false_eq_true, if_false,
      if_true] at hcode
    obtain ⟨hlo₁, hhi₁, hshort, hsurrogate⟩ := secondByteRange_three hb.1 hb.2 ⟨hlo₁, hhi₁⟩
    dsimp only at hlo₂ hhi₂
    subst hcode
    refine ⟨[b₁, b₂], rest, rfl, rfl, ?_⟩
    rw [encodeChar_ofNat (by omega), if_neg (by omega), if_neg (by omega), if_pos (by omega),
      ofNat_eq_of_toNat (b := b) (by omega), ofNat_eq_of_toNat (b := b₁) (by omega),
      ofNat_eq_of_toNat (b := b₂) (by omega)]
  split at hn
  case isTrue hb =>
    cases hn
    obtain ⟨b₁, rest, rfl, hlo₁, hhi₁, hcode⟩ := exists_follower hcode
    obtain ⟨b₂, rest, rfl, hlo₂, hhi₂, hcode⟩ := exists_follower hcode
    obtain ⟨b₃, rest, rfl, hlo₃, hhi₃, hcode⟩ := exists_follower hcode
    have hcode := congrArg Prod.fst hcode
    simp only [takeFollowers_zero, Nat.reduceBEq, Bool.false_eq_true, if_false] at hcode
    obtain ⟨hlo₁, hhi₁, hshort, hlarge⟩ := secondByteRange_four hb.1 hb.2 ⟨hlo₁, hhi₁⟩
    dsimp only at hlo₂ hhi₂ hlo₃ hhi₃
    subst hcode
    refine ⟨[b₁, b₂, b₃], rest, rfl, rfl, ?_⟩
    rw [encodeChar_ofNat (by omega), if_neg (by omega), if_neg (by omega), if_neg (by omega),
      ofNat_eq_of_toNat (b := b) (by omega), ofNat_eq_of_toNat (b := b₁) (by omega),
      ofNat_eq_of_toNat (b := b₂) (by omega), ofNat_eq_of_toNat (b := b₃) (by omega)]
  cases hn

theorem encode_of_decodeFrom {offset : Nat} {acc cs : List Char} {bytes : Bytes}
    (h : decodeFrom offset 0 acc bytes = .ok cs) :
    ∃ new, cs = acc.reverse ++ new ∧ bytes = new.flatMap String.utf8EncodeChar := by
  induction hlength : bytes.length using Nat.strongRecOn
    generalizing offset acc bytes with
  | ind length ih =>
      cases bytes with
      | nil =>
          cases h
          exact ⟨[], by simp, rfl⟩
      | cons b rest =>
          rw [decodeFrom] at h
          cases hscan : scan b rest with
          | malformed size cutShort =>
              rw [hscan] at h
              cases h
          | char c size =>
              obtain ⟨bs, rest', rfl, rfl, hbytes⟩ := encodeChar_of_scan hscan
              rw [hscan] at h
              dsimp only at h
              rw [Nat.add_sub_cancel, decodeFrom_skip] at h
              obtain ⟨new, rfl, rfl⟩ := ih rest'.length (by simp at hlength; omega) h rfl
              exact ⟨c :: new, by simp, by simp [hbytes]⟩

/-- The bytes that are read as a text are those of that text. -/
theorem decode_eq_ok_iff {bytes : Bytes} {s : String} :
    decode bytes = .ok s ↔ bytes = encode s := by
  constructor
  · intro h
    unfold decode at h
    cases hread : decodeFrom 0 0 [] bytes with
    | error e => rw [hread] at h; cases h
    | ok cs =>
        rw [hread] at h
        cases h
        obtain ⟨new, rfl, rfl⟩ := encode_of_decodeFrom hread
        simp [encode_eq_flatMap]
  · rintro rfl
    exact decode_encode s

/-! ## Line feeds -/

/-- The byte of a line feed. -/
def lineFeed : UInt8 := 10

/-- A character beyond ASCII has no byte of one. -/
theorem high_of_mem_encodeChar {c : Char} (hc : 0x7f < c.toNat) {b : UInt8}
    (hb : b ∈ String.utf8EncodeChar c) : 0x80 ≤ b.toNat := by
  have hvalid := char_toNat_valid c
  have hval : c.val.toNat = c.toNat := rfl
  unfold String.utf8EncodeChar at hb
  rw [hval] at hb
  generalize c.toNat = n at hc hvalid hb
  dsimp only at hb
  rw [if_neg (by omega)] at hb
  split at hb
  · simp only [List.mem_cons, List.not_mem_nil, or_false] at hb
    rcases hb with rfl | rfl <;> rw [toNat_ofNat_of_lt (by omega)] <;> omega
  split at hb
  · simp only [List.mem_cons, List.not_mem_nil, or_false] at hb
    rcases hb with rfl | rfl | rfl <;> rw [toNat_ofNat_of_lt (by omega)] <;> omega
  · simp only [List.mem_cons, List.not_mem_nil, or_false] at hb
    rcases hb with rfl | rfl | rfl | rfl <;> rw [toNat_ofNat_of_lt (by omega)] <;> omega

theorem lineFeed_mem_encodeChar {c : Char} (h : lineFeed ∈ String.utf8EncodeChar c) :
    c = '\n' := by
  have hten : lineFeed.toNat = 10 := rfl
  have hlow : c.toNat ≤ 0x7f := by
    refine Nat.le_of_not_lt fun hhigh => ?_
    have := high_of_mem_encodeChar hhigh h
    omega
  have hval : c.val.toNat = c.toNat := rfl
  unfold String.utf8EncodeChar at h
  rw [hval] at h
  dsimp only at h
  rw [if_pos hlow] at h
  have heq := congrArg UInt8.toNat (List.mem_singleton.mp h)
  rw [toNat_ofNat_of_lt (by omega)] at heq
  exact Char.toNat_inj.mp heq.symm

theorem lineFeed_notMem_encode {s : String} (h : '\n' ∉ s.toList) :
    lineFeed ∉ encode s := by
  rw [encode_eq_flatMap]
  intro hmem
  obtain ⟨c, hc, hbyte⟩ := List.mem_flatMap.mp hmem
  exact h (lineFeed_mem_encodeChar hbyte ▸ hc)

/-! ## The number of bytes -/

theorem byteLength_cons (c : Char) (cs : List Char) :
    byteLength (c :: cs) = c.utf8Size + byteLength cs := by
  have hfold : ∀ n, cs.foldl (fun n c => n + c.utf8Size) n = n + byteLength cs := by
    unfold byteLength
    induction cs with
    | nil => simp
    | cons d cs ih =>
        intro n
        rw [List.foldl_cons, List.foldl_cons, ih, ih (0 + d.utf8Size)]
        omega
  exact (hfold _).trans (by simp)

/-- Counting the bytes of the characters is counting the bytes of the text. -/
theorem byteLength_toList (s : String) : byteLength s.toList = s.utf8ByteSize := by
  have hlist : ∀ cs, byteLength cs = (String.ofList cs).utf8ByteSize := by
    intro cs
    induction cs with
    | nil => rfl
    | cons c cs ih =>
        rw [byteLength_cons, ih, ← List.singleton_append, String.ofList_append,
          String.utf8ByteSize_append]
        simp
  rw [hlist, String.ofList_toList]

end DecBridge.Text
