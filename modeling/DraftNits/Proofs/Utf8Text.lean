import DraftNits.Text.Utf8
import Mathlib.Data.List.Basic

/-! # What decoding accepts

A byte sequence is UTF-8 if it encodes a text. The decoder accepts those sequences and no others,
and gives the text that they encode; on any other sequence it stops after the longest beginning that
is UTF-8.

* `Text.Utf8.decodeChar?_encodeChar`, `Text.Utf8.eq_append_of_decodeChar?` — one character is
  decoded from the bytes that encode it, and from no others.
* `Text.Utf8.decode_eq_ok_iff` — decoding gives a text exactly if the bytes encode it.
* `Text.Utf8.decode_eq_error_iff` — decoding fails exactly on what is not UTF-8, with the length of
  the longest beginning that is. -/

namespace DraftNits.Text.Utf8

/-! ## One character -/

/-- A tail is the byte 0x80 with six bits added. -/
theorem toNat_of_isTail {b : UInt8} (is_tail : isTail b = true) :
    b.toNat = tailBits b + 0x80 ∧ tailBits b < 0x40 := by
  have bounds : 0x80 ≤ b.toNat ∧ b.toNat ≤ 0xBF := by
    simpa [isTail, UInt8.le_iff_toNat_le] using is_tail
  have bits : tailBits b = b.toNat - 0x80 := rfl
  omega

/-- The character of a scalar value has that value. -/
theorem toNat_ofNat {v : Nat} (valid : v.isValidChar) : (Char.ofNat v).toNat = v := by
  rw [Char.ofNat, dif_pos valid]
  rfl

/-- The bytes of a character, by its scalar value. -/
theorem encodeChar_ofNat {v : Nat} (valid : v.isValidChar) :
    String.utf8EncodeChar (Char.ofNat v) =
      if v ≤ 0x7F then [UInt8.ofNat v]
      else if v ≤ 0x7FF then [UInt8.ofNat (v / 0x40 % 0x20 + 0xC0), UInt8.ofNat (v % 0x40 + 0x80)]
      else if v ≤ 0xFFFF then
        [UInt8.ofNat (v / 0x1000 % 0x10 + 0xE0), UInt8.ofNat (v / 0x40 % 0x40 + 0x80),
          UInt8.ofNat (v % 0x40 + 0x80)]
      else
        [UInt8.ofNat (v / 0x40000 % 8 + 0xF0), UInt8.ofNat (v / 0x1000 % 0x40 + 0x80),
          UInt8.ofNat (v / 0x40 % 0x40 + 0x80), UInt8.ofNat (v % 0x40 + 0x80)] := by
  simp only [String.utf8EncodeChar, Char.toNat_val, toNat_ofNat valid]

/-- Two bytes encode the character whose bits they hold, unless one byte could. -/
theorem encodeChar_two {a b : UInt8} (least : 0xC2 ≤ a.toNat) (most : a.toNat < 0xE0)
    (second : isTail b = true) :
    String.utf8EncodeChar (Char.ofNat ((a.toNat - 0xC0) * 64 + tailBits b)) = [a, b] := by
  generalize is_v : (a.toNat - 0xC0) * 64 + tailBits b = v
  have of_second := toNat_of_isTail second
  have valid : v.isValidChar := by
    rw [Nat.isValidChar]
    omega
  have byte_a : v / 0x40 % 0x20 + 0xC0 = a.toNat := by omega
  have byte_b : v % 0x40 + 0x80 = b.toNat := by omega
  rw [encodeChar_ofNat valid, if_neg (by omega), if_pos (by omega), byte_a, byte_b]
  simp only [UInt8.ofNat_toNat]

/-- Three bytes encode the character whose bits they hold, unless fewer bytes could or the bits are
those of a surrogate. -/
theorem encodeChar_three {a b c : UInt8} (least : 0xE0 ≤ a.toNat) (most : a.toNat < 0xF0)
    (second : isTail b = true) (third : isTail c = true)
    (not_short : a.toNat = 0xE0 → 0xA0 ≤ b.toNat)
    (no_surrogate : a.toNat = 0xED → b.toNat ≤ 0x9F) :
    String.utf8EncodeChar
      (Char.ofNat (((a.toNat - 0xE0) * 64 + tailBits b) * 64 + tailBits c)) = [a, b, c] := by
  generalize is_v : ((a.toNat - 0xE0) * 64 + tailBits b) * 64 + tailBits c = v
  have of_second := toNat_of_isTail second
  have of_third := toNat_of_isTail third
  have valid : v.isValidChar := by
    rw [Nat.isValidChar]
    omega
  have byte_a : v / 0x1000 % 0x10 + 0xE0 = a.toNat := by omega
  have byte_b : v / 0x40 % 0x40 + 0x80 = b.toNat := by omega
  have byte_c : v % 0x40 + 0x80 = c.toNat := by omega
  rw [encodeChar_ofNat valid, if_neg (by omega), if_neg (by omega), if_pos (by omega), byte_a,
    byte_b, byte_c]
  simp only [UInt8.ofNat_toNat]

/-- Four bytes encode the character whose bits they hold, unless fewer bytes could or the bits are
beyond the last character. -/
theorem encodeChar_four {a b c d : UInt8} (least : 0xF0 ≤ a.toNat) (most : a.toNat < 0xF5)
    (second : isTail b = true) (third : isTail c = true) (fourth : isTail d = true)
    (not_short : a.toNat = 0xF0 → 0x90 ≤ b.toNat) (not_beyond : a.toNat = 0xF4 → b.toNat ≤ 0x8F) :
    String.utf8EncodeChar (Char.ofNat
      ((((a.toNat - 0xF0) * 64 + tailBits b) * 64 + tailBits c) * 64 + tailBits d)) =
        [a, b, c, d] := by
  generalize is_v :
    (((a.toNat - 0xF0) * 64 + tailBits b) * 64 + tailBits c) * 64 + tailBits d = v
  have of_second := toNat_of_isTail second
  have of_third := toNat_of_isTail third
  have of_fourth := toNat_of_isTail fourth
  have valid : v.isValidChar := by
    rw [Nat.isValidChar]
    omega
  have byte_a : v / 0x40000 % 8 + 0xF0 = a.toNat := by omega
  have byte_b : v / 0x1000 % 0x40 + 0x80 = b.toNat := by omega
  have byte_c : v / 0x40 % 0x40 + 0x80 = c.toNat := by omega
  have byte_d : v % 0x40 + 0x80 = d.toNat := by omega
  rw [encodeChar_ofNat valid, if_neg (by omega), if_neg (by omega), if_neg (by omega), byte_a,
    byte_b, byte_c, byte_d]
  simp only [UInt8.ofNat_toNat]

/-- A second byte is a tail, with tighter bounds after some first bytes. -/
theorem bounds_of_second {after_low after_high : Prop} [Decidable after_low]
    [Decidable after_high] {b low high : UInt8} (low_tail : 0x80 ≤ low) (high_tail : high ≤ 0xBF)
    (above : (if after_low then low else 0x80) ≤ b) (below : b ≤ if after_high then high else 0xBF) :
    isTail b = true ∧ (after_low → low.toNat ≤ b.toNat) ∧ (after_high → b.toNat ≤ high.toNat) := by
  refine ⟨?_, fun special => ?_, fun special => ?_⟩
  · rw [isTail, Bool.and_eq_true, decide_eq_true_eq, decide_eq_true_eq]
    constructor
    · split at above
      · exact UInt8.le_trans low_tail above
      · exact above
    · split at below
      · exact UInt8.le_trans below high_tail
      · exact below
  · rw [if_pos special] at above
    exact UInt8.le_iff_toNat_le.1 above
  · rw [if_pos special] at below
    exact UInt8.le_iff_toNat_le.1 below

/-- A character that is decoded has been taken off as the bytes that encode it. -/
theorem eq_append_of_decodeChar? {bytes rest : List UInt8} {c : Char} {n : Nat}
    (done : decodeChar? bytes = some (c, n, rest)) :
    bytes = String.utf8EncodeChar c ++ rest ∧ n = (String.utf8EncodeChar c).length := by
  unfold decodeChar? at done
  simp only [UInt8.lt_iff_toNat_lt, UInt8.reduceToNat] at done
  -- One case for each length, which the first byte tells.
  split at done
  · cases done
  next a tail =>
  split at done
  next low =>
    have valid : a.toNat.isValidChar := by
      rw [Nat.isValidChar]
      omega
    cases done
    rw [encodeChar_ofNat valid, if_pos (by omega), UInt8.ofNat_toNat]
    exact ⟨rfl, rfl⟩
  split at done
  · cases done
  split at done
  · split at done
    next b left =>
      simp only [Option.ite_none_right_eq_some, Option.some.injEq, Prod.mk.injEq] at done
      obtain ⟨second, is_char, rfl, rfl⟩ := done
      rw [← is_char, encodeChar_two (by omega) (by omega) second]
      exact ⟨rfl, rfl⟩
    · cases done
  split at done
  · split at done
    next b c' left =>
      simp only [Option.ite_none_right_eq_some, Option.some.injEq, Prod.mk.injEq] at done
      obtain ⟨fits, is_char, rfl, rfl⟩ := done
      simp only [Bool.and_eq_true, decide_eq_true_eq] at fits
      obtain ⟨⟨above, below⟩, third⟩ := fits
      obtain ⟨second, not_short, no_surrogate⟩ :=
        bounds_of_second (by decide) (by decide) above below
      simp only [← UInt8.toNat_inj, UInt8.reduceToNat] at not_short no_surrogate
      rw [← is_char,
        encodeChar_three (by omega) (by omega) second third not_short no_surrogate]
      exact ⟨rfl, rfl⟩
    · cases done
  split at done
  · split at done
    next b c' d left =>
      simp only [Option.ite_none_right_eq_some, Option.some.injEq, Prod.mk.injEq] at done
      obtain ⟨fits, is_char, rfl, rfl⟩ := done
      simp only [Bool.and_eq_true, decide_eq_true_eq] at fits
      obtain ⟨⟨⟨above, below⟩, third⟩, fourth⟩ := fits
      obtain ⟨second, not_short, not_beyond⟩ :=
        bounds_of_second (by decide) (by decide) above below
      simp only [← UInt8.toNat_inj, UInt8.reduceToNat] at not_short not_beyond
      rw [← is_char,
        encodeChar_four (by omega) (by omega) second third fourth not_short not_beyond]
      exact ⟨rfl, rfl⟩
    · cases done
  · cases done


/-- Six bits make a tail. -/
theorem isTail_ofNat (n : Nat) : isTail (UInt8.ofNat (n % 0x40 + 0x80)) = true := by
  simp only [isTail, UInt8.le_iff_toNat_le, UInt8.toNat_ofNat', UInt8.reduceToNat,
    Bool.and_eq_true, decide_eq_true_eq]
  omega

/-- The bits of a tail are those that made it. -/
theorem tailBits_ofNat (n : Nat) : tailBits (UInt8.ofNat (n % 0x40 + 0x80)) = n % 0x40 := by
  have of_tail := toNat_of_isTail (isTail_ofNat n)
  rw [UInt8.toNat_ofNat'] at of_tail
  omega

/-- The bytes of a character are decoded to it, whatever comes after them. -/
theorem decodeChar?_encodeChar (c : Char) (rest : List UInt8) :
    decodeChar? (String.utf8EncodeChar c ++ rest) =
      some (c, (String.utf8EncodeChar c).length, rest) := by
  have valid : c.toNat.isValidChar := c.valid
  rw [← Char.ofNat_toNat c]
  generalize c.toNat = v at valid
  rw [encodeChar_ofNat valid]
  rw [Nat.isValidChar] at valid
  -- One case for each length; the bits of the bytes make up the scalar value again.
  split
  next one =>
    have first : (UInt8.ofNat v).toNat = v := by
      rw [UInt8.toNat_ofNat']
      omega
    simp only [List.cons_append, List.nil_append, decodeChar?, UInt8.lt_iff_toNat_lt,
      UInt8.reduceToNat, first]
    rw [if_pos (by omega)]
    rfl
  split
  next two =>
    have first : (UInt8.ofNat (v / 0x40 % 0x20 + 0xC0)).toNat = v / 0x40 + 0xC0 := by
      rw [UInt8.toNat_ofNat']
      omega
    have value : (v / 0x40 + 0xC0 - 0xC0) * 64 + v % 0x40 = v := by omega
    simp only [List.cons_append, List.nil_append, decodeChar?, UInt8.lt_iff_toNat_lt,
      UInt8.reduceToNat, first]
    rw [if_neg (by omega), if_neg (by omega), if_pos (by omega), if_pos (isTail_ofNat v),
      tailBits_ofNat, value]
    rfl
  split
  next three =>
    have first : (UInt8.ofNat (v / 0x1000 % 0x10 + 0xE0)).toNat = v / 0x1000 + 0xE0 := by
      rw [UInt8.toNat_ofNat']
      omega
    have second : (UInt8.ofNat (v / 0x40 % 0x40 + 0x80)).toNat = v / 0x40 % 0x40 + 0x80 := by
      rw [UInt8.toNat_ofNat']
      omega
    have value : ((v / 0x1000 + 0xE0 - 0xE0) * 64 + v / 0x40 % 0x40) * 64 + v % 0x40 = v := by
      omega
    simp only [List.cons_append, List.nil_append, decodeChar?, UInt8.lt_iff_toNat_lt,
      UInt8.le_iff_toNat_le, UInt8.reduceToNat, first, second, isTail_ofNat, tailBits_ofNat,
      ← UInt8.toNat_inj]
    rw [if_neg (by omega), if_neg (by omega), if_neg (by omega), if_pos (by omega), if_pos, value]
    · rfl
    · -- The value needs three bytes and is no surrogate.
      split <;> split <;> simp <;> omega
  next four =>
    have first : (UInt8.ofNat (v / 0x40000 % 8 + 0xF0)).toNat = v / 0x40000 + 0xF0 := by
      rw [UInt8.toNat_ofNat']
      omega
    have second : (UInt8.ofNat (v / 0x1000 % 0x40 + 0x80)).toNat = v / 0x1000 % 0x40 + 0x80 := by
      rw [UInt8.toNat_ofNat']
      omega
    have value : (((v / 0x40000 + 0xF0 - 0xF0) * 64 + v / 0x1000 % 0x40) * 64 +
        v / 0x40 % 0x40) * 64 + v % 0x40 = v := by
      omega
    simp only [List.cons_append, List.nil_append, decodeChar?, UInt8.lt_iff_toNat_lt,
      UInt8.le_iff_toNat_le, UInt8.reduceToNat, first, second, isTail_ofNat, tailBits_ofNat,
      ← UInt8.toNat_inj]
    rw [if_neg (by omega), if_neg (by omega), if_neg (by omega), if_neg (by omega),
      if_pos (by omega), if_pos, value]
    · rfl
    · -- The value needs four bytes and is that of a character.
      split <;> split <;> simp <;> omega

/-! ## Texts -/

/-- Whether bytes are UTF-8, that is, the encoding of a text. -/
def IsValid (bytes : List UInt8) : Prop := ∃ text, bytes = encode text

/-- Whether a number is the length of the longest beginning of some bytes that is UTF-8. -/
structure IsLongestValid (bytes : List UInt8) (n : Nat) : Prop where
  /-- There are so many bytes. -/
  le_length : n ≤ bytes.length
  /-- They are UTF-8. -/
  isValid : IsValid (bytes.take n)
  /-- No more bytes are. -/
  longest : ∀ m ≤ bytes.length, IsValid (bytes.take m) → m ≤ n

/-- Every byte sequence starts with the encoding of a text, after which no character is decoded. -/
theorem exists_eq_encode_append (bytes : List UInt8) :
    ∃ text tail, bytes = encode text ++ tail ∧ decodeChar? tail = none := by
  induction h : bytes.length using Nat.strongRecOn generalizing bytes with
  | _ length ih =>
    cases first : decodeChar? bytes with
    | none => exact ⟨[], bytes, rfl, first⟩
    | some found =>
      obtain ⟨c, n, rest⟩ := found
      obtain ⟨split, -⟩ := eq_append_of_decodeChar? first
      have some_byte := List.length_pos_of_ne_nil (String.utf8EncodeChar_ne_nil (c := c))
      have shorter : rest.length < length := by
        rw [← h, split, List.length_append]
        omega
      obtain ⟨text, tail, is_rest, stuck⟩ := ih rest.length shorter rest rfl
      exact ⟨c :: text, tail, by rw [split, is_rest, encode_cons, List.append_assoc], stuck⟩

/-- Bytes are decoded up to where no character is; there is an error unless nothing is left. -/
theorem decodeFrom_encode_append {text : List Char} {tail : List UInt8}
    (stuck : decodeChar? tail = none) {steps offset : Nat} {read : List Char}
    (enough : (encode text ++ tail).length ≤ steps) :
    decodeFrom steps offset read (encode text ++ tail) =
      if tail = [] then .ok (read.reverse ++ text) else .error (offset + (encode text).length) := by
  induction text generalizing steps offset read with
  | nil =>
    cases tail with
    | nil => cases steps <;> simp [decodeFrom]
    | cons b bs =>
      cases steps with
      | zero => cases enough
      | succ steps => simp [decodeFrom, stuck]
  | cons c text ih =>
    have decoded := decodeChar?_encodeChar c (encode text ++ tail)
    rw [encode_cons, List.append_assoc] at enough ⊢
    -- A character takes a byte, and so a step.
    cases bytes : String.utf8EncodeChar c with
    | nil => exact absurd bytes String.utf8EncodeChar_ne_nil
    | cons b bs =>
      rw [bytes] at decoded enough
      cases steps with
      | zero => cases enough
      | succ steps =>
        rw [List.cons_append] at decoded enough ⊢
        rw [decodeFrom, decoded]
        dsimp only
        have less : (encode text ++ tail).length ≤ steps := by
          simp only [List.length_cons, List.length_append] at enough ⊢
          omega
        have total : offset + (b :: bs).length + (encode text).length =
            offset + (b :: bs ++ encode text).length := by
          simp only [List.length_cons, List.length_append]
          omega
        rw [ih less, List.reverse_cons, List.append_assoc, List.singleton_append, total]

/-- Decoding gives all of a text, or the length of what encodes it if more is left. -/
theorem decode_encode_append {text : List Char} {tail : List UInt8}
    (stuck : decodeChar? tail = none) :
    decode (encode text ++ tail) =
      if tail = [] then .ok text else .error (encode text).length := by
  rw [decode, decodeFrom_encode_append stuck (Nat.le_refl _)]
  simp

/-- Nothing more is decoded than the text up to where no character is. -/
theorem length_encode_le {text other : List Char} {tail rest : List UInt8}
    (stuck : decodeChar? tail = none) (same : encode text ++ tail = encode other ++ rest) :
    (encode other).length ≤ (encode text).length := by
  induction text generalizing other with
  | nil =>
    cases other with
    | nil => exact Nat.le_refl _
    | cons d other =>
      rw [encode_nil, List.nil_append, encode_cons, List.append_assoc] at same
      rw [same, decodeChar?_encodeChar] at stuck
      cases stuck
  | cons c text ih =>
    cases other with
    | nil => exact Nat.zero_le _
    | cons d other =>
      have decoded := decodeChar?_encodeChar c (encode text ++ tail)
      rw [encode_cons, encode_cons, List.append_assoc, List.append_assoc] at same
      rw [same, decodeChar?_encodeChar] at decoded
      simp only [Option.some.injEq, Prod.mk.injEq] at decoded
      obtain ⟨rfl, -, rest_same⟩ := decoded
      have shorter := ih rest_same.symm
      rw [encode_cons, encode_cons, List.length_append, List.length_append]
      omega

/-- Bytes are decoded to a text exactly if they encode it. -/
theorem decode_eq_ok_iff {bytes : List UInt8} {text : List Char} :
    decode bytes = .ok text ↔ bytes = encode text := by
  constructor
  · intro decoded
    obtain ⟨found, tail, rfl, stuck⟩ := exists_eq_encode_append bytes
    rw [decode_encode_append stuck] at decoded
    split at decoded
    next no_tail =>
      cases decoded
      rw [no_tail, List.append_nil]
    · cases decoded
  · rintro rfl
    rw [← List.append_nil (encode text), decode_encode_append rfl, if_pos rfl]

/-- Decoding fails with a number exactly if the bytes are not UTF-8 and it is the length of their
longest beginning that is. -/
theorem decode_eq_error_iff {bytes : List UInt8} {n : Nat} :
    decode bytes = .error n ↔ ¬ IsValid bytes ∧ IsLongestValid bytes n := by
  obtain ⟨text, tail, rfl, stuck⟩ := exists_eq_encode_append bytes
  have longest : IsLongestValid (encode text ++ tail) (encode text).length := by
    refine ⟨by simp, ⟨text, by simp⟩, fun m within valid => ?_⟩
    obtain ⟨other, is_other⟩ := valid
    have split := List.take_append_drop m (encode text ++ tail)
    rw [is_other] at split
    have shorter := length_encode_le stuck split.symm
    have length := congrArg List.length is_other
    rw [List.length_take, Nat.min_eq_left within] at length
    omega
  rw [decode_encode_append stuck]
  by_cases no_tail : tail = []
  · rw [if_pos no_tail, no_tail, List.append_nil]
    constructor
    · intro decoded
      cases decoded
    · rintro ⟨invalid, -⟩
      exact absurd ⟨text, rfl⟩ invalid
  · rw [if_neg no_tail, Except.error.injEq]
    constructor
    · rintro rfl
      refine ⟨?_, longest⟩
      rintro ⟨other, is_other⟩
      have shorter : (encode other).length ≤ (encode text).length :=
        length_encode_le stuck (is_other.trans (List.append_nil _).symm)
      have length := congrArg List.length is_other
      rw [List.length_append] at length
      have some_tail := List.length_pos_of_ne_nil no_tail
      omega
    · rintro ⟨-, also⟩
      have above := longest.longest n also.le_length also.isValid
      have below := also.longest _ longest.le_length longest.isValid
      omega

end DraftNits.Text.Utf8
