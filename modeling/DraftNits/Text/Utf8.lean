/-! # Text as bytes

Reading bytes as UTF-8. The reader accepts the sequences that encode a character in the fewest
bytes and no surrogate; on any other input it reports the length of the longest valid beginning,
that is, the offset of the first sequence that is invalid or cut off. -/

namespace DraftNits.Text.Utf8

/-- A byte that continues a sequence. -/
def isTail (b : UInt8) : Bool := 0x80 ≤ b && b ≤ 0xBF

/-- The low six bits of a byte that continues a sequence. -/
def tailBits (b : UInt8) : Nat := b.toNat - 0x80

/-- The first character of a byte sequence, with its length in bytes and the bytes after it. -/
def decodeChar? : List UInt8 → Option (Char × Nat × List UInt8)
  | [] => none
  | a :: rest =>
    if a < 0x80 then some (Char.ofNat a.toNat, 1, rest)
    else if a < 0xC2 then none
    else if a < 0xE0 then
      match rest with
      | b :: rest =>
        if isTail b then some (Char.ofNat ((a.toNat - 0xC0) * 64 + tailBits b), 2, rest) else none
      | _ => none
    else if a < 0xF0 then
      match rest with
      | b :: c :: rest =>
        let low : UInt8 := if a = 0xE0 then 0xA0 else 0x80
        let high : UInt8 := if a = 0xED then 0x9F else 0xBF
        if low ≤ b && b ≤ high && isTail c then
          some (Char.ofNat (((a.toNat - 0xE0) * 64 + tailBits b) * 64 + tailBits c), 3, rest)
        else none
      | _ => none
    else if a < 0xF5 then
      match rest with
      | b :: c :: d :: rest =>
        let low : UInt8 := if a = 0xF0 then 0x90 else 0x80
        let high : UInt8 := if a = 0xF4 then 0x8F else 0xBF
        if low ≤ b && b ≤ high && isTail c && isTail d then
          let top := (a.toNat - 0xF0) * 64 + tailBits b
          some (Char.ofNat ((top * 64 + tailBits c) * 64 + tailBits d), 4, rest)
        else none
      | _ => none
    else none

/-- The characters of a byte sequence after `read`, latest first, which took `offset` bytes; or
the offset of the first invalid sequence. Every character takes a byte, so the number of bytes
bounds the number of steps. -/
def decodeFrom : Nat → Nat → List Char → List UInt8 → Except Nat (List Char)
  | 0, _, read, _ => .ok read.reverse
  | _ + 1, _, read, [] => .ok read.reverse
  | steps + 1, offset, read, b :: bs =>
    match decodeChar? (b :: bs) with
    | none => .error offset
    | some (c, length, rest) => decodeFrom steps (offset + length) (c :: read) rest

/-- The characters of a byte sequence, or the length of its longest valid beginning. -/
def decode (bytes : List UInt8) : Except Nat (List Char) := decodeFrom bytes.length 0 [] bytes

/-- The bytes that encode a text. -/
def encode (cs : List Char) : List UInt8 := cs.flatMap String.utf8EncodeChar

/-- The first byte of a character's encoding. -/
def leadByte (c : Char) : Nat :=
  if c.toNat < 0x80 then c.toNat
  else if c.toNat < 0x800 then 0xC0 + c.toNat / 0x40
  else if c.toNat < 0x10000 then 0xE0 + c.toNat / 0x1000
  else 0xF0 + c.toNat / 0x40000

@[simp] theorem encode_nil : encode [] = [] := rfl

@[simp] theorem encode_cons (c : Char) (cs : List Char) :
    encode (c :: cs) = String.utf8EncodeChar c ++ encode cs := rfl

example : (decode [0x61, 0xC3, 0xA9]).toOption = some "aé".toList := by decide +kernel
example : decode [0x61, 0xED, 0xA0, 0x80] = .error 1 := by rfl
example : decode [0x61, 0xF0, 0x9F, 0x98] = .error 1 := by rfl

end DraftNits.Text.Utf8
