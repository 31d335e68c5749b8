import StoredDocs.Bytes

/-!
# UTF-8

Text is stored as its UTF-8 bytes. Bytes read back from the store need not be well formed,
so decoding is lossy: every maximal prefix of a well-formed sequence that cannot be completed,
and every byte that starts none, becomes one replacement character U+FFFD, and decoding
resumes right after it. This is the substitution of maximal subparts recommended by the
Unicode standard (chapter 3, "U+FFFD Substitution of Maximal Subparts").

A lead byte `C2`–`DF` takes one continuation byte, `E0`–`EF` two and `F0`–`F4` three; a
continuation byte is one of `80`–`BF`, except that the second byte after `E0` is one of
`A0`–`BF`, after `ED` one of `80`–`9F`, after `F0` one of `90`–`BF` and after `F4` one of
`80`–`8F`. These limits exclude overlong forms, surrogates and values above U+10FFFF.
-/

namespace StoredDocs.Utf8

/-- The UTF-8 bytes of a string. -/
def encode (s : String) : Bytes := s.toList.flatMap String.utf8EncodeChar

/-- The replacement character, written for each ill-formed part of the bytes. -/
def replacement : Char := '�'

/-- A byte `80`–`BF`. -/
def isContinuation (b : UInt8) : Bool := 0x80 ≤ b && b ≤ 0xBF

/-- Whether `b` may follow the lead byte `lead` as the second byte of a sequence. -/
def secondFits (lead b : UInt8) : Bool :=
  if lead = 0xE0 then 0xA0 ≤ b && b ≤ 0xBF
  else if lead = 0xED then 0x80 ≤ b && b ≤ 0x9F
  else if lead = 0xF0 then 0x90 ≤ b && b ≤ 0xBF
  else if lead = 0xF4 then 0x80 ≤ b && b ≤ 0x8F
  else isContinuation b

/-- The character of a two-byte sequence. -/
def char2 (b0 b1 : UInt8) : Char :=
  Char.ofNat ((b0.toNat % 32) * 64 + b1.toNat % 64)

/-- The character of a three-byte sequence. -/
def char3 (b0 b1 b2 : UInt8) : Char :=
  Char.ofNat ((b0.toNat % 16) * 4096 + (b1.toNat % 64) * 64 + b2.toNat % 64)

/-- The character of a four-byte sequence. -/
def char4 (b0 b1 b2 b3 : UInt8) : Char :=
  Char.ofNat ((b0.toNat % 8) * 262144 + (b1.toNat % 64) * 4096 + (b2.toNat % 64) * 64 +
    b3.toNat % 64)

/-- Lossy decoding into characters, with maximal subparts replaced by U+FFFD. -/
def decodeChars : Bytes → List Char
  | [] => []
  | b0 :: rest =>
    if b0 < 0x80 then Char.ofNat b0.toNat :: decodeChars rest
    else if b0 < 0xC2 || 0xF4 < b0 then replacement :: decodeChars rest
    else if b0 < 0xE0 then
      match rest with
      | b1 :: rest1 =>
        if isContinuation b1 then char2 b0 b1 :: decodeChars rest1
        else replacement :: decodeChars (b1 :: rest1)
      | [] => [replacement]
    else if b0 < 0xF0 then
      match rest with
      | b1 :: rest1 =>
        if secondFits b0 b1 then
          match rest1 with
          | b2 :: rest2 =>
            if isContinuation b2 then char3 b0 b1 b2 :: decodeChars rest2
            else replacement :: decodeChars (b2 :: rest2)
          | [] => [replacement]
        else replacement :: decodeChars (b1 :: rest1)
      | [] => [replacement]
    else
      match rest with
      | b1 :: rest1 =>
        if secondFits b0 b1 then
          match rest1 with
          | b2 :: rest2 =>
            if isContinuation b2 then
              match rest2 with
              | b3 :: rest3 =>
                if isContinuation b3 then char4 b0 b1 b2 b3 :: decodeChars rest3
                else replacement :: decodeChars (b3 :: rest3)
              | [] => [replacement]
            else replacement :: decodeChars (b2 :: rest2)
          | [] => [replacement]
        else replacement :: decodeChars (b1 :: rest1)
      | [] => [replacement]

/-- Lossy decoding into a string. -/
def decodeLossy (bs : Bytes) : String := String.ofList (decodeChars bs)

end StoredDocs.Utf8
