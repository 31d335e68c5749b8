import StoredDocs.Error

/-!
# Variable-length ordinals

A posting's column name holds its ordinal as a variable-length integer: groups of seven
bits, least significant first, one group per byte, with the high bit set on every byte but
the last. Reading accepts one to five bytes whose value fits in 32 bits; overlong forms such
as `80 00` are accepted. Writing gives the shortest form.
-/

namespace StoredDocs.Vint

/-- The number that the seven-bit groups of `bs` stand for, least significant first. -/
def groupValue (bs : Bytes) : Nat :=
  bs.foldr (fun b acc => (b &&& 0x7F).toNat + 128 * acc) 0

/-- Reads a variable-length integer, checking in order: the length is one to five bytes,
every byte but the last has its high bit set, the last has not, the value fits in 32 bits. -/
def read (bs : Bytes) : Except Error UInt32 := do
  verifyData (!bs.isEmpty && bs.length ≤ 5) "vint" "!bytes.is_empty() && bytes.len() <= 5"
  verifyData (bs.dropLast.all fun b => b &&& 0x80 != 0) "vint"
    "groups.iter().all(|b| b & 0x80 != 0)"
  verifyData (bs.getLast?.all fun b => b &&& 0x80 == 0) "vint" "last & 0x80 == 0"
  let value := groupValue bs
  verifyData (value ≤ 4294967295) "vint" "value <= u64::from(u32::MAX)"
  pure value.toUInt32

/-- The shortest variable-length form of a number. -/
def writeNat (n : Nat) : Bytes :=
  if n < 128 then [n.toUInt8] else (n % 128 + 128).toUInt8 :: writeNat (n / 128)
termination_by n
decreasing_by omega

/-- The shortest variable-length form of an ordinal. -/
def write (v : UInt32) : Bytes := writeNat v.toNat

end StoredDocs.Vint
