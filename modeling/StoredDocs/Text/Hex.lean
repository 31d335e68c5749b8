import StoredDocs.Bytes

/-!
# Hexadecimal text

Bytes are written as two lowercase hexadecimal digits each, high nibble first, and numbers
as their lowercase hexadecimal digits without leading zeros. Reading accepts digits of
either case.

The main statement: reading a written digit back gives its value (`digitValue?_digit`), the
step on which reading written numbers and bytes back rests.
-/

namespace StoredDocs.Hex

/-- The lowercase hexadecimal digit of a number below sixteen. -/
def digit (n : Nat) : Char :=
  if n < 10 then Char.ofNat (48 + n) else Char.ofNat (87 + n)

/-- The value of a hexadecimal digit of either case. -/
def digitValue? (c : Char) : Option Nat :=
  if '0' ≤ c ∧ c ≤ '9' then some (c.toNat - 48)
  else if 'a' ≤ c ∧ c ≤ 'f' then some (c.toNat - 87)
  else if 'A' ≤ c ∧ c ≤ 'F' then some (c.toNat - 55)
  else none

/-- The two digits of a byte, high nibble first. -/
def ofByte (b : UInt8) : List Char := [digit (b.toNat / 16), digit (b.toNat % 16)]

/-- The digits of a byte string, two per byte. -/
def ofBytes (bs : Bytes) : String := String.ofList (bs.flatMap ofByte)

/-- The lowercase hexadecimal digits of a number, without leading zeros; zero is `0`. -/
def ofNat (n : Nat) : List Char :=
  if n < 16 then [digit n] else ofNat (n / 16) ++ [digit (n % 16)]
termination_by n
decreasing_by omega

/-- The number that a list of hexadecimal digits stands for, if every one is a digit. -/
def value? (cs : List Char) : Option Nat :=
  cs.foldl (fun acc c => do let v ← acc; let d ← digitValue? c; pure (16 * v + d)) (some 0)

/-- Reads two digits per byte; `none` for an odd count or a character that is no digit. -/
def toBytes? : List Char → Option Bytes
  | [] => some []
  | [_] => none
  | hi :: lo :: rest => do
    let h ← digitValue? hi
    let l ← digitValue? lo
    let tail ← toBytes? rest
    pure ((16 * h + l).toUInt8 :: tail)

@[simp] theorem length_ofByte (b : UInt8) : (ofByte b).length = 2 := rfl

theorem digitValue?_digit : ∀ n, n < 16 → digitValue? (digit n) = some n := by
  decide

end StoredDocs.Hex
