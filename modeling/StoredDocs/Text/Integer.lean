/-!
# Integers written in a radix

An integer is read from an optional sign and digits of the radix, the way standard number
readers do: an empty text is refused first; a sign alone, or a character that is not a digit,
is an invalid digit; a minus sign is a digit like any other when the type has no negative
numbers; and the digits are read from the left, so that a value leaving the type's range is
refused as soon as it leaves it, even if a bad digit follows.
-/

namespace StoredDocs.Integer

/-- Why a text is not an integer of the type. -/
inductive Refusal where
  | empty
  | invalidDigit
  | tooLarge
  | tooSmall
  deriving DecidableEq, Repr

/-- The sentence of a refusal. -/
def Refusal.message : Refusal → String
  | .empty => "cannot parse integer from empty string"
  | .invalidDigit => "invalid digit found in string"
  | .tooLarge => "number too large to fit in target type"
  | .tooSmall => "number too small to fit in target type"

/-- The value of a digit in a radix of at most 36. -/
def digit? (radix : Nat) (c : Char) : Option Nat :=
  let n := c.toNat
  let v := if 48 ≤ n && n ≤ 57 then some (n - 48)
    else if 97 ≤ n && n ≤ 122 then some (n - 87)
    else if 65 ≤ n && n ≤ 90 then some (n - 55)
    else none
  v.filter (· < radix)

/-- Reads digits onto `acc`, upwards to at most `max` (or downwards to at least `-min`). -/
def digits (radix : Nat) (negative : Bool) (bound : Nat) : Nat → List Char → Except Refusal Nat
  | acc, [] => pure acc
  | acc, c :: cs =>
    match digit? radix c with
    | none => throw .invalidDigit
    | some d =>
      let acc' := acc * radix + d
      if acc' > bound then throw (if negative then .tooSmall else .tooLarge)
      else digits radix negative bound acc' cs

/-- Reads an integer of the range `[min, max]`, where `min ≤ 0 ≤ max`; the type has negative
numbers when `min < 0`. -/
def read (radix : Nat) (min : Int) (max : Nat) (cs : List Char) : Except Refusal Int :=
  match cs with
  | [] => throw .empty
  | ['+'] | ['-'] => throw .invalidDigit
  | '+' :: rest => do pure (← digits radix false max 0 rest)
  | '-' :: rest =>
    if min < 0 then do pure (-(← digits radix true min.natAbs 0 rest : Nat))
    else do pure (← digits radix false max 0 cs)
  | _ => do pure (← digits radix false max 0 cs)

/-- Reads a signed 64-bit decimal integer. -/
def readI64 (s : String) : Except Refusal Int :=
  read 10 (-9223372036854775808) 9223372036854775807 s.toList

end StoredDocs.Integer
