/-!
# Double-precision numbers

A double is a sign and either infinity or a value `m * 2^e` with `m < 2^53`: a normal
double has `2^52 ≤ m` and `-1074 ≤ e ≤ 971`, a subnormal one (zero included) has `e = -1074`.
Arithmetic rounds the exact result to the nearest double, a tie going to the even mantissa;
a result past the largest finite double is infinite.

The shortest text of a finite double is the decimal with the fewest significant digits that
rounds back to it; of two such decimals the nearer one is taken, and of two equally near the
one with the even last digit. It is written positionally when its decimal exponent allows
(at most sixteen integer digits, or a value of at least `10^-5`), with `.0` after an integer,
and in scientific form `d.ddde<exp>` otherwise, where the exponent always carries its sign:
`1e+16`, `2.5e-7`.
-/

namespace StoredDocs

/-- A double-precision number. -/
inductive Binary64 where
  /-- The value `(-1)^negative * mantissa * 2^exponent`, in canonical form. -/
  | finite (negative : Bool) (mantissa : Nat) (exponent : Int)
  | infinite (negative : Bool)
  deriving DecidableEq, Repr, Inhabited

namespace Binary64

/-- `2^k` for an integer `k ≥ 0`. -/
def pow2 (k : Int) : Nat := Nat.pow 2 k.toNat

/-- The nearest double to `p / q` (with `q > 0`), of the given sign. -/
def round (negative : Bool) (p q : Nat) : Binary64 :=
  if p = 0 || q = 0 then .finite negative 0 (-1074)
  else
    -- `f` is the binary exponent with `2^f ≤ p / q < 2^(f+1)`
    let l : Int := (p.log2 : Int) - (q.log2 : Int)
    let atLeast (k : Int) : Bool :=
      if 0 ≤ k then q * pow2 k ≤ p else q ≤ p * pow2 (-k)
    let f := if atLeast l then l else l - 1
    let e := max (f - 52) (-1074)
    let (num, den) := if 0 ≤ e then (p, q * pow2 e) else (p * pow2 (-e), q)
    let m := num / den
    let r := num % den
    let m := if 2 * r > den || (2 * r = den && m % 2 = 1) then m + 1 else m
    let (m, e) := if m = pow2 53 then (pow2 52, e + 1) else (m, e)
    if e > 971 then .infinite negative else .finite negative m e

/-- The nearest double to a natural number. -/
def ofNat (n : Nat) : Binary64 := round false n 1

/-- Whether the number is infinite. -/
def isInfinite : Binary64 → Bool
  | .infinite _ => true
  | .finite .. => false

/-- The number with its sign flipped. -/
def neg : Binary64 → Binary64
  | .finite s m e => .finite (!s) m e
  | .infinite s => .infinite (!s)

/-- The rounded product. -/
def mul : Binary64 → Binary64 → Binary64
  | .finite s₁ m₁ e₁, .finite s₂ m₂ e₂ =>
    let e := e₁ + e₂
    if 0 ≤ e then round (s₁ != s₂) (m₁ * m₂ * pow2 e) 1 else round (s₁ != s₂) (m₁ * m₂) (pow2 (-e))
  | a, b =>
    let s := match a, b with
      | .finite s₁ .., .infinite s₂ | .infinite s₁, .finite s₂ .. | .infinite s₁, .infinite s₂ => s₁ != s₂
      | .finite s₁ .., .finite s₂ .. => s₁ != s₂
    .infinite s

/-- The rounded quotient by a finite non-zero divisor. -/
def div : Binary64 → Binary64 → Binary64
  | .finite s₁ m₁ e₁, .finite s₂ m₂ e₂ =>
    let d := e₁ - e₂
    if 0 ≤ d then round (s₁ != s₂) (m₁ * pow2 d) m₂ else round (s₁ != s₂) m₁ (m₂ * pow2 (-d))
  | a, _ => a

/-- The value of a finite double as a signed integer count of `2^e`, for an exponent `e` at
most the double's own. -/
def scaledTo (e : Int) (negative : Bool) (m : Nat) (e' : Int) : Int :=
  let n : Int := (m * pow2 (e' - e) : Nat)
  if negative then -n else n

/-- The rounded sum. An exact zero sum is negative only when both terms are; the sum of two
infinities of opposite signs, which is no number, is taken to be the first. -/
def add : Binary64 → Binary64 → Binary64
  | .finite s₁ m₁ e₁, .finite s₂ m₂ e₂ =>
    let e := min e₁ e₂
    let sum := scaledTo e s₁ m₁ e₁ + scaledTo e s₂ m₂ e₂
    let negative := if sum = 0 then s₁ && s₂ else sum < 0
    if 0 ≤ e then round negative (sum.natAbs * pow2 e) 1 else round negative sum.natAbs (pow2 (-e))
  | .infinite s, .finite .. | .finite .., .infinite s => .infinite s
  | .infinite s, .infinite _ => .infinite s

/-- Orders doubles by value; the two zeros are equal. -/
def compare : Binary64 → Binary64 → Ordering
  | .finite s₁ m₁ e₁, .finite s₂ m₂ e₂ =>
    let e := min e₁ e₂
    Ord.compare (scaledTo e s₁ m₁ e₁) (scaledTo e s₂ m₂ e₂)
  | .infinite s₁, .infinite s₂ => Ord.compare s₂ s₁
  | .infinite s, .finite .. => if s then .lt else .gt
  | .finite .., .infinite s => if s then .gt else .lt

/-- The nearest double to `10^k`. -/
def pow10 (k : Nat) : Binary64 := round false (Nat.pow 10 k) 1

/-- The decimal digits of a positive number. -/
def decimalDigits (n : Nat) : List Char :=
  if n < 10 then [Char.ofNat (48 + n)] else decimalDigits (n / 10) ++ [Char.ofNat (48 + n % 10)]
termination_by n
decreasing_by omega

/-- Compares `a * 10^k` with `x * 2^j`, all exactly. -/
def compareScaled (a : Nat) (k : Int) (x : Nat) (j : Int) : Ordering :=
  let lhs := a * Nat.pow 10 k.toNat * pow2 (-j)
  let rhs := x * pow2 j * Nat.pow 10 (-k).toNat
  Ord.compare lhs rhs

/-- The shortest decimal `d * 10^k` that rounds back to the positive double `m * 2^e`,
as `(d, k)` with `d` free of trailing zeros. -/
def shortest (m : Nat) (e : Int) : Nat × Int :=
  -- the rounding interval, in units of `2^(e-2)`: from `lo` to `hi` around `4m`
  let lo := if m = pow2 52 && e > -1074 then 4 * m - 1 else 4 * m - 2
  let hi := 4 * m + 2
  let inclusive := m % 2 = 0
  let j := e - 2
  let inside (c : Nat) (k : Int) : Bool :=
    match compareScaled c k lo j, compareScaled c k hi j with
    | .gt, .lt => true
    | .eq, .lt => inclusive
    | .gt, .eq => inclusive
    | _, _ => false
  -- `top` with `10^top ≤ 4m * 2^j < 10^(top+1)`
  let approx : Int := ((m.log2 : Int) + e) * 3 / 10
  let top := (List.range 8).foldl (fun t _ =>
      if compareScaled 1 (t + 1) (4 * m) j != .gt then t + 1
      else if compareScaled 1 t (4 * m) j == .gt then t - 1 else t) approx
  let candidate (n : Nat) : Option (Nat × Int) :=
    let k := top - n + 1
    -- `c` is the largest count of grid steps `10^k` not above the value
    let c := (4 * m * pow2 j * Nat.pow 10 (-k).toNat) / (Nat.pow 10 k.toNat * pow2 (-j))
    match inside c k, inside (c + 1) k with
    | true, true =>
      match compareScaled (2 * c + 1) k (8 * m) j with
      | .lt => some (c + 1, k)
      | .gt => some (c, k)
      | .eq => if c % 2 = 0 then some (c, k) else some (c + 1, k)
    | true, false => some (c, k)
    | false, true => some (c + 1, k)
    | false, false => none
  let found := (List.range 17).findSome? fun i => candidate (i + 1)
  let (d, k) := found.getD (m, e)
  let rec strip (d : Nat) (k : Int) (fuel : Nat) : Nat × Int :=
    match fuel with
    | 0 => (d, k)
    | fuel + 1 => if d ≠ 0 && d % 10 = 0 then strip (d / 10) (k + 1) fuel else (d, k)
  strip d k 20

/-- The shortest text of a finite double; infinity is written `inf`. -/
def render : Binary64 → String
  | .infinite negative => (if negative then "-" else "") ++ "inf"
  | .finite negative m e =>
    let sign := if negative then "-" else ""
    if m = 0 then sign ++ "0.0"
    else
      let (d, k) := shortest m e
      let ds := decimalDigits d
      let len : Int := ds.length
      let kk := len + k
      let body :=
        if 0 ≤ k && kk ≤ 16 then
          String.ofList ds ++ String.ofList (List.replicate k.toNat '0') ++ ".0"
        else if 0 < kk && kk ≤ 16 then
          String.ofList (ds.take kk.toNat) ++ "." ++ String.ofList (ds.drop kk.toNat)
        else if -5 < kk && kk ≤ 0 then
          "0." ++ String.ofList (List.replicate (-kk).toNat '0') ++ String.ofList ds
        else
          let exp := if kk - 1 < 0 then toString (kk - 1) else "+" ++ toString (kk - 1)
          match ds with
          | [c] => String.ofList [c] ++ "e" ++ exp
          | c :: rest => String.ofList [c] ++ "." ++ String.ofList rest ++ "e" ++ exp
          | [] => "0e" ++ exp
      sign ++ body

end Binary64

end StoredDocs
