/-!
# Byte strings

Row keys, column names and column values are byte strings. They are ordered
lexicographically, byte by byte, and a proper prefix sorts before every extension of it: this
is the order in which the store keeps its rows and the columns of a row.
-/

namespace StoredDocs

/-- A byte string. -/
abbrev Bytes := List UInt8

namespace Bytes

/-- Lexicographic comparison, byte by byte; a proper prefix comes first. -/
def compareLex : Bytes → Bytes → Ordering
  | [], [] => .eq
  | [], _ :: _ => .lt
  | _ :: _, [] => .gt
  | a :: as, b :: bs => if a < b then .lt else if b < a then .gt else compareLex as bs

/-- `a` sorts strictly before `b`. -/
def lt (a b : Bytes) : Bool := compareLex a b == .lt

/-- `a` sorts before `b` or is equal to it. -/
def le (a b : Bytes) : Bool := compareLex a b != .gt

/-- The last byte and everything before it, if there is a last byte. -/
def splitLast? (bs : Bytes) : Option (Bytes × UInt8) :=
  match bs.reverse with
  | [] => none
  | b :: rest => some (rest.reverse, b)

@[simp] theorem compareLex_nil_nil : compareLex [] [] = .eq := rfl

@[simp] theorem compareLex_cons_cons (a b : UInt8) (as bs : Bytes) :
    compareLex (a :: as) (b :: bs) =
      if a < b then .lt else if b < a then .gt else compareLex as bs := rfl

theorem compareLex_self (a : Bytes) : compareLex a a = .eq := by
  induction a with
  | nil => rfl
  | cons b bs ih => simp [ih, UInt8.lt_irrefl]

theorem splitLast?_append_singleton (bs : Bytes) (b : UInt8) :
    splitLast? (bs ++ [b]) = some (bs, b) := by
  simp [splitLast?]

theorem splitLast?_eq_none_iff (bs : Bytes) : splitLast? bs = none ↔ bs = [] := by
  unfold splitLast?
  cases h : bs.reverse with
  | nil => simp_all
  | cons b rest =>
    simp only [reduceCtorEq, false_iff]
    intro hbs
    simp [hbs] at h

end Bytes

end StoredDocs
