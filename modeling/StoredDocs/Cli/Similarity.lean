import StoredDocs.Number.Binary64

/-!
# Similar names

A mistyped name is matched against the names a command knows by Jaro similarity: characters
of the two names match when they are equal and no further apart than half the longer
length less one, each character matching at most once, in order; half the matched characters
that stand in a different order are transpositions. With `m` matches and `t` transpositions,
the similarity of names of lengths `a` and `b` is `(m/a + m/b + (m - t)/m) / 3`, zero without
matches, and one for two empty names.

The similarity is computed in double precision, each quotient and each sum rounded in the
order written, so that a similarity of exactly `0.7` can come out just above the double
nearest to `0.7`. A name is suggested when its similarity exceeds that double; suggestions come
in ascending similarity, names of equal similarity in the order they were given.
-/

namespace StoredDocs.Cli

/-- A similarity, as a double. -/
abbrev Score := Binary64

namespace Score

/-- Whether `a` is at most `b`. -/
def le (a b : Score) : Bool := Binary64.compare a b != .gt

/-- Whether the score exceeds the double nearest to `0.7`. -/
def isClose (s : Score) : Bool := Binary64.compare s (Binary64.round false 7 10) == .gt

end Score

/-- Marks the first unmatched character of `b` equal to `c` at a position in `[lo, hi)`. -/
def claim (c : Char) (lo hi : Nat) : Nat → List (Char × Bool) → Option (List (Char × Bool))
  | _, [] => none
  | j, (d, taken) :: rest =>
    if hi ≤ j then none
    else if lo ≤ j && d == c && !taken then some ((d, true) :: rest)
    else ((d, taken) :: ·) <$> claim c lo hi (j + 1) rest

/-- Matches the characters of `a` against those of `b` within `range`: the flags of `a`'s
characters, and `b` with its matched characters marked. -/
def matchAll (range : Nat) (bLen : Nat) :
    Nat → List Char → List (Char × Bool) → List (Char × Bool) × List (Char × Bool)
  | _, [], bs => ([], bs)
  | i, c :: cs, bs =>
    let lo := i - range
    let hi := min bLen (i + range + 1)
    match claim c lo hi 0 bs with
    | some bs' =>
      let (as, bs'') := matchAll range bLen (i + 1) cs bs'
      ((c, true) :: as, bs'')
    | none =>
      let (as, bs'') := matchAll range bLen (i + 1) cs bs
      ((c, false) :: as, bs'')

/-- The Jaro similarity of two names. -/
def jaro (a b : List Char) : Score :=
  if a.isEmpty && b.isEmpty then Binary64.ofNat 1
  else if a.isEmpty || b.isEmpty then Binary64.ofNat 0
  else
    let range := max a.length b.length / 2 - 1
    let (as, bs) := matchAll range b.length 0 a (b.map (·, false))
    let am := (as.filter (·.2)).map (·.1)
    let bm := (bs.filter (·.2)).map (·.1)
    let m := am.length
    if m = 0 then Binary64.ofNat 0
    else
      let t := ((am.zip bm).filter fun (x, y) => x != y).length / 2
      let q (p d : Nat) := Binary64.round false p d
      ((q m a.length).add (q m b.length) |>.add (q (m - t) m)).div (Binary64.ofNat 3)

/-- Inserts a scored name after every name of at most its score. -/
def insertScored (x : Score × String) : List (Score × String) → List (Score × String)
  | [] => [x]
  | y :: ys => if x.1.le y.1 && !y.1.le x.1 then x :: y :: ys else y :: insertScored x ys

/-- The names similar to `word`, in ascending similarity. -/
def similar (word : String) (names : List String) : List String :=
  let close := (names.map fun n => (jaro word.toList n.toList, n)).filter (·.1.isClose)
  (close.foldl (fun acc x => insertScored x acc) []).map (·.2)

/-- The most similar name, the last of equally similar ones. -/
def mostSimilar? (word : String) (names : List String) : Option String :=
  (similar word names).getLast?

end StoredDocs.Cli
