/-!
# Text — sets of characters given by ranges

A Unicode property is a sorted list of disjoint ranges of code points.  `Ranges.ofList` arranges
such a list as a search tree, and `Ranges.contains` walks down one branch of it.
-/

namespace Semicolon.Text

/-- A search tree whose nodes are disjoint ranges of code points, smaller ones to the left. -/
inductive Ranges where
  | empty
  | node (left : Ranges) (first last : Nat) (right : Ranges)
  deriving Repr

namespace Ranges

/-- `n` lies in one of the ranges. -/
def contains : Ranges → Nat → Bool
  | .empty, _ => false
  | .node left first last right, n =>
    if n < first then left.contains n
    else if last < n then right.contains n
    else true

/-- A tree of height at most `height` with the first ranges of the list, and the ranges that are
left over. -/
def build : Nat → List (Nat × Nat) → Ranges × List (Nat × Nat)
  | 0,          ranges => (.empty, ranges)
  | height + 1, ranges =>
    match build height ranges with
    | (left, [])                   => (left, [])
    | (left, (first, last) :: rest) =>
      let (right, rest) := build height rest
      (.node left first last right, rest)

/-- The tree of a sorted list; a tree of height `h` has room for `2 ^ h - 1` ranges. -/
def ofList (ranges : List (Nat × Nat)) : Ranges :=
  (build (ranges.length.log2 + 1) ranges).1

end Ranges

end Semicolon.Text
