/-!
# Connectives — resemblance of words

Whether a word could be meant for another one. Letters of the two words match if they are the same
and stand about as far from the start, within half the length of the longer word. Two words are the
more alike the greater the share of matched letters in either of them and the fewer of these are
out of order; each letter of a common beginning takes away a tenth of what is then missing.

The measure is a fraction between 0 and 1, and it is compared without rounding.
-/

namespace Connectives.Text

/-- How far apart two letters may stand and still match. -/
def matchRange (a b : List Char) : Nat :=
  max a.length b.length / 2 - 1

/-- The first place in `b` that a letter at the place `i` can be matched with and that is not taken
yet. -/
def matchPlace? (b : List Char) (range : Nat) (taken : List Nat) (c : Char) (i : Nat) :
    Option Nat :=
  (List.range b.length).find? fun j =>
    i ≤ j + range && j ≤ i + range && b[j]? == some c && !taken.contains j

/-- The places in `b` that the letters of `a` are matched with, in the order of those letters. -/
def matchedPlaces (a b : List Char) : List Nat :=
  a.zipIdx.foldl
    (fun taken (c, i) => taken ++ (matchPlace? b (matchRange a b) taken c i).toList) []

/-- How often a number is followed by a smaller one. -/
def descents : List Nat → Nat
  | m :: n :: rest => (if n < m then 1 else 0) + descents (n :: rest)
  | _ => 0

/-- The number of letters that two words have in common at their beginnings. -/
def commonStart : List Char → List Char → Nat
  | c :: cs, d :: ds => if c = d then commonStart cs ds + 1 else 0
  | _, _ => 0

/-- Whether two words are alike by more than four fifths. -/
def resembles (a b : List Char) : Bool :=
  if a.isEmpty && b.isEmpty then true
  else
    let places := matchedPlaces a b
    let m := places.length
    let ordered := m - descents places
    -- the mean of the three shares `m / a`, `m / b` and `ordered / m`
    let part := m * m * (a.length + b.length) + ordered * a.length * b.length
    let whole := 3 * a.length * b.length * m
    8 * whole < 10 * part + commonStart a b * (whole - part)

end Connectives.Text
