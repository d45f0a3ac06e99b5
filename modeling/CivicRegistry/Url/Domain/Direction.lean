import CivicRegistry.Url.Domain.DirectionTable

/-!
# Names from right to left

If something in a name runs from right to left, then each of its labels has to
look the same wherever it stands.  A label runs in the direction of its first
character, which has to be a letter; it holds nothing of the other direction, it
ends in a letter or a number, marks behind not counting, and the numbers in it
are all of one kind.
-/

namespace CivicRegistry.Url.Domain

/-- Whether a character makes the name that it is in one from right to left. -/
def Direction.isBackward : Direction → Bool
  | .rightToLeft => true
  | .arabicLetter => true
  | .arabicNumber => true
  | _ => false

/-- Whether a character can be in a label of either direction. -/
def Direction.isCommon : Direction → Bool
  | .europeanNumber => true
  | .europeanSeparator => true
  | .commonSeparator => true
  | .europeanTerminator => true
  | .neutral => true
  | .boundaryNeutral => true
  | .nonspacingMark => true
  | _ => false

/-- The class of the last character that is not a mark. -/
def lastDirection? (directions : List Direction) : Option Direction :=
  (directions.reverse.dropWhile (· == .nonspacingMark)).head?

/-- Whether a label in a name from right to left has one direction. -/
def hasOneDirection (label : List Char) : Bool :=
  let directions := label.map direction
  let last := lastDirection? directions
  match directions with
  | [] => true
  | .leftToRight :: _ =>
    directions.all (fun d => d == .leftToRight || d.isCommon) &&
      last.any fun d => d == .leftToRight || d == .europeanNumber
  | first :: _ =>
    (first == .rightToLeft || first == .arabicLetter) &&
      directions.all (fun d => d.isBackward || d.isCommon) &&
      last.any (fun d => d.isBackward || d == .europeanNumber) &&
      !(directions.contains .europeanNumber &&
        directions.contains .arabicNumber)

/-- Whether the labels of a name can stand together. -/
def haveOneDirection (labels : List (List Char)) : Bool :=
  let isBackward :=
    labels.any fun label => label.any fun c => (direction c).isBackward
  !isBackward || labels.all hasOneDirection

end CivicRegistry.Url.Domain
