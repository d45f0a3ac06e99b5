/-!
# Targets of requests

A request says what it wants by a path, with a query or a fragment after it, or
by a locator, in which a scheme and a host stand before the path.  A locator
without a path means the path of one slash.
-/

namespace CivicRegistry.Http

/-- Whether a character ends the path of a target. -/
def endsPath (c : Char) : Bool :=
  c == '?' || c == '#'

/-- What follows the scheme and the two slashes of a locator. -/
def afterScheme? (target : List Char) : Option (List Char) :=
  match target.dropWhile fun c =>
      c.isAlphanum || c == '+' || c == '-' || c == '.' with
  | ':' :: '/' :: '/' :: rest => some rest
  | _ => none

/-- The characters of the path of a target; a target that is neither a path nor
a locator has none. -/
def pathOfTarget (target : List Char) : List Char :=
  match target with
  | '/' :: _ => target.takeWhile (!endsPath ·)
  | _ =>
    match afterScheme? target with
    | some rest =>
      let path :=
        (rest.dropWhile fun c => !(c == '/' || endsPath c)).takeWhile
          (!endsPath ·)
      if path.isEmpty then ['/'] else path
    | none => []

end CivicRegistry.Http
