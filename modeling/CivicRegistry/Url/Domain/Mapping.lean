import CivicRegistry.Text.Composition
import CivicRegistry.Text.Lowercase
import CivicRegistry.Url.Domain.MappingTable

/-!
# The mapping of names

Names of domains that differ only in case, in width or the like are the same.
So every character of a name is replaced by what stands for it, and the name is
composed.  Some characters vanish, and some are in no name.
-/

namespace CivicRegistry.Url.Domain

/-- What a mapping puts in the place of one of its code points. -/
def Mapping.imageOf (mapping : Mapping) (n : Nat) : List Char :=
  mapping.image.map fun image =>
    Char.ofNat (if mapping.moves then image + (n - mapping.first) else image)

/-- What stands for a character in a name; nothing stands for one that no name
has in it. -/
def image? (c : Char) : Option (List Char) :=
  let n := c.toNat
  if n < 0x80 then some [c.toLower]
  else if Text.inRanges ignoredRanges c then some []
  else if Text.inRanges refusedRanges c then none
  else
    match mappings.find? fun mapping =>
        mapping.first ≤ n && n ≤ mapping.last with
    | some mapping => some (mapping.imageOf n)
    | none => some (Text.lowerChar c)

/-- Whether a character stands for itself in a name. -/
def standsForItself (c : Char) : Bool :=
  image? c == some [c]

/-- The composed images of the characters of a name. -/
def mapped? (name : List Char) : Option (List Char) :=
  (name.mapM image?).map fun images => Text.composed images.flatten

end CivicRegistry.Url.Domain
