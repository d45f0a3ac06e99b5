/-!
# Points and distances

Points are given in degrees on a sphere of the Earth's radius; their distance is
the length of the great circle between them, by the formula of the half versed
sine.
-/

namespace CivicRegistry

structure GeoPoint where
  latitude : Float
  longitude : Float
deriving DecidableEq

namespace GeoPoint

/-- The mean radius of the Earth in kilometres. -/
def earthRadius : Float := 6371.0

def radians (degrees : Float) : Float :=
  degrees * (3.14159265358979323846 / 180.0)

def squared (x : Float) : Float := x * x

/-- A number moved into the range from 0 to 1; what is not a number stays as it
is. -/
def unitRange (x : Float) : Float :=
  if x < 0.0 then 0.0 else if 1.0 < x then 1.0 else x

/-- The great-circle distance in kilometres. -/
def distance (left right : GeoPoint) : Float :=
  let dLatitude := radians (right.latitude - left.latitude)
  let dLongitude := radians (right.longitude - left.longitude)
  let h := squared (dLatitude / 2.0).sin +
    (radians left.latitude).cos * (radians right.latitude).cos *
      squared (dLongitude / 2.0).sin
  2.0 * earthRadius * (unitRange h.sqrt).asin

end GeoPoint

/-- A centre and a radius in kilometres. -/
structure Circle where
  center : GeoPoint
  radius : Float
deriving DecidableEq

end CivicRegistry
