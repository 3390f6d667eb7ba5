import CoordinateConformance.Arithmetic

/-!
Contract: reference ellipsoids, given by semi-major axis and inverse flattening.

A sphere has an infinite inverse flattening; its flattening and eccentricity are zero.
-/

namespace CoordinateConformance

/-- A reference ellipsoid. -/
structure Ellipsoid (α : Type) where
  /-- The semi-major axis in metres. -/
  semimajor : α
  inverseFlattening : α
deriving DecidableEq, Repr

namespace Ellipsoid

variable {α : Type} [Arithmetic α]

def flattening (ellipsoid : Ellipsoid α) : α :=
  1.0 / ellipsoid.inverseFlattening

/-- The first eccentricity. -/
def eccentricity (ellipsoid : Ellipsoid α) : α :=
  let f := ellipsoid.flattening
  Arithmetic.sqrt (2.0 * f - f * f)

def wgs84 : Ellipsoid Float := ⟨6378137.0, 298.257223563⟩

/-- Geodetic Reference System 1980, of ETRS89 and NAD83. -/
def grs80 : Ellipsoid Float := ⟨6378137.0, 298.257222101⟩

/-- Bessel 1841, of Makassar. -/
def bessel1841 : Ellipsoid Float := ⟨6377397.155, 299.1528128⟩

/-- Krassowsky 1940, of Pulkovo 1942. -/
def krassowsky1940 : Ellipsoid Float := ⟨6378245.0, 298.3⟩

/-- Clarke 1866, of NAD27 and JAD69. -/
def clarke1866 : Ellipsoid Float := ⟨6378206.4, 294.978698213898⟩

/-- International 1924, of Belge 1972. -/
def international1924 : Ellipsoid Float := ⟨6378388.0, 297.0⟩

def named : List (String × Ellipsoid Float) :=
  [("WGS84", wgs84), ("GRS80", grs80), ("BESSEL_1841", bessel1841),
    ("KRASSOWSKY_1940", krassowsky1940), ("CLARKE_1866", clarke1866),
    ("INTERNATIONAL_1924", international1924)]

def equals (left right : Ellipsoid Float) : Bool :=
  left.semimajor == right.semimajor && left.inverseFlattening == right.inverseFlattening

end Ellipsoid

end CoordinateConformance
