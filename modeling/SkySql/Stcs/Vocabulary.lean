set_option autoImplicit false

/-!
The words that may stand between a shape or operator and what follows it: a frame, a reference
position and a coordinate flavor, in this order, each optional.
-/

namespace SkySql.Stcs

def frameWords : List String :=
  ["ICRS", "FK4", "FK5", "J2000", "B1950", "ECLIPTIC", "GALACTIC", "GALACTIC_I", "GALACTIC_II",
   "SUPER_GALACTIC", "GEO_C", "GEO_D", "MAG", "GSE", "GSM", "SM", "HGC", "HGS", "HEEQ", "HRTN",
   "HPC", "HPR", "MERCURY_C", "VENUS_C", "LUNA_C", "MARS_C", "JUPITER_C_III", "SATURN_C_III",
   "URANUS_C_III", "NEPTUNE_C_III", "PLUTO_C", "UNKNOWNFrame"]

def positionWords : List String :=
  ["GEOCENTER", "BARYCENTER", "HELIOCENTER", "TOPOCENTER", "GALACTIC_CENTER", "EMBARYCENTER",
   "MOON", "MERCURY", "VENUS", "MARS", "JUPITER", "SATURN", "URANUS", "NEPTUNE", "PLUTO", "LSR",
   "LSRK", "LSRD", "RELOCATABLE", "UNKNOWNRefPos"]

def flavorWords : List String :=
  ["SPHERICAL2", "SPHERICAL3", "CARTESIAN1", "CARTESIAN2", "CARTESIAN3", "UNITSPHERE"]

/-- The only flavor whose coordinates are understood. -/
def supportedFlavor : String := "SPHERICAL2"

def shapeWords : List String := ["position", "circle", "box", "polygon"]

end SkySql.Stcs
