/-!
# ASCII letter case

Names of levels, protocols and options are compared without regard to the case
of the letters A–Z; every other character, `É` and the Kelvin sign among them,
stands for itself alone.
-/

namespace TunnelControl.Text

/-- Lower case for A–Z, everything else as it is. -/
def asciiLower (s : String) : String := String.ofList (s.toList.map Char.toLower)

/-- Equality up to the case of the letters A–Z. -/
def sameIgnoringCase (s t : String) : Bool := asciiLower s == asciiLower t

/-- Lower case of the letters A–Z at the start decides whether `stem` opens `s`. -/
def startsIgnoringCase (stem s : String) : Bool :=
  (asciiLower stem).toList.isPrefixOf (asciiLower s).toList

end TunnelControl.Text
