import PetriCluster.Text.CharSet

/-!
# Blanks

The characters that separate words: spaces of all widths, tabs, and line ends.
-/

namespace PetriCluster

/-- The blank characters. -/
def CharSet.blank : CharSet where
  bounds := [
    0x9, 0xe, 0x20, 0x21, 0x85, 0x86, 0xa0, 0xa1, 0x1680, 0x1681, 0x2000, 0x200b, 0x2028, 0x202a,
    0x202f, 0x2030, 0x205f, 0x2060, 0x3000, 0x3001]

/-- A text without blanks at its ends. -/
def Text.trim (s : List Char) : List Char :=
  ((s.dropWhile CharSet.blank.contains).reverse.dropWhile CharSet.blank.contains).reverse

end PetriCluster
