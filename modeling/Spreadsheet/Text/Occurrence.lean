/-!
# Occurrences of a pattern

Finding and replacing a pattern in a list of characters. Texts are stored as bytes, and a search
reports the number of bytes in front of an occurrence, where the text may then be cut. Replacements
go from left to right and never overlap.
-/

namespace Spreadsheet
namespace Text

/-- The number of characters in front of the first occurrence of `pattern`. -/
def indexOf? (pattern : List Char) : List Char → Option Nat
  | [] => if pattern.isEmpty then some 0 else none
  | c :: cs =>
    if pattern.isPrefixOf (c :: cs) then some 0
    else (indexOf? pattern cs).map (· + 1)

/-- Replaces every occurrence of `pattern`. While `skip` is positive the characters belong to an
occurrence that has been replaced already. -/
def replaceAllFrom (pattern replacement : List Char) : Nat → List Char → List Char
  | _, [] => []
  | skip + 1, _ :: cs => replaceAllFrom pattern replacement skip cs
  | 0, c :: cs =>
    if pattern.isPrefixOf (c :: cs) then
      replacement ++ replaceAllFrom pattern replacement (pattern.length - 1) cs
    else
      c :: replaceAllFrom pattern replacement 0 cs

/-- Replaces every occurrence of a pattern that is not empty. -/
def replaceAll (pattern replacement cs : List Char) : List Char :=
  replaceAllFrom pattern replacement 0 cs

/-- The number of bytes that characters take. -/
def size : List Char → Nat
  | [] => 0
  | c :: cs => c.utf8Size + size cs

/-- Cuts characters behind a number of bytes. There is no cut inside a character and none behind
the end. -/
def cutAt? : Nat → List Char → Option (List Char × List Char)
  | 0, cs => some ([], cs)
  | _ + 1, [] => none
  | n + 1, c :: cs =>
    if c.utf8Size ≤ n + 1 then
      (cutAt? (n + 1 - c.utf8Size) cs).map fun (before, after) => (c :: before, after)
    else
      none

/-- The number of bytes in front of the first occurrence of `pattern`. -/
def offsetOf? (pattern cs : List Char) : Option Nat :=
  (indexOf? pattern cs).map fun index => size (cs.take index)

/-- The numbers of bytes in front of the occurrences of `pattern`, where `offset` bytes precede all
characters. While `skip` is positive the characters belong to the last occurrence. -/
def offsetsFrom (pattern : List Char) : Nat → Nat → List Char → List Nat
  | _, _, [] => []
  | skip + 1, offset, c :: cs => offsetsFrom pattern skip (offset + c.utf8Size) cs
  | 0, offset, c :: cs =>
    if pattern.isPrefixOf (c :: cs) then
      offset :: offsetsFrom pattern (pattern.length - 1) (offset + c.utf8Size) cs
    else
      offsetsFrom pattern 0 (offset + c.utf8Size) cs

/-- The numbers of bytes in front of the occurrences of a pattern that is not empty. -/
def offsetsOf (pattern cs : List Char) : List Nat := offsetsFrom pattern 0 0 cs

end Text
end Spreadsheet
