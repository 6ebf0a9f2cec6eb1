/-!
# Blank characters

What counts as a blank, and the three operations that depend on it: trimming, splitting into words
and joining words by single spaces. Texts are handled as lists of characters; `trim` and `squeeze`
are the same operations on strings.
-/

namespace Spreadsheet
namespace Text

/-- The code point of the character lies in one of the closed ranges. -/
def inRanges (ranges : List (Nat × Nat)) (c : Char) : Bool :=
  ranges.any fun (first, last) => first ≤ c.toNat && c.toNat ≤ last

/-- The code points with the Unicode property `White_Space`, as ascending closed ranges. -/
def blankRanges : List (Nat × Nat) :=
  [ (0x9, 0xD), (0x20, 0x20), (0x85, 0x85), (0xA0, 0xA0), (0x1680, 0x1680), (0x2000, 0x200A),
    (0x2028, 0x2029), (0x202F, 0x202F), (0x205F, 0x205F), (0x3000, 0x3000) ]

/-- The character is a space, a line break or another blank. -/
def isBlank (c : Char) : Bool := inRanges blankRanges c

/-- The characters without the blanks in front. -/
def trimStart (cs : List Char) : List Char := cs.dropWhile isBlank

/-- The characters without the blanks at the end. -/
def trimEnd (cs : List Char) : List Char := (cs.reverse.dropWhile isBlank).reverse

/-- The characters without the blanks at either end. -/
def trimList (cs : List Char) : List Char := trimEnd (trimStart cs)

/-- A text without the blanks at either end. -/
def trim (s : String) : String := String.ofList (trimList s.toList)

/-- The maximal runs of characters that are not blank, from left to right. -/
def words (cs : List Char) : List (List Char) :=
  match _ : trimStart cs with
  | [] => []
  | c :: rest =>
    (c :: rest.takeWhile (! isBlank ·)) :: words (rest.dropWhile (! isBlank ·))
termination_by cs.length
decreasing_by
  rename_i trimmed
  have shorter := (List.dropWhile_suffix (l := cs) isBlank).length_le
  have rest_shorter := (List.dropWhile_suffix (l := rest) (! isBlank ·)).length_le
  rw [show cs.dropWhile isBlank = c :: rest from trimmed, List.length_cons] at shorter
  omega

/-- A text whose words are separated by single spaces, with no blank at either end. -/
def squeeze (s : String) : String :=
  String.ofList ((words s.toList).intersperse [' ']).flatten

end Text
end Spreadsheet
