import Spreadsheet.Text.Blank

/-!
# Error codes

The errors that a cell can hold. They are ordinary values: operators and functions pass them on,
and formula text may name them by their codes.
-/

namespace Spreadsheet

/-- An error that a cell can hold. -/
inductive ErrorCode where
  | reference
  | value
  | divisionByZero
  | name
  | circular
  | number
  | null
  | notAvailable
deriving DecidableEq, Repr

namespace ErrorCode

/-- The code that a cell shows. -/
def code : ErrorCode → String
  | reference => "#REF!"
  | value => "#VALUE!"
  | divisionByZero => "#DIV/0!"
  | name => "#NAME?"
  | circular => "#CIRC!"
  | number => "#NUM!"
  | null => "#NULL!"
  | notAvailable => "#N/A"

/-- The spellings that are read as an error, in the order in which they are tried. No spelling
begins another, so at most one can be read at a place. -/
def spellings : List (String × ErrorCode) :=
  [ ("#DIV/0!", divisionByZero), ("#VALUE!", value), ("#NAME?", name), ("#CIRC!", circular),
    ("#NULL!", null), ("#REF!", reference), ("#NUM!", number), ("#N/A", notAvailable),
    ("#NA!", notAvailable) ]

/-- Reads a code with blanks around it allowed and its letters in any case. -/
def ofCode? (text : String) : Option ErrorCode :=
  spellings.lookup (String.ofList ((Text.trimList text.toList).map Char.toUpper))

/-- What the error means, for a reader of the sheet. -/
def description : ErrorCode → String
  | reference => "The formula refers to a cell that no longer exists."
  | value => "A value has the wrong type, or the formula could not be parsed."
  | divisionByZero => "The formula divides by zero."
  | name => "The formula uses an unknown function name."
  | circular => "The formula depends on its own result."
  | number => "The calculation produced an invalid number."
  | null => "The ranges do not intersect."
  | notAvailable => "The lookup value was not found."

end ErrorCode

end Spreadsheet
