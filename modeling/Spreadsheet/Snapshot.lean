import Spreadsheet.Cell
import Spreadsheet.Json.Reader
import Spreadsheet.Settings
import Spreadsheet.Shift

/-!
# Snapshots

The JSON form of what a host saves: cells, values, errors, addresses, ranges, positions, axes,
modes and settings. Each type has an encoder and a decoder.

A record is written as an object and read from an object or from an array of its fields in order.
Names that a record does not have are passed over; a name that it has may occur once. A case
without content is written as its name and read from its name or from an object with its name and
null; a case with content is an object with its name and its content.
-/

namespace Spreadsheet
namespace Snapshot

/-- The content of the field of an object with a name, where names occur once. -/
def fieldOf? (members : List (Option String × Json)) (name : String) : Option (Option Json) :=
  match members.filter (·.1 == some name) with
  | [] => some none
  | [(_, value)] => some (some value)
  | _ => none

/-- The fields of a record, in the order of the names. In an object any field may be missing, and
in an array the last ones may be if `shorter` allows it. -/
def fields? (shorter : Bool) (names : List String) : Json → Option (List (Option Json))
  | .object members =>
    if members.all (·.1.isSome) then names.mapM (fieldOf? members) else none
  | .array items =>
    if items.length = names.length || (shorter && items.length < names.length) then
      some (items.map some ++ List.replicate (names.length - items.length) none)
    else none
  | _ => none

/-- A case of a type: its name, and its content if it is written as an object. -/
def case? : Json → Option (String × Option Json)
  | .string (some name) => some (name, none)
  | .object [(some name, content)] => some (name, some content)
  | _ => none

/-- The name of a case without content. -/
def plainCase? (j : Json) : Option String :=
  match case? j with
  | some (name, none) => some name
  | some (name, some .null) => some name
  | _ => none

/-- A string. -/
def string? : Json → Option String
  | .string content => content
  | _ => none

/-- A truth value. -/
def boolean? : Json → Option Bool
  | .boolean value => some value
  | _ => none

/-- A natural number of 32 bits. -/
def uint32? (j : Json) : Option UInt32 := (j.natural? UInt32.size).map UInt32.ofNat

/-- A document that null or a missing field leaves out. -/
def option? {α : Type} (decode : Json → Option α) : Option Json → Option (Option α)
  | none => some none
  | some .null => some none
  | some j => (decode j).map some

/-- A natural number of 32 bits as a document. -/
def ofUInt32 (n : UInt32) : Json := .ofNat n.toNat

/-- The name of an error. -/
def errorName : ErrorCode → String
  | .reference => "Ref"
  | .value => "Value"
  | .divisionByZero => "Div0"
  | .name => "Name"
  | .circular => "Circular"
  | .number => "Num"
  | .null => "Null"
  | .notAvailable => "NA"

/-- All errors. -/
def errors : List ErrorCode :=
  [ .reference, .value, .divisionByZero, .name, .circular, .number, .null, .notAvailable ]

/-- An error as a document. -/
def ofError (e : ErrorCode) : Json := .ofString (errorName e)

/-- Reads an error. -/
def error? (j : Json) : Option ErrorCode := do
  let name ← plainCase? j
  errors.find? (errorName · == name)

/-- A cell value as a document. -/
def ofValue : CellValue → Json
  | .blank => .ofString "Empty"
  | .number value => .ofMembers [("Number", .ofFloat value)]
  | .text content => .ofMembers [("Text", .ofString content)]
  | .boolean value => .ofMembers [("Boolean", .boolean value)]
  | .error code => .ofMembers [("Error", ofError code)]

/-- Reads a cell value. -/
def value? (j : Json) : Option CellValue :=
  match case? j with
  | some ("Empty", none) => some .blank
  | some ("Empty", some .null) => some .blank
  | some ("Number", some content) => content.float?.map .number
  | some ("Text", some content) => (string? content).map .text
  | some ("Boolean", some content) => (boolean? content).map .boolean
  | some ("Error", some content) => (error? content).map .error
  | _ => none

/-- A cell as a document. -/
def ofCell (c : Cell) : Json :=
  .ofMembers
    [ ("formula", .ofOption .ofString c.formula),
      ("value", ofValue c.value),
      ("error", .ofOption ofError c.error) ]

/-- Reads a cell. -/
def cell? (j : Json) : Option Cell := do
  let [formula, some value, error] ← fields? false ["formula", "value", "error"] j | none
  return ⟨← option? string? formula, ← value? value, ← option? error? error⟩

/-- An address as a document. -/
def ofAddress (a : Address) : Json :=
  .ofMembers
    [ ("col", ofUInt32 a.col),
      ("row", ofUInt32 a.row),
      ("col_absolute", .boolean a.colAbsolute),
      ("row_absolute", .boolean a.rowAbsolute) ]

/-- Reads an address. -/
def address? (j : Json) : Option Address := do
  let [some col, some row, some colAbsolute, some rowAbsolute] ←
    fields? false ["col", "row", "col_absolute", "row_absolute"] j | none
  return ⟨← uint32? col, ← uint32? row, ← boolean? colAbsolute, ← boolean? rowAbsolute⟩

/-- A range as a document. -/
def ofRange (r : Range) : Json :=
  .ofMembers [("start", ofAddress r.first), ("end", ofAddress r.last)]

/-- Reads a range; its corners stay in the order in which they are written. -/
def range? (j : Json) : Option Range := do
  let [some first, some last] ← fields? false ["start", "end"] j | none
  return ⟨← address? first, ← address? last⟩

/-- A position as a document. -/
def ofPosition (p : Position) : Json :=
  .ofMembers [("col", ofUInt32 p.col), ("row", ofUInt32 p.row)]

/-- Reads a position. -/
def position? (j : Json) : Option Position := do
  let [some col, some row] ← fields? false ["col", "row"] j | none
  return ⟨← uint32? col, ← uint32? row⟩

/-- An axis as a document. -/
def ofAxis : Axis → Json
  | .row => .ofString "Row"
  | .column => .ofString "Col"

/-- Reads an axis. -/
def axis? (j : Json) : Option Axis :=
  match plainCase? j with
  | some "Row" => some .row
  | some "Col" => some .column
  | _ => none

/-- A mode as a document. -/
def ofMode (m : Mode) : Json := .ofString m.name

/-- Reads a mode. -/
def mode? (j : Json) : Option Mode :=
  match plainCase? j with
  | some "automatic" => some .automatic
  | some "manual" => some .manual
  | _ => none

/-- Settings as a document. -/
def ofSettings (s : Settings) : Json :=
  .ofMembers
    [ ("calculation_mode", ofMode s.mode),
      ("max_range_cells", .ofNat s.maxRangeCells) ]

/-- A field whose standard value stands in when it is missing. -/
def orStandard {α : Type} (decode : Json → Option α) (standard : α) : Option Json → Option α
  | none => some standard
  | some j => decode j

/-- Reads settings. What is missing has its standard value. -/
def settings? (j : Json) : Option Settings := do
  let [mode, maxRangeCells] ← fields? true ["calculation_mode", "max_range_cells"] j | none
  return ⟨← orStandard mode? Settings.default.mode mode,
    ← orStandard (Json.natural? UInt64.size) Settings.default.maxRangeCells maxRangeCells⟩

end Snapshot
end Spreadsheet
