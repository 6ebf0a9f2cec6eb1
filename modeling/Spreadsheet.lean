import Spreadsheet.Snapshot
import Spreadsheet.Workbook.Editing
import Spreadsheet.Workbook.Structure
import Spreadsheet.Proofs.Dependency.Closure
import Spreadsheet.Proofs.Dependency.Footprint
import Spreadsheet.Proofs.Dependency.Order
import Spreadsheet.Proofs.Workbook.DirectEdits
import Spreadsheet.Proofs.Workbook.Entering
import Spreadsheet.Proofs.Formula.TreeShift
import Spreadsheet.Proofs.Formula.Acceptance
import Spreadsheet.Proofs.Workbook.Undoing
import Spreadsheet.Proofs.Formula.Language
import Spreadsheet.Proofs.Workbook.Retyping
import Spreadsheet.Proofs.Notation
import Spreadsheet.Proofs.Evaluation
import Spreadsheet.Proofs.Dependency.Search
import Spreadsheet.Proofs.Dependency.Traversal
import Spreadsheet.Proofs.Workbook.Contents
import Spreadsheet.Proofs.Survival
import Spreadsheet.Proofs.Corners
import Spreadsheet.Proofs.Workbook.Frame
import Spreadsheet.Proofs.Composition
import Spreadsheet.Proofs.Occupancy
import Spreadsheet.Proofs.Listing
import Spreadsheet.Proofs.Formula.Branches
import Spreadsheet.Proofs.Formula.Spacing
import Spreadsheet.Proofs.Formula.Calls
import Spreadsheet.Proofs.Comparison
import Spreadsheet.Proofs.Library.Transposition
import Spreadsheet.Proofs.Library.Complements
import Spreadsheet.Proofs.Library.Finding
import Spreadsheet.Proofs.Library.Substitution
import Spreadsheet.Proofs.Library.Searching
import Spreadsheet.Proofs.Library.Numerals
import Spreadsheet.Proofs.Library.Dates
import Spreadsheet.Proofs.Dependency.History
import Spreadsheet.Proofs.Formula.Scanning
