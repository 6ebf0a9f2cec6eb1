import Mathlib.Data.List.Basic
import Spreadsheet.Proofs.Library.Tables
import Spreadsheet.Proofs.Library.Vectors

/-!
# Look-ups that agree

A look-up by rows is a look-up by columns in the transposed table, and a look-up by columns answers
with the row in which the look-up in the first column finds its target. All three search the same
keys, so they find the same and fail alike.
-/

namespace Spreadsheet
namespace Library
namespace LookUp

variable {rows : List (List Value)} {j : ℕ}

/-! ## Columns -/

/-- A column of a table. -/
def column (j : ℕ) (rows : List (List Value)) : List Value := rows.filterMap (·[j]?)

/-- The columns of a table as the rows of another one. -/
def transpose (rows : List (List Value)) : List (List Value) :=
  (List.range (width rows)).map (column · rows)

theorem getElem?_filterMap_of_isSome {α β : Type} {f : α → Option β} {xs : List α}
    (every : ∀ x ∈ xs, (f x).isSome) (i : ℕ) : (xs.filterMap f)[i]? = xs[i]?.bind f := by
  induction xs generalizing i with
  | nil => rfl
  | cons x xs ih =>
      obtain ⟨y, there⟩ := Option.isSome_iff_exists.mp (every x List.mem_cons_self)
      rw [List.filterMap_cons_some there]
      cases i with
      | zero => exact there.symm
      | succ i => exact ih (fun x member => every x (List.mem_cons_of_mem _ member)) i

/-- In a rectangle every row has an item in a column inside of it. -/
theorem isSome_getElem? (rectangle : IsRectangle rows) (inside : j < width rows) {row : List Value}
    (member : row ∈ rows) : row[j]?.isSome := by
  rw [List.getElem?_eq_getElem (by rwa [rectangle.length_eq_width member])]
  rfl

theorem getElem?_column (rectangle : IsRectangle rows) (inside : j < width rows) (i : ℕ) :
    (column j rows)[i]? = item? rows i j :=
  getElem?_filterMap_of_isSome (fun _ => isSome_getElem? rectangle inside) i

theorem item?_eq_none (rectangle : IsRectangle rows) (outside : width rows ≤ j) :
    item? rows i j = none := by
  refine Option.bind_eq_none_iff.mpr fun row there => List.getElem?_eq_none ?_
  rwa [rectangle.length_eq_width (List.mem_of_getElem? there)]

/-- Transposing swaps the indices of every item. -/
theorem item?_transpose (rectangle : IsRectangle rows) (i j : ℕ) :
    item? (transpose rows) j i = item? rows i j := by
  rw [item?, transpose, List.getElem?_map]
  by_cases inside : j < width rows
  · rw [List.getElem?_range inside]
    exact getElem?_column rectangle inside i
  · rw [List.getElem?_eq_none (by simpa using inside),
      item?_eq_none rectangle (Nat.le_of_not_lt inside)]
    rfl

theorem length_column (rectangle : IsRectangle rows) (inside : j < width rows) :
    (column j rows).length = rows.length := by
  rw [column, List.length_filterMap_eq_countP, List.countP_eq_length]
  exact fun _ => isSome_getElem? rectangle inside

theorem length_transpose : (transpose rows).length = width rows := by
  rw [transpose, List.length_map, List.length_range]

theorem isRectangle_transpose (rectangle : IsRectangle rows) : IsRectangle (transpose rows) where
  nonempty := List.ne_nil_of_length_pos (length_transpose ▸ rectangle.width_pos)
  exists_width := by
    refine ⟨rows.length, List.length_pos_iff.mpr rectangle.nonempty, fun row member => ?_⟩
    obtain ⟨j, inside, rfl⟩ := List.mem_map.mp member
    exact length_column rectangle (List.mem_range.mp inside)
  single := by
    intro row member item itemIn
    obtain ⟨j, -, rfl⟩ := List.mem_map.mp member
    obtain ⟨source, sourceIn, there⟩ := List.mem_filterMap.mp itemIn
    exact rectangle.single source sourceIn item (List.mem_of_getElem? there)

theorem width_transpose (rectangle : IsRectangle rows) : width (transpose rows) = rows.length := by
  have first : column 0 rows ∈ transpose rows :=
    List.mem_map_of_mem (List.mem_range.mpr rectangle.width_pos)
  rw [← (isRectangle_transpose rectangle).length_eq_width first,
    length_column rectangle rectangle.width_pos]

/-- The first column of the transposed table is the first row. -/
theorem column_zero_transpose {first : List Value} {rest : List (List Value)}
    (rectangle : IsRectangle (first :: rest)) : column 0 (transpose (first :: rest)) = first := by
  refine List.ext_getElem? fun i => ?_
  have transposed := isRectangle_transpose rectangle
  rw [getElem?_column transposed transposed.width_pos, item?_transpose rectangle]
  rfl

/-! ## Look-ups in tables -/

variable {v k : Value} {flag : Option Value}

/-- A look-up among keys that answers with an item. There have to be more items than the index
argument asks for. -/
def lookedUp (keys : List Value) (size : ℕ) (item : ℕ → ℕ → Option Value) (v k : Value)
    (flag : Option Value) : Outcome Value := do
  let target ← scalar v
  let place ← index k
  let byOrder ← optional boolean true flag
  if size ≤ place then fail .reference
  else do
    let found ← orNotFound (find? byOrder (.single target) keys)
    orCrash (item found place)

theorem mapM_head (rectangle : IsRectangle rows) :
    (rows.mapM fun row => orCrash row.head?) = .ok (column 0 rows) := by
  simp only [List.head?_eq_getElem?]
  exact mapM_orCrash fun _ => isSome_getElem? rectangle rectangle.width_pos

theorem byColumn_eq (rectangle : IsRectangle rows) :
    byColumn v (.table rows) k flag =
      lookedUp (column 0 rows) (width rows)
        (fun row column => item? rows row column) v k flag := by
  refine bind_congr fun target => ?_
  change (index k >>= fun column => _) = _
  refine bind_congr fun place => bind_congr fun byOrder => ?_
  rw [mapM_head rectangle]
  rfl

theorem byRow_eq {first : List Value} {rest : List (List Value)} :
    byRow v (.table (first :: rest)) k flag =
      lookedUp first (first :: rest).length
        (fun column row => item? (first :: rest) row column) v k flag :=
  rfl

/-- A look-up by rows is a look-up by columns in the transposed table. -/
theorem byRow_eq_byColumn_transpose (rectangle : IsRectangle rows) :
    byRow v (.table rows) k flag = byColumn v (.table (transpose rows)) k flag := by
  obtain ⟨first, rest, rfl⟩ := List.exists_cons_of_ne_nil rectangle.nonempty
  rw [byRow_eq, byColumn_eq (isRectangle_transpose rectangle), column_zero_transpose rectangle,
    width_transpose rectangle]
  simp only [item?_transpose rectangle]

/-! ## Look-ups in the first column -/

variable {now : Moment} {typeArgument : Option Value} {byOrder : Bool} {place : ℕ}

theorem find?_vlookup :
    (standard now).find? "VLOOKUP" = some (.threeOrFour "VLOOKUP" byColumn) := by
  with_unfolding_all rfl

theorem find?_hlookup : (standard now).find? "HLOOKUP" = some (.threeOrFour "HLOOKUP" byRow) := by
  with_unfolding_all rfl

/-- A place that is counted from one is an index. -/
theorem index_of_integer (read : integer k = .ok (place : ℤ)) (positive : 0 < place) :
    index k = .ok (place - 1) := by
  have bounds := bounds_of_integer read
  have fits : signed (place - 1) = .ok ((place : ℤ) - 1) :=
    if_pos ⟨Int.le_trans (by decide) (show 0 ≤ (place : ℤ) - 1 by omega), by omega⟩
  rw [index, read]
  change
    (if (place : ℤ) < 1 then fail .value else signed (place - 1) >>= fun n => pure n.toNat) = _
  rw [if_neg (by omega), fits]
  exact congrArg Except.ok (by omega)

/-- The first items of all rows are a column. -/
theorem isVector_column (rectangle : IsRectangle rows) :
    IsVector (.table (rows.map (·.take 1))) (column 0 rows) := by
  have singletons : rows.map (·.take 1) = (column 0 rows).map fun value => [value] := by
    rw [column, List.map_filterMap, ← List.filterMap_eq_map]
    refine List.filterMap_congr fun row member => ?_
    obtain ⟨value, there⟩ := rectangle.exists_head member
    obtain ⟨rest, rfl⟩ := List.head?_eq_some_iff.mp there
    rfl
  rw [singletons]
  exact .column _

/-- The type of a look-up in a vector that is made by order or by equality. -/
theorem searched_eq_find? {target : Value} {values : List Value} :
    searched (if byOrder then 1 else 0) target values = find? byOrder target values := by
  cases byOrder <;> rfl

/-- Look-ups that meet an error as their target end in it. -/
theorem call_of_scalar_error {code : ErrorCode} {vector table : Value}
    (error : v.scalar = .error code) :
    (standard now).call "MATCH" (v :: vector :: typeArgument.toList) = .error code ∧
      (standard now).call "VLOOKUP" (v :: table :: k :: flag.toList) = .error code := by
  have failed : scalar v = fail code := by rw [scalar, error]
  rw [call_twoOrThree find?_match, call_threeOrFour find?_vlookup, matched, byColumn, failed]
  exact ⟨rfl, rfl⟩

/-- A look-up by columns answers with the item in the row that is found in the first column. -/
theorem call_vlookup (rectangle : IsRectangle rows) (noError : ∀ code, v.scalar ≠ .error code)
    (readFlag : optional boolean true flag = .ok byOrder) (readPlace : integer k = .ok (place : ℤ))
    (positive : 0 < place) (inside : place ≤ width rows) :
    (standard now).call "VLOOKUP" (v :: .table rows :: k :: flag.toList) =
      valueOf (orNotFound (find? byOrder (.single v.scalar) (column 0 rows)) >>= fun row =>
        orCrash (item? rows row (place - 1))) := by
  rw [call_threeOrFour find?_vlookup, byColumn_eq rectangle, lookedUp, scalar_of_ne_error noError,
    index_of_integer readPlace positive, readFlag]
  dsimp only [bind, Except.bind]
  rw [if_neg (by omega)]

/-- A look-up by columns answers with the item of the row in which a look-up in the first column
finds the same target, and finds nothing if that look-up finds nothing. -/
theorem call_vlookup_of_call_match (rectangle : IsRectangle rows)
    (readFlag : optional boolean true flag = .ok byOrder) (readPlace : integer k = .ok (place : ℤ))
    (positive : 0 < place) (inside : place ≤ width rows)
    (readType : optional integer 1 typeArgument = .ok (if byOrder then 1 else 0)) :
    let found := (standard now).call "MATCH"
      (v :: .table (rows.map (·.take 1)) :: typeArgument.toList)
    let result := (standard now).call "VLOOKUP" (v :: .table rows :: k :: flag.toList)
    (∀ x, found = .number x → ∃ row, found = .count (row + 1) ∧
      item? rows row (place - 1) = some result) ∧
      (found = .error .notAvailable → result = .error .notAvailable) := by
  intro found result
  by_cases isError : ∃ code, v.scalar = .error code
  · obtain ⟨code, isError⟩ := isError
    obtain ⟨found_eq, result_eq⟩ : found = .error code ∧ result = .error code :=
      call_of_scalar_error isError
    rw [found_eq, result_eq]
    exact ⟨fun x isNumber => absurd isNumber.symm (number_ne_error x code), id⟩
  · have noError := not_exists.mp isError
    have found_eq : found = placeOf (find? byOrder (.single v.scalar) (column 0 rows)) := by
      rw [← searched_eq_find?]
      exact call_match (isVector_column rectangle) noError readType
    have result_eq : result = _ :=
      call_vlookup rectangle noError readFlag readPlace positive inside
    rw [found_eq, result_eq]
    cases search : find? byOrder (.single v.scalar) (column 0 rows) with
    | none => exact ⟨fun x isNumber => absurd isNumber.symm (number_ne_error x _), fun _ => rfl⟩
    | some row =>
        have rowIn : row < rows.length :=
          length_column rectangle rectangle.width_pos ▸ lt_of_find? search
        obtain ⟨item, there⟩ := rectangle.exists_item rowIn (show place - 1 < width rows by omega)
        refine ⟨fun x _ => ⟨row, rfl, ?_⟩, fun isError => absurd isError (number_ne_error _ _)⟩
        change _ = some (valueOf (orCrash (item? rows row (place - 1))))
        rw [there]
        rfl

/-- The look-ups agree with each other. A look-up by rows is a look-up by columns in the transposed
table, errors included. A look-up by columns answers with the item of the row whose place a look-up
in the first column tells, and finds nothing if that look-up finds nothing. -/
theorem lookups_agree (now : Moment) (v k : Value) (flag : Option Value)
    (rectangle : IsRectangle rows) :
    (standard now).call "HLOOKUP" (v :: .table rows :: k :: flag.toList) =
        (standard now).call "VLOOKUP" (v :: .table (transpose rows) :: k :: flag.toList) ∧
      ∀ (typeArgument : Option Value) (byOrder : Bool) (place : ℕ),
        optional boolean true flag = .ok byOrder → integer k = .ok (place : ℤ) → 0 < place →
        place ≤ width rows → optional integer 1 typeArgument = .ok (if byOrder then 1 else 0) →
        let found := (standard now).call "MATCH"
          (v :: .table (rows.map (·.take 1)) :: typeArgument.toList)
        let result := (standard now).call "VLOOKUP" (v :: .table rows :: k :: flag.toList)
        (∀ x, found = .number x → ∃ row, found = .count (row + 1) ∧
          item? rows row (place - 1) = some result) ∧
          (found = .error .notAvailable → result = .error .notAvailable) := by
  refine ⟨?_, fun typeArgument byOrder place readFlag readPlace positive inside readType => ?_⟩
  · rw [call_threeOrFour find?_hlookup, call_threeOrFour find?_vlookup,
      byRow_eq_byColumn_transpose rectangle]
  · exact call_vlookup_of_call_match rectangle readFlag readPlace positive inside readType

/-- A text is found in any case behind a blank and the item in its row is an error; a text that is
not there is not found, in the table or in its first column. -/
theorem lookups_agree_on_blanks_and_errors :
    let library := standard ⟨⟨2000, 1, 1⟩, 0⟩
    let rows : List (List Value) :=
      [[.single .blank, .number 1.0], [.text "b", .error .divisionByZero],
        [.error .null, .single .blank]]
    let flag : Option Value := some (.boolean false)
    IsRectangle rows ∧ optional boolean true flag = .ok false ∧
      integer (.number 2.0) = .ok ((2 : ℕ) : ℤ) ∧
      optional integer 1 (some (.number 0.0)) = .ok 0 ∧
      library.call "HLOOKUP" [.text "B", .table rows, .number 2.0, .boolean false] =
        library.call "VLOOKUP" [.text "B", .table (transpose rows), .number 2.0, .boolean false] ∧
      (∃ row, library.call "MATCH" [.text "B", .table (rows.map (·.take 1)), .number 0.0] =
        .count (row + 1) ∧
        item? rows row 1 =
          some (library.call "VLOOKUP" [.text "B", .table rows, .number 2.0, .boolean false])) ∧
      library.call "VLOOKUP" [.text "c", .table rows, .number 2.0, .boolean false] =
        .error .notAvailable := by
  intro library rows flag
  have rectangle : IsRectangle rows := ⟨List.cons_ne_nil _ _, ⟨2, by decide, by simp [rows]⟩, by
    simp [rows, Value.number, Value.text, Value.error]⟩
  have second : integer (.number 2.0) = .ok ((2 : ℕ) : ℤ) := by decide +kernel
  have zero : optional integer 1 (some (.number 0.0)) = .ok 0 := by decide +kernel
  have isText {s : String} (code : ErrorCode) : (Value.text s).scalar ≠ .error code := by
    intro isError
    cases isError
  have found : library.call "MATCH" [.text "B", .table (rows.map (·.take 1)), .number 0.0] =
      .count 2 :=
    (call_match (isVector_column rectangle) isText zero).trans (by with_unfolding_all rfl)
  have missed : library.call "MATCH" [.text "c", .table (rows.map (·.take 1)), .number 0.0] =
      .error .notAvailable :=
    (call_match (isVector_column rectangle) isText zero).trans (by with_unfolding_all rfl)
  obtain ⟨turned, agree⟩ :=
    lookups_agree ⟨⟨2000, 1, 1⟩, 0⟩ (.text "B") (.number 2.0) flag rectangle
  obtain ⟨-, absent⟩ := lookups_agree ⟨⟨2000, 1, 1⟩, 0⟩ (.text "c") (.number 2.0) flag rectangle
  refine ⟨rectangle, rfl, second, zero, turned, ?_, ?_⟩
  · exact (agree (some (.number 0.0)) false 2 rfl second (by decide) (by decide) zero).1 _ found
  · exact (absent (some (.number 0.0)) false 2 rfl second (by decide) (by decide) zero).2 missed

end LookUp
end Library
end Spreadsheet
