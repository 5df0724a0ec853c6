import NetImport.Proofs.Tensor
import NetImport.Tensor.NumericArray

/-!
# Casting arrays

An array is cast cell by cell. Numbers are rounded to single precision in one step, from what their
element type keeps of a quantity, and so are counts of time. Objects are read as double-precision
numbers first, for which some integers are too large. Texts, bytes and records are read as numerals,
which they may not be. Nothing else that a cell holds can be refused.
-/

namespace NetImport

variable {type : ElementType} {number : Quantity}

namespace ElementType

/-! ## Cells of numbers -/

/-- The types of numbers, and that of objects; texts, records and times are none. -/
def isNumeric : ElementType → Bool
  | bool | signed _ | unsigned _ | half | single | double | extended | complex _ | object => true
  | bytes _ | text _ | anyText | record _ | time _ | span _ => false

/-- The number that a quantity counts as: what its type keeps, or the double nearest to an object. -/
def reading (type : ElementType) (number : Quantity) : Quantity :=
  match type with
  | object => .double number.toDouble
  | type => type.store number

/-- Every number can be read, except objects that are integers too large for a double. -/
def reads : ElementType → Quantity → Bool
  | object, .whole value => (Binary64.ofInt value).isFinite
  | _, _ => true

theorem narrow_of_isNumeric (numeric : type.isNumeric) (number : Quantity) :
    type.narrow number =
      if type.reads number then .ok (type.reading number).toSingle else .error .numberTooLarge := by
  cases type with
  | bytes | text | anyText | record | time | span => cases numeric
  | object =>
      cases number with
      | double | extended => rfl
      | whole value =>
          by_cases finite : (Binary64.ofInt value).isFinite
          · simp [narrow, item, objectItem, Item.toBinary64, reads, reading, finite,
              Quantity.toDouble, Quantity.toSingle]
          · simp [narrow, item, objectItem, Item.toBinary64, reads, finite]
  | _ => rfl

/-! ## Other cells -/

/-- Whether the values of a type are read as items, so that some of them are refused. -/
def readsItem : ElementType → Bool
  | bytes _ | text _ | anyText | record _ | object => true
  | _ => false

theorem exists_narrow (plain : type.readsItem = false) (number : Quantity) :
    ∃ result, type.narrow number = .ok result := by
  cases type with
  | bytes | text | anyText | record | object => cases plain
  | _ => exact ⟨_, rfl⟩

end ElementType

/-- Whether the cells of an element type have just one field and its values are read as items. -/
def ElementSpec.readsItem : ElementSpec → Bool
  | one field | group [field] => field.type.readsItem
  | group _ => false

theorem Cell.exists_narrow {element : ElementSpec} (plain : element.readsItem = false)
    (single : element.hasOneField) (number : Quantity) :
    ∃ result, Cell.narrow ⟨element, number⟩ = .ok result := by
  have narrows (field : CellType) (plain : field.type.readsItem = false) :
      ∃ result, (if field.hasCells then field.type.narrow number else .ok .zero) =
        (.ok result : Except Error Binary32) := by
    split
    · exact ElementType.exists_narrow plain number
    · exact ⟨_, rfl⟩
  match element with
  | .one field => exact narrows field plain
  | .group [field] => exact narrows field plain
  | .group [] => cases single
  | .group (_ :: _ :: _) => cases single

/-! ## Whole arrays -/

namespace NumericArray

variable {array : NumericArray} {isReversed : Bool}

/-- Whether the numbers of an array can all be read. -/
def reads (array : NumericArray) (type : ElementType) : Bool :=
  array.values.toList.all type.reads

/-- The numbers of an array as its type holds them, each rounded to single precision. -/
def rounded (array : NumericArray) (type : ElementType) : List Binary32 :=
  array.values.toList.map fun number => (type.reading number).toSingle

theorem size_rounded : (array.rounded type).toArray.size = cellCount array.extents := by
  simp [rounded, array.size_values]

theorem numbers_of_isNumeric (numeric : type.isNumeric)
    (element : array.element = .one ⟨type, isReversed, []⟩) :
    array.numbers =
      if array.reads type then .ok (array.rounded type) else .error .numberTooLarge := by
  have single : array.element.hasOneField := by
    rw [element]
    rfl
  rw [numbers, if_pos single, cells, List.mapM_map]
  -- All refusals are the same one, so that it does not matter which cell is refused first.
  apply except_mapM_eq_ite
  intro number _
  simp [Cell.narrow, element, CellType.hasCells, type.narrow_of_isNumeric numeric]

/-- Numbers that are no objects can all be read. -/
theorem reads_of_ne_object (notObject : type ≠ .object) : array.reads type := by
  rw [reads, List.all_eq_true]
  intro number _
  cases type with
  | object => exact absurd rfl notObject
  | _ => rfl

theorem numbers_of_isNumber (numeric : type.isNumeric) (notObject : type ≠ .object)
    (element : array.element = .one ⟨type, isReversed, []⟩) :
    array.numbers = .ok (array.rounded type) := by
  rw [numbers_of_isNumeric numeric element, if_pos (reads_of_ne_object notObject)]

/-- Plain cells can all be narrowed. -/
theorem exists_numbers (plain : array.element.readsItem = false)
    (single : array.element.hasOneField) :
    ∃ numbers, array.numbers = .ok numbers ∧ numbers.length = array.values.size := by
  choose convert converts using Cell.exists_narrow plain single
  refine ⟨array.values.toList.map convert, ?_, by simp⟩
  rw [numbers, if_pos single, cells, List.mapM_map]
  exact except_mapM_of_forall fun number _ => converts number

end NumericArray

end NetImport
