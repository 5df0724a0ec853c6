import NetImport.Error
import NetImport.Number.Numeral

/-!
# Items

An item is a plain value: a number, a truth value, a text or bytes. Items other than integers are
read as double-precision numbers; texts and bytes are read as numerals.
-/

namespace NetImport

/-- A plain value; `nothing` stands for all values that denote no number. -/
inductive Item where
  | int (value : Int)
  | float (value : Binary64)
  | flag (value : Bool)
  | text (value : String)
  | bytes (value : List UInt8)
  | nothing
  deriving DecidableEq, Repr

/-- The number of a numeral that has to be one. -/
def Numeral.require (number? : Option Binary64) : Except Error Binary64 :=
  match number? with
  | some number => .ok number
  | none => .error .rejectedValue

namespace Item

/-- The integer of an item that is an integer or a truth value. -/
def integer? : Item → Option Int
  | int value => some value
  | flag value => some value.toNat
  | _ => none

/-- The number that an item denotes; an integer may be too large for any. -/
def toBinary64 : Item → Except Error Binary64
  | int value =>
    let number := Binary64.ofInt value
    if number.isFinite then .ok number else .error .numberTooLarge
  | float value => .ok value
  | flag value => .ok (.ofInt value.toNat)
  | text value => Numeral.require (Numeral.ofText? value.toList)
  | bytes value => Numeral.require (Numeral.ofBytes? value)
  | nothing => .error .rejectedType

/-- Whether an item counts as present, as an empty or zero one does not. -/
def isPresent : Item → Bool
  | int value => value ≠ 0
  | float value => value.magnitude ≠ 0
  | flag value => value
  | text value => value ≠ ""
  | bytes value => value ≠ []
  | nothing => false

end Item

end NetImport
