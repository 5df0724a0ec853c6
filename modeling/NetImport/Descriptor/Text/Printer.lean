import NetImport.Descriptor.Message
import NetImport.Descriptor.Text.Escape
import NetImport.Error
import NetImport.Number.Shortest

/-!
# Writing the text format

A message is written one field value a line, by ascending field number, each level of submessages
indented by two spaces. Unknown fields are left out. Bytes in a string that are not part of
a character are escaped one by one.
-/

namespace NetImport.Descriptor

def integerText (number : Int) : List Char :=
  (if number < 0 then ['-'] else []) ++ Nat.toDigits 10 number.natAbs

/-- The text of a value of a scalar type. -/
def Scalar.render (type : ScalarType) : Scalar → List Char
  | .integer number =>
    if type = .elementType then
      ((elementTypeName? number).map String.toList).getD (integerText number)
    else integerText number
  | .flag true => "true".toList
  | .flag false => "false".toList
  | .single number => number.text .descriptor
  | .double number => number.text .descriptor
  | .text content => quoteText content
  | .bytes content => if type = .string then quoteMixed content else quoteBytes content

def indentation (depth : Nat) : List Char := List.replicate (2 * depth) ' '

/-- The line of a value of a scalar field. -/
def Scalar.renderLine (depth : Nat) (name : String) (type : ScalarType) (value : Scalar) :
    List Char :=
  indentation depth ++ name.toList ++ ':' :: ' ' :: value.render type ++ ['\n']

/-- The lines of a message of a type at a depth. -/
def Message.render (depth : Nat) (type : MessageType) : Message → List Char
  | .done _ => []
  | .scalars number values rest =>
    let lines :=
      match type.field? number with
      | some ⟨name, _, _, .scalar scalarType⟩ =>
        values.flatMap (Scalar.renderLine depth name scalarType)
      | _ => []
    lines ++ rest.render depth type
  | .nested number value rest =>
    let lines :=
      match type.field? number with
      | some ⟨name, _, _, .message inner⟩ =>
        let head := indentation depth ++ name.toList ++ [' ', '\x7b', '\n']
        let foot := indentation depth ++ ['\x7d', '\n']
        head ++ value.render (depth + 1) inner ++ foot
      | _ => []
    lines ++ rest.render depth type

def Message.toText (type : MessageType) (message : Message) : String :=
  String.ofList (message.render 0 type)

end NetImport.Descriptor
