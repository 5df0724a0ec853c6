import NetImport.Descriptor.Message
import NetImport.Descriptor.Text.Escape
import NetImport.Descriptor.Text.Numeral
import NetImport.Descriptor.Text.Token
import NetImport.Number.Word

/-!
# Reading the text format

A message is a sequence of fields. A field is a name, a colon, which a message may lack, and a
value; the values of a repeated field may also stand between square brackets, separated by commas.
A comma or else a semicolon may follow a field. Submessages stand between braces or angle
brackets. A field that is not repeated must not be given twice.
-/

namespace NetImport.Descriptor

open NetImport.Text

/-- The value of one occurrence of a field. -/
inductive Value where
  | scalar (value : Scalar)
  | message (value : Message)
  deriving DecidableEq, Repr

/-- The occurrences of a field among numbered values, as the values of that field. -/
def FieldValues.gather (occurrences : List (Nat × Value)) (field : FieldSpec) : FieldValues :=
  let own := (occurrences.filter (·.1 = field.number)).map Prod.snd
  match field.type with
  | .scalar _ => .scalars (own.filterMap fun | .scalar value => some value | .message _ => none)
  | .message _ => .messages (own.filterMap fun | .message value => some value | .scalar _ => none)

/-- Whether no field of a type that is not repeated occurs twice. -/
def occursOnce (type : MessageType) (occurrences : List (Nat × Value)) : Bool :=
  type.fields.all fun field =>
    field.cardinality = .repeated || occurrences.countP (·.1 = field.number) ≤ 1

/-- The message whose fields have the given occurrences. -/
def Message.ofOccurrences (type : MessageType) (occurrences : List (Nat × Value)) : Message :=
  .ofFields (type.fields.map fun field => (field.number, .gather occurrences field)) []

namespace Token

/-- The characters of a token that are read as a numeral or a word. -/
def characters : Token → List Char
  | word characters => characters
  | quoted characters => characters
  | symbol character => [character]

/-- The characters of a token as a numeral, where a digit of any script stands for its value. -/
def numeral : Token → List Char
  | symbol character => [asciiDigit character]
  | token => token.characters

/-- The bytes of a quoted token that its own mark closes. -/
def bytes? : Token → Option (List UInt8)
  | quoted (mark :: inside) =>
    if inside.getLast? = some mark then unescape inside.dropLast else none
  | _ => none

def isQuoted : Token → Bool
  | quoted _ => true
  | _ => false

end Token

/-- The bytes of the quoted tokens at the front, joined together. -/
def readBytes : List Token → Option (List UInt8 × List Token)
  | [] => none
  | token :: rest => do
    let first ← token.bytes?
    match rest with
    | next :: _ =>
      if next.isQuoted then
        let (others, rest) ← readBytes rest
        return (first ++ others, rest)
      else return (first, rest)
    | [] => return (first, [])

def integerOf? (type : ScalarType) (token : Token) : Option Scalar := do
  let number ← Numeral.integer? token.numeral
  if type.holds number then return .integer number else none

/-- A truth value by one of its words. -/
def flag? (token : Token) : Option Scalar :=
  if token.characters ∈ ["true".toList, "t".toList, "1".toList, "True".toList] then
    some (.flag true)
  else if token.characters ∈ ["false".toList, "f".toList, "0".toList, "False".toList] then
    some (.flag false)
  else none

/-- A listed element type by number, or by name when the token is no number. -/
def elementType? (token : Token) : Option Scalar :=
  match Numeral.signed? token.numeral with
  | some number => if isElementType number then some (.integer number) else none
  | none => (elementTypeNumber? (String.ofList token.characters)).map .integer

def scalarOfToken? (type : ScalarType) (token : Token) : Option Scalar :=
  match type with
  | .int32 | .int64 | .uint32 => integerOf? type token
  | .bool => flag? token
  | .float => (Numeral.float? token.numeral).map fun number => .single number.narrow
  | .double => (Numeral.float? token.numeral).map .double
  | .elementType => elementType? token
  | .string | .bytes => none

/-- A scalar of a type at the front of some tokens. -/
def readScalar (type : ScalarType) (tokens : List Token) : Option (Scalar × List Token) :=
  match type with
  | .string => do
    let (bytes, rest) ← readBytes tokens
    return (.text (← decodeUtf8? bytes), rest)
  | .bytes => do
    let (bytes, rest) ← readBytes tokens
    return (.bytes bytes, rest)
  | _ =>
    match tokens with
    | [] => none
    | token :: rest => (scalarOfToken? type token).map (·, rest)

/-- What reads the fields of a message up to the character that closes it. -/
abbrev BodyReader := MessageType → Char → List Token → Option (List (Nat × Value) × List Token)

/-- One value of a field at the front of some tokens. -/
def readValue (body : BodyReader) (type : FieldType) (tokens : List Token) :
    Option (Value × List Token) :=
  match type, tokens with
  | .scalar scalarType, tokens =>
    (readScalar scalarType tokens).map fun (value, rest) => (.scalar value, rest)
  | .message inner, .symbol character :: rest => do
    let close ←
      if character = '\x7b' then some '\x7d' else if character = '<' then some '>' else none
    let (occurrences, rest) ← body inner close rest
    if occursOnce inner occurrences then
      return (.message (.ofOccurrences inner occurrences), rest)
    else none
  | .message _, _ => none

/-- Values separated by commas, up to the closing bracket; the fuel bounds their number. -/
def readElements (body : BodyReader) (type : FieldType) :
    Nat → List Token → Option (List Value × List Token)
  | 0, _ => none
  | fuel + 1, tokens => do
    let (value, rest) ← readValue body type tokens
    match rest with
    | .symbol ']' :: rest => return ([value], rest)
    | .symbol ',' :: rest =>
      let (values, rest) ← readElements body type fuel rest
      return (value :: values, rest)
    | _ => none

/-- The colon in front of a value; only a message may lack it. -/
def skipColon (type : FieldType) : List Token → Option (List Token)
  | .symbol ':' :: rest => some rest
  | tokens =>
    match type with
    | .message _ => some tokens
    | .scalar _ => none

/-- The values that follow the name of a field. -/
def readValues (body : BodyReader) (field : FieldSpec) (tokens : List Token) :
    Option (List Value × List Token) := do
  let tokens ← skipColon field.type tokens
  match field.cardinality, tokens with
  | .repeated, .symbol '[' :: .symbol ']' :: rest => return ([], rest)
  | .repeated, .symbol '[' :: rest => readElements body field.type rest.length rest
  | _, _ =>
    let (value, rest) ← readValue body field.type tokens
    return ([value], rest)

/-- Skips the comma, or else the semicolon, behind a field. -/
def skipSeparator : List Token → List Token
  | .symbol ',' :: rest => rest
  | .symbol ';' :: rest => rest
  | tokens => tokens

/--
The occurrences of the fields of a message, up to the character that closes it or to the end of the
text. Every field takes a token, so that fuel above the number of tokens suffices.
-/
def readFields : Nat → MessageType → Option Char → List Token →
    Option (List (Nat × Value) × List Token)
  | 0, _, _, _ => none
  | _ + 1, _, none, [] => some ([], [])
  | _ + 1, _, some _, [] => none
  | fuel + 1, type, close, token :: rest =>
    if close.map Token.symbol = some token then some ([], rest)
    else do
      let field ← type.fieldNamed? (String.ofList token.characters)
      let body : BodyReader := fun inner close tokens => readFields fuel inner (some close) tokens
      let (values, rest) ← readValues body field rest
      let (others, rest) ← readFields fuel type close (skipSeparator rest)
      return (values.map (field.number, ·) ++ others, rest)

/-- The message of a type that a text describes. -/
def Message.ofText? (type : MessageType) (text : String) : Option Message := do
  let tokens := Token.ofChars text.toList
  let (occurrences, _) ← readFields (tokens.length + 1) type none tokens
  if occursOnce type occurrences then return .ofOccurrences type occurrences else none

end NetImport.Descriptor
