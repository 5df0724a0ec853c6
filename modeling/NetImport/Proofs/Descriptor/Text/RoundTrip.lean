import NetImport.Proofs.Descriptor.RoundTrip
import NetImport.Proofs.Descriptor.Text.Token

/-!
# Messages survive the text format

Every value is read back from its token, up to what is not a number, of which a text keeps no
pattern. So the tokens of a message are read as the occurrences of its fields, a field at a time,
and these occurrences make up the message again.
-/

namespace NetImport.Descriptor

open NetImport.Text

/-! ## What a text keeps -/

/-- The scalar that is read from the text of a scalar. -/
def Scalar.canonical : Scalar → Scalar
  | .single number =>
    .single (if Format.single.infinity < number.magnitude then (Numeral.notANumber false).narrow
      else number)
  | .double number =>
    .double (if Format.double.infinity < number.magnitude then Numeral.notANumber false else number)
  | value => value

/-- The message that is read from the text of a message. -/
def Message.canonical : Message → Message
  | .done unknown => .done unknown
  | .scalars number values rest => .scalars number (values.map Scalar.canonical) rest.canonical
  | .nested number value rest => .nested number value.canonical rest.canonical

/-- Whether a message has no unknown fields at any depth. -/
def Message.isKnown : Message → Bool
  | .done unknown => unknown.isEmpty
  | .scalars _ _ rest => rest.isKnown
  | .nested _ value rest => value.isKnown && rest.isKnown

section Canonical

variable {type : MessageType} {scalarType : ScalarType} {message : Message}

theorem agrees_canonicalScalar (value : Scalar) : value.agrees value.canonical := by
  cases value with
  | single number =>
      by_cases noNumber : Format.single.infinity < number.magnitude
      · have also : (Scalar.single (Numeral.notANumber false).narrow).isNaN := by decide
        simp only [Scalar.agrees, Scalar.canonical, if_pos noNumber, also]
        simp [Scalar.isNaN, noNumber]
      · simp [Scalar.agrees, Scalar.canonical, noNumber]
  | double number =>
      by_cases noNumber : Format.double.infinity < number.magnitude
      · have also : (Scalar.double (Numeral.notANumber false)).isNaN := by decide
        simp only [Scalar.agrees, Scalar.canonical, if_pos noNumber, also]
        simp [Scalar.isNaN, noNumber]
      · simp [Scalar.agrees, Scalar.canonical, noNumber]
  | integer _ | flag _ | text _ | bytes _ => simp [Scalar.agrees, Scalar.canonical]

/-- A text keeps a message up to values that are not numbers. -/
theorem agrees_canonical (message : Message) : message.agrees message.canonical := by
  induction message with
  | done unknown => simp [Message.canonical, Message.agrees]
  | scalars number values rest hypothesis =>
      have values_agree : Scalar.agreeAll values (values.map Scalar.canonical) := by
        induction values with
        | nil => rfl
        | cons value values further =>
            simp [Scalar.agreeAll, agrees_canonicalScalar, further]
      simp [Message.canonical, Message.agrees, values_agree, hypothesis]
  | nested number value rest inside hypothesis =>
      simp [Message.canonical, Message.agrees, inside, hypothesis]

theorem isOf_canonicalScalar {value : Scalar} (isOf : value.IsOf scalarType) :
    value.canonical.IsOf scalarType := by
  cases value with
  | single number => cases scalarType <;> exact isOf
  | double number => cases scalarType <;> exact isOf
  | integer _ | flag _ | text _ | bytes _ => exact isOf

theorem numbers_canonical (message : Message) : message.canonical.numbers = message.numbers := by
  induction message with
  | done unknown => rfl
  | scalars number values rest hypothesis =>
      simp only [Message.canonical, Message.numbers, hypothesis]
  | nested number value rest _ hypothesis =>
      simp only [Message.canonical, Message.numbers, hypothesis]

theorem isOf_canonical (isOf : message.IsOf type) : message.canonical.IsOf type := by
  induction message generalizing type with
  | done unknown => exact isOf
  | scalars number values rest hypothesis =>
      rcases isOf with
        ⟨⟨name, cardinality, scalarType, known, some_values, counted, areOf⟩, later, restIsOf⟩
      refine ⟨⟨name, cardinality, scalarType, known, by simpa using some_values,
        by simpa using counted, ?_⟩, ?_, hypothesis restIsOf⟩
      · simpa using fun value member => isOf_canonicalScalar (areOf value member)
      · rw [numbers_canonical]
        exact later
  | nested number value rest inside hypothesis =>
      rcases isOf with ⟨name, cardinality, inner, known, valueIsOf, later, restIsOf⟩
      refine ⟨name, cardinality, inner, known, inside valueIsOf, ?_, hypothesis restIsOf⟩
      rw [numbers_canonical]
      exact later

theorem isKnown_canonical (known : message.isKnown) : message.canonical.isKnown := by
  induction message with
  | done unknown => exact known
  | scalars number values rest hypothesis => exact hypothesis known
  | nested number value rest inside hypothesis =>
      rw [Message.isKnown, Bool.and_eq_true] at known
      rw [Message.canonical, Message.isKnown, inside known.1, hypothesis known.2, Bool.true_and]

end Canonical

/-! ## Reading values -/

section Values

variable {type : ScalarType} {value : Scalar} {number : Int} {rest : List Token}

theorem readBytes_quoted {inside : List Char} {bytes : List UInt8} (stands : Stands inside bytes)
    (follows : ∀ token ∈ rest.head?, token.isQuoted = false) :
    readBytes (.quoted ('"' :: inside ++ ['"']) :: rest) = some (bytes, rest) := by
  have own : (Token.quoted ('"' :: inside ++ ['"'])).bytes? = some bytes := by
    simp [Token.bytes?, unescape_of_stands stands]
  cases rest with
  | nil => simp only [readBytes, own, Option.bind_eq_bind, Option.bind_some, Option.pure_def]
  | cons token rest =>
      have unquoted := follows token rfl
      simp only [readBytes, own, unquoted, Option.bind_eq_bind, Option.bind_some, Option.pure_def,
        Bool.false_eq_true, if_false]

theorem encodeUtf8_eq (content : String) :
    content.toList.flatMap String.utf8EncodeChar = encodeUtf8 content := by
  rw [← encodeUtf8_ofList, String.ofList_toList]

theorem length_toDigits_le (small : number.natAbs < 10 ^ 20) :
    (Nat.toDigits 10 number.natAbs).length ≤ maximalDigits := by
  have short := (Nat.length_toDigits_le_iff (by decide) (by decide : 0 < 20)).mpr small
  exact Nat.le_trans short (by decide)

/-- An integer of a type has at most twenty digits. -/
theorem natAbs_lt_of_isOf (isOf : (Scalar.integer number).IsOf type) :
    number.natAbs < 10 ^ 20 := by
  cases type with
  | int32 =>
      rcases fitsSignedWord_iff.mp isOf with ⟨lower, upper⟩
      unfold shortWordCount at *
      omega
  | int64 =>
      rcases fitsSignedWord_iff.mp isOf with ⟨lower, upper⟩
      unfold wordCount at *
      omega
  | uint32 =>
      have inside : 0 ≤ number ∧ number < shortWordCount := by
        simpa [Scalar.IsOf, ScalarType.holds] using isOf
      unfold shortWordCount at *
      omega
  | elementType =>
      rcases fitsSignedWord_iff.mp (fitsSignedWord_of_isElementType isOf) with ⟨lower, upper⟩
      unfold shortWordCount at *
      omega
  | _ => exact isOf.elim

/-- An integer is read from its text as a value of its type. -/
theorem integerOf?_integerText (holds : type.holds number) (small : number.natAbs < 10 ^ 20) :
    integerOf? type (.word (integerText number)) = some (.integer number) := by
  have read := Numeral.integer?_integerText (length_toDigits_le small)
  simp only [integerOf?, Token.numeral, Token.characters, read, Option.bind_eq_bind,
    Option.bind_some, holds, if_true, Option.pure_def]

theorem elementType?_name : ∀ entry ∈ elementTypes,
    elementType? (.word entry.1.toList) = some (.integer entry.2) := by
  decide

theorem float?_text_canonical (number : Binary64) :
    Numeral.float? (number.text .descriptor) =
      some (if Format.double.infinity < number.magnitude then NetImport.Numeral.notANumber false
        else number) := by
  split
  · rename_i noNumber
    rw [Numeral.text_of_not_number noNumber, Numeral.float?_nan]
  · rename_i isNumber
    rw [Numeral.float?_text (Nat.not_lt.mp isNumber)]

/-- What is read from the text of a number of single precision narrows to that number. -/
theorem narrow_canonical (number : Binary32) :
    (if Format.double.infinity < number.representative.magnitude then
        NetImport.Numeral.notANumber false
      else number.representative).narrow =
      if Format.single.infinity < number.magnitude then (NetImport.Numeral.notANumber false).narrow
      else number := by
  by_cases noNumber : Format.single.infinity < number.magnitude
  · rw [if_pos noNumber, if_pos (Binary32.lt_magnitude_representative noNumber)]
  · rcases Binary32.narrow_representative (Nat.not_lt.mp noNumber) with ⟨isNumber, narrows⟩
    rw [if_neg noNumber, if_neg (Nat.not_lt.mpr isNumber), narrows]

/-- A value is read from its token. -/
theorem readScalar_token (isOf : value.IsOf type) (unicode : type.isUnicode [value])
    (follows : ∀ token ∈ rest.head?, token.isQuoted = false) :
    readScalar type (value.token type :: rest) = some (value.canonical, rest) := by
  cases type with
  | int32 =>
      cases value with
      | integer number =>
          have read := integerOf?_integerText isOf (natAbs_lt_of_isOf isOf)
          exact congrArg (Option.map (·, rest)) read
      | _ => exact isOf.elim
  | int64 =>
      cases value with
      | integer number =>
          have read := integerOf?_integerText isOf (natAbs_lt_of_isOf isOf)
          exact congrArg (Option.map (·, rest)) read
      | _ => exact isOf.elim
  | uint32 =>
      cases value with
      | integer number =>
          have read := integerOf?_integerText isOf (natAbs_lt_of_isOf isOf)
          exact congrArg (Option.map (·, rest)) read
      | _ => exact isOf.elim
  | bool =>
      cases value with
      | flag value => cases value <;> rfl
      | _ => exact isOf.elim
  | float =>
      cases value with
      | single number =>
          simp only [readScalar, Scalar.token, scalarOfToken?, Token.numeral, Token.characters,
            Scalar.render, Binary32.text, float?_text_canonical, Option.map_some, Scalar.canonical,
            narrow_canonical]
      | _ => exact isOf.elim
  | double =>
      cases value with
      | double number =>
          simp only [readScalar, Scalar.token, scalarOfToken?, Token.numeral, Token.characters,
            Scalar.render, float?_text_canonical, Option.map_some, Scalar.canonical]
      | _ => exact isOf.elim
  | string =>
      cases value with
      | text content =>
          have read := readBytes_quoted (stands_escapeText content.toList) follows
          rw [encodeUtf8_eq] at read
          simp only [readScalar, Scalar.token, Scalar.render, quoteText, read, Option.bind_eq_bind,
            Option.bind_some, decodeUtf8?_encodeUtf8, Option.pure_def, Scalar.canonical]
      | bytes content => simp [ScalarType.isUnicode, Scalar.isText] at unicode
      | _ => exact isOf.elim
  | bytes =>
      cases value with
      | bytes content =>
          have read := readBytes_quoted (stands_escapeBytes content) follows
          have no_string : ScalarType.bytes ≠ .string := by decide
          simp only [readScalar, Scalar.token, Scalar.render, no_string, if_false, quoteBytes, read,
            Option.bind_eq_bind, Option.bind_some, Option.pure_def, Scalar.canonical]
      | _ => exact isOf.elim
  | elementType =>
      cases value with
      | integer number =>
          rcases elementTypeName?_eq isOf with ⟨name, listed, found⟩
          have read := elementType?_name _ listed
          simp only [readScalar, Scalar.token, Scalar.render, if_true, found, Option.map_some,
            Option.getD_some, scalarOfToken?, read, Scalar.canonical]
      | _ => exact isOf.elim

end Values

/-! ## Occurrences of fields -/

/-- The occurrences of the fields at the top of a message. -/
def Message.occurrences : Message → List (Nat × Value)
  | .done _ => []
  | .scalars number values rest =>
    values.map (fun value => (number, .scalar value)) ++ rest.occurrences
  | .nested number value rest => (number, .message value) :: rest.occurrences

section Occurrences

variable {type : MessageType} {message : Message} {number : Nat} {field : FieldSpec}

theorem mem_numbers_of_occurs {occurrence : Nat × Value}
    (occurs : occurrence ∈ message.occurrences) : occurrence.1 ∈ message.numbers := by
  induction message with
  | done unknown => cases occurs
  | scalars number values rest hypothesis =>
      rcases List.mem_append.mp occurs with here | later
      · rcases List.mem_map.mp here with ⟨value, _, rfl⟩
        exact List.mem_cons_self
      · exact List.mem_cons_of_mem _ (hypothesis later)
  | nested number value rest _ hypothesis =>
      rcases List.mem_cons.mp occurs with rfl | later
      · exact List.mem_cons_self
      · exact List.mem_cons_of_mem _ (hypothesis later)

/-- A field that is not repeated occurs at most once in a message of a type. -/
theorem countP_occurrences (isOf : message.IsOf type) (found : type.field? number = some field)
    (single : field.cardinality ≠ .repeated) :
    message.occurrences.countP (·.1 = number) ≤ 1 := by
  induction message with
  | done unknown => exact Nat.zero_le _
  | scalars other values rest hypothesis =>
      rcases isOf with ⟨⟨_, _, _, known, _, counted, _⟩, later, restIsOf⟩
      rw [Message.occurrences, List.countP_append, List.countP_map]
      by_cases same : other = number
      · subst same
        rcases Option.some.inj (found.symm.trans known) with rfl
        have none_later : rest.occurrences.countP (·.1 = other) = 0 := by
          rw [List.countP_eq_zero]
          intro occurrence occurs
          have less := later _ (mem_numbers_of_occurs occurs)
          simp only [decide_eq_true_eq]
          omega
        have length := List.countP_le_length (p := (fun occurrence : Nat × Value =>
          decide (occurrence.1 = other)) ∘ fun value => (other, Value.scalar value)) (l := values)
        have one := counted single
        omega
      · have none_here : values.countP ((fun occurrence : Nat × Value =>
            decide (occurrence.1 = number)) ∘ fun value => (other, Value.scalar value)) = 0 := by
          simp [List.countP_eq_zero, same]
        rw [none_here, Nat.zero_add]
        exact hypothesis restIsOf
  | nested other value rest _ hypothesis =>
      rcases isOf with ⟨_, _, _, known, _, later, restIsOf⟩
      rw [Message.occurrences, List.countP_cons]
      by_cases same : other = number
      · subst same
        rcases Option.some.inj (found.symm.trans known) with rfl
        have none_later : rest.occurrences.countP (·.1 = other) = 0 := by
          rw [List.countP_eq_zero]
          intro occurrence occurs
          have less := (later _ (mem_numbers_of_occurs occurs)).resolve_right
            fun again => single again.1
          simp only [decide_eq_true_eq]
          omega
        rw [none_later]
        split <;> omega
      · have further := hypothesis restIsOf
        simp only [same, decide_false, Bool.false_eq_true, if_false]
        exact further

theorem occursOnce_occurrences (isOf : message.IsOf type) :
    occursOnce type message.occurrences := by
  rw [occursOnce, List.all_eq_true]
  intro field member
  rw [Bool.or_eq_true, decide_eq_true_eq, decide_eq_true_eq]
  by_cases many : field.cardinality = .repeated
  · exact .inl many
  · exact .inr (countP_occurrences isOf (MessageType.field?_of_mem type field member) many)

def Value.scalar? : Value → Option Scalar
  | .scalar value => some value
  | .message _ => none

def Value.message? : Value → Option Message
  | .message value => some value
  | .scalar _ => none

theorem scalars_occurrences (isOf : message.IsOf type) (number : Nat) :
    ((message.occurrences.filter (·.1 = number)).map Prod.snd).filterMap Value.scalar? =
      message.scalarsAt number := by
  induction message with
  | done unknown => rfl
  | scalars other values rest hypothesis =>
      rcases isOf with ⟨_, later, restIsOf⟩
      have further := hypothesis restIsOf
      rw [Message.occurrences, List.filter_append, List.map_append, List.filterMap_append, further,
        Message.scalarsAt]
      by_cases same : other = number
      · subst same
        have absent : other ∉ rest.numbers := fun member => Nat.lt_irrefl _ (later other member)
        rw [Message.scalarsAt_eq_nil absent, if_pos rfl, List.append_nil]
        simp [List.filter_map, Function.comp_def, Value.scalar?, List.filterMap_map]
      · simp [List.filter_map, Function.comp_def, same]
  | nested other value rest _ hypothesis =>
      rcases isOf with ⟨_, _, _, _, _, _, restIsOf⟩
      have further := hypothesis restIsOf
      rw [Message.occurrences, List.filter_cons, Message.scalarsAt]
      split
      · rw [List.map_cons, List.filterMap_cons]
        exact further
      · exact further

theorem messages_occurrences (message : Message) (number : Nat) :
    ((message.occurrences.filter (·.1 = number)).map Prod.snd).filterMap Value.message? =
      message.messagesAt number := by
  induction message with
  | done unknown => rfl
  | scalars other values rest hypothesis =>
      rw [Message.occurrences, List.filter_append, List.map_append, List.filterMap_append,
        hypothesis, Message.messagesAt]
      simp [List.filter_map, Function.comp_def, Value.message?, List.filterMap_map]
  | nested other value rest _ hypothesis =>
      rw [Message.occurrences, List.filter_cons, Message.messagesAt]
      by_cases same : other = number
      · simp only [same, decide_true, if_true, List.map_cons, List.filterMap_cons, Value.message?,
          hypothesis]
      · simp only [same, decide_false, Bool.false_eq_true, if_false, hypothesis]

/-- The occurrences of a field are the values of that field. -/
theorem gather_occurrences (isOf : message.IsOf type) (field : FieldSpec) :
    FieldValues.gather message.occurrences field = message.valuesAt field := by
  rcases field with ⟨name, number, cardinality, fieldType⟩
  cases fieldType with
  | scalar scalarType => exact congrArg FieldValues.scalars (scalars_occurrences isOf number)
  | message inner => exact congrArg FieldValues.messages (messages_occurrences message number)

theorem unknown_eq_nil (known : message.isKnown) : message.unknown = [] := by
  induction message with
  | done unknown => simpa [Message.isKnown, Message.unknown] using known
  | scalars number values rest hypothesis => exact hypothesis known
  | nested number value rest _ hypothesis =>
      rw [Message.isKnown, Bool.and_eq_true] at known
      exact hypothesis known.2

/-- A message of a type is made up of its occurrences. -/
theorem ofOccurrences_occurrences (isOf : message.IsOf type) (known : message.isKnown) :
    Message.ofOccurrences type message.occurrences = message := by
  have restored := Message.restrict_eq_self isOf (MessageType.field?_of_mem type)
    (MessageType.pairwise_fields type) (comprise_numbers isOf)
  have same : type.fields.map (fun field =>
        (field.number, FieldValues.gather message.occurrences field)) =
      type.fields.map fun field => (field.number, message.valuesAt field) := by
    apply List.map_congr_left
    intro field member
    rw [gather_occurrences isOf field]
  rw [Message.restrict, unknown_eq_nil known] at restored
  rw [Message.ofOccurrences, same, restored]

end Occurrences

/-! ## Reading fields -/

section Fields

variable {type inner : MessageType} {message : Message} {name : String} {number fuel : Nat}
  {cardinality : Cardinality} {close : Option Char} {field : FieldSpec}
  {tokens ending behind rest : List Token} {occurrences others : List (Nat × Value)}

/-- Where the fields of a written message end: at a brace, or at the end of the text. -/
inductive Ends : Option Char → List Token → List Token → Prop where
  | brace (rest : List Token) : Ends (some '\x7d') (.symbol '\x7d' :: rest) rest
  | text : Ends none [] []

/-- What follows a field: a name, a closing brace, or nothing. -/
def Follows (tokens : List Token) : Prop :=
  ∀ token ∈ tokens.head?, (∃ name, token = .word name) ∨ token = .symbol '\x7d'

theorem follows_word (name : List Char) (tokens : List Token) : Follows (.word name :: tokens) := by
  rintro token ⟨⟩
  exact .inl ⟨name, rfl⟩

theorem Ends.follows (ends : Ends close ending rest) : Follows ending := by
  cases ends with
  | brace rest =>
      rintro token ⟨⟩
      exact .inr rfl
  | text => simp [Follows]

theorem Follows.isQuoted_eq (follows : Follows tokens) :
    ∀ token ∈ tokens.head?, token.isQuoted = false := by
  intro token next
  rcases follows token next with ⟨name, rfl⟩ | rfl
  · rfl
  · rfl

theorem Follows.skipSeparator_eq (follows : Follows tokens) : skipSeparator tokens = tokens := by
  cases tokens with
  | nil => rfl
  | cons token tokens =>
      rcases follows token rfl with ⟨name, rfl⟩ | rfl
      · rfl
      · rfl

theorem follows_tokens (isOf : message.IsOf type) (follows : Follows ending) :
    Follows (message.tokens type ++ ending) := by
  cases message with
  | done unknown => exact follows
  | scalars number values others =>
      rcases isOf with ⟨⟨name, cardinality, scalarType, known, some_values, _⟩, _⟩
      cases values with
      | nil => exact absurd rfl some_values
      | cons value values =>
          simp only [Message.tokens, known, List.flatMap_cons, Scalar.lineTokens, List.cons_append]
          exact follows_word _ _
  | nested number value others =>
      rcases isOf with ⟨name, cardinality, inner, known, _⟩
      simp only [Message.tokens, known, List.cons_append]
      exact follows_word _ _

theorem fieldNamed?_of_mem (type : MessageType) :
    ∀ field ∈ type.fields, type.fieldNamed? field.name = some field := by
  cases type <;> decide

/-- A message ends where its closing brace is, or where the text ends. -/
theorem readFields_end (ends : Ends close ending rest) :
    readFields (fuel + 1) type close ending = some ([], rest) := by
  cases ends with
  | brace rest => simp [readFields]
  | text => rfl

/-- One field is read in front of others. -/
theorem readFields_field {values : List Value} (member : field ∈ type.fields)
    (reads : readValues (fun inner close tokens => readFields fuel inner (some close) tokens) field
      tokens = some (values, behind))
    (follows : Follows behind)
    (further : readFields fuel type close behind = some (others, rest)) :
    readFields (fuel + 1) type close (.word field.name.toList :: tokens) =
      some (values.map (field.number, ·) ++ others, rest) := by
  have named : type.fieldNamed? (String.ofList (Token.word field.name.toList).characters) =
      some field := by
    rw [Token.characters, String.ofList_toList]
    exact fieldNamed?_of_mem type field member
  have open_still : ¬close.map Token.symbol = some (.word field.name.toList) := by
    cases close <;> simp
  simp only [readFields, open_still, if_false, named, Option.bind_eq_bind, Option.bind_some, reads,
    follows.skipSeparator_eq, further, Option.pure_def]

theorem token_eq (value : Scalar) (scalarType : ScalarType) :
    ∃ characters, value.token scalarType = .word characters ∨
      value.token scalarType = .quoted characters := by
  cases value with
  | text _ | bytes _ => exact ⟨_, .inr rfl⟩
  | integer _ | flag _ | single _ | double _ => exact ⟨_, .inl rfl⟩

theorem readValues_scalar {body : BodyReader} {scalarType : ScalarType} {value : Scalar}
    (isOf : value.IsOf scalarType) (unicode : scalarType.isUnicode [value])
    (follows : Follows tokens) :
    readValues body ⟨name, number, cardinality, .scalar scalarType⟩
      (.symbol ':' :: value.token scalarType :: tokens) =
        some ([.scalar value.canonical], tokens) := by
  have read := readScalar_token isOf unicode follows.isQuoted_eq
  rcases token_eq value scalarType with ⟨characters, same | same⟩
  · rw [same] at read ⊢
    cases cardinality <;> simp [readValues, skipColon, readValue, read]
  · rw [same] at read ⊢
    cases cardinality <;> simp [readValues, skipColon, readValue, read]

theorem readValues_message {body : BodyReader} (name : String) (number : Nat)
    (cardinality : Cardinality) (reads : body inner '\x7d' tokens = some (occurrences, behind))
    (once : occursOnce inner occurrences) :
    readValues body ⟨name, number, cardinality, .message inner⟩ (.symbol '\x7b' :: tokens) =
      some ([.message (.ofOccurrences inner occurrences)], behind) := by
  cases cardinality <;> simp [readValues, skipColon, readValue, reads, once]

theorem follows_lines (name : String) (scalarType : ScalarType) (values : List Scalar)
    (follows : Follows behind) :
    Follows (values.flatMap (Scalar.lineTokens name scalarType) ++ behind) := by
  cases values with
  | nil => exact follows
  | cons value values => exact follows_word _ _

/-- The values of a field of scalars are read one by one. -/
theorem readFields_lines {scalarType : ScalarType} {values : List Scalar}
    (member : ⟨name, number, cardinality, .scalar scalarType⟩ ∈ type.fields)
    (areOf : ∀ value ∈ values, value.IsOf scalarType) (unicode : scalarType.isUnicode values)
    (follows : Follows behind)
    (further : ∀ fuel, behind.length < fuel →
      readFields fuel type close behind = some (others, rest))
    (enough : (values.flatMap (Scalar.lineTokens name scalarType) ++ behind).length < fuel) :
    readFields fuel type close (values.flatMap (Scalar.lineTokens name scalarType) ++ behind) =
      some (values.map (fun value => (number, .scalar value.canonical)) ++ others, rest) := by
  induction values generalizing fuel with
  | nil => exact further fuel enough
  | cons value values hypothesis =>
      rcases List.forall_mem_cons.mp areOf with ⟨firstIsOf, laterAre⟩
      rcases isUnicode_cons unicode with ⟨firstUnicode, laterUnicode⟩
      obtain ⟨less, rfl⟩ : ∃ less, fuel = less + 1 := ⟨fuel - 1, by omega⟩
      simp only [List.flatMap_cons, Scalar.lineTokens, List.cons_append, List.nil_append,
        List.length_cons] at enough ⊢
      have enough_later : (values.flatMap (Scalar.lineTokens name scalarType) ++ behind).length <
          less := by
        omega
      have later := hypothesis laterAre laterUnicode enough_later
      have followed := follows_lines name scalarType values follows
      exact readFields_field member (readValues_scalar firstIsOf firstUnicode followed) followed
        later

/-- The tokens of a message are read as the occurrences of its fields. -/
theorem readFields_tokens (isOf : message.IsOf type) (unicode : message.isUnicode type)
    (known : message.isKnown) (ends : Ends close ending rest)
    (enough : (message.tokens type ++ ending).length < fuel) :
    readFields fuel type close (message.tokens type ++ ending) =
      some (message.canonical.occurrences, rest) := by
  -- The fuel exceeds the number of tokens that are left, those behind a submessage included.
  induction message generalizing type close ending rest fuel with
  | done unknown =>
      obtain ⟨less, rfl⟩ : ∃ less, fuel = less + 1 := ⟨fuel - 1, by omega⟩
      exact readFields_end ends
  | scalars number values others hypothesis =>
      rcases isOf with ⟨⟨name, cardinality, scalarType, found, _, _, areOf⟩, _, othersAre⟩
      have member := (MessageType.mem_of_field? found).1
      simp only [Message.isUnicode, found, Bool.and_eq_true] at unicode
      simp only [Message.tokens, found, List.append_assoc] at enough ⊢
      have later : ∀ fuel, (others.tokens type ++ ending).length < fuel →
          readFields fuel type close (others.tokens type ++ ending) =
            some (others.canonical.occurrences, rest) :=
        fun fuel enough => hypothesis othersAre unicode.1 known ends enough
      have followed := follows_tokens othersAre ends.follows
      rw [readFields_lines member areOf unicode.2 followed later enough]
      simp only [Message.canonical, Message.occurrences, List.map_map, Function.comp_def]
  | nested number value others inside hypothesis =>
      rcases isOf with ⟨name, cardinality, inner, found, valueIsOf, _, othersAre⟩
      have member := (MessageType.mem_of_field? found).1
      simp only [Message.isUnicode, found, Bool.and_eq_true] at unicode
      simp only [Message.isKnown, Bool.and_eq_true] at known
      simp only [Message.tokens, found, List.append_assoc, List.cons_append, List.nil_append,
        List.length_cons, List.length_append] at enough ⊢
      obtain ⟨less, rfl⟩ : ∃ less, fuel = less + 1 := ⟨fuel - 1, by omega⟩
      have enough_inside : (value.tokens inner ++
          .symbol '\x7d' :: (others.tokens type ++ ending)).length < less := by
        simp only [List.length_append, List.length_cons]
        omega
      have enough_later : (others.tokens type ++ ending).length < less := by
        simp only [List.length_append]
        omega
      have own := inside valueIsOf unicode.2 known.1 (.brace _) enough_inside
      have later := hypothesis othersAre unicode.1 known.2 ends enough_later
      have canonicalIsOf := isOf_canonical valueIsOf
      let body : BodyReader := fun inner close tokens => readFields less inner (some close) tokens
      have ownReads : body inner '\x7d' (value.tokens inner ++
          .symbol '\x7d' :: (others.tokens type ++ ending)) =
            some (value.canonical.occurrences, others.tokens type ++ ending) := own
      have reads := readValues_message name number cardinality ownReads
        (occursOnce_occurrences canonicalIsOf)
      rw [ofOccurrences_occurrences canonicalIsOf (isKnown_canonical known.1)] at reads
      exact readFields_field member reads (follows_tokens othersAre ends.follows) later

end Fields

/-! ## Reading what was written -/

/-- A message of a type is what its text is read as, up to what is not a number. -/
theorem ofText?_toText {type : MessageType} {message : Message} (isOf : message.IsOf type)
    (unicode : message.isUnicode type) (known : message.isKnown) :
    Message.ofText? type (message.toText type) = some message.canonical := by
  have tokens : Token.ofChars (message.toText type).toList = message.tokens type := by
    have written := ofChars_renderMessage 0 [] isOf unicode
    rw [List.append_nil, Token.ofChars, List.append_nil] at written
    rw [Message.toText, String.toList_ofList, written]
  have enough : (message.tokens type ++ []).length < (message.tokens type).length + 1 := by
    rw [List.append_nil]
    exact Nat.lt_succ_self _
  have read := readFields_tokens isOf unicode known .text enough
  rw [List.append_nil] at read
  have canonicalIsOf := isOf_canonical isOf
  simp only [Message.ofText?, tokens, read, Option.bind_eq_bind, Option.bind_some,
    occursOnce_occurrences canonicalIsOf, if_true,
    ofOccurrences_occurrences canonicalIsOf (isKnown_canonical known), Option.pure_def]

end NetImport.Descriptor
