import NetImport.Proofs.Descriptor.Message
import NetImport.Proofs.Descriptor.Text.Escape
import NetImport.Proofs.Descriptor.Text.Numeral

/-!
# The tokens of a written message

The text of a message is taken apart into the tokens that were written: for a scalar the name of its
field, a colon and one token for the value, for a submessage the name of its field and its own
tokens between braces. Nothing else is in the text but blanks.
-/

namespace NetImport.Descriptor

open NetImport.Text

namespace Token

variable {characters inside rest : List Char} {character : Char}

/-! ## Single tokens -/

/-- Whether some characters are a word, or a number that does not begin with a point or a plus. -/
def isWord : List Char → Bool
  | [] => false
  | first :: others =>
    (isWordStart first && others.all isWordPart) ||
      ((first.isDigit || first = '-') && others.all isNumberPart)

theorem isNumberPart_of_isWordPart (part : isWordPart character) : isNumberPart character := by
  rw [isNumberPart, part, Bool.true_or]

theorem isNumberPart_of_isWordStart (start : isWordStart character) : isNumberPart character := by
  apply isNumberPart_of_isWordPart
  rcases Bool.or_eq_true_iff.mp start with letter | underscore
  · simp [isWordPart, Char.isAlphanum, letter]
  · simp [isWordPart, of_decide_eq_true underscore]

theorem isNumberPart_of_isDigit (digit : character.isDigit) : isNumberPart character := by
  simp [isNumberPart, isWordPart, Char.isAlphanum, digit]

theorem not_isBlank_of_isNumberPart (part : isNumberPart character) :
    isBlank character = false := by
  have no_blank : ∀ number ∈ blanks, isNumberPart (Char.ofNat number) = false := by decide
  by_contra blank
  have listed : character.toNat ∈ blanks := by simpa [isBlank] using blank
  have none := no_blank _ listed
  rw [Char.ofNat_toNat, part] at none
  cases none

theorem not_isWordStart_of_isDigit (digit : character.isDigit) : isWordStart character = false := by
  have small : ∀ number < 58, (Char.ofNat number).isDigit →
      isWordStart (Char.ofNat number) = false := by
    decide
  have le_nine := (Char.isDigit_iff_toNat.mp digit).2
  have none := small character.toNat (Nat.lt_succ_of_le le_nine)
  rw [Char.ofNat_toNat] at none
  exact none digit

theorem ofChars_blank (blank : isBlank character) : ofChars (character :: rest) = ofChars rest := by
  rw [ofChars, if_pos blank]

/-- A word or number is one token when something else follows. -/
theorem ofChars_word (word : isWord characters)
    (stops : ∀ character ∈ rest.head?, isNumberPart character = false) :
    ofChars (characters ++ rest) = .word characters :: ofChars rest := by
  cases characters with
  | nil => cases word
  | cons first others =>
      rcases Bool.or_eq_true_iff.mp word with name | number
      · rcases Bool.and_eq_true_iff.mp name with ⟨start, parts⟩
        have part := isNumberPart_of_isWordStart start
        have no_comment : first ≠ '#' := by
          rintro rfl
          cases part
        have stops_word : ∀ character ∈ rest.head?, isWordPart character = false := by
          intro character next
          have no_number := stops character next
          rw [isNumberPart, Bool.or_eq_false_iff] at no_number
          exact no_number.1
        rcases takeWhile_append (List.all_eq_true.mp parts) rest stops_word with ⟨taken, left⟩
        rw [List.cons_append, ofChars, if_neg (by simp [not_isBlank_of_isNumberPart part]),
          if_neg no_comment, if_pos start, taken, left]
      · rcases Bool.and_eq_true_iff.mp number with ⟨start, parts⟩
        rcases takeWhile_append (List.all_eq_true.mp parts) rest stops with ⟨taken, left⟩
        have part_no_name : isNumberPart first ∧ isWordStart first = false := by
          rcases Bool.or_eq_true_iff.mp start with digit | minus
          · exact ⟨isNumberPart_of_isDigit digit, not_isWordStart_of_isDigit digit⟩
          · rw [of_decide_eq_true minus]
            decide
        rcases part_no_name with ⟨part, no_name⟩
        have number_start : isNumberStart first (others ++ rest) := by
          rcases Bool.or_eq_true_iff.mp start with digit | minus
          · simp [isNumberStart, digit]
          · simp [isNumberStart, of_decide_eq_true minus]
        have no_comment : first ≠ '#' := by
          rintro rfl
          cases part
        rw [List.cons_append, ofChars, if_neg (by simp [not_isBlank_of_isNumberPart part]),
          if_neg no_comment, if_neg (by simp [no_name]), if_pos number_start, taken, left]

/-- A quoted text is one token. -/
theorem ofChars_quoted (paired : Paired inside) (rest : List Char) :
    ofChars ('"' :: inside ++ '"' :: rest) = .quoted ('"' :: inside ++ ['"']) :: ofChars rest := by
  rw [List.cons_append, ofChars, if_neg (by decide), if_neg (by decide), if_neg (by decide),
    if_neg (by simp [isNumberStart]), if_pos (.inl rfl), splitQuoted_of_paired paired]
  rfl

/-- A colon or a brace is a token by itself. -/
theorem ofChars_symbol (symbol : character ∈ [':', '\x7b', '\x7d']) (rest : List Char) :
    ofChars (character :: rest) = .symbol character :: ofChars rest := by
  have facts : ∀ symbol ∈ [':', '\x7b', '\x7d'], isBlank symbol = false ∧ symbol ≠ '#' ∧
      isWordStart symbol = false ∧ symbol.isDigit = false ∧
      symbol ∉ ['+', '-', '.', '"', '\''] := List.all_iff_forall_prop.mp rfl
  rcases facts character symbol with ⟨no_blank, no_comment, no_name, no_digit, others⟩
  simp only [List.mem_cons, List.not_mem_nil, or_false, not_or] at others
  rw [ofChars, if_neg (by simp [no_blank]), if_neg no_comment, if_neg (by simp [no_name]),
    if_neg (by simp [isNumberStart, no_digit, others]), if_neg (by simp [others])]

end Token

/-! ## The tokens of values -/

section Values

variable {type : ScalarType} {value : Scalar} {number : Int} {rest : List Char}

def Scalar.isText : Scalar → Bool
  | .text _ => true
  | _ => false

/-- Whether the texts among values of a scalar type are valid, which only strings must be. -/
def ScalarType.isUnicode (type : ScalarType) (values : List Scalar) : Bool :=
  type ≠ .string || values.all Scalar.isText

/-- The token of a value of a scalar type. -/
def Scalar.token (type : ScalarType) (value : Scalar) : Token :=
  match value with
  | .text _ | .bytes _ => .quoted (value.render type)
  | _ => .word (value.render type)

theorem isWord_integerText (number : Int) : Token.isWord (integerText number) := by
  have all_digits : ∀ digit ∈ Nat.toDigits 10 number.natAbs, digit.isDigit :=
    isDigit_of_mem_toDigits
  unfold integerText
  generalize start : Nat.toDigits 10 number.natAbs = digits at *
  have parts : digits.all Token.isNumberPart :=
    List.all_eq_true.mpr fun digit member => Token.isNumberPart_of_isDigit (all_digits digit member)
  split
  · simp [Token.isWord, parts]
  · cases digits with
    | nil => exact absurd start Nat.toDigits_ne_nil
    | cons first others =>
        rcases List.forall_mem_cons.mp all_digits with ⟨first_digit, _⟩
        rw [List.all_cons, Bool.and_eq_true_iff] at parts
        simp [Token.isWord, first_digit, parts.2]

theorem isWord_of_spells {number : Binary64} {characters : List Char}
    (spells : number.Spells characters) : Token.isWord characters := by
  cases spells with
  | infinity negative _ =>
      cases negative with
      | false => decide
      | true => decide
  | finite unsigned _ =>
      rcases unsigned with ⟨⟨first, others, rfl, first_digit, _⟩, each⟩
      have parts : (first :: others).all Token.isNumberPart := by
        rw [List.all_eq_true]
        intro character member
        rcases each character member with digit | listed
        · exact Token.isNumberPart_of_isDigit digit
        · have all_parts : ∀ symbol ∈ ['.', 'e', '+', '-'], Token.isNumberPart symbol :=
            List.all_iff_forall_prop.mp rfl
          exact all_parts character listed
      cases number.isNegative with
      | false =>
          rw [List.all_cons, Bool.and_eq_true_iff] at parts
          simp [Token.isWord, first_digit, parts.2]
      | true =>
          have minus : Token.isWordStart '-' = false := by decide
          simpa [Token.isWord, minus] using parts

theorem isWord_text (number : Binary64) : Token.isWord (number.text .descriptor) := by
  by_cases isNumber : number.magnitude ≤ Format.double.infinity
  · exact isWord_of_spells (Binary64.spells_text isNumber)
  · rw [Numeral.text_of_not_number (Nat.not_le.mp isNumber)]
    decide

theorem elementTypeName?_eq (listed : isElementType number) :
    ∃ name, (name, number) ∈ elementTypes ∧ elementTypeName? number = some name := by
  unfold elementTypeName?
  cases found : elementTypes.find? (·.2 = number) with
  | none =>
      have absent := List.find?_eq_none.mp found
      rcases List.any_eq_true.mp listed with ⟨entry, member, same⟩
      exact absurd same (absent entry member)
  | some entry =>
      rcases entry with ⟨name, other⟩
      have same : other = number := by simpa using List.find?_some found
      subst same
      exact ⟨name, List.mem_of_find?_eq_some found, rfl⟩

theorem isWord_render_integer (isOf : (Scalar.integer number).IsOf type) :
    Token.isWord ((Scalar.integer number).render type) := by
  rw [Scalar.render]
  split
  · rename_i same
    subst same
    have names : ∀ entry ∈ elementTypes, Token.isWord entry.1.toList := by decide
    rcases elementTypeName?_eq isOf with ⟨name, listed, found⟩
    rw [found]
    exact names _ listed
  · exact isWord_integerText number

theorem ofChars_word_line {characters : List Char} (word : Token.isWord characters) :
    Token.ofChars (characters ++ '\n' :: rest) = .word characters :: Token.ofChars rest := by
  have stops : ∀ character ∈ ('\n' :: rest).head?, Token.isNumberPart character = false := by
    rintro character ⟨⟩
    decide
  rw [Token.ofChars_word word stops, Token.ofChars_blank (by decide)]

theorem ofChars_quoted_line {inside : List Char} {bytes : List UInt8}
    (stands : Stands inside bytes) :
    Token.ofChars ('"' :: inside ++ ['"'] ++ '\n' :: rest) =
      .quoted ('"' :: inside ++ ['"']) :: Token.ofChars rest := by
  have quoted := Token.ofChars_quoted (paired_of_stands stands) ('\n' :: rest)
  rw [Token.ofChars_blank (by decide)] at quoted
  rw [List.append_assoc, List.singleton_append]
  exact quoted

/-- A value in front of the end of a line is one token. -/
theorem ofChars_render (isOf : value.IsOf type) (unicode : type.isUnicode [value]) :
    Token.ofChars (value.render type ++ '\n' :: rest) = value.token type :: Token.ofChars rest := by
  cases value with
  | integer number => exact ofChars_word_line (isWord_render_integer isOf)
  | flag value =>
      have words : Token.isWord "true".toList ∧ Token.isWord "false".toList := by decide
      cases value with
      | false => exact ofChars_word_line words.2
      | true => exact ofChars_word_line words.1
  | single number => exact ofChars_word_line (isWord_text number.representative)
  | double number => exact ofChars_word_line (isWord_text number)
  | text content => exact ofChars_quoted_line (stands_escapeText content.toList)
  | bytes content =>
      have no_string : type ≠ .string := by
        rintro rfl
        simp [ScalarType.isUnicode, Scalar.isText] at unicode
      rw [Scalar.token, Scalar.render, if_neg no_string]
      exact ofChars_quoted_line (stands_escapeBytes content)

end Values

/-! ## The tokens of messages -/

section Messages

variable {type : MessageType} {message : Message} {name : String} {depth : Nat} {rest : List Char}

/-- Whether the strings of a message of a type, at any depth, are valid text. -/
def Message.isUnicode (type : MessageType) : Message → Bool
  | .done _ => true
  | .scalars number values rest =>
    rest.isUnicode type &&
      match type.field? number with
      | some ⟨_, _, _, .scalar scalarType⟩ => scalarType.isUnicode values
      | _ => true
  | .nested number value rest =>
    rest.isUnicode type &&
      match type.field? number with
      | some ⟨_, _, _, .message inner⟩ => value.isUnicode inner
      | _ => true

/-- The tokens of a value with the name of its field. -/
def Scalar.lineTokens (name : String) (type : ScalarType) (value : Scalar) : List Token :=
  [.word name.toList, .symbol ':', value.token type]

/-- The tokens of a message of a type. -/
def Message.tokens (type : MessageType) : Message → List Token
  | .done _ => []
  | .scalars number values rest =>
    let lines :=
      match type.field? number with
      | some ⟨name, _, _, .scalar scalarType⟩ => values.flatMap (Scalar.lineTokens name scalarType)
      | _ => []
    lines ++ rest.tokens type
  | .nested number value rest =>
    let lines :=
      match type.field? number with
      | some ⟨name, _, _, .message inner⟩ =>
        [.word name.toList, .symbol '\x7b'] ++ value.tokens inner ++ [.symbol '\x7d']
      | _ => []
    lines ++ rest.tokens type

theorem isWord_fieldName (type : MessageType) :
    ∀ field ∈ type.fields, Token.isWord field.name.toList := by
  cases type <;> decide

theorem ofChars_indentation (depth : Nat) (rest : List Char) :
    Token.ofChars (indentation depth ++ rest) = Token.ofChars rest := by
  unfold indentation
  induction 2 * depth with
  | zero => rfl
  | succ count hypothesis =>
      rw [List.replicate_succ, List.cons_append, Token.ofChars_blank (by decide), hypothesis]

/-- The line of a value is taken apart into its tokens. -/
theorem ofChars_renderLine {scalarType : ScalarType} {value : Scalar}
    (word : Token.isWord name.toList) (isOf : value.IsOf scalarType)
    (unicode : scalarType.isUnicode [value]) :
    Token.ofChars (value.renderLine depth name scalarType ++ rest) =
      value.lineTokens name scalarType ++ Token.ofChars rest := by
  have stops : ∀ character ∈ (':' :: ' ' :: (value.render scalarType ++ '\n' :: rest)).head?,
      Token.isNumberPart character = false := by
    rintro character ⟨⟩
    decide
  have layout : value.renderLine depth name scalarType ++ rest = indentation depth ++
      (name.toList ++ ':' :: ' ' :: (value.render scalarType ++ '\n' :: rest)) := by
    simp [Scalar.renderLine]
  rw [layout, ofChars_indentation, Token.ofChars_word word stops, Token.ofChars_symbol (by decide),
    Token.ofChars_blank (by decide), ofChars_render isOf unicode]
  rfl

theorem isUnicode_cons {scalarType : ScalarType} {value : Scalar} {values : List Scalar}
    (unicode : scalarType.isUnicode (value :: values)) :
    scalarType.isUnicode [value] ∧ scalarType.isUnicode values := by
  by_cases string : scalarType = .string
  · simpa [ScalarType.isUnicode, string] using unicode
  · simp [ScalarType.isUnicode, string]

theorem ofChars_lines {scalarType : ScalarType} {values : List Scalar}
    (word : Token.isWord name.toList) (areOf : ∀ value ∈ values, value.IsOf scalarType)
    (unicode : scalarType.isUnicode values) :
    Token.ofChars (values.flatMap (Scalar.renderLine depth name scalarType) ++ rest) =
      values.flatMap (Scalar.lineTokens name scalarType) ++ Token.ofChars rest := by
  induction values with
  | nil => rfl
  | cons value values hypothesis =>
      rcases List.forall_mem_cons.mp areOf with ⟨firstIsOf, laterAre⟩
      rcases isUnicode_cons unicode with ⟨firstUnicode, laterUnicode⟩
      rw [List.flatMap_cons, List.append_assoc, ofChars_renderLine word firstIsOf firstUnicode,
        hypothesis laterAre laterUnicode, List.flatMap_cons, List.append_assoc]

/-- The text of a message is taken apart into its tokens. -/
theorem ofChars_renderMessage (depth : Nat) (rest : List Char) (isOf : message.IsOf type)
    (unicode : message.isUnicode type) :
    Token.ofChars (message.render depth type ++ rest) =
      message.tokens type ++ Token.ofChars rest := by
  induction message generalizing type depth rest with
  | done unknown => rfl
  | scalars number values others hypothesis =>
      rcases isOf with ⟨⟨name, cardinality, scalarType, known, _, _, areOf⟩, _, othersAre⟩
      have word := isWord_fieldName type _ (MessageType.mem_of_field? known).1
      simp only [Message.isUnicode, known, Bool.and_eq_true] at unicode
      simp only [Message.render, Message.tokens, known]
      rw [List.append_assoc, ofChars_lines word areOf unicode.2, hypothesis _ _ othersAre unicode.1,
        List.append_assoc]
  | nested number value others inside hypothesis =>
      rcases isOf with ⟨name, cardinality, inner, known, valueIsOf, _, othersAre⟩
      have word := isWord_fieldName type _ (MessageType.mem_of_field? known).1
      simp only [Message.isUnicode, known, Bool.and_eq_true] at unicode
      simp only [Message.render, Message.tokens, known]
      have layout : indentation depth ++ name.toList ++ [' ', '\x7b', '\n'] ++
            value.render (depth + 1) inner ++ (indentation depth ++ ['\x7d', '\n']) ++
              others.render depth type ++ rest =
          indentation depth ++ (name.toList ++ ' ' :: '\x7b' :: '\n' ::
            (value.render (depth + 1) inner ++ (indentation depth ++
              '\x7d' :: '\n' :: (others.render depth type ++ rest)))) := by
        simp
      have stops : ∀ character ∈ (' ' :: '\x7b' :: '\n' ::
          (value.render (depth + 1) inner ++ (indentation depth ++
            '\x7d' :: '\n' :: (others.render depth type ++ rest)))).head?,
          Token.isNumberPart character = false := by
        rintro character ⟨⟩
        decide
      rw [layout, ofChars_indentation, Token.ofChars_word word stops,
        Token.ofChars_blank (by decide), Token.ofChars_symbol (by decide),
        Token.ofChars_blank (by decide), inside _ _ valueIsOf unicode.2, ofChars_indentation,
        Token.ofChars_symbol (by decide), Token.ofChars_blank (by decide),
        hypothesis _ _ othersAre unicode.1]
      simp

end Messages

end NetImport.Descriptor
