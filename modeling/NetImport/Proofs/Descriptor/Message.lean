import NetImport.Proofs.Descriptor.Wire

/-!
# Messages in the binary format

A message of a type lists fields of that type, as many values of a field as it may have, and values
of its scalar type; its unknown bytes are fields that the type does not know. Such a message is what
its own bytes are read as, and whatever is read from bytes is such a message.
-/

namespace NetImport.Descriptor

open Wire (Consist FieldOf PayloadOf RawField)

/-! ## Scalars -/

/-- A scalar is one of a type. A string whose bytes are not valid text is kept as bytes. -/
def Scalar.IsOf (type : ScalarType) (scalar : Scalar) : Prop :=
  match type, scalar with
  | .int32, .integer value | .int64, .integer value | .uint32, .integer value
  | .elementType, .integer value => type.holds value
  | .bool, .flag _ | .float, .single _ | .double, .double _ | .string, .text _
  | .bytes, .bytes _ => True
  | .string, .bytes content => Text.decodeUtf8? content = none
  | _, _ => False

/-- What the bytes of a scalar say, beside the number of its field. -/
def Scalar.payload : Scalar → Wire.Payload
  | .integer value => .varint (wordOfInt value)
  | .flag value => .varint value.toNat
  | .single value => .fixed32 value.bits.toNat
  | .double value => .fixed64 value.bits.toNat
  | .text value => .block (Text.encodeUtf8 value)
  | .bytes value => .block value

variable {type : ScalarType} {scalar : Scalar} {payload : Wire.Payload} {number : Nat}

theorem wordOfInt_lt (value : Int) : wordOfInt value < wordCount := by
  unfold wordOfInt wordCount
  omega

theorem fitsSignedWord_iff {count : Nat} {value : Int} :
    fitsSignedWord count value ↔ -(count : Int) ≤ 2 * value ∧ 2 * value < count := by
  simp [fitsSignedWord]

/-- The word of an integer denotes it, also among fewer words as long as it fits these. -/
theorem signedOfWord_wordOfInt {count : Nat} {value : Int} (divides : count ∣ wordCount)
    (fits : fitsSignedWord count value) : signedOfWord count (wordOfInt value) = value := by
  have ⟨lower, upper⟩ := fitsSignedWord_iff.mp fits
  have word : (wordOfInt value : Int) = value % wordCount := by
    unfold wordOfInt wordCount
    omega
  have low : ((wordOfInt value % count : Nat) : Int) = value % count := by
    rw [Int.natCast_emod, word, Int.emod_emod_of_dvd _ (Int.natCast_dvd_natCast.mpr divides)]
  unfold signedOfWord
  by_cases negative : value < 0
  · have remainder : value % count = value + count := by
      rw [← Int.add_emod_right, Int.emod_eq_of_lt (by omega) (by omega)]
    simp only
    rw [if_neg (by omega)]
    omega
  · have remainder : value % count = value := Int.emod_eq_of_lt (by omega) (by omega)
    simp only
    rw [if_pos (by omega)]
    omega

theorem fits_signedOfWord {count : Nat} (positive : 0 < count) (word : Nat) :
    fitsSignedWord count (signedOfWord count word) := by
  have below := Nat.mod_lt word positive
  rw [fitsSignedWord_iff]
  unfold signedOfWord
  simp only
  split
  · omega
  · omega

theorem fitsSignedWord_of_isElementType {value : Int} (listed : isElementType value) :
    fitsSignedWord shortWordCount value := by
  rcases List.any_eq_true.mp listed with ⟨⟨name, number⟩, member, same⟩
  rcases of_decide_eq_true same with rfl
  have all : ∀ entry ∈ elementTypes, fitsSignedWord shortWordCount entry.2 := by decide
  exact all _ member

/-- The payload of a scalar denotes that scalar. -/
theorem ofPayload?_payload (isOf : scalar.IsOf type) :
    type.ofPayload? scalar.payload = some scalar := by
  cases type with
  | int32 =>
      cases scalar with
      | integer value =>
          simp [Scalar.payload, ScalarType.ofPayload?, signedOfWord_wordOfInt (by decide) isOf]
      | _ => exact isOf.elim
  | int64 =>
      cases scalar with
      | integer value =>
          simp [Scalar.payload, ScalarType.ofPayload?,
            signedOfWord_wordOfInt (Nat.dvd_refl wordCount) isOf]
      | _ => exact isOf.elim
  | uint32 =>
      cases scalar with
      | integer value =>
          have ⟨lower, upper⟩ : 0 ≤ value ∧ value < shortWordCount := by
            simpa [Scalar.IsOf, ScalarType.holds] using isOf
          have same : ((wordOfInt value % shortWordCount : Nat) : Int) = value := by
            unfold wordOfInt wordCount
            unfold shortWordCount at upper ⊢
            omega
          simp only [Scalar.payload, ScalarType.ofPayload?, same]
      | _ => exact isOf.elim
  | bool =>
      cases scalar with
      | flag value => cases value <;> rfl
      | _ => exact isOf.elim
  | float =>
      cases scalar with
      | single value => simp [Scalar.payload, ScalarType.ofPayload?]
      | _ => exact isOf.elim
  | double =>
      cases scalar with
      | double value => simp [Scalar.payload, ScalarType.ofPayload?]
      | _ => exact isOf.elim
  | string =>
      cases scalar with
      | text value => simp [Scalar.payload, ScalarType.ofPayload?, Scalar.ofTextBytes]
      | bytes value =>
          have invalid : Text.decodeUtf8? value = none := isOf
          simp [Scalar.payload, ScalarType.ofPayload?, Scalar.ofTextBytes, invalid]
      | _ => exact isOf.elim
  | bytes =>
      cases scalar with
      | bytes value => rfl
      | _ => exact isOf.elim
  | elementType =>
      cases scalar with
      | integer value =>
          have listed : isElementType value := isOf
          have same := signedOfWord_wordOfInt (by decide) (fitsSignedWord_of_isElementType listed)
          simp [Scalar.payload, ScalarType.ofPayload?, same, listed]
      | _ => exact isOf.elim

/-- What a payload denotes for a type is a scalar of that type. -/
theorem isOf_of_ofPayload? (denotes : type.ofPayload? payload = some scalar) :
    scalar.IsOf type := by
  unfold ScalarType.ofPayload? at denotes
  split at denotes
  · rcases denotes with ⟨⟩
    exact fits_signedOfWord (by decide) _
  · rcases denotes with ⟨⟩
    exact fits_signedOfWord (by decide) _
  · rcases denotes with ⟨⟩
    rename_i word
    have small : word % shortWordCount < shortWordCount := Nat.mod_lt _ (by decide)
    simp [Scalar.IsOf, ScalarType.holds]
    omega
  · rcases denotes with ⟨⟩
    trivial
  · simp only at denotes
    split at denotes
    · rename_i listed
      rcases denotes with ⟨⟩
      exact listed
    · cases denotes
  · rcases denotes with ⟨⟩
    trivial
  · rcases denotes with ⟨⟩
    trivial
  · rename_i content
    rcases denotes with ⟨⟩
    unfold Scalar.ofTextBytes
    cases decoded : Text.decodeUtf8? content with
    | none => exact decoded
    | some text => trivial
  · rcases denotes with ⟨⟩
    trivial
  · cases denotes

/-- The bytes of a scalar are a field of its payload. -/
theorem fieldOf_encode (positive : 0 < number) (small : number < 16)
    (short : (scalar.encode number).length < Wire.blockLimit) :
    FieldOf number scalar.payload (scalar.encode number) := by
  have fits : ∀ form < 8, 8 * number + form < shortWordCount := by
    intro form form_lt
    unfold shortWordCount
    omega
  cases scalar with
  | integer value =>
      exact Wire.fieldOf_tag positive (by decide) (fits 0 (by decide))
        (Wire.payloadOf_varint (wordOfInt_lt value))
  | flag value =>
      have bit : value.toNat < wordCount := Nat.lt_of_le_of_lt (Bool.toNat_le value) (by decide)
      exact Wire.fieldOf_tag positive (by decide) (fits 0 (by decide)) (Wire.payloadOf_varint bit)
  | single value =>
      exact Wire.fieldOf_tag positive (by decide) (fits 5 (by decide))
        (Wire.payloadOf_fixed32 value.bits.toNat_lt)
  | double value =>
      exact Wire.fieldOf_tag positive (by decide) (fits 1 (by decide))
        (Wire.payloadOf_fixed64 value.bits.toNat_lt)
  | text value =>
      simp only [Scalar.encode, Wire.block, List.length_append] at short
      exact Wire.fieldOf_tag positive (by decide) (fits 2 (by decide))
        (Wire.payloadOf_block (by omega))
  | bytes value =>
      simp only [Scalar.encode, Wire.block, List.length_append] at short
      exact Wire.fieldOf_tag positive (by decide) (fits 2 (by decide))
        (Wire.payloadOf_block (by omega))

/-! ## Fields of message types -/

namespace MessageType

variable {type : MessageType} {spec : FieldSpec}

theorem pairwise_fields (type : MessageType) :
    type.fields.Pairwise fun spec later => spec.number < later.number := by
  cases type <;> decide

theorem number_of_mem_fields (type : MessageType) :
    ∀ spec ∈ type.fields, 0 < spec.number ∧ spec.number < 16 := by
  cases type <;> decide

theorem field?_of_mem (type : MessageType) :
    ∀ spec ∈ type.fields, type.field? spec.number = some spec := by
  cases type <;> decide

theorem mem_of_field? (found : type.field? number = some spec) :
    spec ∈ type.fields ∧ spec.number = number :=
  ⟨List.mem_of_find?_eq_some found, by simpa using List.find?_some found⟩

end MessageType

/-! ## Messages of a type -/

/-- The numbers of the fields at the top of a message, in the order in which they are listed. -/
def Message.numbers : Message → List Nat
  | .done _ => []
  | .scalars number _ rest => number :: rest.numbers
  | .nested number _ rest => number :: rest.numbers

/--
A message of a type: its fields are among those of the type and ascend, each has as many values as
it may have, all of the type of the field, and its unknown bytes are fields that the type does not
know.
-/
def Message.IsOf (type : MessageType) : Message → Prop
  | .done unknown => ∃ fields, Wire.splitFields unknown = some fields ∧
      ∀ field ∈ fields, field.read type = some (.unknown field.source)
  | .scalars number values rest =>
    (∃ name cardinality scalarType,
      type.field? number = some ⟨name, number, cardinality, .scalar scalarType⟩ ∧ values ≠ [] ∧
        (cardinality ≠ .repeated → values.length = 1) ∧
        ∀ value ∈ values, value.IsOf scalarType) ∧
      (∀ other ∈ rest.numbers, number < other) ∧ rest.IsOf type
  | .nested number value rest =>
    ∃ name cardinality inner,
      type.field? number = some ⟨name, number, cardinality, .message inner⟩ ∧
        value.IsOf inner ∧
        (∀ other ∈ rest.numbers,
          number < other ∨ (cardinality = .repeated ∧ number = other)) ∧ rest.IsOf type

namespace Message

variable {type inner : MessageType} {message value : Message} {name : String}
  {cardinality : Cardinality}

theorem scalarsAt_eq_nil (absent : number ∉ message.numbers) : message.scalarsAt number = [] := by
  induction message with
  | done unknown => rfl
  | scalars other values rest hypothesis =>
      simp only [numbers, List.mem_cons, not_or] at absent
      rw [scalarsAt, if_neg (Ne.symm absent.1), hypothesis absent.2]
  | nested other value rest _ hypothesis =>
      simp only [numbers, List.mem_cons, not_or] at absent
      exact hypothesis absent.2

theorem messagesAt_eq_nil (absent : number ∉ message.numbers) :
    message.messagesAt number = [] := by
  induction message with
  | done unknown => rfl
  | scalars other values rest hypothesis =>
      simp only [numbers, List.mem_cons, not_or] at absent
      exact hypothesis absent.2
  | nested other value rest _ hypothesis =>
      simp only [numbers, List.mem_cons, not_or] at absent
      rw [messagesAt, if_neg (Ne.symm absent.1), hypothesis absent.2]

/-- The submessages of a field of a message are messages of the type of the field. -/
theorem IsOf.messagesAt (isOf : message.IsOf type)
    (known : type.field? number = some ⟨name, number, cardinality, .message inner⟩) :
    ∀ value ∈ message.messagesAt number, value.IsOf inner := by
  induction message with
  | done unknown => simp [Message.messagesAt]
  | scalars other values rest hypothesis => exact hypothesis isOf.2.2
  | nested other first rest _ hypothesis =>
      rcases isOf with ⟨_, _, _, alsoKnown, firstIsOf, _, restIsOf⟩
      by_cases same : other = number
      · subst same
        rcases Option.some.inj (known.symm.trans alsoKnown) with ⟨⟩
        simp only [Message.messagesAt, if_true, List.forall_mem_cons]
        exact ⟨firstIsOf, hypothesis restIsOf⟩
      · simp only [Message.messagesAt, same, if_false]
        exact hypothesis restIsOf

/-- A field that is not repeated has at most one submessage. -/
theorem IsOf.length_messagesAt (isOf : message.IsOf type) (single : cardinality ≠ .repeated)
    (known : type.field? number = some ⟨name, number, cardinality, .message inner⟩) :
    (message.messagesAt number).length ≤ 1 := by
  induction message with
  | done unknown => simp [Message.messagesAt]
  | scalars other values rest hypothesis => exact hypothesis isOf.2.2
  | nested other first rest _ hypothesis =>
      rcases isOf with ⟨_, _, _, alsoKnown, _, later, restIsOf⟩
      by_cases same : other = number
      · subst same
        rcases Option.some.inj (known.symm.trans alsoKnown) with ⟨⟩
        have absent : other ∉ rest.numbers := by
          intro member
          rcases later other member with less | ⟨isRepeated, _⟩
          · exact absurd less (Nat.lt_irrefl _)
          · exact single isRepeated
        simp [Message.messagesAt, messagesAt_eq_nil absent]
      · simp only [Message.messagesAt, same, if_false]
        exact hypothesis restIsOf

/-- A field that is not repeated has at most one scalar. -/
theorem IsOf.length_scalarsAt {scalarType : ScalarType} (isOf : message.IsOf type)
    (single : cardinality ≠ .repeated)
    (known : type.field? number = some ⟨name, number, cardinality, .scalar scalarType⟩) :
    (message.scalarsAt number).length ≤ 1 := by
  induction message with
  | done unknown => simp [Message.scalarsAt]
  | scalars other values rest hypothesis =>
      rcases isOf with ⟨⟨_, _, _, alsoKnown, _, counted, _⟩, _, restIsOf⟩
      by_cases same : other = number
      · subst same
        rcases Option.some.inj (known.symm.trans alsoKnown) with ⟨⟩
        simp only [Message.scalarsAt, if_true]
        exact Nat.le_of_eq (counted single)
      · simp only [Message.scalarsAt, same, if_false]
        exact hypothesis restIsOf
  | nested other first rest _ hypothesis =>
      rcases isOf with ⟨_, _, _, _, _, _, restIsOf⟩
      exact hypothesis restIsOf

theorem length_encode_messagesAt (member : value ∈ message.messagesAt number) :
    value.encode.length < message.encode.length := by
  induction message with
  | done unknown => simp [messagesAt] at member
  | scalars other values rest hypothesis =>
      have shorter := hypothesis member
      simp only [encode, List.length_append]
      omega
  | nested other first rest _ hypothesis =>
      have tagged := List.length_pos_iff.mpr (Wire.varint_ne_nil (8 * other + 2))
      simp only [encode, Wire.tag, Wire.block, List.length_append]
      by_cases same : other = number
      · simp only [messagesAt, same, if_true, List.mem_cons] at member
        rcases member with rfl | later
        · omega
        · have shorter := hypothesis later
          omega
      · simp only [messagesAt, same, if_false] at member
        have shorter := hypothesis member
        omega

/-! ## Lists of fields -/

/-- The values that a message has in a field. -/
def valuesAt (message : Message) (spec : FieldSpec) : FieldValues :=
  match spec.type with
  | .scalar _ => .scalars (message.scalarsAt spec.number)
  | .message _ => .messages (message.messagesAt spec.number)

/-- The message that has the values of another one in some fields, and its unknown bytes. -/
def restrict (message : Message) (specs : List FieldSpec) : Message :=
  ofFields (specs.map fun spec => (spec.number, message.valuesAt spec)) message.unknown

variable {spec : FieldSpec} {specs : List FieldSpec} {rest : Message} {values : List Scalar}

theorem restrict_cons :
    message.restrict (spec :: specs) =
      attach spec.number (message.valuesAt spec) (message.restrict specs) := rfl

theorem restrict_congr (same : ∀ spec ∈ specs, message.valuesAt spec = rest.valuesAt spec)
    (same_unknown : message.unknown = rest.unknown) :
    message.restrict specs = rest.restrict specs := by
  unfold restrict
  rw [same_unknown]
  congr 1
  apply List.map_congr_left
  intro spec member
  rw [same spec member]

theorem attach_valuesAt_of_absent (absent : spec.number ∉ message.numbers) :
    attach spec.number (message.valuesAt spec) rest = rest := by
  unfold valuesAt
  split
  · rw [scalarsAt_eq_nil absent]
    rfl
  · rw [messagesAt_eq_nil absent]
    rfl

theorem valuesAt_scalars (other : number ≠ spec.number) :
    (Message.scalars number values rest).valuesAt spec = rest.valuesAt spec := by
  unfold valuesAt
  simp only [scalarsAt, messagesAt, other, if_false]

theorem valuesAt_nested (other : number ≠ spec.number) :
    (Message.nested number value rest).valuesAt spec = rest.valuesAt spec := by
  unfold valuesAt
  simp only [scalarsAt, messagesAt, other, if_false]

theorem restrict_append_of_absent {before : List FieldSpec}
    (absent : ∀ spec ∈ before, spec.number ∉ message.numbers) :
    message.restrict (before ++ specs) = message.restrict specs := by
  induction before with
  | nil => rfl
  | cons spec before hypothesis =>
      rw [List.cons_append, restrict_cons, attach_valuesAt_of_absent (absent spec (by simp))]
      exact hypothesis fun other member => absent other (List.mem_cons_of_mem _ member)

/-- Of ascending fields, those in front of the first field of a message do not matter. -/
theorem restrict_from {before : List FieldSpec}
    (ascend : (before ++ spec :: specs).Pairwise fun spec later => spec.number < later.number)
    (above : ∀ other ∈ message.numbers, spec.number ≤ other) :
    message.restrict (before ++ spec :: specs) = message.restrict (spec :: specs) := by
  apply restrict_append_of_absent
  intro early member listed
  have less := (List.pairwise_append.mp ascend).2.2 early member spec List.mem_cons_self
  have least := above early.number listed
  omega

theorem comprise_from {before : List FieldSpec} {numbers : List Nat}
    (ascend : (before ++ spec :: specs).Pairwise fun spec later => spec.number < later.number)
    (above : ∀ other ∈ numbers, spec.number ≤ other)
    (comprise : ∀ other ∈ numbers, ∃ found ∈ before ++ spec :: specs, found.number = other) :
    ∀ other ∈ numbers, ∃ found ∈ spec :: specs, found.number = other := by
  intro other member
  rcases comprise other member with ⟨found, inAll, rfl⟩
  rcases List.mem_append.mp inAll with early | late
  · have less := (List.pairwise_append.mp ascend).2.2 found early spec List.mem_cons_self
    have least := above found.number member
    omega
  · exact ⟨found, late, rfl⟩

/-- Fields that ascend and comprise those of a message restrict it to itself. -/
theorem restrict_eq_self (isOf : message.IsOf type)
    (known : ∀ spec ∈ specs, type.field? spec.number = some spec)
    (ascend : specs.Pairwise fun spec later => spec.number < later.number)
    (comprise : ∀ other ∈ message.numbers, ∃ spec ∈ specs, spec.number = other) :
    message.restrict specs = message := by
  induction message generalizing specs with
  | done unknown =>
      have skipped : (Message.done unknown).restrict (specs ++ []) = .done unknown :=
        restrict_append_of_absent (by simp [numbers])
      rwa [List.append_nil] at skipped
  | scalars number values rest hypothesis =>
      rcases isOf with
        ⟨⟨name, cardinality, scalarType, number_known, some_values, _⟩, later, restIsOf⟩
      rcases comprise number (by simp [numbers]) with ⟨spec, member, here⟩
      have spec_known := known spec member
      rw [here] at spec_known
      rcases Option.some.inj (spec_known.symm.trans number_known) with rfl
      rcases List.append_of_mem member with ⟨before, behind, rfl⟩
      have restComprise : ∀ other ∈ rest.numbers, ∃ spec ∈ behind, spec.number = other := by
        intro other listed
        rcases comprise_from ascend (fun other inRest => Nat.le_of_lt (later other inRest))
          (fun other inRest => comprise other (List.mem_cons_of_mem _ inRest)) other listed with
          ⟨found, inSpecs, rfl⟩
        rcases List.mem_cons.mp inSpecs with rfl | inBehind
        · exact absurd (later _ listed) (Nat.lt_irrefl _)
        · exact ⟨found, inBehind, rfl⟩
      have ⟨front, behindAscend⟩ := List.pairwise_cons.mp (List.pairwise_append.mp ascend).2.1
      have restored := hypothesis restIsOf
        (fun spec later => known spec (List.mem_append_right _ (List.mem_cons_of_mem _ later)))
        behindAscend restComprise
      have above : ∀ other ∈ (Message.scalars number values rest).numbers, number ≤ other := by
        intro other listed
        rcases List.mem_cons.mp listed with rfl | inRest
        · exact Nat.le_refl _
        · exact Nat.le_of_lt (later other inRest)
      have same : ∀ spec ∈ behind,
          (Message.scalars number values rest).valuesAt spec = rest.valuesAt spec :=
        fun spec inBehind => valuesAt_scalars (Nat.ne_of_lt (front spec inBehind))
      rw [restrict_from ascend above, restrict_cons, restrict_congr same rfl, restored]
      simp only [valuesAt, scalarsAt, if_true]
      cases values with
      | nil => exact absurd rfl some_values
      | cons first others => rfl
  | nested number value rest _ hypothesis =>
      rcases isOf with ⟨name, cardinality, inner, number_known, _, later, restIsOf⟩
      rcases comprise number (by simp [numbers]) with ⟨spec, member, here⟩
      have spec_known := known spec member
      rw [here] at spec_known
      rcases Option.some.inj (spec_known.symm.trans number_known) with rfl
      rcases List.append_of_mem member with ⟨before, behind, rfl⟩
      have notBelow : ∀ other ∈ rest.numbers, number ≤ other := by
        intro other listed
        rcases later other listed with less | ⟨_, same⟩
        · exact Nat.le_of_lt less
        · exact Nat.le_of_eq same
      have restComprise := comprise_from ascend notBelow
        (fun other inRest => comprise other (List.mem_cons_of_mem _ inRest))
      have restAscend := (List.pairwise_append.mp ascend).2.1
      have restored := hypothesis restIsOf
        (fun spec later => known spec (List.mem_append_right _ later)) restAscend restComprise
      have above : ∀ other ∈ (Message.nested number value rest).numbers, number ≤ other := by
        intro other listed
        rcases List.mem_cons.mp listed with rfl | inRest
        · exact Nat.le_refl _
        · exact notBelow other inRest
      have same : ∀ spec ∈ behind,
          (Message.nested number value rest).valuesAt spec = rest.valuesAt spec :=
        fun spec inBehind =>
          valuesAt_nested (Nat.ne_of_lt ((List.pairwise_cons.mp restAscend).1 spec inBehind))
      rw [restrict_cons] at restored
      rw [restrict_from ascend above, restrict_cons, restrict_congr same rfl]
      simp only [valuesAt, messagesAt, if_true, attach, List.foldr_cons] at restored ⊢
      rw [restored]

end Message

end NetImport.Descriptor
