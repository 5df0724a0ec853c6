import NetImport.Proofs.Descriptor.Message
import NetImport.Proofs.Steps

/-!
# Messages survive the binary format

The bytes of a message consist of one field for every scalar and every submessage, and of the fields
of its unknown bytes. Read again, these fields give back the values of every field of the type, and
hence the message. Conversely, whatever bytes are read, the result is a message of the type.
-/

namespace NetImport.Descriptor

open Wire (Consist RawField)

variable {type inner : MessageType} {message value rest : Message} {number : Nat} {field : RawField}
  {fields unknownFields : List RawField} {readings : List (Nat × Reading)} {bytes : List UInt8}

/-! ## What the bytes of a message say -/

/-- The meaning of a field for a message type, with its number. -/
def readNumbered (type : MessageType) (field : RawField) : Option (Nat × Reading) :=
  (field.read type).map (field.number, ·)

/-- The fields of the bytes of a message, given those of its unknown bytes. -/
def Message.rawFields (unknown : List RawField) : Message → List RawField
  | .done _ => unknown
  | .scalars number values rest =>
    values.map (fun value => ⟨number, value.payload, value.encode number, []⟩) ++
      rest.rawFields unknown
  | .nested number value rest =>
    ⟨number, .block value.encode, Wire.tag number 2 ++ Wire.block value.encode, []⟩ ::
      rest.rawFields unknown

/-- Readings that give the values of a message back. -/
structure Message.ReadAs (message : Message) (readings : List (Nat × Reading)) : Prop where
  scalars : ∀ number, scalarsOfReadings number readings = message.scalarsAt number
  submessages : ∀ number,
    submessagesOfReadings number readings = (message.messagesAt number).map Message.encode
  unknown : unknownOfReadings readings = message.unknown

theorem source_of_nothing_behind {payload : Wire.Payload} {start : List UInt8} :
    RawField.source ⟨number, payload, start, []⟩ = start := by
  simp [RawField.source]

theorem consist_single {payload : Wire.Payload} {start : List UInt8}
    (fieldOf : Wire.FieldOf number payload start) :
    Consist start [⟨number, payload, start, []⟩] := by
  constructor
  · simp [source_of_nothing_behind]
  · intro field member
    rcases List.mem_singleton.mp member with rfl
    rw [RawField.Stands, source_of_nothing_behind]
    exact fieldOf

theorem consist_scalars {values : List Scalar} (positive : 0 < number) (small : number < 16)
    (short : (values.flatMap (Scalar.encode number)).length < Wire.blockLimit) :
    Consist (values.flatMap (Scalar.encode number))
      (values.map fun value => ⟨number, value.payload, value.encode number, []⟩) := by
  induction values with
  | nil => exact ⟨rfl, by simp⟩
  | cons value values hypothesis =>
      rw [List.flatMap_cons, List.length_append] at short
      have first : Consist (value.encode number)
          [⟨number, value.payload, value.encode number, []⟩] :=
        consist_single (fieldOf_encode positive small (by omega))
      exact Wire.consist_append first (hypothesis (by omega))

theorem consist_encode (isOf : message.IsOf type)
    (short : message.encode.length < Wire.blockLimit)
    (unknown : Consist message.unknown unknownFields) :
    Consist message.encode (message.rawFields unknownFields) := by
  induction message with
  | done bytes => exact unknown
  | scalars number values rest hypothesis =>
      rcases isOf with ⟨⟨_, _, _, known, _⟩, _, restIsOf⟩
      rcases MessageType.mem_of_field? known with ⟨member, _⟩
      rcases MessageType.number_of_mem_fields type _ member with ⟨positive, small⟩
      simp only [Message.encode, List.length_append] at short
      exact Wire.consist_append (consist_scalars positive small (by omega))
        (hypothesis restIsOf (by omega) unknown)
  | nested number value rest _ hypothesis =>
      rcases isOf with ⟨_, _, _, known, _, _, restIsOf⟩
      rcases MessageType.mem_of_field? known with ⟨member, _⟩
      rcases MessageType.number_of_mem_fields type _ member with ⟨positive, small⟩
      simp only [Message.encode, Wire.block, List.length_append] at short
      have fits : 8 * number + 2 < shortWordCount := by
        unfold shortWordCount
        omega
      have content : value.encode.length < Wire.blockLimit := by omega
      have first := consist_single
        (Wire.fieldOf_tag positive (by decide) fits (Wire.payloadOf_block content))
      exact Wire.consist_append first (hypothesis restIsOf (by omega) unknown)

theorem scalarsOfReadings_append (number : Nat) (readings others : List (Nat × Reading)) :
    scalarsOfReadings number (readings ++ others) =
      scalarsOfReadings number readings ++ scalarsOfReadings number others :=
  List.flatMap_append

theorem submessagesOfReadings_append (number : Nat) (readings others : List (Nat × Reading)) :
    submessagesOfReadings number (readings ++ others) =
      submessagesOfReadings number readings ++ submessagesOfReadings number others :=
  List.filterMap_append

theorem unknownOfReadings_append (readings others : List (Nat × Reading)) :
    unknownOfReadings (readings ++ others) =
      unknownOfReadings readings ++ unknownOfReadings others :=
  List.flatMap_append

theorem readAs_done (bytes_eq : fields.flatMap RawField.source = bytes) :
    (Message.done bytes).ReadAs (fields.map fun field => (field.number, .unknown field.source)) := by
  constructor
  · intro number
    simp [scalarsOfReadings, Message.scalarsAt, List.flatMap_map]
  · intro number
    simp [submessagesOfReadings, Message.messagesAt, List.filterMap_map]
  · simp [unknownOfReadings, Message.unknown, List.flatMap_map, bytes_eq]

theorem readAs_scalars {values : List Scalar} (later : number ∉ rest.numbers)
    (readAs : rest.ReadAs readings) :
    (Message.scalars number values rest).ReadAs
      (values.map (fun value => (number, .scalars [value])) ++ readings) := by
  constructor
  · intro other
    rw [scalarsOfReadings_append, readAs.scalars, Message.scalarsAt]
    by_cases same : number = other
    · subst same
      simp [scalarsOfReadings, List.flatMap_map, Message.scalarsAt_eq_nil later]
    · simp [scalarsOfReadings, List.flatMap_map, same]
  · intro other
    rw [submessagesOfReadings_append, readAs.submessages, Message.messagesAt]
    simp [submessagesOfReadings, List.filterMap_map]
  · rw [unknownOfReadings_append, readAs.unknown, Message.unknown]
    simp [unknownOfReadings, List.flatMap_map]

theorem readAs_nested (readAs : rest.ReadAs readings) :
    (Message.nested number value rest).ReadAs ((number, .submessage value.encode) :: readings) := by
  constructor
  · intro other
    rw [Message.scalarsAt, ← readAs.scalars]
    rfl
  · intro other
    have tail := readAs.submessages other
    simp only [submessagesOfReadings] at tail
    by_cases same : number = other
    · simp [submessagesOfReadings, Message.messagesAt, same, tail]
    · simp [submessagesOfReadings, Message.messagesAt, same, tail]
  · rw [Message.unknown, ← readAs.unknown]
    rfl

theorem read_scalar {name : String} {cardinality : Cardinality} {scalarType : ScalarType}
    {scalar : Scalar} (start behind : List UInt8) (isOf : scalar.IsOf scalarType)
    (known : type.field? number = some ⟨name, number, cardinality, .scalar scalarType⟩) :
    RawField.read ⟨number, scalar.payload, start, behind⟩ type = some (.scalars [scalar]) := by
  simp only [RawField.read, known, ofPayload?_payload isOf]

theorem read_submessage {name : String} {cardinality : Cardinality}
    {start behind : List UInt8}
    (known : type.field? number = some ⟨name, number, cardinality, .message inner⟩) :
    RawField.read ⟨number, .block bytes, start, behind⟩ type = some (.submessage bytes) := by
  simp only [RawField.read, known]

theorem readAs_rawFields (isOf : message.IsOf type)
    (unknown : message.unknown = unknownFields.flatMap RawField.source)
    (unread : ∀ field ∈ unknownFields, field.read type = some (.unknown field.source)) :
    ∃ readings, (message.rawFields unknownFields).mapM (readNumbered type) = some readings ∧
      message.ReadAs readings := by
  induction message with
  | done bytes =>
      refine ⟨_, mapM_of_forall ?_, readAs_done unknown.symm⟩
      intro field member
      rw [readNumbered, unread field member]
      rfl
  | scalars number values rest hypothesis =>
      rcases isOf with ⟨⟨_, _, _, known, _, _, valuesAre⟩, later, restIsOf⟩
      rcases hypothesis restIsOf unknown with ⟨readings, read, readAs⟩
      have notLater : number ∉ rest.numbers :=
        fun member => Nat.lt_irrefl number (later number member)
      refine ⟨_, mapM_append_of_eq_some ?_ read, readAs_scalars notLater readAs⟩
      rw [List.mapM_map]
      apply mapM_of_forall
      intro value member
      have reads := read_scalar (value.encode number) [] (valuesAre value member) known
      simp only [Function.comp_apply, readNumbered, reads, Option.map_some]
  | nested number value rest _ hypothesis =>
      rcases isOf with ⟨_, _, _, known, _, _, restIsOf⟩
      rcases hypothesis restIsOf unknown with ⟨readings, read, readAs⟩
      refine ⟨_, ?_, readAs_nested readAs⟩
      rw [Message.rawFields, List.mapM_cons, readNumbered, read_submessage known]
      simp only [Option.map_some, Option.bind_eq_bind, Option.bind_some, read, Option.pure_def]

/-- The unknown bytes of a message are fields that its type does not know. -/
theorem unknown_of_isOf (isOf : message.IsOf type) :
    ∃ fields, Consist message.unknown fields ∧
      ∀ field ∈ fields, field.read type = some (.unknown field.source) := by
  induction message with
  | done bytes =>
      rcases isOf with ⟨fields, split, unread⟩
      exact ⟨fields, Wire.consist_of_splitFields split, unread⟩
  | scalars number values rest hypothesis => exact hypothesis isOf.2.2
  | nested number value rest _ hypothesis =>
      rcases isOf with ⟨_, _, _, _, _, _, restIsOf⟩
      exact hypothesis restIsOf

/-- What a field means depends on what it says and on its bytes, not on where it was read. -/
theorem read_congr {other : RawField} (same : RawField.Same field other) :
    readNumbered type field = readNumbered type other := by
  rcases same with ⟨same_number, same_payload, same_source⟩
  simp only [readNumbered, RawField.read, same_number, same_payload, same_source]

theorem mapM_read_congr {others : List RawField}
    (same : List.Forall₂ RawField.Same fields others) :
    fields.mapM (readNumbered type) = others.mapM (readNumbered type) := by
  induction same with
  | nil => rfl
  | cons first _ hypothesis => simp only [List.mapM_cons, read_congr first, hypothesis]

/-- The bytes of a message split into fields that give the values of the message back. -/
theorem splitFields_encode (isOf : message.IsOf type)
    (short : message.encode.length < Wire.blockLimit) :
    ∃ fields readings, Wire.splitFields message.encode = some fields ∧
      fields.mapM (readNumbered type) = some readings ∧ message.ReadAs readings := by
  rcases unknown_of_isOf isOf with ⟨unknownFields, unknown, unread⟩
  rcases readAs_rawFields isOf unknown.bytes_eq unread with ⟨readings, read, readAs⟩
  rcases Wire.splitFields_of_consist (consist_encode isOf short unknown) with ⟨fields, split, same⟩
  exact ⟨fields, readings, split, (mapM_read_congr same).trans read, readAs⟩

/-! ## Reading what was written -/

theorem comprise_numbers (isOf : message.IsOf type) :
    ∀ other ∈ message.numbers, ∃ spec ∈ type.fields, spec.number = other := by
  induction message with
  | done bytes => simp [Message.numbers]
  | scalars number values rest hypothesis =>
      rcases isOf with ⟨⟨_, _, _, known, _⟩, _, restIsOf⟩
      simp only [Message.numbers, List.forall_mem_cons]
      exact ⟨⟨_, (MessageType.mem_of_field? known).1, rfl⟩, hypothesis restIsOf⟩
  | nested number value rest _ hypothesis =>
      rcases isOf with ⟨_, _, _, known, _, _, restIsOf⟩
      simp only [Message.numbers, List.forall_mem_cons]
      exact ⟨⟨_, (MessageType.mem_of_field? known).1, rfl⟩, hypothesis restIsOf⟩

theorem parts_of_messages {fuel : Nat} {messages : List Message}
    (each : ∀ message ∈ messages, ∃ fields, Wire.splitFields message.encode = some fields ∧
      Message.ofRawFields fuel inner fields = some message) :
    ∃ parts, (messages.map Message.encode).mapM Wire.splitFields = some parts ∧
      parts.mapM (Message.ofRawFields fuel inner) = some messages ∧
      parts.length = messages.length := by
  induction messages with
  | nil => exact ⟨[], rfl, rfl, rfl⟩
  | cons message messages hypothesis =>
      have ⟨⟨fields, split, restored⟩, later⟩ := List.forall_mem_cons.mp each
      rcases hypothesis later with ⟨parts, splits, restoredLater, length⟩
      refine ⟨fields :: parts, ?_, ?_, by rw [List.length_cons, length, List.length_cons]⟩
      · simp only [List.map_cons, List.mapM_cons, split, splits, Option.bind_eq_bind,
          Option.bind_some, Option.pure_def]
      · simp only [List.mapM_cons, restored, restoredLater, Option.bind_eq_bind, Option.bind_some,
          Option.pure_def]

theorem getLast?_toList_of_length_le_one {Entry : Type} {entries : List Entry}
    (single : entries.length ≤ 1) : entries.getLast?.toList = entries := by
  match entries, single with
  | [], _ => rfl
  | [_], _ => rfl

theorem joined_of_length_le_one {parts : List (List RawField)} (single : parts.length ≤ 1) :
    (if parts = [] then [] else [parts.flatten]) = parts := by
  match parts, single with
  | [], _ => rfl
  | [part], _ => simp

/-- Fields that give back the values of a message are read as that message. -/
theorem ofRawFields_of_readAs {fuel : Nat} (isOf : message.IsOf type)
    (read : fields.mapM (readNumbered type) = some readings) (readAs : message.ReadAs readings)
    (each : ∀ inner number, ∀ value ∈ message.messagesAt number, value.IsOf inner →
      ∃ parts, Wire.splitFields value.encode = some parts ∧
        Message.ofRawFields fuel inner parts = some value) :
    Message.ofRawFields (fuel + 1) type fields = some message := by
  have restored : message.restrict type.fields = message :=
    Message.restrict_eq_self isOf (MessageType.field?_of_mem type)
      (MessageType.pairwise_fields type) (comprise_numbers isOf)
  rw [Message.ofRawFields]
  refine Option.bind_eq_some_iff.mpr ⟨readings, read, ?_⟩
  refine Option.bind_eq_some_iff.mpr
    ⟨type.fields.map fun spec => (spec.number, message.valuesAt spec), mapM_of_forall ?_, ?_⟩
  · rintro ⟨name, number, cardinality, fieldType⟩ member
    have known := MessageType.field?_of_mem type _ member
    cases fieldType with
    | scalar scalarType =>
        simp only [readAs.scalars, Message.valuesAt]
        by_cases many : cardinality = .repeated
        · simp only [many, if_true]
        · simp only [many, if_false,
            getLast?_toList_of_length_le_one (isOf.length_scalarsAt many known)]
    | message inner =>
        have values := isOf.messagesAt known
        rcases parts_of_messages (fun value listed => each inner number value listed
          (values value listed)) with ⟨parts, splits, restoredParts, length⟩
        simp only [readAs.submessages, Message.valuesAt, splits, Option.bind_eq_bind,
          Option.bind_some]
        by_cases many : cardinality = .repeated
        · simp only [many, if_true, restoredParts, Option.bind_some, Option.pure_def]
        · have single : parts.length ≤ 1 := length ▸ isOf.length_messagesAt many known
          simp only [many, if_false, joined_of_length_le_one single, restoredParts,
            Option.bind_some, Option.pure_def]
  · rw [readAs.unknown, Option.pure_def]
    exact congrArg some restored

theorem ofRawFields_encode {fuel : Nat} (isOf : message.IsOf type)
    (enough : message.encode.length ≤ fuel) (short : message.encode.length < Wire.blockLimit) :
    ∃ fields, Wire.splitFields message.encode = some fields ∧
      Message.ofRawFields (fuel + 1) type fields = some message := by
  -- A submessage takes fewer bytes than the message, so one unit of fuel a level is enough.
  induction fuel generalizing message type with
  | zero =>
      rcases splitFields_encode isOf short with ⟨fields, readings, split, read, readAs⟩
      refine ⟨fields, split, ofRawFields_of_readAs isOf read readAs ?_⟩
      intro inner number value listed _
      have shorter := Message.length_encode_messagesAt listed
      omega
  | succ fuel hypothesis =>
      rcases splitFields_encode isOf short with ⟨fields, readings, split, read, readAs⟩
      refine ⟨fields, split, ofRawFields_of_readAs isOf read readAs ?_⟩
      intro inner number value listed valueIsOf
      have shorter := Message.length_encode_messagesAt listed
      exact hypothesis valueIsOf (by omega) (by omega)

/-- A message of a type is what its bytes are read as. -/
theorem ofBytes?_encode (isOf : message.IsOf type)
    (short : message.encode.length < Wire.blockLimit) :
    Message.ofBytes? type message.encode = some message := by
  rcases ofRawFields_encode isOf (Nat.le_refl _) short with ⟨fields, split, restored⟩
  simp only [Message.ofBytes?, split, Option.bind_eq_bind, Option.bind_some, restored]

/-! ## What is read is a message of the type -/

theorem read_unknown (read : field.read type = some (.unknown bytes)) : bytes = field.source := by
  unfold RawField.read at read
  split at read
  · rcases read with ⟨⟩
    rfl
  · split at read
    · cases read
    · rcases read with ⟨⟩
      rfl
    · split at read
      · cases read
      · split at read
        · split at read
          · rcases Option.map_eq_some_iff.mp read with ⟨_, _, other⟩
            cases other
          · rcases read with ⟨⟩
            rfl
        · rcases read with ⟨⟩
          rfl

theorem isOf_of_unpackWithin {scalarType : ScalarType} {fuel : Nat} {values : List Scalar}
    (unpacked : scalarType.unpackWithin fuel bytes = some values) :
    ∀ value ∈ values, value.IsOf scalarType := by
  induction fuel generalizing bytes values with
  | zero =>
      cases bytes with
      | nil =>
          rcases unpacked with ⟨⟩
          simp
      | cons byte others => cases unpacked
  | succ fuel hypothesis =>
      cases bytes with
      | nil =>
          rcases unpacked with ⟨⟩
          simp
      | cons byte others =>
          simp only [ScalarType.unpackWithin, Option.bind_eq_bind, Option.bind_eq_some_iff] at unpacked
          rcases unpacked with ⟨⟨payload, behind⟩, _, value, denotes, values, later, joined⟩
          rcases joined with ⟨⟩
          rw [List.forall_mem_cons]
          exact ⟨isOf_of_ofPayload? denotes, hypothesis later⟩

theorem isOf_of_read {name : String} {cardinality : Cardinality} {scalarType : ScalarType}
    {values : List Scalar}
    (known : type.field? field.number = some ⟨name, number, cardinality, .scalar scalarType⟩)
    (read : field.read type = some (.scalars values)) : ∀ value ∈ values, value.IsOf scalarType := by
  simp only [RawField.read, known] at read
  split at read
  · rename_i value denotes
    rcases read with ⟨⟩
    intro other member
    rcases List.mem_singleton.mp member with rfl
    exact isOf_of_ofPayload? denotes
  · split at read
    · split at read
      · rcases Option.map_eq_some_iff.mp read with ⟨unpacked, unpacks, same⟩
        rcases same with ⟨⟩
        exact isOf_of_unpackWithin unpacks
      · cases read
    · cases read

/-- As many values as a field may have, of its type, with its number. -/
inductive FieldHolds : FieldSpec → Nat × FieldValues → Prop where
  | scalars {name : String} {number : Nat} {cardinality : Cardinality} {scalarType : ScalarType}
      {values : List Scalar} (each : ∀ value ∈ values, value.IsOf scalarType)
      (counted : cardinality ≠ .repeated → values.length ≤ 1) :
      FieldHolds ⟨name, number, cardinality, .scalar scalarType⟩ (number, .scalars values)
  | messages {name : String} {number : Nat} {cardinality : Cardinality} {inner : MessageType}
      {values : List Message} (each : ∀ value ∈ values, value.IsOf inner)
      (counted : cardinality ≠ .repeated → values.length ≤ 1) :
      FieldHolds ⟨name, number, cardinality, .message inner⟩ (number, .messages values)

theorem numbers_attach (number : Nat) (values : FieldValues) (rest : Message) :
    ∀ other ∈ (Message.attach number values rest).numbers, other = number ∨ other ∈ rest.numbers := by
  intro other member
  cases values with
  | scalars values =>
      cases values with
      | nil => exact .inr member
      | cons first later => exact List.mem_cons.mp member
  | messages values =>
      induction values with
      | nil => exact .inr member
      | cons first later hypothesis =>
          rcases List.mem_cons.mp member with same | behind
          · exact .inl same
          · exact hypothesis behind

/-- Values of a field in front of a message whose fields have higher numbers are a message. -/
theorem isOf_attach {spec : FieldSpec} {entry : Nat × FieldValues}
    (known : type.field? spec.number = some spec) (holds : FieldHolds spec entry)
    (restIsOf : rest.IsOf type) (above : ∀ other ∈ rest.numbers, spec.number < other) :
    (Message.attach entry.1 entry.2 rest).IsOf type := by
  cases holds with
  | @scalars name number cardinality scalarType values each counted =>
      cases values with
      | nil => exact restIsOf
      | cons first later =>
          refine ⟨⟨name, cardinality, scalarType, known, by simp, ?_, each⟩, above, restIsOf⟩
          intro single
          have atMost := counted single
          rw [List.length_cons] at atMost ⊢
          omega
  | @messages name number cardinality inner values each counted =>
      induction values with
      | nil => exact restIsOf
      | cons first later hypothesis =>
          have ⟨firstIsOf, laterAre⟩ := List.forall_mem_cons.mp each
          have behind := hypothesis laterAre (by
            intro single
            have atMost := counted single
            rw [List.length_cons] at atMost
            omega)
          refine ⟨name, cardinality, inner, known, firstIsOf, ?_, behind⟩
          intro other member
          by_cases many : cardinality = .repeated
          · rcases numbers_attach number (.messages later) rest other member with rfl | inRest
            · exact .inr ⟨many, rfl⟩
            · exact .inl (above other inRest)
          · have atMost := counted many
            have nothing : later = [] := List.length_eq_zero_iff.mp (by
              rw [List.length_cons] at atMost
              omega)
            subst nothing
            exact .inl (above other member)

/-- Values of ascending fields and unknown bytes make a message of the type. -/
theorem isOf_ofFields {specs : List FieldSpec} {entries : List (Nat × FieldValues)}
    (known : ∀ spec ∈ specs, type.field? spec.number = some spec)
    (ascend : specs.Pairwise fun spec later => spec.number < later.number)
    (holds : List.Forall₂ FieldHolds specs entries) (unknown : (Message.done bytes).IsOf type) :
    (Message.ofFields entries bytes).IsOf type ∧
      ∀ other ∈ (Message.ofFields entries bytes).numbers, ∃ spec ∈ specs, spec.number = other := by
  induction holds with
  | nil => exact ⟨unknown, by simp [Message.ofFields, Message.numbers]⟩
  | @cons spec entry specs entries first _ hypothesis =>
      rcases List.pairwise_cons.mp ascend with ⟨above, restAscend⟩
      rcases List.forall_mem_cons.mp known with ⟨firstKnown, restKnown⟩
      rcases hypothesis restKnown restAscend with ⟨restIsOf, comprised⟩
      have number_eq : entry.1 = spec.number := by cases first <;> rfl
      constructor
      · apply isOf_attach firstKnown first restIsOf
        intro other member
        rcases comprised other member with ⟨later, inSpecs, rfl⟩
        exact above later inSpecs
      · intro other member
        rcases numbers_attach _ _ _ other member with rfl | inRest
        · exact ⟨spec, List.mem_cons_self, number_eq.symm⟩
        · rcases comprised other inRest with ⟨later, inSpecs, same⟩
          exact ⟨later, List.mem_cons_of_mem _ inSpecs, same⟩

/-- Whether a type keeps a field as unknown bytes. -/
def isUnknown (type : MessageType) (field : RawField) : Bool :=
  field.read type = some (.unknown field.source)

/-- The unknown bytes that are read are those of the fields that are unknown. -/
theorem unknown_of_readings (read : fields.mapM (readNumbered type) = some readings) :
    unknownOfReadings readings = (fields.filter (isUnknown type)).flatMap RawField.source := by
  rw [mapM_eq_some] at read
  induction read with
  | nil => rfl
  | @cons field numbered fields readings first _ hypothesis =>
      rcases Option.map_eq_some_iff.mp first with ⟨reading, readsAs, rfl⟩
      have joined : unknownOfReadings ((field.number, reading) :: readings) =
          unknownOfReadings [(field.number, reading)] ++ unknownOfReadings readings :=
        unknownOfReadings_append [_] readings
      rw [joined, hypothesis, List.filter_cons]
      cases reading with
      | unknown own =>
          rcases read_unknown readsAs with rfl
          simp [isUnknown, readsAs, unknownOfReadings]
      | scalars values => simp [isUnknown, readsAs, unknownOfReadings]
      | submessage content => simp [isUnknown, readsAs, unknownOfReadings]

/-- Fields that a type does not know are unknown bytes of a message of that type. -/
theorem isOf_done (stand : ∀ field ∈ fields, field.Stands)
    (unread : ∀ field ∈ fields, field.read type = some (.unknown field.source)) :
    (Message.done (fields.flatMap RawField.source)).IsOf type := by
  rcases Wire.splitFields_of_consist ⟨rfl, stand⟩ with ⟨again, split, same⟩
  refine ⟨again, split, ?_⟩
  clear split
  induction same with
  | nil => simp
  | cons first _ hypothesis =>
      rw [List.forall_mem_cons] at stand unread ⊢
      refine ⟨?_, hypothesis stand.2 unread.2⟩
      have ⟨same_number, same_payload, same_source⟩ := first
      rw [same_source, ← unread.1]
      simp only [RawField.read, same_number, same_payload, same_source]

theorem isOf_of_mem_scalarsOfReadings {name : String} {cardinality : Cardinality}
    {scalarType : ScalarType}
    (known : type.field? number = some ⟨name, number, cardinality, .scalar scalarType⟩)
    (read : fields.mapM (readNumbered type) = some readings) :
    ∀ value ∈ scalarsOfReadings number readings, value.IsOf scalarType := by
  intro value member
  rcases List.mem_flatMap.mp member with ⟨⟨other, reading⟩, listed, among⟩
  rcases exists_of_mem_mapM read listed with ⟨field, _, found⟩
  rcases Option.map_eq_some_iff.mp found with ⟨same, readsAs, pair⟩
  rcases pair with ⟨⟩
  cases reading with
  | scalars values =>
      simp only at among
      split at among
      · rename_i here
        rw [← here] at known
        exact isOf_of_read known readsAs value among
      · cases among
  | submessage content => cases among
  | unknown own => cases among

/-- Fields of the submessages of a field, read one by one or all together, stand. -/
theorem stand_of_parts {blocks : List (List UInt8)} {parts : List (List RawField)}
    {cardinality : Cardinality} {part : List RawField}
    (split : blocks.mapM Wire.splitFields = some parts)
    (member : part ∈ if cardinality = .repeated then parts
      else if parts = [] then [] else [parts.flatten]) :
    ∀ field ∈ part, field.Stands := by
  have each : ∀ own ∈ parts, ∀ field ∈ own, field.Stands := by
    intro own listed
    rcases exists_of_mem_mapM split listed with ⟨content, _, splits⟩
    exact (Wire.consist_of_splitFields splits).stand
  split at member
  · exact each part member
  · split at member
    · cases member
    · rcases List.mem_singleton.mp member with rfl
      intro field listed
      rcases List.mem_flatten.mp listed with ⟨own, inParts, inOwn⟩
      exact each own inParts field inOwn

/-- Fields that were read are read as a message of the type. -/
theorem isOf_of_ofRawFields {fuel : Nat} (stand : ∀ field ∈ fields, field.Stands)
    (read : Message.ofRawFields fuel type fields = some message) : message.IsOf type := by
  -- The parts of a submessage are joined by their fields, which were not read from one block.
  -- Hence the induction is about any fields that stand, wherever they come from.
  induction fuel generalizing type fields message with
  | zero => cases read
  | succ fuel hypothesis =>
      rw [Message.ofRawFields] at read
      rcases Option.bind_eq_some_iff.mp read with ⟨readings, readsAs, rest⟩
      rcases Option.bind_eq_some_iff.mp rest with ⟨values, found, joined⟩
      rcases joined with ⟨⟩
      have unknown : (Message.done (unknownOfReadings readings)).IsOf type := by
        rw [unknown_of_readings readsAs]
        apply isOf_done
        · intro field member
          exact stand field (List.mem_filter.mp member).1
        · intro field member
          exact of_decide_eq_true (List.mem_filter.mp member).2
      have each := (List.forall₂_and_left type.fields values).mpr
        ⟨fun spec member => member, mapM_eq_some.mp found⟩
      refine (isOf_ofFields (MessageType.field?_of_mem type) (MessageType.pairwise_fields type)
        (each.imp ?_) unknown).1
      rintro ⟨name, number, cardinality, fieldType⟩ entry ⟨member, holds⟩
      have known := MessageType.field?_of_mem type _ member
      cases fieldType with
      | scalar scalarType =>
          rcases holds with ⟨⟩
          have ofType := isOf_of_mem_scalarsOfReadings known readsAs
          by_cases many : cardinality = .repeated
          · simp only [many, if_true]
            exact .scalars ofType (absurd rfl)
          · simp only [many, if_false]
            refine .scalars ?_ fun _ => Option.length_toList_le
            intro value last
            exact ofType value (List.mem_of_getLast? (Option.mem_toList.mp last))
      | message inner =>
          rcases Option.bind_eq_some_iff.mp holds with ⟨parts, splits, restored⟩
          rcases Option.bind_eq_some_iff.mp restored with ⟨messages, restores, same⟩
          rcases same with ⟨⟩
          apply FieldHolds.messages
          · intro value listed
            rcases exists_of_mem_mapM restores listed with ⟨part, inWhole, here⟩
            exact hypothesis (stand_of_parts splits inWhole) here
          · intro single
            rw [← (mapM_eq_some.mp restores).length_eq, if_neg single]
            split <;> simp

/-- Whatever bytes are read as a type, the result is a message of that type. -/
theorem isOf_of_ofBytes? (read : Message.ofBytes? type bytes = some message) :
    message.IsOf type := by
  rcases Option.bind_eq_some_iff.mp read with ⟨fields, split, restored⟩
  exact isOf_of_ofRawFields (Wire.consist_of_splitFields split).stand restored

end NetImport.Descriptor
