import Mathlib.Algebra.Group.Nat.Defs
import Mathlib.Data.List.Forall2
import NetImport.Descriptor.Wire.Decode
import NetImport.Descriptor.Wire.Encode

/-!
# Fields in the binary format

Numbers and blocks are read as what they were written from. A reader decides by the bytes that it
takes, whatever follows them, so that a field can be read again from its own bytes in any place. Some
bytes therefore split into fields exactly if they are the bytes of fields that can be read anywhere,
one after the other.
-/

namespace NetImport.Descriptor.Wire

/-! ## Numbers and blocks -/

/-- A reader takes the given bytes for a value, whatever follows them. -/
def Takes {Value : Type} (read : List UInt8 → Option (Value × List UInt8)) (used : List UInt8)
    (value : Value) : Prop :=
  ∀ rest, read (used ++ rest) = some (value, rest)

variable {bytes rest used block : List UInt8} {number form limit count fuel : Nat}

theorem takes_varint (fits : number < 128 ^ (limit + 1)) :
    Takes (readVarint (limit + 1)) (varint number) number := by
  intro rest
  induction limit generalizing number with
  | zero =>
      have small : number < 128 := by omega
      have low : (UInt8.ofNat number).toNat = number := by
        rw [UInt8.toNat_ofNat']
        omega
      rw [varint, if_pos small, List.singleton_append, readVarint, low, if_pos small]
  | succ limit hypothesis =>
      by_cases small : number < 128
      · have low : (UInt8.ofNat number).toNat = number := by
          rw [UInt8.toNat_ofNat']
          omega
        rw [varint, if_pos small, List.singleton_append, readVarint, low, if_pos small]
      · have low : (UInt8.ofNat (number % 128 + 128)).toNat = number % 128 + 128 := by
          rw [UInt8.toNat_ofNat']
          omega
        have high : number / 128 < 128 ^ (limit + 1) := by
          rw [Nat.div_lt_iff_lt_mul (by decide)]
          exact fits
        have joined : (number % 128 + 128) % 128 + 128 * (number / 128) = number := by omega
        rw [varint, if_neg small, List.cons_append, readVarint, low, if_neg (by omega),
          hypothesis high]
        simp only [Option.bind_eq_bind, Option.bind_some, Option.pure_def, joined]

theorem varint_ne_nil (number : Nat) : varint number ≠ [] := by
  rw [varint]
  split
  · simp
  · simp

/-- A number is read from bytes of its own. -/
theorem readVarint_local (read : readVarint limit bytes = some (number, rest)) :
    ∃ used, bytes = used ++ rest ∧ used ≠ [] ∧ Takes (readVarint limit) used number := by
  induction limit generalizing bytes number with
  | zero => simp [readVarint] at read
  | succ limit hypothesis =>
      cases bytes with
      | nil => simp [readVarint] at read
      | cons byte others =>
          rw [readVarint] at read
          split at read
          · rename_i small
            rcases read with ⟨⟩
            refine ⟨[byte], rfl, by simp, ?_⟩
            intro other
            rw [List.singleton_append, readVarint, if_pos small]
          · rename_i large
            rcases Option.bind_eq_some_iff.mp read with ⟨⟨high, behind⟩, inner, joined⟩
            rcases joined with ⟨⟩
            rcases hypothesis inner with ⟨used, rfl, _, takes⟩
            refine ⟨byte :: used, rfl, by simp, ?_⟩
            intro other
            rw [List.cons_append, readVarint, if_neg large, takes other]
            rfl

theorem takes_block (block : List UInt8) : Takes (readBlock block.length) block block := by
  intro rest
  simp [readBlock]

theorem readBlock_eq_some :
    readBlock count bytes = some (block, rest) ↔ bytes = block ++ rest ∧ block.length = count := by
  constructor
  · intro read
    simp only [readBlock] at read
    split at read
    · rename_i long
      rcases read with ⟨⟩
      exact ⟨(List.take_append_drop count bytes).symm, long⟩
    · cases read
  · rintro ⟨rfl, rfl⟩
    exact takes_block block rest

@[simp]
theorem length_littleEndian (width number : Nat) : (littleEndian width number).length = width := by
  induction width generalizing number with
  | zero => rfl
  | succ width hypothesis => rw [littleEndian, List.length_cons, hypothesis]

theorem ofLittleEndian_littleEndian {width : Nat} (fits : number < 256 ^ width) :
    ofLittleEndian (littleEndian width number) = number := by
  induction width generalizing number with
  | zero =>
      have none : number = 0 := by
        rw [Nat.pow_zero] at fits
        omega
      rw [none]
      rfl
  | succ width hypothesis =>
      have high : number / 256 < 256 ^ width := by
        rw [Nat.div_lt_iff_lt_mul (by decide)]
        exact fits
      have low : (UInt8.ofNat (number % 256)).toNat = number % 256 := by
        rw [UInt8.toNat_ofNat']
        omega
      have rest := hypothesis high
      simp only [ofLittleEndian] at rest
      simp only [ofLittleEndian, littleEndian, List.foldr_cons, low, rest]
      omega

/-! ## Tags -/

theorem readTag_tag (form_lt : form < 8) (fits : 8 * number + form < shortWordCount)
    (rest : List UInt8) : readTag (tag number form ++ rest) = some (number, form, rest) := by
  have small : 8 * number + form < 128 ^ 5 := Nat.lt_trans fits (by decide)
  have quotient : (8 * number + form) / 8 = number := by omega
  have remainder : (8 * number + form) % 8 = form := by omega
  simp only [readTag, tag, takes_varint small rest, Option.bind_eq_bind, Option.bind_some,
    Nat.not_le.mpr fits, if_false, quotient, remainder, Option.pure_def]

theorem readTag_local (read : readTag bytes = some (number, form, rest)) :
    ∃ used, bytes = used ++ rest ∧ used ≠ [] ∧
      ∀ other, readTag (used ++ other) = some (number, form, other) := by
  rcases Option.bind_eq_some_iff.mp read with ⟨⟨joined, behind⟩, varintRead, checked⟩
  rcases readVarint_local varintRead with ⟨used, rfl, notNil, takes⟩
  by_cases large : shortWordCount ≤ joined
  · simp only [large, if_true] at checked
    cases checked
  · simp only [large, if_false] at checked
    rcases checked with ⟨⟩
    refine ⟨used, rfl, notNil, ?_⟩
    intro other
    simp only [readTag, takes other, Option.bind_eq_bind, Option.bind_some, large, if_false]
    rfl

/-! ## Payloads -/

/-- A group of a number is skipped over the given bytes, whatever follows them. -/
def Skips (number : Nat) (used : List UInt8) : Prop :=
  ∀ fuel rest, used.length ≤ fuel → skipGroup fuel number (used ++ rest) = some rest

/-- A payload of a form is read from the given bytes, whatever follows them. -/
def PayloadOf (number form : Nat) (used : List UInt8) (payload : Payload) : Prop :=
  ∀ fuel rest, used.length ≤ fuel →
    readPayload (skipGroup fuel) number form (used ++ rest) = some (payload, rest)

theorem readPayload_local {skip : Nat → List UInt8 → Option (List UInt8)} {payload : Payload}
    (skips : ∀ bytes rest, skip number bytes = some rest →
      ∃ used, bytes = used ++ rest ∧ Skips number used)
    (read : readPayload skip number form bytes = some (payload, rest)) :
    ∃ used, bytes = used ++ rest ∧ PayloadOf number form used payload := by
  unfold readPayload at read
  split at read
  · rcases Option.bind_eq_some_iff.mp read with ⟨⟨word, behind⟩, varintRead, found⟩
    rcases found with ⟨⟩
    rcases readVarint_local varintRead with ⟨used, rfl, _, takes⟩
    refine ⟨used, rfl, ?_⟩
    intro fuel other _
    simp [readPayload, takes other]
  · rcases Option.bind_eq_some_iff.mp read with ⟨⟨block, behind⟩, blockRead, found⟩
    rcases found with ⟨⟩
    rcases readBlock_eq_some.mp blockRead with ⟨rfl, length⟩
    refine ⟨block, rfl, ?_⟩
    intro fuel other _
    have again : readBlock 8 (block ++ other) = some (block, other) :=
      readBlock_eq_some.mpr ⟨rfl, length⟩
    simp [readPayload, again]
  · rcases Option.bind_eq_some_iff.mp read with ⟨⟨length, behind⟩, varintRead, found⟩
    rcases Option.bind_eq_some_iff.mp found with ⟨⟨block, last⟩, blockRead, found⟩
    rcases found with ⟨⟩
    rcases readVarint_local varintRead with ⟨used, rfl, _, takes⟩
    rcases readBlock_eq_some.mp blockRead with ⟨rfl, rfl⟩
    refine ⟨used ++ block, by rw [List.append_assoc], ?_⟩
    intro fuel other _
    simp [readPayload, takes (block ++ other), takes_block block other]
  · rcases Option.map_eq_some_iff.mp read with ⟨behind, skipped, found⟩
    rcases found with ⟨⟩
    rcases skips _ _ skipped with ⟨used, rfl, again⟩
    refine ⟨used, rfl, ?_⟩
    intro fuel other enough
    simp [readPayload, again fuel other enough]
  · rcases Option.bind_eq_some_iff.mp read with ⟨⟨block, behind⟩, blockRead, found⟩
    rcases found with ⟨⟩
    rcases readBlock_eq_some.mp blockRead with ⟨rfl, length⟩
    refine ⟨block, rfl, ?_⟩
    intro fuel other _
    have again : readBlock 4 (block ++ other) = some (block, other) :=
      readBlock_eq_some.mpr ⟨rfl, length⟩
    simp [readPayload, again]
  · cases read

theorem payloadOf_varint {word : Nat} (fits : word < wordCount) :
    PayloadOf number 0 (varint word) (.varint word) := by
  intro fuel rest _
  have small : word < 128 ^ 10 := Nat.lt_trans fits (by decide)
  simp [readPayload, takes_varint small rest, Nat.mod_eq_of_lt fits]

theorem payloadOf_fixed32 {bits : Nat} (fits : bits < 256 ^ 4) :
    PayloadOf number 5 (littleEndian 4 bits) (.fixed32 bits) := by
  intro fuel rest _
  have again : readBlock 4 (littleEndian 4 bits ++ rest) = some (littleEndian 4 bits, rest) :=
    readBlock_eq_some.mpr ⟨rfl, length_littleEndian 4 bits⟩
  simp [readPayload, again, ofLittleEndian_littleEndian fits]

theorem payloadOf_fixed64 {bits : Nat} (fits : bits < 256 ^ 8) :
    PayloadOf number 1 (littleEndian 8 bits) (.fixed64 bits) := by
  intro fuel rest _
  have again : readBlock 8 (littleEndian 8 bits ++ rest) = some (littleEndian 8 bits, rest) :=
    readBlock_eq_some.mpr ⟨rfl, length_littleEndian 8 bits⟩
  simp [readPayload, again, ofLittleEndian_littleEndian fits]

/-- The number of bytes from which on the length of a block cannot be read. -/
def blockLimit : Nat := 128 ^ 5

theorem payloadOf_block (fits : block.length < blockLimit) :
    PayloadOf number 2 (Wire.block block) (.block block) := by
  intro fuel rest _
  have length_read := takes_varint fits (block ++ rest)
  simp [readPayload, Wire.block, length_read, takes_block block rest]

theorem skipGroup_local (skipped : skipGroup fuel number bytes = some rest) :
    ∃ used, bytes = used ++ rest ∧ Skips number used := by
  induction fuel generalizing number bytes rest with
  | zero => simp [skipGroup] at skipped
  | succ fuel hypothesis =>
      rw [skipGroup] at skipped
      rcases Option.bind_eq_some_iff.mp skipped with ⟨⟨inner, form, behind⟩, tagRead, afterTag⟩
      rcases readTag_local tagRead with ⟨tagUsed, rfl, notNil, tagAgain⟩
      have positive := List.length_pos_iff.mpr notNil
      by_cases ends : form = 4
      · simp only [ends, if_true] at afterTag
        by_cases same : inner = number
        · simp only [same, if_true] at afterTag
          rcases afterTag with ⟨⟩
          refine ⟨tagUsed, rfl, ?_⟩
          intro deeper other enough
          obtain ⟨less, rfl⟩ : ∃ less, deeper = less + 1 := ⟨deeper - 1, by omega⟩
          simp [skipGroup, tagAgain other, ends, same]
        · simp only [same, if_false] at afterTag
          cases afterTag
      · simp only [ends, if_false] at afterTag
        rcases Option.bind_eq_some_iff.mp afterTag with ⟨⟨payload, last⟩, payloadRead, afterField⟩
        rcases readPayload_local (fun _ _ => hypothesis) payloadRead with
          ⟨payloadUsed, rfl, payloadAgain⟩
        rcases hypothesis afterField with ⟨restUsed, rfl, restAgain⟩
        refine ⟨tagUsed ++ (payloadUsed ++ restUsed), by simp, ?_⟩
        intro deeper other enough
        simp only [List.length_append] at enough
        obtain ⟨less, rfl⟩ : ∃ less, deeper = less + 1 := ⟨deeper - 1, by omega⟩
        have payloadNext := payloadAgain less (restUsed ++ other) (by omega)
        have restNext := restAgain less other (by omega)
        simp only [skipGroup, List.append_assoc, tagAgain, Option.bind_eq_bind, Option.bind_some,
          ends, if_false, payloadNext, restNext]

/-! ## Fields -/

/-- A field of a number and a payload is read from the given bytes, whatever follows them. -/
def FieldOf (number : Nat) (payload : Payload) (used : List UInt8) : Prop :=
  used ≠ [] ∧ ∀ fuel rest, used.length ≤ fuel + 1 →
    readField fuel (used ++ rest) = some (⟨number, payload, used ++ rest, rest⟩, rest)

/-- A tag and a payload are a field. -/
theorem fieldOf_tag {payload : Payload} (positive : 0 < number) (form_lt : form < 8)
    (fits : 8 * number + form < shortWordCount)
    (payloadRead : PayloadOf number form used payload) :
    FieldOf number payload (tag number form ++ used) := by
  have notNil : tag number form ≠ [] := varint_ne_nil _
  refine ⟨by simp [notNil], ?_⟩
  intro fuel rest enough
  have longer := List.length_pos_iff.mpr notNil
  rw [List.length_append] at enough
  have payloadNext := payloadRead fuel rest (by omega)
  simp only [readField, List.append_assoc, readTag_tag form_lt fits, Option.bind_eq_bind,
    Option.bind_some, Nat.ne_of_gt positive, if_false, payloadNext, Option.pure_def]

theorem source_append {payload : Payload} :
    RawField.source ⟨number, payload, used ++ rest, rest⟩ = used := by
  simp [RawField.source]

/-- A field can be read again from the bytes that it was read from. -/
def RawField.Stands (field : RawField) : Prop := FieldOf field.number field.payload field.source

theorem readField_stands {field : RawField} (read : readField fuel bytes = some (field, rest)) :
    bytes = field.source ++ rest ∧ field.Stands := by
  rcases Option.bind_eq_some_iff.mp read with ⟨⟨number, form, content⟩, tagRead, checked⟩
  rcases readTag_local tagRead with ⟨tagUsed, rfl, notNil, tagAgain⟩
  by_cases zero : number = 0
  · simp only [zero, if_true] at checked
    cases checked
  · simp only [zero, if_false] at checked
    rcases Option.bind_eq_some_iff.mp checked with ⟨⟨payload, behind⟩, payloadRead, found⟩
    rcases found with ⟨⟩
    rcases readPayload_local (fun _ _ => skipGroup_local) payloadRead with
      ⟨payloadUsed, rfl, payloadAgain⟩
    have source : RawField.source ⟨number, payload, tagUsed ++ (payloadUsed ++ behind), behind⟩ =
        tagUsed ++ payloadUsed := by
      rw [← List.append_assoc]
      exact source_append
    refine ⟨by rw [source, List.append_assoc], ?_⟩
    rw [RawField.Stands, source]
    refine ⟨by simp [notNil], ?_⟩
    intro deeper other enough
    have longer := List.length_pos_iff.mpr notNil
    rw [List.length_append] at enough
    have payloadNext := payloadAgain deeper other (by omega)
    simp only [readField, List.append_assoc, tagAgain, Option.bind_eq_bind, Option.bind_some, zero,
      if_false, payloadNext, Option.pure_def]

/-! ## Sequences of fields -/

/-- Some bytes are those of fields that can be read anywhere, one after the other. -/
structure Consist (bytes : List UInt8) (fields : List RawField) : Prop where
  bytes_eq : bytes = fields.flatMap RawField.source
  stand : ∀ field ∈ fields, field.Stands

/-- Two fields say the same and have the same bytes, wherever they have been read. -/
def RawField.Same (left right : RawField) : Prop :=
  left.number = right.number ∧ left.payload = right.payload ∧ left.source = right.source

theorem consist_append {others : List UInt8} {fields otherFields : List RawField}
    (first : Consist bytes fields) (second : Consist others otherFields) :
    Consist (bytes ++ others) (fields ++ otherFields) := by
  constructor
  · rw [first.bytes_eq, second.bytes_eq, List.flatMap_append]
  · intro field member
    rcases List.mem_append.mp member with early | late
    · exact first.stand field early
    · exact second.stand field late

theorem readFieldsWithin_succ (notNil : bytes ≠ []) :
    readFieldsWithin (fuel + 1) bytes =
      (readField fuel bytes).bind fun read =>
        (readFieldsWithin fuel read.2).map (read.1 :: ·) := by
  cases bytes with
  | nil => exact absurd rfl notNil
  | cons byte others =>
      rw [readFieldsWithin]
      · cases readField fuel (byte :: others) with
        | none => rfl
        | some read =>
            simp only [Option.bind_eq_bind, Option.bind_some]
            cases readFieldsWithin fuel read.2 with
            | none => rfl
            | some fields => rfl
      · exact notNil

/-- Bytes that consist of fields split into these fields. -/
theorem readFieldsWithin_of_consist {fields : List RawField} (consist : Consist bytes fields)
    (enough : bytes.length ≤ fuel) :
    ∃ again, readFieldsWithin fuel bytes = some again ∧ List.Forall₂ RawField.Same again fields := by
  induction fields generalizing bytes fuel with
  | nil =>
      rcases consist.bytes_eq with rfl
      exact ⟨[], by simp [readFieldsWithin], .nil⟩
  | cons field fields hypothesis =>
      have ⟨notNil, again⟩ := consist.stand field List.mem_cons_self
      have bytes_eq : bytes = field.source ++ fields.flatMap RawField.source := consist.bytes_eq
      have longer := List.length_pos_iff.mpr notNil
      have length_eq := congrArg List.length bytes_eq
      rw [List.length_append] at length_eq
      obtain ⟨less, rfl⟩ : ∃ less, fuel = less + 1 := ⟨fuel - 1, by omega⟩
      have rest : Consist (fields.flatMap RawField.source) fields :=
        ⟨rfl, fun other later => consist.stand other (List.mem_cons_of_mem _ later)⟩
      have shorter : (fields.flatMap RawField.source).length ≤ less := by omega
      rcases hypothesis rest shorter with ⟨others, split, same⟩
      refine ⟨⟨field.number, field.payload, bytes, fields.flatMap RawField.source⟩ :: others, ?_,
        .cons ⟨rfl, rfl, ?_⟩ same⟩
      · rw [readFieldsWithin_succ (by simp [bytes_eq, notNil]), bytes_eq,
          again less _ (by omega)]
        simp only [Option.bind_some, split, Option.map_some]
      · rw [bytes_eq]
        exact source_append

theorem splitFields_of_consist {fields : List RawField} (consist : Consist bytes fields) :
    ∃ again, splitFields bytes = some again ∧ List.Forall₂ RawField.Same again fields :=
  readFieldsWithin_of_consist consist (Nat.le_refl _)

/-- Bytes that split into fields consist of them. -/
theorem consist_of_readFieldsWithin {fields : List RawField}
    (split : readFieldsWithin fuel bytes = some fields) : Consist bytes fields := by
  induction fuel generalizing bytes fields with
  | zero =>
      cases bytes with
      | nil =>
          simp only [readFieldsWithin, Option.some.injEq] at split
          subst split
          exact ⟨rfl, by simp⟩
      | cons byte others => simp [readFieldsWithin] at split
  | succ fuel hypothesis =>
      by_cases empty : bytes = []
      · subst empty
        simp only [readFieldsWithin, Option.some.injEq] at split
        subst split
        exact ⟨rfl, by simp⟩
      · rw [readFieldsWithin_succ empty] at split
        rcases Option.bind_eq_some_iff.mp split with ⟨⟨field, rest⟩, one, split⟩
        rcases Option.map_eq_some_iff.mp split with ⟨others, restSplit, rfl⟩
        have ⟨bytes_eq, stands⟩ := readField_stands one
        have later := hypothesis restSplit
        constructor
        · rw [List.flatMap_cons, ← later.bytes_eq]
          exact bytes_eq
        · intro other member
          rcases List.mem_cons.mp member with rfl | behind
          · exact stands
          · exact later.stand other behind

theorem consist_of_splitFields {fields : List RawField} (split : splitFields bytes = some fields) :
    Consist bytes fields :=
  consist_of_readFieldsWithin split

end NetImport.Descriptor.Wire
