import NetImport.Proofs.Descriptor.Arguments

/-!
# The variants of arguments

An argument holds its value in one of ten fields, and is read by one of five accessors, each of
which asks for one variant of value. This file states, for all accessors at once, which argument is
read, and which accessors admit an argument that holds a value in one field only: that of the field,
and, because messages are not looked at, both accessors of lists where the field is one of messages.
-/

namespace NetImport

namespace Descriptor

/-- The fields in which an argument may hold its value. -/
inductive Field where
  | float
  | int
  | bytes
  | floats
  | ints
  | strings
  | net
  | nets
  | tensor
  | tensors
  deriving DecidableEq, Repr

/-- The fields that hold networks and tensors. -/
def Field.messages : List Field := [net, nets, tensor, tensors]

namespace Argument

/-- Whether a field of an argument holds something. -/
def Holds (argument : Argument) : Field → Prop
  | .float => argument.float? ≠ none
  | .int => argument.int? ≠ none
  | .bytes => argument.bytes? ≠ none
  | .floats => argument.floats ≠ []
  | .ints => argument.ints ≠ []
  | .strings => argument.strings ≠ []
  | .net => argument.net? ≠ none
  | .nets => argument.nets ≠ []
  | .tensor => argument.tensor? ≠ none
  | .tensors => argument.tensors ≠ []

/-- One field holds something, and no other one does. -/
def HoldsOnly (argument : Argument) (field : Field) : Prop :=
  ∀ other, argument.Holds other ↔ other = field

/-- Bytes are those of a text, if there are any. -/
def HasText (argument : Argument) : Prop :=
  ∀ bytes, argument.bytes? = some bytes → ∃ text, Text.decodeUtf8? bytes = some text

end Argument

end Descriptor

namespace Variant

/-- What reading a variant gives. -/
abbrev Value : Variant → Type
  | .int => Int
  | .float => Binary64
  | .str => String
  | .ints => List Int
  | .floats => List Binary32

/-- The field that holds the values of a variant. -/
def field : Variant → Descriptor.Field
  | .int => .int
  | .float => .float
  | .str => .bytes
  | .ints => .ints
  | .floats => .floats

/-- The value without parts of a variant of lists. -/
def empty? : (variant : Variant) → Option variant.Value
  | .ints => some []
  | .floats => some []
  | .int | .float | .str => none

/-- The fields that have to be empty for an argument to be read as a list. -/
def excluded : Variant → List Descriptor.Field
  | .ints => [.floats, .strings, .int, .float, .bytes]
  | .floats => [.ints, .strings, .int, .float, .bytes]
  | .int | .float | .str => []

end Variant

namespace Descriptor

namespace Argument

/-- The value of a variant that an argument holds, where an absent list is the empty one. -/
def content? (argument : Argument) : (variant : Variant) → Option variant.Value
  | .int => argument.int?
  | .float => argument.float?.map Binary32.widen
  | .str => argument.bytes?.bind Text.decodeUtf8?
  | .ints => some argument.ints
  | .floats => some argument.floats

/-- What the accessor of a variant looks at: its own field, or for a list the fields of others. -/
def Admits (argument : Argument) (variant : Variant) : Prop :=
  (∀ field ∈ variant.excluded, ¬argument.Holds field) ∧
    (variant.empty? = none → argument.Holds variant.field)

variable {argument : Argument} {field : Field} {variant : Variant}

theorem last?_singleton {arguments : List Argument} {name : String}
    (last : last? arguments name = some argument) : last? [argument] name = some argument := by
  have member : argument ∈ arguments.filter fun listed => listed.name = .text name :=
    List.mem_of_getLast? last
  simp [last?, (List.mem_filter.mp member).2]

theorem admits_single_iff (single : variant.empty? = none) :
    argument.Admits variant ↔ argument.Holds variant.field := by
  refine ⟨fun admits => admits.2 single, fun holds => ⟨?_, fun _ => holds⟩⟩
  cases variant with
  | ints => cases single
  | floats => cases single
  | _ => simp [Variant.excluded]

/-- Lists are admitted where there are only messages, since the accessors do not look at these. -/
theorem admits_iff (only : argument.HoldsOnly field) :
    argument.Admits variant ↔
      variant.field = field ∨ variant.empty? ≠ none ∧ field ∈ Field.messages := by
  simp only [Admits, only _]
  cases variant <;> cases field <;>
    simp [Variant.excluded, Variant.empty?, Variant.field, Field.messages]

/-- An argument that holds a variant only has a value of it. -/
theorem exists_content (only : argument.HoldsOnly variant.field) (text : argument.HasText) :
    ∃ value, argument.content? variant = some value := by
  have held := (only variant.field).mpr rfl
  cases variant with
  | int => exact Option.ne_none_iff_exists'.mp held
  | float =>
      rcases Option.ne_none_iff_exists'.mp held with ⟨single, found⟩
      exact ⟨single.widen, by simp [content?, found]⟩
  | str =>
      rcases Option.ne_none_iff_exists'.mp held with ⟨bytes, found⟩
      rcases text bytes found with ⟨content, decoded⟩
      exact ⟨content, by simp [content?, found, decoded]⟩
  | ints => exact ⟨_, rfl⟩
  | floats => exact ⟨_, rfl⟩

/-- A list that is not held is read as the empty one. -/
theorem content?_of_vacant {nothing : variant.Value} (vacant : ¬argument.Holds variant.field)
    (isList : variant.empty? = some nothing) : argument.content? variant = some nothing := by
  cases variant with
  | ints =>
      rcases isList with ⟨⟩
      exact congrArg some (not_not.mp vacant)
  | floats =>
      rcases isList with ⟨⟩
      exact congrArg some (not_not.mp vacant)
  | _ => cases isList

/-- The list that is read where another field holds the value is empty. -/
theorem content?_of_empty? {nothing : variant.Value} (only : argument.HoldsOnly field)
    (other : variant.field ≠ field) (isList : variant.empty? = some nothing) :
    argument.content? variant = some nothing :=
  content?_of_vacant (mt (only variant.field).mp other) isList

end Argument

namespace Arguments

/-- Reads a variant of an argument, with a default for an absent one. -/
def access (arguments : Arguments) :
    (variant : Variant) → String → Option variant.Value → Except Error variant.Value
  | .int => arguments.int
  | .float => arguments.float
  | .str => arguments.str
  | .ints => arguments.ints
  | .floats => arguments.floats

variable {operatorType name : String} {arguments : List Argument} {argument : Argument}
  {variant : Variant} {default? : Option variant.Value}

theorem read_ofList {α : Type} {default? : Option α} {extract : Argument → Except Error α} :
    (ofList operatorType arguments).read name default? extract =
      match Argument.last? arguments name, default? with
      | some argument, _ => extract argument
      | none, some value => .ok value
      | none, none => .error (.missingArgument operatorType name) := by
  rw [← get?_ofList]
  rfl

/-- Without an argument of the name there is the default, or none. -/
theorem access_of_absent (absent : Argument.last? arguments name = none) :
    (ofList operatorType arguments).access variant name default? =
      match default? with
      | some value => .ok value
      | none => .error (.missingArgument operatorType name) := by
  cases variant <;>
    simp only [access, int, float, str, ints, floats, read_ofList, absent] <;>
    cases default? <;> rfl

theorem admits_ints_iff : argument.Admits .ints ↔
    ¬(argument.floats ≠ [] ∨ argument.strings ≠ [] ∨ isSingle argument) := by
  simp [Argument.Admits, Argument.Holds, Variant.excluded, Variant.empty?, isSingle, and_assoc]

theorem admits_floats_iff : argument.Admits .floats ↔
    ¬(argument.ints ≠ [] ∨ argument.strings ≠ [] ∨ isSingle argument) := by
  simp [Argument.Admits, Argument.Holds, Variant.excluded, Variant.empty?, isSingle, and_assoc]

/-- An argument that is admitted is read as what it holds, unless that should be a text. -/
theorem access_of_admits (last : Argument.last? arguments name = some argument)
    (admits : argument.Admits variant) :
    (ofList operatorType arguments).access variant name default? =
      match argument.content? variant with
      | some value => .ok value
      | none => .error .malformedText := by
  cases variant with
  | int =>
      rcases Option.ne_none_iff_exists'.mp (admits.2 rfl) with ⟨value, found⟩
      simp [access, int, read_ofList, last, Argument.content?, found, expect]
  | float =>
      rcases Option.ne_none_iff_exists'.mp (admits.2 rfl) with ⟨single, found⟩
      simp [access, float, read_ofList, last, Argument.content?, found, expect, Except.map]
  | str =>
      rcases Option.ne_none_iff_exists'.mp (admits.2 rfl) with ⟨bytes, found⟩
      cases decoded : Text.decodeUtf8? bytes <;>
        simp [access, str, read_ofList, last, Argument.content?, found, expect, bind, Except.bind,
          decoded]
  | ints =>
      simp only [access, ints, read_ofList, last, if_neg (admits_ints_iff.mp admits)]
      rfl
  | floats =>
      simp only [access, floats, read_ofList, last, if_neg (admits_floats_iff.mp admits)]
      rfl

/-- An argument that is not admitted holds another variant. -/
theorem access_of_not_admits (last : Argument.last? arguments name = some argument)
    (refused : ¬argument.Admits variant) :
    (ofList operatorType arguments).access variant name default? =
      .error (.wrongVariant operatorType name variant) := by
  have not_holds := fun single => mt (Argument.admits_single_iff single).mpr refused
  cases variant with
  | int =>
      have absent : argument.int? = none := not_not.mp (not_holds rfl)
      simp only [access, int, read_ofList, last, absent, expect]
      rfl
  | float =>
      have absent : argument.float? = none := not_not.mp (not_holds rfl)
      simp only [access, float, read_ofList, last, absent, expect]
      rfl
  | str =>
      have absent : argument.bytes? = none := not_not.mp (not_holds rfl)
      simp only [access, str, read_ofList, last, absent, expect]
      rfl
  | ints =>
      have holds := not_not.mp (mt admits_ints_iff.mpr refused)
      simp only [access, ints, read_ofList, last, if_pos holds]
      rfl
  | floats =>
      have holds := not_not.mp (mt admits_floats_iff.mpr refused)
      simp only [access, floats, read_ofList, last, if_pos holds]
      rfl

/-- Only the last argument of a name matters, and where there is one, a default does not. -/
theorem access_eq_of_last (last : Argument.last? arguments name = some argument) :
    (ofList operatorType arguments).access variant name default? =
      (ofList operatorType [argument]).access variant name none := by
  have alone := Argument.last?_singleton last
  by_cases admits : argument.Admits variant
  · rw [access_of_admits last admits, access_of_admits alone admits]
  · rw [access_of_not_admits last admits, access_of_not_admits alone admits]

/--
An accessor gives the default exactly if no argument has the name, and otherwise looks only at the
last one that has it. If this one holds something in one field only, the accessor of that field
gives its value, and every other accessor refuses it, except that the two accessors of lists read an
argument which holds only a network, networks, a tensor or tensors as the empty list.
-/
theorem access_by_last_argument (operatorType : String) (arguments : List Argument) (name : String)
    (variant : Variant) (default? : Option variant.Value) :
    (Argument.last? arguments name = none →
        (ofList operatorType arguments).access variant name default? =
          match default? with
          | some value => .ok value
          | none => .error (.missingArgument operatorType name)) ∧
      ∀ argument, Argument.last? arguments name = some argument →
        (ofList operatorType arguments).access variant name default? =
            (ofList operatorType [argument]).access variant name none ∧
          ∀ field, argument.HoldsOnly field → argument.HasText →
            (variant.field = field → ∃ value, argument.content? variant = some value ∧
                (ofList operatorType arguments).access variant name default? = .ok value) ∧
              (variant.field ≠ field → variant.empty? = none ∨ field ∉ Field.messages →
                (ofList operatorType arguments).access variant name default? =
                  .error (.wrongVariant operatorType name variant)) ∧
              ∀ nothing, variant.empty? = some nothing → field ∈ Field.messages →
                (ofList operatorType arguments).access variant name default? = .ok nothing := by
  refine ⟨access_of_absent, ?_⟩
  intro argument last
  refine ⟨access_eq_of_last last, ?_⟩
  intro field only text
  refine ⟨?_, ?_, ?_⟩
  · rintro rfl
    have admits := (Argument.admits_iff only).mpr (.inl rfl)
    rcases Argument.exists_content only text with ⟨value, found⟩
    refine ⟨value, found, ?_⟩
    rw [access_of_admits last admits, found]
  · intro other unread
    apply access_of_not_admits last
    rw [Argument.admits_iff only]
    rintro (same | ⟨isList, isMessage⟩)
    · exact other same
    · rcases unread with single | notMessage
      · exact isList single
      · exact notMessage isMessage
  · intro nothing isList isMessage
    have admits : argument.Admits variant :=
      (Argument.admits_iff only).mpr (.inr ⟨by simp [isList], isMessage⟩)
    have other : variant.field ≠ field := by
      rintro rfl
      cases variant <;> simp [Variant.field, Field.messages] at isMessage
    rw [access_of_admits last admits, Argument.content?_of_empty? only other isList]

end Arguments

namespace Sample

def laterArgument : Argument := ⟨.text "dims", none, none, none, [], [2, 3], [], none, [], none, []⟩

/-- A number and then, under the same name, a list of numbers. -/
def givenTwice : List Argument :=
  [⟨.text "dims", none, some 1, none, [], [], [], none, [], none, []⟩, laterArgument]

/-- An argument that holds a tensor. -/
def tensorArgument : Argument :=
  ⟨.text "dims", none, none, none, [], [], [], none, [], some (.done []), []⟩

end Sample

namespace Arguments

/-- The list is read, not the number in front of it, and an absent argument is the default. -/
theorem access_by_last_argument_sample :
    (ofList "Squeeze" Sample.givenTwice).ints "dims" none = .ok [2, 3] ∧
      (ofList "Squeeze" Sample.givenTwice).int "dims" (some 7) =
        .error (.wrongVariant "Squeeze" "dims" .int) ∧
      (ofList "Squeeze" Sample.givenTwice).int "axis" (some 7) = .ok 7 := by
  have last : Argument.last? Sample.givenTwice "dims" = some Sample.laterArgument := rfl
  have only : Sample.laterArgument.HoldsOnly .ints := by
    intro field
    cases field <;> simp [Argument.Holds, Sample.laterArgument]
  have text : Sample.laterArgument.HasText := by
    rintro _ ⟨⟩
  have ⟨held, _⟩ :=
    ((access_by_last_argument "Squeeze" Sample.givenTwice "dims" .ints none).2 _ last).2 _ only text
  have ⟨_, refused, _⟩ :=
    ((access_by_last_argument "Squeeze" Sample.givenTwice "dims" .int (some 7)).2 _ last).2 _ only text
  have absent := (access_by_last_argument "Squeeze" Sample.givenTwice "axis" .int (some 7)).1 rfl
  rcases held rfl with ⟨_, ⟨⟩, read⟩
  exact ⟨read, refused (by decide) (.inl rfl), absent⟩

/-- A tensor is read as the empty list by both accessors of lists. -/
theorem lists_read_from_tensor :
    Sample.tensorArgument.HoldsOnly .tensor ∧ Variant.ints.field ≠ .tensor ∧
      Variant.floats.field ≠ .tensor ∧
      (ofList "Squeeze" [Sample.tensorArgument]).ints "dims" none = .ok [] ∧
      (ofList "Squeeze" [Sample.tensorArgument]).floats "dims" none = .ok [] := by
  refine ⟨?_, by decide, by decide, rfl, rfl⟩
  intro field
  cases field <;> simp [Argument.Holds, Sample.tensorArgument]

end Arguments

end Descriptor

end NetImport
