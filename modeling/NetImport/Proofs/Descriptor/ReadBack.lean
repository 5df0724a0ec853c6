import NetImport.Proofs.Descriptor.Builder
import NetImport.Proofs.Descriptor.Literal
import NetImport.Proofs.Descriptor.Variants

/-!
# Reading arguments back

An operator that is built from named literals has an argument for each of them, from which the
accessor of the literal's variant gets the value back, and every other accessor gets none. Only an
empty list is the same for both kinds of lists.
-/

namespace NetImport.Descriptor

/--
A literal stands for a value of a variant. Truth values are integers, and floating-point numbers
count as what is left of them in single precision. A list is rectangular and made of numbers, in
row-major order: of floating-point numbers if one of them is such a number, of integers otherwise.
-/
inductive Literal.StandsFor : Literal → (variant : Variant) → variant.Value → Prop where
  | flag (value : Bool) : StandsFor (.item (.flag value)) .int (value.toNat : Int)
  | int {value : Int} (fits : fitsSigned value) : StandsFor (.item (.int value)) .int value
  | float (value : Binary64) : StandsFor (.item (.float value)) .float value.narrow.widen
  | text (value : String) : StandsFor (.item (.text value)) .str value
  | ints {extents : List Nat} {values : List Literal}
      (rectangular : Rectangular extents (.list values)) (room : FitsStorage 8 extents)
      (words : ∀ item ∈ itemsOfAll values, item.IsWord)
      (integer : itemsOfAll values ≠ [] → ∃ value, .int value ∈ itemsOfAll values) :
      StandsFor (.list values) .ints ((itemsOfAll values).filterMap Item.integer?)
  | floats {extents : List Nat} {values : List Literal}
      (rectangular : Rectangular extents (.list values)) (room : FitsStorage 8 extents)
      (reals : ∀ item ∈ itemsOfAll values, item.IsReal)
      (number : ∃ value, .float value ∈ itemsOfAll values) :
      StandsFor (.list values) .floats ((itemsOfAll values).map fun item => item.real.narrow)

/-! ## One argument -/

/-- An argument of a name holds a value of a variant and nothing else. -/
structure Argument.Carries (argument : Argument) (name : String) (variant : Variant)
    (value : variant.Value) : Prop where
  name : argument.name = .text name
  content : argument.content? variant = some value
  holds : ∀ field, argument.Holds field ↔ field = variant.field ∧ variant.empty? ≠ some value

section Carrying

variable {argument : Argument} {name : String} {variant other : Variant} {value : variant.Value}

/-- The accessor of the variant admits it, and one of lists also admits the empty list. -/
theorem Argument.Carries.admits_iff (carries : argument.Carries name variant value) :
    argument.Admits other ↔
      other = variant ∨ variant.empty? = some value ∧ other.empty? ≠ none := by
  simp only [Argument.Admits, carries.holds]
  cases variant <;> cases other <;>
    simp [Variant.excluded, Variant.empty?, Variant.field]

end Carrying

open Builder

section Building

variable {literal : Literal} {variant : Variant} {value : variant.Value}

theorem ofMessage_int (name : String) (value : Int) :
    Argument.ofMessage (namedArgument name [(3, .scalars [.integer value])]) =
      ⟨.text name, none, some value, none, [], [], [], none, [], none, []⟩ := by
  simp [Argument.ofMessage, Message.labelAt, namedArgument, Message.ofFields, Builder.text,
    Scalar.label, Scalar.integer?]

theorem ofMessage_single (name : String) (value : Binary32) :
    Argument.ofMessage (namedArgument name [(2, .scalars [.single value])]) =
      ⟨.text name, some value, none, none, [], [], [], none, [], none, []⟩ := by
  simp [Argument.ofMessage, Message.labelAt, namedArgument, Message.ofFields, Builder.text,
    Scalar.label, Scalar.single?]

theorem ofMessage_bytes (name : String) (value : List UInt8) :
    Argument.ofMessage (namedArgument name [(4, .scalars [.bytes value])]) =
      ⟨.text name, none, none, some value, [], [], [], none, [], none, []⟩ := by
  simp [Argument.ofMessage, Message.labelAt, namedArgument, Message.ofFields, Builder.text,
    Scalar.label, Scalar.bytes?]

theorem carries_int (name : String) (value : Int) :
    (Argument.ofMessage (namedArgument name [(3, .scalars [.integer value])])).Carries name .int
      value := by
  rw [ofMessage_int]
  refine ⟨rfl, rfl, ?_⟩
  intro field
  cases field <;> simp [Argument.Holds, Variant.field, Variant.empty?]

theorem carries_float (name : String) (value : Binary32) :
    (Argument.ofMessage (namedArgument name [(2, .scalars [.single value])])).Carries name .float
      value.widen := by
  rw [ofMessage_single]
  refine ⟨rfl, rfl, ?_⟩
  intro field
  cases field <;> simp [Argument.Holds, Variant.field, Variant.empty?]

theorem carries_text (name value : String) :
    (Argument.ofMessage
      (namedArgument name [(4, .scalars [.bytes (Text.encodeUtf8 value)])])).Carries name .str
        value := by
  rw [ofMessage_bytes]
  refine ⟨rfl, by simp [Argument.content?], ?_⟩
  intro field
  cases field <;> simp [Argument.Holds, Variant.field, Variant.empty?]

theorem carries_ints (name : String) (values : List Int) :
    (Argument.ofMessage (namedArgument name [(6, .scalars (values.map .integer))])).Carries name
      .ints values := by
  rw [ofMessage_integers]
  refine ⟨rfl, rfl, ?_⟩
  intro field
  cases field <;> simp [Argument.Holds, Variant.field, Variant.empty?, eq_comm]

theorem carries_floats (name : String) (values : List Binary32) :
    (Argument.ofMessage (namedArgument name [(5, singles values)])).Carries name .floats
      values := by
  rw [ofMessage_singles]
  refine ⟨rfl, rfl, ?_⟩
  intro field
  cases field <;> simp [Argument.Holds, Variant.field, Variant.empty?, eq_comm]

/-- An argument without values is an empty list of integers. -/
theorem carries_nothing (name : String) :
    (Argument.ofMessage (namedArgument name [(5, singles [])])).Carries name .ints [] := by
  rw [ofMessage_singles]
  refine ⟨rfl, rfl, ?_⟩
  intro field
  cases field <;> simp [Argument.Holds, Variant.field, Variant.empty?]

theorem argument_of_ints {values : List Literal} {integers : List Int}
    (pieces : (Literal.list values).pieces = .ok ((itemsOfAll values).map .item))
    (read : NumberList.ofPieces ((itemsOfAll values).map .item) = .ok (.ints integers))
    (name : String) :
    argument name (.list values) =
      .ok (namedArgument name [(6, .scalars (integers.map .integer))]) := by
  simp [argument, argumentValues, pieces, read, bind, Except.bind, pure, Except.pure, Except.map]

theorem argument_of_floats {values : List Literal} {numbers : List Binary32}
    (pieces : (Literal.list values).pieces = .ok ((itemsOfAll values).map .item))
    (read : NumberList.ofPieces ((itemsOfAll values).map .item) = .ok (.floats numbers))
    (name : String) :
    argument name (.list values) = .ok (namedArgument name [(5, singles numbers)]) := by
  simp [argument, argumentValues, pieces, read, bind, Except.bind, pure, Except.pure, Except.map]

theorem argument_of_standsFor (stands : literal.StandsFor variant value) (name : String) :
    ∃ message, argument name literal = .ok message ∧
      (Argument.ofMessage message).Carries name variant value := by
  cases stands with
  | flag value => exact ⟨_, rfl, carries_int name value.toNat⟩
  | int fits =>
      refine ⟨_, ?_, carries_int name _⟩
      simp [argument, argumentValues, fits, Except.map]
  | float value => exact ⟨_, rfl, carries_float name value.narrow⟩
  | text => exact ⟨_, rfl, carries_text name _⟩
  | @ints extents values rectangular room words integer =>
      by_cases empty : itemsOfAll values = []
      · have pieces := pieces_of_rectangular rectangular <| by
          rw [Literal.items, empty]
          exact room
        have nothing : NumberList.ofPieces ((itemsOfAll values).map .item) = .ok (.floats []) := by
          rw [empty]
          rfl
        have built := argument_of_floats pieces nothing name
        simp only [empty, List.filterMap_nil]
        exact ⟨_, built, carries_nothing name⟩
      · have pieces := pieces_of_rectangular rectangular <| by
          rw [Literal.items, commonElement_of_integers words (integer empty)]
          exact room
        have read := ofPieces_of_integers words (integer empty)
        exact ⟨_, argument_of_ints pieces read name, carries_ints name _⟩
  | @floats extents values rectangular room reals number =>
      have pieces := pieces_of_rectangular rectangular <| by
        rw [Literal.items]
        rcases commonElement_of_reals reals number with common | common
        · rw [common]
          exact room
        · rw [common]
          exact room
      have read := ofPieces_of_reals reals number
      exact ⟨_, argument_of_floats pieces read name, carries_floats name _⟩

end Building

/-! ## All arguments -/

section Tables

/-- Names that are bound one after the other, each once, stand in that order. -/
theorem entries_foldl_bind {Entry Name Value : Type} [DecidableEq Name] (key : Entry → Name)
    (value : Entry → Value) {entries : List Entry} (distinct : (entries.map key).Nodup) :
    (entries.foldl (fun table entry => table.bind (key entry) (value entry))
        (Registry.empty : Registry Name Value)).entries =
      entries.map fun entry => (key entry, value entry) := by
  induction entries using List.reverseRecOn with
  | nil => rfl
  | append_singleton entries last hypothesis =>
      rw [List.map_append, List.nodup_append] at distinct
      rcases distinct with ⟨before, _, apart⟩
      have unbound : (entries.map fun entry => (key entry, value entry)).lookup (key last) = none := by
        rw [List.lookup_eq_none_iff]
        intro pair member
        rcases List.mem_map.mp member with ⟨entry, listed, rfl⟩
        have differs := apart (key entry) (List.mem_map_of_mem listed) (key last) (by simp)
        simpa using Ne.symm differs
      rw [List.foldl_append, List.foldl_cons, List.foldl_nil, Registry.bind, hypothesis before,
        Registry.put_of_lookup_eq_none unbound, List.map_append, List.map_cons, List.map_nil]

theorem last?_of_nodup {arguments : List Argument} {argument : Argument} {name : String}
    (distinct : (arguments.map Argument.name).Nodup) (member : argument ∈ arguments)
    (named : argument.name = .text name) : Argument.last? arguments name = some argument := by
  unfold Argument.last?
  induction arguments with
  | nil => cases member
  | cons first arguments hypothesis =>
      rw [List.map_cons, List.nodup_cons] at distinct
      rcases distinct with ⟨apart, distinct⟩
      have differs : ∀ other ∈ arguments, other.name ≠ first.name := by
        intro other listed same
        exact apart (same ▸ List.mem_map_of_mem listed)
      rcases List.mem_cons.mp member with rfl | later
      · have others : arguments.filter (fun listed => listed.name = .text name) = [] := by
          rw [List.filter_eq_nil_iff]
          intro other listed
          simpa [named] using differs other listed
        simp [named, others]
      · have other : ¬first.name = .text name := by
          intro same
          exact differs argument later (named.trans same.symm)
        simpa [other] using hypothesis distinct later

/-- A table of arguments whose names differ has one entry for each of them. -/
theorem size_ofList {operatorType : String} {arguments : List Argument}
    (distinct : (arguments.map Argument.name).Nodup) :
    (Arguments.ofList operatorType arguments).size = arguments.length := by
  have entries := entries_foldl_bind Argument.name id distinct
  simp only [id_eq] at entries
  simp [Arguments.size, Registry.size, Arguments.ofList, entries]

theorem contains_ofList_iff {operatorType name : String} {arguments : List Argument} :
    (Arguments.ofList operatorType arguments).contains name ↔
      .text name ∈ arguments.map Argument.name := by
  rw [← not_iff_not, Bool.not_eq_true, Arguments.contains_ofList_eq_false]
  simp

end Tables

/-! ## Access -/

/--
The accessor of a variant gives a value for a name, whatever the default is, and every other
accessor tells that the variant is wrong. Only an empty list is one for both accessors of lists.
-/
structure Arguments.ReadsBack (arguments : Arguments) (name : String) (variant : Variant)
    (value : variant.Value) : Prop where
  own : ∀ default?, arguments.access variant name default? = .ok value
  others : ∀ other, other ≠ variant → (variant.empty? = some value → other.empty? = none) →
    ∀ default?, arguments.access other name default? =
      .error (.wrongVariant arguments.operatorType name other)
  lists : ∀ other nothing, variant.empty? = some value → other.empty? = some nothing →
    ∀ default?, arguments.access other name default? = .ok nothing

theorem readsBack_of_carries {operatorType name : String} {arguments : List Argument}
    {argument : Argument} {variant : Variant} {value : variant.Value}
    (last : Argument.last? arguments name = some argument)
    (carries : argument.Carries name variant value) :
    (Arguments.ofList operatorType arguments).ReadsBack name variant value := by
  constructor
  · intro default?
    have admits : argument.Admits variant := carries.admits_iff.mpr (.inl rfl)
    rw [Arguments.access_of_admits last admits, carries.content]
  · intro other differs single default?
    apply Arguments.access_of_not_admits last
    rw [carries.admits_iff]
    rintro (same | ⟨empty, isList⟩)
    · exact differs same
    · exact isList (single empty)
  · intro other nothing empty isList default?
    have admits : argument.Admits other := carries.admits_iff.mpr (.inr ⟨empty, by simp [isList]⟩)
    have vacant : ¬argument.Holds other.field := by
      rw [carries.holds]
      rintro ⟨_, nonempty⟩
      exact nonempty empty
    rw [Arguments.access_of_admits last admits, Argument.content?_of_vacant vacant isList]

/-! ## Operators -/

section Operators

variable {entries : List (String × Literal)} {name? : Option String}

/-- The names that an argument built with an operator can have. -/
def IsFree (name : String) : Prop := name ≠ "name" ∧ name ∉ reservedNames

theorem distinct_of_nodup (distinctNames : (entries.map Prod.fst).Nodup) :
    distinct entries = entries := by
  have bound := entries_foldl_bind Prod.fst Prod.snd distinctNames
  simpa [distinct] using bound

theorem mem_sortArguments {entry : String × Literal} :
    entry ∈ sortArguments entries ↔ entry ∈ entries :=
  List.mem_mergeSort

theorem nodup_sortArguments (distinctNames : (entries.map Prod.fst).Nodup) :
    ((sortArguments entries).map fun entry => Label.text entry.1).Nodup := by
  have labels : (entries.map fun entry => Label.text entry.1).Nodup := by
    have injective : Function.Injective Label.text := fun _ _ same => Label.text.inj same
    simpa [Function.comp_def] using distinctNames.map injective
  have reordered := (List.mergeSort_perm entries fun left right => left.1 ≤ right.1).map
    fun entry => Label.text entry.1
  exact reordered.nodup_iff.mpr labels

/-- Free names that differ are the names of the arguments, which are put in order. -/
theorem operator_of_argument {message : String × Literal → Message} (type : String)
    (inputs outputs : List String) (distinctNames : (entries.map Prod.fst).Nodup)
    (free : ∀ entry ∈ entries, IsFree entry.1)
    (built : ∀ entry ∈ entries, argument entry.1 entry.2 = .ok (message entry)) :
    operator type inputs outputs name? entries =
      .ok (operatorOf type inputs outputs (name?.getD "")
        ((sortArguments entries).map message)) := by
  have split : entries.partition (fun entry => entry.1 = "name") = ([], entries) := by
    rw [List.partition_eq_filter_filter, Prod.mk.injEq, List.filter_eq_nil_iff,
      List.filter_eq_self]
    constructor
    · intro entry member
      simpa using (free entry member).1
    · intro entry member
      simpa using (free entry member).1
  have allowed : entries.any (fun entry => entry.1 ∈ reservedNames) = false := by
    rw [List.any_eq_false]
    intro entry member
    simpa using (free entry member).2
  have made : (sortArguments entries).mapM (fun entry => argument entry.1 entry.2) =
      .ok ((sortArguments entries).map message) := by
    apply except_mapM_of_forall
    intro entry member
    exact built entry (mem_sortArguments.mp member)
  simp only [operator, distinct_of_nodup distinctNames, split, allowed, made]
  cases name? with
  | none => rfl
  | some name => rfl

/--
An operator that is built from literals under free names that differ has arguments of exactly these
names, and the value that a literal stands for is read back from its argument.
-/
theorem operator_reads_back (type operatorType : String) (inputs outputs : List String)
    (name? : Option String) (entries : List (String × Literal))
    (distinctNames : (entries.map Prod.fst).Nodup) (free : ∀ entry ∈ entries, IsFree entry.1)
    (stand : ∀ entry ∈ entries, ∃ variant value, entry.2.StandsFor variant value) :
    ∃ message, operator type inputs outputs name? entries = .ok message ∧
      let arguments := Arguments.ofList operatorType (Operator.ofMessage message).arguments
      arguments.size = entries.length ∧
        (∀ name, arguments.contains name ↔ name ∈ entries.map Prod.fst) ∧
        ∀ name literal, (name, literal) ∈ entries → ∀ variant value,
          literal.StandsFor variant value → arguments.ReadsBack name variant value := by
  have each : ∀ entry ∈ entries, ∃ message, argument entry.1 entry.2 = .ok message := by
    intro entry member
    rcases stand entry member with ⟨variant, value, stands⟩
    rcases argument_of_standsFor stands entry.1 with ⟨message, built, _⟩
    exact ⟨message, built⟩
  choose! message built using each
  have carries : ∀ entry ∈ entries, ∀ variant value, entry.2.StandsFor variant value →
      (Argument.ofMessage (message entry)).Carries entry.1 variant value := by
    intro entry member variant value stands
    rcases argument_of_standsFor stands entry.1 with ⟨other, otherBuilt, carries⟩
    rw [built entry member, Except.ok.injEq] at otherBuilt
    rw [otherBuilt]
    exact carries
  have named : ((sortArguments entries).map fun entry => Argument.ofMessage (message entry)).map
      Argument.name = (sortArguments entries).map fun entry => .text entry.1 := by
    rw [List.map_map]
    apply List.map_congr_left
    intro entry member
    rcases stand entry (mem_sortArguments.mp member) with ⟨variant, value, stands⟩
    exact (carries entry (mem_sortArguments.mp member) variant value stands).name
  have distinctArguments := named ▸ nodup_sortArguments distinctNames
  refine ⟨_, operator_of_argument type inputs outputs distinctNames free built, ?_⟩
  simp only [ofMessage_operatorOf, List.map_map, Function.comp_def]
  refine ⟨?_, ?_, ?_⟩
  · rw [size_ofList distinctArguments, List.length_map, sortArguments, List.length_mergeSort]
  · intro name
    rw [contains_ofList_iff, named]
    simp [mem_sortArguments]
  · intro name literal member variant value stands
    have held := carries _ member variant value stands
    have listed := List.mem_map_of_mem (f := fun entry => Argument.ofMessage (message entry))
      (mem_sortArguments.mpr member)
    exact readsBack_of_carries (last?_of_nodup distinctArguments listed held.name) held

end Operators

namespace Sample

/-- Two rows of two integers, the last of which is a truth value. -/
def rows : List Literal :=
  [.list [.item (.int 1), .item (.int 2)], .list [.item (.int 3), .item (.flag true)]]

def half : Binary64 := ⟨0x3fe0000000000000⟩

/-- An integer next to a number that is none. -/
def mixed : List Literal := [.item (.int 1), .item (.float half)]

theorem rows_standsFor : (Literal.list rows).StandsFor .ints [1, 2, 3, 1] := by
  have rectangular : Rectangular [2, 2] (.list rows) := by
    have first : Rectangular [2] _ := rectangular_row [.int 1, .int 2] (by simp)
    have second : Rectangular [2] _ := rectangular_row [.int 3, .flag true] (by simp)
    change Rectangular (rows.length :: [2]) (.list rows)
    apply Rectangular.list (by simp [rows])
    simpa [rows] using ⟨first, second⟩
  have words : ∀ item ∈ itemsOfAll rows, item.IsWord := by
    simp [rows, itemsOfAll, Literal.items, Item.IsWord]
    decide
  exact .ints rectangular (by decide) words fun _ => ⟨1, .head _⟩

theorem mixed_standsFor :
    (Literal.list mixed).StandsFor .floats [(Binary64.ofInt 1).narrow, half.narrow] := by
  have rectangular : Rectangular [2] (.list mixed) :=
    rectangular_row [.int 1, .float half] (by simp)
  have one : (Binary64.ofInt 1).isFinite := Binary64.isFinite_ofInt (by decide)
  have reals : ∀ item ∈ itemsOfAll mixed, item.IsReal := by
    simp [mixed, itemsOfAll, Literal.items, Item.IsReal, one]
  exact .floats rectangular (by decide) reals ⟨half, by simp [mixed, itemsOfAll, Literal.items]⟩

theorem nothing_standsFor : (Literal.list []).StandsFor .ints [] :=
  .ints .empty (by decide) (by simp [itemsOfAll]) (by simp [itemsOfAll])

def namedLists : List (String × Literal) :=
  [("scales", .list mixed), ("dims", .list rows), ("axes", .list [])]

end Sample

/-- Each list is read back in its variant, and only the empty one also in the other variant. -/
theorem operator_reads_back_sample :
    ∃ message, operator "T" ["x"] ["y"] none Sample.namedLists = .ok message ∧
      let arguments := Arguments.ofList "T" (Operator.ofMessage message).arguments
      arguments.size = 3 ∧ arguments.ints "dims" none = .ok [1, 2, 3, 1] ∧
        arguments.floats "dims" none = .error (.wrongVariant "T" "dims" .floats) ∧
        arguments.floats "scales" none =
          .ok [(Binary64.ofInt 1).narrow, Sample.half.narrow] ∧
        arguments.ints "axes" none = .ok [] ∧ arguments.floats "axes" none = .ok [] := by
  rcases operator_reads_back "T" "T" ["x"] ["y"] none Sample.namedLists (by decide)
    (by simp [Sample.namedLists, IsFree, reservedNames])
    (by
      simp only [Sample.namedLists, List.forall_mem_cons]
      exact ⟨⟨_, _, Sample.mixed_standsFor⟩, ⟨_, _, Sample.rows_standsFor⟩,
        ⟨_, _, Sample.nothing_standsFor⟩, by simp⟩) with
    ⟨message, built, size, _, read⟩
  have scales := read "scales" _ (.head _) _ _ Sample.mixed_standsFor
  have dims := read "dims" _ (.tail _ (.head _)) _ _ Sample.rows_standsFor
  have axes := read "axes" _ (.tail _ (.tail _ (.head _))) _ _ Sample.nothing_standsFor
  have wrong := dims.others .floats (by decide) (by simp [Variant.empty?]) none
  exact ⟨message, built, size, dims.own none, wrong, scales.own none, axes.own none,
    axes.lists .floats [] rfl rfl none⟩

namespace Sample

/-- A number in a list, in a list, and so on. -/
def nested : Nat → Literal
  | 0 => .item (.int 1)
  | levels + 1 => .list [nested levels]

theorem unfold_nested {levels depth : Nat} (deep : maximalRank < depth + levels) :
    (nested levels).unfold depth none = .error .rejectedValue := by
  induction levels generalizing depth with
  | zero =>
      have tooMany : ¬depth ≤ maximalRank := by omega
      simp [nested, Literal.unfold, acceptShape, tooMany, bind, Except.bind]
  | succ levels hypothesis =>
      have inner : (nested levels).unfold (depth + 1) none = .error .rejectedValue := by
        apply hypothesis
        omega
      by_cases bottom : maximalRank ≤ depth
      · simp [nested, Literal.unfold, bottom, bind, Except.bind, throw, throwThe,
          MonadExceptOf.throw]
      · simp [nested, Literal.unfold, unfoldAll, elementShape?, bottom, inner, bind,
          Except.bind]

end Sample

/-- One literal that is refused as an argument is refused for the whole operator. -/
theorem operator_of_refused {name : String} {literal : Literal} {error : Error}
    (free : IsFree name) (refused : argument name literal = .error error) (type : String)
    (inputs outputs : List String) :
    operator type inputs outputs none [(name, literal)] = .error error := by
  simp [operator, distinct_of_nodup, free.1, free.2, sortArguments, refused, bind, Except.bind]

/--
A literal called as the operator's own name is none of its arguments, one called as another part
is refused, and so is a list of more levels than an array has axes.
-/
theorem operator_not_always_reads_back :
    (∃ message, operator "T" [] [] none [("name", .item (.text "x"))] = .ok message ∧
      (Arguments.ofList "T" (Operator.ofMessage message).arguments).contains "name" = false) ∧
    operator "T" [] [] none [("inputs", .item (.int 1))] = .error .rejectedType ∧
    operator "T" [] [] none [("x", Sample.nested 65)] = .error .rejectedValue := by
  have named : operator "T" [] [] none [("name", .item (.text "x"))] =
      .ok (operatorOf "T" [] [] "x" []) := by
    simp [operator, distinct_of_nodup, operatorName, Literal.isPresent, Item.isPresent,
      Literal.asText, sortArguments, reservedNames, bind, Except.bind, pure, Except.pure]
  refine ⟨⟨_, named, ?_⟩, ?_, ?_⟩
  · simp [ofMessage_operatorOf, Arguments.contains_ofList_eq_false]
  · simp [operator, distinct_of_nodup, reservedNames]
  · apply operator_of_refused
    · simp [IsFree, reservedNames]
    · have deep : (Sample.nested 65).unfold 0 none = .error .rejectedValue := by
        apply Sample.unfold_nested
        decide
      rw [Sample.nested] at deep ⊢
      simp [argument, argumentValues, Literal.pieces, deep, bind, Except.bind, Except.map]

end NetImport.Descriptor
