import NetImport.Descriptor.Builder
import NetImport.Proofs.Number.Binary
import NetImport.Proofs.Steps

/-!
# Rectangular lists

A literal made of items only is rectangular if all elements of each of its lists have the same
extents. Its pieces are then its items in row-major order, provided that the lists are not nested
too deeply and that storage has room for them. Where the items are numbers, the type that they have
in common tells whether the list is one of integers or one of floating-point numbers. Integers that
fit no word have types of their own, but next to a floating-point number they make no difference.
-/

namespace NetImport.Descriptor

/-- A literal of items that has some extents along its levels of lists. -/
inductive Rectangular : List Nat → Literal → Prop where
  | item (value : Item) : Rectangular [] (.item value)
  | empty : Rectangular [0] (.list [])
  | list {extents : List Nat} {values : List Literal} (nonempty : values ≠ [])
      (each : ∀ value ∈ values, Rectangular extents value) :
      Rectangular (values.length :: extents) (.list values)

mutual

/-- The items of a literal in row-major order. -/
def Literal.items : Literal → List Item
  | .item value => [value]
  | .array _ => []
  | .list values => itemsOfAll values

def itemsOfAll : List Literal → List Item
  | [] => []
  | value :: values => value.items ++ itemsOfAll values

end

theorem rectangular_row (items : List Item) (nonempty : items ≠ []) :
    Rectangular [items.length] (.list (items.map .item)) := by
  have each : ∀ value ∈ items.map Literal.item, Rectangular [] value := by
    intro value member
    rcases List.mem_map.mp member with ⟨item, _, rfl⟩
    exact .item item
  simpa using Rectangular.list (by simpa using nonempty) each

/-! ## Pieces -/

section Unfolding

variable {extents : List Nat} {literal : Literal} {values : List Literal} {depth : Nat}
  {expected? : Option Shape}

/-- A shape that is expected, if there is one, has some extents. -/
def Expects (expected? : Option Shape) (extents : List Nat) : Prop :=
  ∀ shape, expected? = some shape → shape = extents.map Int.ofNat

/-- A literal is taken apart into its items, which lie in as many lists as it has extents. -/
def UnfoldsTo (outcome : Except Error Unfolded) (extents : List Nat) (items : List Item)
    (depth : Nat) : Prop :=
  outcome = .ok (extents.map Int.ofNat, items.map fun value => ⟨.item value, depth⟩)

theorem acceptShape_of_expects (expects : Expects expected? extents)
    (shallow : depth + extents.length ≤ maximalRank) :
    acceptShape depth expected? (extents.map Int.ofNat) = .ok () := by
  cases expected? with
  | none => simp [acceptShape, shallow]
  | some shape => simp [acceptShape, shallow, expects shape rfl]

/-- Where extents are expected of a list, all but the first are expected of its elements. -/
theorem elementShape?_of_expects {extent : Nat} (expects : Expects expected? (extent :: extents)) :
    ∃ inner?, elementShape? expected? extent = .ok inner? ∧ Expects inner? extents := by
  cases expected? with
  | none => exact ⟨none, rfl, by simp [Expects]⟩
  | some shape =>
      rcases expects shape rfl with rfl
      exact ⟨some (extents.map Int.ofNat), by simp [elementShape?], by simp [Expects]⟩

theorem unfoldAll_of_each {inner : Nat}
    (each : ∀ value ∈ values, ∀ expected?, Expects expected? extents →
      UnfoldsTo (value.unfold depth expected?) extents value.items inner)
    (expects : Expects expected? extents)
    (known : values ≠ [] ∨ expected? = some (extents.map Int.ofNat)) :
    UnfoldsTo (unfoldAll depth expected? values) extents (itemsOfAll values) inner := by
  induction values generalizing expected? with
  | nil =>
      rcases known with nonempty | known
      · exact absurd rfl nonempty
      · simp [UnfoldsTo, unfoldAll, itemsOfAll, known]
  | cons value values hypothesis =>
      rw [List.forall_mem_cons] at each
      have first := each.1 expected? expects
      have others := hypothesis each.2 (by simp [Expects]) (.inr rfl)
      simp only [UnfoldsTo] at first others ⊢
      simp [unfoldAll, itemsOfAll, first, others, bind, Except.bind, pure, Except.pure]

theorem unfold_of_rectangular (rectangular : Rectangular extents literal)
    (shallow : depth + extents.length ≤ maximalRank) (expects : Expects expected? extents) :
    UnfoldsTo (literal.unfold depth expected?) extents literal.items (depth + extents.length) := by
  induction rectangular generalizing depth expected? with
  | item value =>
      have accepted := acceptShape_of_expects expects shallow
      simp only [List.map_nil] at accepted
      simp [UnfoldsTo, Literal.unfold, Literal.items, accepted, bind, Except.bind, pure,
        Except.pure]
  | empty =>
      rcases elementShape?_of_expects expects with ⟨inner?, accepted, _⟩
      have below : ¬maximalRank ≤ depth := by
        simp only [List.length_cons] at shallow
        omega
      simp [UnfoldsTo, Literal.unfold, Literal.items, itemsOfAll, accepted, below, bind,
        Except.bind, pure, Except.pure]
  | @list extents values nonempty each hypothesis =>
      rcases elementShape?_of_expects expects with ⟨inner?, accepted, innerExpects⟩
      simp only [List.length_cons] at shallow
      have below : ¬maximalRank ≤ depth := by
        omega
      have elements : UnfoldsTo (unfoldAll (depth + 1) inner? values) extents (itemsOfAll values)
          (depth + 1 + extents.length) := by
        apply unfoldAll_of_each _ innerExpects (.inl nonempty)
        intro value member expected? expects
        exact hypothesis value member (by omega) expects
      have depth_eq : depth + (extents.length + 1) = depth + 1 + extents.length := by
        omega
      simp only [UnfoldsTo] at elements ⊢
      simp [Literal.unfold, Literal.items, accepted, below, nonempty, elements, depth_eq, bind,
        Except.bind, pure, Except.pure]

/-- The pieces of a rectangular literal are its items, as long as storage has room for them. -/
theorem pieces_of_rectangular (rectangular : Rectangular extents literal)
    (room : FitsStorage (Piece.commonElement (literal.items.map .item)).size extents) :
    literal.pieces = .ok (literal.items.map .item) := by
  have shallow : 0 + extents.length ≤ maximalRank := by
    simpa using room.1
  have expects : Expects none extents := by
    simp [Expects]
  have unfolded := unfold_of_rectangular rectangular shallow expects
  simp only [UnfoldsTo] at unfolded
  simp [Literal.pieces, unfolded, Function.comp_def, room, PlacedPiece.fits, Piece.shape, bind,
    Except.bind, pure, Except.pure]

end Unfolding

end NetImport.Descriptor

/-! ## Numbers -/

namespace NetImport

namespace Item

/-- A truth value, or an integer that fits a word. -/
def IsWord : Item → Prop
  | int value => fitsSigned value
  | flag _ => True
  | float _ | text _ | bytes _ | nothing => False

/-- A truth value, a floating-point number, or an integer near such a number. -/
def IsReal : Item → Prop
  | int value => (Binary64.ofInt value).isFinite
  | flag _ | float _ => True
  | text _ | bytes _ | nothing => False

/-- The floating-point number that stands for a number. -/
def real : Item → Binary64
  | int value => .ofInt value
  | flag value => .ofInt value.toNat
  | float value => value
  | text _ | bytes _ | nothing => .ofInt 0

variable {item : Item}

theorem toBinary64_of_isReal (isReal : item.IsReal) : item.toBinary64 = .ok item.real := by
  cases item with
  | int value =>
      have finite : (Binary64.ofInt value).isFinite := isReal
      simp [toBinary64, real, finite]
  | flag | float => rfl
  | text | bytes | nothing => cases isReal

theorem fitsSigned_of_isWord {value : Int} (isWord : item.IsWord)
    (integer : item.integer? = some value) : fitsSigned value := by
  cases item with
  | int held =>
      rcases integer with ⟨⟩
      exact isWord
  | flag held =>
      rcases integer with ⟨⟩
      cases held <;> decide
  | float | text | bytes | nothing => cases isWord

/-- The element types of integers that fit a word, and of truth values. -/
def wordTypes : List ElementType := [.bool, .signed 64]

/-- The element types of numbers. -/
def realTypes : List ElementType := [.bool, .signed 64, .unsigned 64, .double, .object]

theorem elementType_of_isWord (isWord : item.IsWord) : item.elementType ∈ wordTypes := by
  cases item with
  | int value =>
      have fits : fitsSigned value := isWord
      simp [elementType, fits, wordTypes]
  | flag => simp [elementType, wordTypes]
  | float | text | bytes | nothing => cases isWord

theorem elementType_of_isReal (isReal : item.IsReal) : item.elementType ∈ realTypes := by
  cases item with
  | int value =>
      simp only [elementType]
      split
      · simp [realTypes]
      · split
        · simp [realTypes]
        · simp [realTypes]
  | flag | float => simp [elementType, realTypes]
  | text | bytes | nothing => cases isReal

end Item

namespace Descriptor

open Item (wordTypes realTypes)

variable {items : List Item} {types upper : List ElementType}

/-- Some types have common types among them, and some of these absorb the others. -/
def Absorb (types upper : List ElementType) : Prop :=
  ∀ left ∈ types, ∀ right ∈ types, ∃ joined ∈ types,
    (ElementSpec.ofType left).join (.ofType right) = .ofType joined ∧
      (left ∈ upper ∨ right ∈ upper → joined ∈ upper)

theorem absorb_words : Absorb wordTypes [.signed 64] := by
  unfold Absorb
  decide

theorem absorb_reals : Absorb realTypes [.double, .object] := by
  unfold Absorb
  decide

/-- Items of such types have a common one, which absorbs if that of some item does. -/
theorem foldl_join_of_absorb (absorb : Absorb types upper)
    (each : ∀ item ∈ items, item.elementType ∈ types) {start : ElementType}
    (inTypes : start ∈ types) :
    ∃ joined ∈ types,
      (items.map Piece.item).foldl (fun spec piece => spec.join piece.element)
          (ElementSpec.ofType start) = .ofType joined ∧
        (start ∈ upper ∨ (∃ item ∈ items, item.elementType ∈ upper) → joined ∈ upper) := by
  induction items generalizing start with
  | nil => exact ⟨start, inTypes, rfl, by simp⟩
  | cons item items hypothesis =>
      rw [List.forall_mem_cons] at each
      rcases absorb start inTypes item.elementType each.1 with ⟨next, nextIn, next_eq, nextUpper⟩
      rcases hypothesis each.2 nextIn with ⟨joined, joinedIn, joined_eq, joinedUpper⟩
      refine ⟨joined, joinedIn, ?_, ?_⟩
      · simpa [Piece.element, next_eq] using joined_eq
      · rw [List.exists_mem_cons_iff]
        rintro (first | second | later)
        · exact joinedUpper (.inl (nextUpper (.inl first)))
        · exact joinedUpper (.inl (nextUpper (.inr second)))
        · exact joinedUpper (.inr later)

theorem commonElement_of_absorb (absorb : Absorb types upper)
    (each : ∀ item ∈ items, item.elementType ∈ types)
    (some_upper : ∃ item ∈ items, item.elementType ∈ upper) :
    ∃ joined ∈ upper, Piece.commonElement (items.map .item) = .ofType joined := by
  cases items with
  | nil => simp at some_upper
  | cons item items =>
      rw [List.forall_mem_cons] at each
      rw [List.exists_mem_cons_iff] at some_upper
      rcases foldl_join_of_absorb absorb each.2 each.1 with ⟨joined, _, joined_eq, joinedUpper⟩
      exact ⟨joined, joinedUpper some_upper, joined_eq⟩

theorem leaves_items : (items.map Piece.item).flatMap Piece.leaves = items.map Leaf.item := by
  induction items with
  | nil => rfl
  | cons item items hypothesis => simp [Piece.leaves, hypothesis]

/-! ## Lists of integers -/

theorem commonElement_of_integers (words : ∀ item ∈ items, item.IsWord)
    (integer : ∃ value, .int value ∈ items) :
    Piece.commonElement (items.map .item) = .ofType (.signed 64) := by
  rcases integer with ⟨value, listed⟩
  have fits : fitsSigned value := words _ listed
  have signed : (Item.int value).elementType ∈ [ElementType.signed 64] := by
    simp [Item.elementType, fits]
  rcases commonElement_of_absorb absorb_words
    (fun item member => Item.elementType_of_isWord (words item member)) ⟨_, listed, signed⟩ with
    ⟨joined, upper, joined_eq⟩
  rw [joined_eq, List.mem_singleton.mp upper]

theorem ofPieces_of_integers (words : ∀ item ∈ items, item.IsWord)
    (integer : ∃ value, .int value ∈ items) :
    NumberList.ofPieces (items.map .item) = .ok (.ints (items.filterMap Item.integer?)) := by
  have fits : ∀ value ∈ items.filterMap Item.integer?, fitsSigned value := by
    intro value member
    rcases List.mem_filterMap.mp member with ⟨item, listed, found⟩
    exact Item.fitsSigned_of_isWord (words item listed) found
  have common := commonElement_of_integers words integer
  have integers : (items.map Leaf.item).filterMap (fun leaf => leaf.toItem.integer?) =
      items.filterMap Item.integer? := by
    simp [List.filterMap_map, Leaf.toItem]
  simp only [NumberList.ofPieces, common, ElementSpec.ofType, ElementSpec.valueType, leaves_items,
    integers, NumberList.ofIntegers, List.all_eq_true.mpr fits, if_true]

/-! ## Lists of floating-point numbers -/

theorem commonElement_of_reals (reals : ∀ item ∈ items, item.IsReal)
    (number : ∃ value, .float value ∈ items) :
    Piece.commonElement (items.map .item) = .ofType .double ∨
      Piece.commonElement (items.map .item) = .ofType .object := by
  rcases number with ⟨value, listed⟩
  have double : (Item.float value).elementType ∈ [ElementType.double, .object] := by
    simp [Item.elementType]
  rcases commonElement_of_absorb absorb_reals
    (fun item member => Item.elementType_of_isReal (reals item member)) ⟨_, listed, double⟩ with
    ⟨joined, upper, joined_eq⟩
  simp only [List.mem_cons, List.not_mem_nil, or_false] at upper
  rcases upper with rfl | rfl
  · exact .inl joined_eq
  · exact .inr joined_eq

theorem ofReadings_of_reals {read : Leaf → Except Error Binary64}
    (reads : ∀ item, read (.item item) = item.toBinary64)
    (reals : ∀ item ∈ items, item.IsReal) :
    NumberList.ofReadings read (items.map .item) =
      .ok (.floats (items.map fun item => item.real.narrow)) := by
  have readings : (items.map Leaf.item).mapM read = .ok (items.map Item.real) := by
    rw [List.mapM_map]
    apply except_mapM_of_forall
    intro item member
    exact (reads item).trans (Item.toBinary64_of_isReal (reals item member))
  simp [NumberList.ofReadings, readings, Except.map]

theorem ofPieces_of_reals (reals : ∀ item ∈ items, item.IsReal)
    (number : ∃ value, .float value ∈ items) :
    NumberList.ofPieces (items.map .item) =
      .ok (.floats (items.map fun item => item.real.narrow)) := by
  rcases commonElement_of_reals reals number with common | common
  · simp only [NumberList.ofPieces, common, ElementSpec.ofType, ElementSpec.valueType, leaves_items]
    exact ofReadings_of_reals (fun _ => rfl) reals
  · have mixed : (items.map Leaf.item).all Leaf.isInteger = false := by
      rcases number with ⟨value, listed⟩
      rw [List.all_eq_false]
      refine ⟨.item (.float value), List.mem_map_of_mem listed, ?_⟩
      simp [Leaf.isInteger, Leaf.toItem, Item.integer?]
    simp only [NumberList.ofPieces, common, ElementSpec.ofType, ElementSpec.valueType,
      leaves_items, mixed]
    exact ofReadings_of_reals (fun _ => rfl) reals

end Descriptor

end NetImport
