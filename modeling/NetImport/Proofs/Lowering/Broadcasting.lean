import NetImport.Proofs.Lowering.Acceptance

/-!
# Which products and sums are accepted

A product or sum of two inputs takes operands of one shape, or expands the second one to the shape
of the first from one of its axes on. This file says what the arguments of such an operator and the
shapes of what its inputs denote have to be, and shows that the operators which are lowered are
those, and what each of them adds: the node of the operator and, if the second operand is expanded,
the node that expands it.
-/

namespace NetImport

open Descriptor

namespace Shape

/-- How an operand has to fit a shape in order to be expanded to it from one of its axes on. -/
structure FitsAt (operand target : Shape) (axis : Int) : Prop where
  inside : 0 ≤ axis
  inFront : axis + operand.length ≤ target.length
  extents : ∀ position < operand.length, operand.extentAt position = 1 ∨
    operand.extentAt position = target.extentAt (axis + position)

/-- Counted from the last axis, the extents of an operand are one or those of a target. -/
def EndsLike (operand target : Shape) : Prop :=
  ∀ position < operand.length, operand.extentAt (operand.length - 1 - position) = 1 ∨
    operand.extentAt (operand.length - 1 - position) =
      target.extentAt (target.length - 1 - position)

end Shape

theorem Graph.broadcastable_iff {operand target : Shape} {axis : Int} :
    broadcastable operand target axis ↔ operand.FitsAt target axis := by
  constructor
  · intro extends_to
    have ⟨⟨inside, inFront⟩, extents⟩ := extents_of_broadcastable extends_to
    exact ⟨inside, inFront, extents⟩
  · intro fits
    have inside := fits.inside
    have inFront := fits.inFront
    simp only [broadcastable, Bool.and_eq_true, decide_eq_true_eq, List.all_eq_true,
      Bool.or_eq_true]
    refine ⟨⟨inside, inFront⟩, ?_⟩
    rintro ⟨extent, expanded⟩ member
    rcases List.mem_iff_getElem.mp member with ⟨position, bound, pair⟩
    simp only [List.length_zip, List.length_drop] at bound
    simp only [List.getElem_zip, List.getElem_drop, Prod.mk.injEq] at pair
    rcases pair with ⟨rfl, rfl⟩
    have each := fits.extents position (by omega)
    have place : (axis + position).toNat = axis.toNat + position := by omega
    have inOperand : position < operand.length := by omega
    have inTarget : axis.toNat + position < target.length := by omega
    simpa [Shape.extentAt, List.getD_eq_getElem?_getD, place, inOperand, inTarget] using each

/-- An operand that fits a target up to its last axis fits it counted from behind. -/
theorem Shape.FitsAt.endsLike {operand target : Shape}
    (fits : operand.FitsAt target (target.length - operand.length)) : operand.EndsLike target := by
  intro position inside
  have each := fits.extents (operand.length - 1 - position) (by omega)
  have own : ((operand.length - 1 - position : Nat) : Int) = operand.length - 1 - position := by
    omega
  have other : (target.length : Int) - operand.length + (operand.length - 1 - position) =
      target.length - 1 - position := by
    omega
  rwa [own, other] at each

/--
How the arguments of a product or sum put its operands together: operands of one shape as they are,
or the second one expanded to the shape of the first from an axis on, where the argument minus one
stands for the axis that aligns the last axes of both.
-/
inductive Alignment (arguments : List Argument) (left right : Shape) : Option Int → Prop where
  | plain (broadcast : Argument.integerOf? arguments "broadcast" none = some 0)
      (same : left = right) : Alignment arguments left right none
  | expanded {axis aligned : Int}
      (broadcast : Argument.integerOf? arguments "broadcast" none = some 1)
      (given : Argument.integerOf? arguments "axis" none = some axis)
      (aligned_eq : aligned = if axis = -1 then (left.length : Int) - right.length else axis)
      (fits : right.FitsAt left aligned) : Alignment arguments left right (some aligned)

/-- With minus one for the axis, the last axes of both operands are aligned. -/
theorem Alignment.endsLike {arguments : List Argument} {left right : Shape} {aligned : Int}
    (alignment : Alignment arguments left right (some aligned))
    (last : Argument.integerOf? arguments "axis" none = some (-1)) :
    aligned + right.length = left.length ∧ right.EndsLike left := by
  cases alignment with
  | expanded _ given aligned_eq fits =>
      rcases Option.some.inj (last.symm.trans given) with rfl
      rw [if_pos rfl] at aligned_eq
      subst aligned_eq
      exact ⟨Int.sub_add_cancel _ _, fits.endsLike⟩

/-- What a product or sum has to be: both inputs denote something, and their shapes fit. -/
structure Combinable (session : Session) (operator : Operator) (left right : Shape)
    (axis? : Option Int) : Prop where
  leftInput : ∃ name, operator.inputs[0]? = some name ∧ session.shapeOf? name = some left
  rightInput : ∃ name, operator.inputs[1]? = some name ∧ session.shapeOf? name = some right
  alignment : Alignment operator.arguments left right axis?

/-- The nodes of a product or sum in a graph with some nodes: the second operand may be expanded. -/
def combination (setting : Setting) (operator : Operator) (operation : Operation) (count : Nat)
    (left right : Ref) (shape : Shape) : Option Int → List Node
  | none => [⟨setting.function, operator.title, operation, [left, right], shape⟩]
  | some axis =>
    [⟨setting.function, operator.title, .broadcast axis, [right], shape⟩,
      ⟨setting.function, operator.title, operation, [left, .node count], shape⟩]

/-- What a product or sum that is lowered has added to a session; its result is the last node. -/
structure Combined (setting : Setting) (operator : Operator) (operation : Operation)
    (session : Session) (shape : Shape) (axis? : Option Int) (ref : Ref) (after : Session) :
    Prop where
  published : ∀ name ∈ operator.outputs, after.names.get? name = some ref
  isLast : ref = .node (after.graph.nodes.length - 1)
  shape_eq : after.graph.shapeOf ref = shape
  nodes : ∃ left right mid,
    Lower.resolveAll (operator.inputs.take 2) session = .ok [left, right] mid ∧
      after.graph.vars = mid.graph.vars ∧
      after.graph.nodes = session.graph.nodes ++
        combination setting operator operation session.graph.nodes.length left right shape axis?

namespace Lower

variable {setting : Setting} {operator : Operator} {arguments : Arguments} {kind : OperatorKind}
  {operation : Operation} {session mid after : Session} {ref left right : Ref}

theorem pairwise?_eq_some :
    kind.pairwise? = some operation ↔
      (kind = .mul ∧ operation = .mul) ∨ (kind = .add ∧ operation = .add) := by
  cases kind <;> simp [OperatorKind.pairwise?, eq_comm]

theorem activations_of_pairwise? (combines : kind.pairwise? = some operation) :
    kind.activations setting operator = operator.inputs.take 2 := by
  rcases pairwise?_eq_some.mp combines with ⟨rfl, _⟩ | ⟨rfl, _⟩ <;> rfl

theorem rule_of_pairwise? (combines : kind.pairwise? = some operation) :
    rule setting operator arguments kind = arithmetic setting operator arguments operation := by
  rcases pairwise?_eq_some.mp combines with ⟨rfl, rfl⟩ | ⟨rfl, rfl⟩ <;> rfl

theorem take_two {names : List Label} {first second : Label} (isFirst : names[0]? = some first)
    (isSecond : names[1]? = some second) : names.take 2 = [first, second] := by
  rcases names with _ | ⟨_, _ | ⟨_, others⟩⟩
  · cases isFirst
  · cases isSecond
  · rcases isFirst with ⟨⟩
    rcases isSecond with ⟨⟩
    rfl

/-- The first two inputs are resolved one after the other. -/
theorem inputs_of_resolveFirstTwo
    (resolved : resolveAll (operator.inputs.take 2) session = .ok [left, right] mid) :
    ∃ first second one, operator.inputs[0]? = some first ∧ operator.inputs[1]? = some second ∧
      resolve first session = .ok left one ∧ resolve second one = .ok right mid := by
  rcases inputs : operator.inputs with _ | ⟨first, _ | ⟨second, others⟩⟩
  · simp [inputs] at resolved
  · simp [inputs] at resolved
  · simp only [inputs, List.take_succ_cons, List.take_zero, resolveAll_cons_eq_ok,
      resolveAll_nil_eq_ok] at resolved
    rcases resolved with ⟨_, one, _, resolvedLeft, ⟨_, _, _, resolvedRight, ⟨rfl, rfl⟩, rfl⟩, ⟨⟩⟩
    exact ⟨first, second, one, rfl, rfl, resolvedLeft, resolvedRight⟩

theorem resolveFirstTwo_bind {next : Ref → Ref → Lower Ref}
    (resolved : resolveAll (operator.inputs.take 2) session = .ok [left, right] mid)
    (rest : next left right mid = .ok ref after) :
    (resolveInput operator 0 >>= fun left => resolveInput operator 1 >>= next left) session =
      .ok ref after := by
  rcases inputs_of_resolveFirstTwo resolved with
    ⟨first, second, one, firstNamed, secondNamed, resolvedLeft, resolvedRight⟩
  refine Steps.bind_eq_ok.mpr
    ⟨left, one, resolveInput_eq_ok.mpr ⟨first, firstNamed, resolvedLeft⟩, ?_⟩
  exact Steps.bind_eq_ok.mpr
    ⟨right, mid, resolveInput_eq_ok.mpr ⟨second, secondNamed, resolvedRight⟩, rest⟩

/-- What a product or sum emits is its node, behind one that expands the second operand, if any. -/
theorem emits_pairwise {tensors : TensorStore} {inputs : List Ref} {graph grown : Graph}
    (combines : kind.pairwise? = some operation)
    (emits : Emits setting tensors operator arguments graph kind inputs ref grown) :
    ∃ left right, inputs = [left, right] ∧
      ((arguments.int "broadcast" none = .ok 0 ∧ graph.shapeOf left = graph.shapeOf right ∧
          ref = .node graph.nodes.length ∧
          grown = graph.withNode
            ⟨setting.function, operator.title, operation, [left, right], graph.shapeOf left⟩) ∨
        ∃ axis aligned, arguments.int "broadcast" none = .ok 1 ∧
          arguments.int "axis" none = .ok axis ∧
          aligned = Shape.broadcastAxis axis (graph.shapeOf left).length
            (graph.shapeOf right).length ∧
          Graph.broadcastable (graph.shapeOf right) (graph.shapeOf left) aligned ∧
          ref = .node (graph.nodes.length + 1) ∧
          grown = (graph.withNode ⟨setting.function, operator.title, .broadcast aligned, [right],
            graph.shapeOf left⟩).withNode ⟨setting.function, operator.title, operation,
              [left, .node graph.nodes.length], graph.shapeOf left⟩) := by
  cases emits with
  | arithmetic alsoCombines broadcast_eq same_shape =>
      rcases Option.some.inj (combines.symm.trans alsoCombines) with rfl
      exact ⟨_, _, rfl, .inl ⟨broadcast_eq, same_shape, rfl, rfl⟩⟩
  | broadcastArithmetic alsoCombines broadcast_eq axis_eq aligned_eq extends_to =>
      rcases Option.some.inj (combines.symm.trans alsoCombines) with rfl
      exact ⟨_, _, rfl, .inr ⟨_, _, broadcast_eq, axis_eq, aligned_eq, extends_to, rfl, rfl⟩⟩
  | elementwise applies =>
      rcases pairwise?_eq_some.mp combines with ⟨rfl, _⟩ | ⟨rfl, _⟩ <;> cases applies
  | pooling pools =>
      rcases pairwise?_eq_some.mp combines with ⟨rfl, _⟩ | ⟨rfl, _⟩ <;> cases pools
  | _ => cases combines

/-- A product or sum succeeds if its inputs are resolved and what it emits is in order. -/
theorem arithmetic_eq_ok (valid : session.Valid) (combines : kind.pairwise? = some operation) :
    arithmetic setting operator arguments operation session = .ok ref after ↔
      Lowered setting operator arguments session kind ref after := by
  have firstTwo : kind.activations setting operator = operator.inputs.take 2 :=
    activations_of_pairwise? combines
  refine ⟨arithmetic_lowered valid combines firstTwo, ?_⟩
  rintro @⟨inputs, mid, grown, resolved, emits, rfl⟩
  rw [firstTwo] at resolved
  have held := (resolveAll_valid valid resolved).1
  rcases emits_pairwise combines emits with ⟨left, right, rfl,
    ⟨broadcast_eq, same_shape, rfl, rfl⟩ |
      ⟨axis, aligned, broadcast_eq, axis_eq, rfl, extends_to, rfl, rfl⟩⟩
  · refine resolveFirstTwo_bind resolved (ofResult_bind_eq_ok.mpr ⟨0, broadcast_eq, ?_⟩)
    simp only [if_true, onGraph_eq_ok]
    exact ⟨_, Graph.createPairwise_eq_ok.mpr ⟨same_shape, rfl, rfl⟩, rfl⟩
  · have leftHeld := held left List.mem_cons_self
    refine resolveFirstTwo_bind resolved (ofResult_bind_eq_ok.mpr ⟨1, broadcast_eq, ?_⟩)
    rw [if_neg one_ne_zero, if_pos rfl]
    simp only [shape_bind, ofResult_bind_eq_ok, onGraph_bind_eq_ok, onGraph_eq_ok]
    refine ⟨axis, axis_eq, _, _, Graph.createBroadcast_eq_ok.mpr ⟨extends_to, rfl, rfl⟩,
      _, Graph.createPairwise_eq_ok.mpr ⟨?_, ?_, ?_⟩, rfl⟩
    · rw [Graph.shapeOf_withNode leftHeld, Graph.shapeOf_withNode_new]
    · rw [Graph.length_nodes_withNode]
    · rw [Graph.shapeOf_withNode leftHeld]

/-- What the first two inputs resolve to has the shapes of what they denoted before. -/
theorem shapes_of_resolveFirstTwo (valid : session.Valid)
    (resolved : resolveAll (operator.inputs.take 2) session = .ok [left, right] mid) :
    (∃ name, operator.inputs[0]? = some name ∧
        session.shapeOf? name = some (mid.graph.shapeOf left)) ∧
      ∃ name, operator.inputs[1]? = some name ∧
        session.shapeOf? name = some (mid.graph.shapeOf right) := by
  rcases inputs_of_resolveFirstTwo resolved with ⟨first, second, _, firstNamed, secondNamed, _, _⟩
  have shapes := (resolveAll_shapes valid resolved).1
  rw [take_two firstNamed secondNamed] at shapes
  rcases shapes with _ | ⟨leftShape, _ | ⟨rightShape, _⟩⟩
  exact ⟨⟨first, firstNamed, leftShape⟩, second, secondNamed, rightShape⟩

/-- Two inputs that denote something of some shapes resolve to references of these shapes. -/
theorem exists_resolveFirstTwo {first second : Shape} (valid : session.Valid)
    (leftInput : ∃ name, operator.inputs[0]? = some name ∧ session.shapeOf? name = some first)
    (rightInput : ∃ name, operator.inputs[1]? = some name ∧ session.shapeOf? name = some second) :
    ∃ left right mid, resolveAll (operator.inputs.take 2) session = .ok [left, right] mid ∧
      mid.graph.shapeOf left = first ∧ mid.graph.shapeOf right = second := by
  rcases leftInput with ⟨leftName, leftNamed, leftShape⟩
  rcases rightInput with ⟨rightName, rightNamed, rightShape⟩
  have named := take_two leftNamed rightNamed
  have denote : ∀ name ∈ operator.inputs.take 2, ∃ shape, session.shapeOf? name = some shape := by
    simp [named, leftShape, rightShape]
  rcases exists_resolveAll valid denote with ⟨refs, mid, resolved⟩
  have shapes := (resolveAll_shapes valid resolved).1
  rw [named] at shapes
  rcases shapes with _ | ⟨leftIs, _ | ⟨rightIs, ⟨⟩⟩⟩
  exact ⟨_, _, mid, resolved, Option.some.inj (leftIs.symm.trans leftShape),
    Option.some.inj (rightIs.symm.trans rightShape)⟩

/-- What a product or sum emits shows how its operands are aligned. -/
theorem alignment_of_emits {tensors : TensorStore} {inputs : List Ref} {graph grown : Graph}
    (combines : kind.pairwise? = some operation)
    (emits : Emits setting tensors operator (Arguments.ofList kind.type operator.arguments) graph
      kind inputs ref grown) :
    ∃ left right axis?, inputs = [left, right] ∧
      Alignment operator.arguments (graph.shapeOf left) (graph.shapeOf right) axis? := by
  rcases emits_pairwise combines emits with ⟨left, right, rfl,
    ⟨broadcast_eq, same_shape, _⟩ | ⟨axis, aligned, broadcast_eq, axis_eq, aligned_eq, fits, _⟩⟩
  · exact ⟨left, right, none, rfl,
      .plain (Arguments.int_ofList_eq_ok.mp broadcast_eq) same_shape⟩
  · exact ⟨left, right, some aligned, rfl,
      .expanded (Arguments.int_ofList_eq_ok.mp broadcast_eq)
        (Arguments.int_ofList_eq_ok.mp axis_eq) aligned_eq (Graph.broadcastable_iff.mp fits)⟩

/-- A product or sum that is lowered is what a product or sum has to be. -/
theorem combinable_of_lowered (valid : session.Valid) (combines : kind.pairwise? = some operation)
    (known : OperatorKind.ofLabel? operator.type = some kind)
    (lowered : lowerOperator setting operator session = .ok ref after) :
    ∃ left right axis?, Combinable session operator left right axis? := by
  rcases lowerOperator_emits valid known lowered with ⟨inputs, mid, grown, resolved, emits, _⟩
  rcases alignment_of_emits combines emits with ⟨left, right, axis?, rfl, alignment⟩
  rw [activations_of_pairwise? combines] at resolved
  have ⟨leftInput, rightInput⟩ := shapes_of_resolveFirstTwo valid resolved
  exact ⟨_, _, axis?, leftInput, rightInput, alignment⟩

/-- Operands that are aligned are put together by the nodes of a product or sum. -/
theorem emits_of_alignment {tensors : TensorStore} {graph : Graph} {axis? : Option Int}
    (combines : kind.pairwise? = some operation)
    (alignment : Alignment operator.arguments (graph.shapeOf left) (graph.shapeOf right) axis?) :
    ∃ ref grown, Emits setting tensors operator (Arguments.ofList kind.type operator.arguments)
        graph kind [left, right] ref grown ∧
      ref = .node (grown.nodes.length - 1) ∧ grown.shapeOf ref = graph.shapeOf left ∧
      grown.vars = graph.vars ∧
      grown.nodes = graph.nodes ++ combination setting operator operation graph.nodes.length left
        right (graph.shapeOf left) axis? := by
  cases alignment with
  | plain broadcast same =>
      refine ⟨_, _, .arithmetic combines (Arguments.int_ofList_eq_ok.mpr broadcast) same, ?_⟩
      simp [combination]
  | expanded broadcast given aligned_eq fits =>
      refine ⟨_, _, .broadcastArithmetic combines (Arguments.int_ofList_eq_ok.mpr broadcast)
        (Arguments.int_ofList_eq_ok.mpr given) aligned_eq (Graph.broadcastable_iff.mpr fits), ?_⟩
      rw [← Graph.length_nodes_withNode, Graph.shapeOf_withNode_new]
      simp [combination]

/-- What is as a product or sum has to be is lowered, and adds what a product or sum adds. -/
theorem lowerOperator_of_combinable {first second : Shape} {axis? : Option Int}
    (valid : session.Valid) (combines : kind.pairwise? = some operation)
    (known : OperatorKind.ofLabel? operator.type = some kind)
    (combinable : Combinable session operator first second axis?) :
    ∃ ref after, lowerOperator setting operator session = .ok ref after ∧
      Combined setting operator operation session first axis? ref after := by
  rcases exists_resolveFirstTwo valid combinable.leftInput combinable.rightInput with
    ⟨left, right, mid, resolved, rfl, rfl⟩
  rcases emits_of_alignment combines combinable.alignment with
    ⟨ref, grown, emits, isLast, shape_eq, vars_eq, nodes_eq⟩
  rw [(resolveAll_shapes valid resolved).2] at nodes_eq
  rw [← activations_of_pairwise? combines] at resolved
  have ruleSucceeds := (arithmetic_eq_ok valid combines).mpr (.intro resolved emits rfl)
  rw [← rule_of_pairwise? combines] at ruleSucceeds
  refine ⟨_, _, lowerOperator_eq_ok.mpr ⟨kind, _, known, ruleSucceeds, rfl⟩, {
    published := fun name listed => by simp [listed]
    isLast := isLast
    shape_eq := shape_eq
    nodes := ⟨left, right, mid, activations_of_pairwise? combines ▸ resolved, vars_eq, nodes_eq⟩ }⟩

/--
A product or sum is lowered exactly if it is what a product or sum has to be. Then its outputs are
bound to a node of the shape of its first operand, and that node and the one that expands its second
operand, if any, are all that is added. With minus one for the axis, the last axes of both operands
are aligned.
-/
theorem arithmetic_accepted_iff (setting : Setting) (session : Session) (operator : Operator)
    (kind : OperatorKind) (operation : Operation) (valid : session.Valid)
    (combines : kind.pairwise? = some operation)
    (known : OperatorKind.ofLabel? operator.type = some kind) :
    ((∃ ref after, lowerOperator setting operator session = .ok ref after) ↔
        ∃ left right axis?, Combinable session operator left right axis?) ∧
      ∀ ref after left right axis?, lowerOperator setting operator session = .ok ref after →
        Combinable session operator left right axis? →
          Combined setting operator operation session left axis? ref after ∧
            ∀ aligned, axis? = some aligned →
              Argument.integerOf? operator.arguments "axis" none = some (-1) →
                aligned + right.length = left.length ∧ right.EndsLike left := by
  refine ⟨⟨?_, ?_⟩, ?_⟩
  · rintro ⟨ref, after, lowered⟩
    exact combinable_of_lowered valid combines known lowered
  · rintro ⟨left, right, axis?, combinable⟩
    rcases lowerOperator_of_combinable valid combines known combinable with ⟨ref, after, lowered, _⟩
    exact ⟨ref, after, lowered⟩
  · intro ref after left right axis? lowered combinable
    rcases lowerOperator_of_combinable valid combines known combinable with
      ⟨_, _, alsoLowered, combined⟩
    rcases lowered.symm.trans alsoLowered with ⟨⟩
    refine ⟨combined, ?_⟩
    rintro aligned rfl last
    exact combinable.alignment.endsLike last

end Lower

namespace Sample

/-- Multiplies the input by a stored weight, with the last axes of both aligned. -/
def scale : Operator :=
  ⟨"Mul", "", ["x", "w"], ["y"], [integerArgument "broadcast" 1, integerArgument "axis" (-1)],
    .done []⟩

end Sample

namespace Lower

/-- A weight of the shape of the input is expanded from the first axis on. -/
theorem arithmetic_accepted_iff_sample :
    ∃ ref after, lowerOperator Sample.setting Sample.scale Sample.session = .ok ref after ∧
      Combined Sample.setting Sample.scale .mul Sample.session [1, 2] (some 0) ref after ∧
      Shape.EndsLike [1, 2] [1, 2] := by
  have combinable : Combinable Sample.session Sample.scale [1, 2] [1, 2] (some 0) := {
    leftInput := ⟨"x", rfl, rfl⟩
    rightInput := ⟨"w", rfl, rfl⟩
    alignment := .expanded rfl rfl rfl (Graph.broadcastable_iff.mp rfl) }
  have ⟨accepted, adds⟩ := arithmetic_accepted_iff Sample.setting Sample.session Sample.scale .mul
    .mul (Session.valid_of_entries (by decide)) rfl rfl
  rcases accepted.mpr ⟨_, _, _, combinable⟩ with ⟨ref, after, lowered⟩
  have ⟨combined, trailing⟩ := adds ref after _ _ _ lowered combinable
  exact ⟨ref, after, lowered, combined, (trailing 0 rfl rfl).2⟩

end Lower

end NetImport
