import NetImport.Proofs.Lowering.Promotion

/-!
# Which sums and concatenations are accepted

A sum takes any number of operands of one shape, and a concatenation any number of operands whose
shapes differ at most in the extent of the channels. The program compares every operand with the
first one, or with the sum of those in front of it. This file says what the inputs of such an
operator have to be without naming a first one among them, and shows that the operators which are
lowered are those, and what each of them adds: additions from the left, or one node that joins the
operands in their order. An input may occur several times, and is promoted at most once.
-/

namespace NetImport

open Descriptor

/-! ## Shapes and axes -/

/-- The axis of the channels in the order of axes that the arguments of an operator give. -/
inductive ChannelAxis (arguments : List Argument) : Int → Prop where
  | second (order : Argument.textOf? arguments "order" (some "NCHW") = some "NCHW") :
      ChannelAxis arguments 1
  | last (order : Argument.textOf? arguments "order" (some "NCHW") = some "NHWC") :
      ChannelAxis arguments 3

theorem ChannelAxis.nonneg {arguments : List Argument} {axis : Int}
    (channels : ChannelAxis arguments axis) : 0 ≤ axis := by
  cases channels with
  | second => decide
  | last => decide

theorem Descriptor.Arguments.channelAxis_ofList_eq_ok {type : String}
    {arguments : List Argument} {axis : Int} :
    (Arguments.ofList type arguments).channelAxis = .ok axis ↔ ChannelAxis arguments axis := by
  have reads : ∀ order, (Arguments.ofList type arguments).str "order" (some "NCHW") = .ok order ↔
      Argument.textOf? arguments "order" (some "NCHW") = some order :=
    fun _ => Arguments.str_ofList_eq_ok
  simp only [Arguments.channelAxis, Arguments.defaultOrder]
  constructor
  · intro found
    rcases except_bind_eq_ok.mp found with ⟨order, given, chosen⟩
    have text := (reads order).mp given
    split at chosen
    · rename_i isDefault
      rcases chosen with ⟨⟩
      exact .second (isDefault ▸ text)
    · split at chosen
      · rename_i isOther
        rcases chosen with ⟨⟩
        exact .last (isOther ▸ text)
      · cases chosen
  · rintro (order | order)
    · rw [(reads _).mpr order]
      rfl
    · rw [(reads _).mpr order]
      rfl

/-- Two shapes have the same number of axes and the same extents on all axes but one. -/
def Shape.AgreeBeside (axis : Int) (one other : Shape) : Prop :=
  one.length = other.length ∧
    ∀ position : Nat, (position : Int) ≠ axis → one.extentAt position = other.extentAt position

theorem Graph.agreeBeside_iff {axis : Nat} {one other : Shape} :
    agreeBeside axis one other ↔ one.AgreeBeside axis other := by
  constructor
  · intro agree
    have ⟨length, extents⟩ := extents_of_agreeBeside agree
    exact ⟨length.symm, fun position differ => (extents position (by omega)).symm⟩
  · rintro ⟨length, extents⟩
    simp only [agreeBeside, Bool.and_eq_true, decide_eq_true_eq]
    refine ⟨length, List.ext_getElem (by simpa using length) ?_⟩
    intro position inOne inOther
    simp only [List.length_set] at inOne inOther
    by_cases here : position = axis
    · subst here
      simp
    · have extent := extents position (by omega)
      simpa [List.getElem_set_ne (Ne.symm here), Shape.extentAt, List.getD_eq_getElem?_getD, inOne,
        inOther] using extent

namespace Shape

variable {axis : Int} {one two other : Shape}

theorem AgreeBeside.symm (agree : one.AgreeBeside axis two) : two.AgreeBeside axis one :=
  ⟨agree.1.symm, fun position differ => (agree.2 position differ).symm⟩

theorem AgreeBeside.trans (first : one.AgreeBeside axis two) (second : two.AgreeBeside axis other) :
    one.AgreeBeside axis other :=
  ⟨first.1.trans second.1,
    fun position differ => (first.2 position differ).trans (second.2 position differ)⟩

/-- Changing the extent of an axis changes no other one. -/
theorem agreeBeside_set (shape : Shape) (axis : Nat) (extent : Int) :
    AgreeBeside axis (List.set shape axis extent) shape :=
  ⟨List.length_set, fun _ differ => Graph.extentAt_set_ne extent (by omega)⟩

end Shape

/-! ## What is asked and what is added -/

/-- What a sum has to be: it has inputs, and all of them denote something of one shape. -/
structure Summable (session : Session) (operator : Operator) (shape : Shape) : Prop where
  nonempty : operator.inputs ≠ []
  denotes : ∀ name ∈ operator.inputs, session.shapeOf? name = some shape

/--
What a concatenation has to be: it has inputs, an axis for the channels, and all its inputs denote
something that has this axis and agrees with the others on all other axes.
-/
structure Joinable (session : Session) (operator : Operator) (axis : Int) (shapes : List Shape) :
    Prop where
  nonempty : operator.inputs ≠ []
  channels : ChannelAxis operator.arguments axis
  denotes : operator.inputs.map session.shapeOf? = shapes.map some
  inside : ∀ shape ∈ shapes, axis < shape.length
  agree : ∀ one ∈ shapes, ∀ other ∈ shapes, one.AgreeBeside axis other

/--
An operator has read all its inputs, in order: each one was published, or is a variable that was
added for it, and one variable was added for each name, however often it occurs, that was not
published.
-/
structure Gathered (session : Session) (operator : Operator) (refs : List Ref) (after : Session) :
    Prop where
  resolved : ∃ mid, Lower.resolveAll operator.inputs session = .ok refs mid
  found : List.Forall₂ (session.Finds after.graph) operator.inputs refs
  vars : after.graph.vars =
    session.graph.vars ++ operator.inputs.eraseDups.flatMap session.promotions
  promotions : ∀ name ∈ operator.inputs,
    (session.promotions name).length = if session.names.contains name then 0 else 1

namespace Graph

/--
The sum of a first reference and others, added from the left; the nodes that add the others lie one
behind the other from a position on.
-/
inductive SumsTo (graph : Graph) (function : Nat) (name : Label) (shape : Shape) (start : Nat)
    (first : Ref) : List Ref → Ref → Prop where
  | first : SumsTo graph function name shape start first [] first
  | add {others : List Ref} {total ref : Ref}
      (sums : SumsTo graph function name shape start first others total)
      (isNode : graph.nodes[start + others.length]? =
        some ⟨function, name, .add, [total, ref], shape⟩) :
      SumsTo graph function name shape start first (others ++ [ref])
        (.node (start + others.length))

variable {graph grown : Graph} {function : Nat} {name : Label} {shape : Shape} {start : Nat}
  {first total : Ref} {others : List Ref}

theorem SumsTo.grows (sums : graph.SumsTo function name shape start first others total)
    (grows : graph.GrowsTo grown) : grown.SumsTo function name shape start first others total := by
  induction sums with
  | first => exact .first
  | add _ isNode hypothesis =>
      have inside := (List.getElem?_eq_some_iff.mp isNode).1
      exact .add hypothesis ((grows.node_get inside).trans isNode)

theorem SumsTo.shapeOf_eq (sums : graph.SumsTo function name shape start first others total)
    (first_shape : graph.shapeOf first = shape) : graph.shapeOf total = shape := by
  cases sums with
  | first => exact first_shape
  | add _ isNode => simp [shapeOf, isNode]

/-- Adding further references continues a sum. -/
theorem sumsTo_withSum (refs : List Ref)
    (sums : graph.SumsTo function name shape start first others total)
    (isNext : graph.nodes.length = start + others.length)
    (total_shape : graph.shapeOf total = shape) :
    (withSum function name graph total refs).2.SumsTo function name shape start first
        (others ++ refs) (withSum function name graph total refs).1 ∧
      (withSum function name graph total refs).2.nodes.length =
        start + others.length + refs.length := by
  induction refs generalizing graph total others with
  | nil => exact ⟨by simpa [withSum] using sums, isNext⟩
  | cons ref refs hypothesis =>
      have longer :
          (graph.withNode ⟨function, name, .add, [total, ref], graph.shapeOf total⟩).SumsTo
            function name shape start first (others ++ [ref]) (.node graph.nodes.length) := by
        rw [isNext]
        refine .add (sums.grows (growsTo_withNode _ _)) ?_
        rw [← isNext, nodes_withNode, List.getElem?_concat_length, total_shape]
      have continued := hypothesis longer (by simp [isNext]; omega)
        (by rw [shapeOf_withNode_new, total_shape])
      rw [List.append_assoc, List.length_append] at continued
      refine ⟨continued.1, continued.2.trans ?_⟩
      simp only [List.length_cons, List.length_nil]
      omega

end Graph

/-- What a sum that is lowered has added to a session. -/
structure Summed (setting : Setting) (operator : Operator) (session : Session) (shape : Shape)
    (ref : Ref) (after : Session) : Prop where
  published : ∀ name ∈ operator.outputs, after.names.get? name = some ref
  shape_eq : after.graph.shapeOf ref = shape
  kept : session.graph.nodes <+: after.graph.nodes
  count : after.graph.nodes.length + 1 = session.graph.nodes.length + operator.inputs.length
  operands : ∃ first others, Gathered session operator (first :: others) after ∧
    after.graph.SumsTo setting.function operator.title shape session.graph.nodes.length first others
      ref

/-- What a concatenation that is lowered has added to a session. -/
structure Joined (setting : Setting) (operator : Operator) (session : Session) (axis : Int)
    (shapes : List Shape) (ref : Ref) (after : Session) : Prop where
  published : ∀ name ∈ operator.outputs, after.names.get? name = some ref
  isNew : ref = .node session.graph.nodes.length
  node : ∃ refs shape, Gathered session operator refs after ∧
    after.graph.nodes = session.graph.nodes ++
      [⟨setting.function, operator.title, .concat axis, refs, shape⟩] ∧
    (∀ operand ∈ shapes, shape.AgreeBeside axis operand) ∧
    shape.extentAt axis = (shapes.map fun operand => operand.extentAt axis).sum

namespace Lower

variable {setting : Setting} {operator : Operator} {arguments : Arguments}
  {session mid after : Session} {ref : Ref} {refs : List Ref} {names : List Label}

/-! ## Inputs -/

/-- What names resolve to has the shapes that they denoted before. -/
theorem shapes_of_resolveAll (valid : session.Valid)
    (resolved : resolveAll names session = .ok refs mid) :
    names.map session.shapeOf? = (refs.map mid.graph.shapeOf).map some := by
  have shapes := (resolveAll_shapes valid resolved).1
  clear resolved
  induction shapes with
  | nil => rfl
  | cons shape _ hypothesis => simp only [List.map_cons, shape, hypothesis]

theorem gathered_of_resolveAll (valid : session.Valid)
    (resolved : resolveAll operator.inputs session = .ok refs mid)
    (grows : mid.graph.GrowsTo after.graph) (sameVars : after.graph.vars = mid.graph.vars) :
    Gathered session operator refs after where
  resolved := ⟨mid, resolved⟩
  found := (resolveAll_finds resolved).imp fun _ _ finds => finds.grows grows
  vars := sameVars.trans (resolveAll_vars resolved)
  promotions name member := by
    have denotes : session.shapeOf? name ∈ operator.inputs.map session.shapeOf? :=
      List.mem_map_of_mem member
    rw [shapes_of_resolveAll valid resolved] at denotes
    rcases List.mem_map.mp denotes with ⟨shape, _, denotes⟩
    exact Session.length_promotions denotes.symm

/-! ## Sums -/

/-- References of one shape are added up. -/
theorem addAll_of_same_shape {total : Ref} (held : session.graph.holds total)
    (allHeld : ∀ ref ∈ refs, session.graph.holds ref)
    (same_shape : ∀ ref ∈ refs, session.graph.shapeOf ref = session.graph.shapeOf total) :
    let summed := Graph.withSum setting.function operator.title session.graph total refs
    addAll setting operator.title total refs session =
      .ok summed.1 { session with graph := summed.2 } := by
  induction refs generalizing session total with
  | nil => rfl
  | cons first others hypothesis =>
      have othersHeld : ∀ ref ∈ others, session.graph.holds ref :=
        fun ref later => allHeld ref (List.mem_cons_of_mem _ later)
      simp only [addAll, Graph.createAdd, onGraph_bind_eq_ok, Graph.createPairwise_eq_ok]
      refine ⟨_, _, ⟨(same_shape first List.mem_cons_self).symm, rfl, rfl⟩, ?_⟩
      apply hypothesis
      · simp [Graph.holds]
      · intro ref later
        exact Graph.holds_withNode (othersHeld ref later)
      · intro ref later
        rw [Graph.shapeOf_withNode (othersHeld ref later), Graph.shapeOf_withNode_new]
        exact same_shape ref (List.mem_cons_of_mem _ later)

theorem emits_sum {tensors : TensorStore} {graph grown : Graph}
    (emits : Emits setting tensors operator arguments graph .sum refs ref grown) :
    ∃ first others, refs = first :: others ∧
      (∀ other ∈ others, graph.shapeOf other = graph.shapeOf first) ∧
      ref = (Graph.withSum setting.function operator.title graph first others).1 ∧
      grown = (Graph.withSum setting.function operator.title graph first others).2 := by
  cases emits with
  | elementwise applies => cases applies
  | pooling pools => cases pools
  | arithmetic combines => cases combines
  | broadcastArithmetic combines => cases combines
  | sum same_shape => exact ⟨_, _, rfl, same_shape, rfl, rfl⟩

/-- A sum succeeds if its inputs are resolved and have one shape. -/
theorem sum_eq_ok (valid : session.Valid) :
    sum setting operator session = .ok ref after ↔
      Lowered setting operator arguments session .sum ref after := by
  refine ⟨sum_lowered valid, ?_⟩
  rintro @⟨inputs, mid, grown, resolved, emits, rfl⟩
  rcases emits_sum emits with ⟨first, others, rfl, same_shape, rfl, rfl⟩
  have held := (resolveAll_valid valid resolved).1
  refine Steps.bind_eq_ok.mpr ⟨_, mid, resolved, ?_⟩
  exact addAll_of_same_shape (held _ List.mem_cons_self)
    (fun ref later => held ref (List.mem_cons_of_mem _ later)) same_shape

/-- A sum that is lowered is what a sum has to be. -/
theorem summable_of_lowered (valid : session.Valid)
    (lowered : Lowered setting operator arguments session .sum ref after) :
    ∃ shape, Summable session operator shape := by
  rcases lowered with @⟨inputs, mid, grown, resolved, emits, rfl⟩
  rcases emits_sum emits with ⟨first, others, rfl, same_shape, rfl, rfl⟩
  have shapes : operator.inputs.map session.shapeOf? = _ := shapes_of_resolveAll valid resolved
  refine ⟨mid.graph.shapeOf first, ?_, ?_⟩
  · rintro nothing
    simp [nothing] at shapes
  · intro name member
    have denotes : session.shapeOf? name ∈ operator.inputs.map session.shapeOf? :=
      List.mem_map_of_mem member
    rw [shapes] at denotes
    simp only [List.map_cons, List.map_map, List.mem_cons, List.mem_map] at denotes
    rcases denotes with isFirst | ⟨other, later, isOther⟩
    · exact isFirst
    · rw [← isOther]
      exact congrArg some (same_shape other later)

/-- What is as a sum has to be is lowered, and adds what a sum adds. -/
theorem lowerOperator_of_summable {shape : Shape} (valid : session.Valid)
    (isSum : operator.type = .text "Sum") (summable : Summable session operator shape) :
    ∃ ref after, lowerOperator setting operator session = .ok ref after ∧
      Summed setting operator session shape ref after := by
  have known : OperatorKind.ofLabel? operator.type = some .sum := by
    rw [isSum]
    rfl
  rcases exists_resolveAll valid fun name member => ⟨shape, summable.denotes name member⟩ with
    ⟨refs, mid, resolved⟩
  have shapes := shapes_of_resolveAll valid resolved
  have shape_eq : ∀ ref ∈ refs, mid.graph.shapeOf ref = shape := by
    intro ref member
    have denoted : some (mid.graph.shapeOf ref) ∈ operator.inputs.map session.shapeOf? := by
      rw [shapes]
      exact List.mem_map_of_mem (List.mem_map_of_mem member)
    rcases List.mem_map.mp denoted with ⟨name, named, denotes⟩
    exact Option.some.inj (denotes.symm.trans (summable.denotes name named))
  have count : operator.inputs.length = refs.length := by
    simpa using congrArg List.length shapes
  rcases refs with _ | ⟨first, others⟩
  · exact absurd (List.length_eq_zero_iff.mp count) summable.nonempty
  · have first_shape := shape_eq first List.mem_cons_self
    have emits : Emits setting mid.tensors operator
        (Arguments.ofList OperatorKind.sum.type operator.arguments) mid.graph .sum
        (first :: others) _ _ :=
      .sum fun other later => (shape_eq other (List.mem_cons_of_mem _ later)).trans first_shape.symm
    have ruleSucceeds := (sum_eq_ok valid).mpr (.intro resolved emits rfl)
    have sameNodes := (resolveAll_shapes valid resolved).2
    have start : mid.graph.SumsTo setting.function operator.title shape
        session.graph.nodes.length first [] first := .first
    have ⟨sums, length⟩ := Graph.sumsTo_withSum others start (by simp [sameNodes]) first_shape
    have grows := growsTo_withSum mid.graph setting.function operator.title first others
    have firstHeld := (resolveAll_valid valid resolved).1 first List.mem_cons_self
    refine ⟨_, _, lowerOperator_eq_ok.mpr ⟨.sum, _, known, ruleSucceeds, rfl⟩, {
      published := fun name listed => by simp [listed]
      shape_eq := sums.shapeOf_eq ((grows.shapeOf_eq firstHeld).trans first_shape)
      kept := sameNodes ▸ grows.nodes
      count := by
        simp only [List.length_cons] at count
        simp only [count, length, List.length_nil]
        omega
      operands := ⟨first, others, gathered_of_resolveAll valid resolved grows
        (vars_withSum _ _ _ _ _), sums⟩ }⟩

/-! ## Concatenations -/

theorem emits_concat {tensors : TensorStore} {graph grown : Graph}
    (emits : Emits setting tensors operator arguments graph .concat refs ref grown) :
    ∃ channel first others, arguments.channelAxis = .ok channel ∧
      refs.map graph.shapeOf = first :: others ∧ (0 ≤ channel ∧ channel < first.length) ∧
      (∀ other ∈ others, Graph.agreeBeside channel.toNat first other) ∧
      ref = .node graph.nodes.length ∧
      grown = graph.withNode ⟨setting.function, operator.title, .concat channel, refs,
        first.set channel.toNat
          (((first :: others).map fun shape => shape.extentAt channel).foldr (· + ·) 0)⟩ := by
  cases emits with
  | elementwise applies => cases applies
  | pooling pools => cases pools
  | arithmetic combines => cases combines
  | broadcastArithmetic combines => cases combines
  | concatenation channel_eq shapes_eq inRange agree =>
      exact ⟨_, _, _, channel_eq, shapes_eq, inRange, agree, rfl, rfl⟩

/-- A concatenation succeeds if its inputs are resolved and agree beside the channels. -/
theorem concatenation_eq_ok :
    concatenation setting operator arguments session = .ok ref after ↔
      Lowered setting operator arguments session .concat ref after := by
  refine ⟨concatenation_lowered, ?_⟩
  rintro @⟨inputs, mid, grown, resolved, emits, rfl⟩
  rcases emits_concat emits with
    ⟨channel, first, others, channel_eq, shapes_eq, inRange, agree, rfl, rfl⟩
  refine Steps.bind_eq_ok.mpr ⟨_, mid, resolved, ?_⟩
  refine ofResult_bind_eq_ok.mpr ⟨_, channel_eq, onGraph_eq_ok.mpr ⟨_, ?_, rfl⟩⟩
  exact Graph.createConcat_eq_ok.mpr ⟨_, _, shapes_eq, inRange, agree, rfl, rfl⟩

/-- Shapes that all agree with a first one agree with each other. -/
theorem agree_of_first {axis : Int} {first : Shape} {others : List Shape} (inside : 0 ≤ axis)
    (agree : ∀ other ∈ others, Graph.agreeBeside axis.toNat first other) :
    ∀ shape ∈ first :: others, first.AgreeBeside axis shape := by
  have place : ((axis.toNat : Nat) : Int) = axis := Int.toNat_of_nonneg inside
  intro shape member
  rcases List.mem_cons.mp member with rfl | later
  · exact ⟨rfl, fun _ _ => rfl⟩
  · have beside := Graph.agreeBeside_iff.mp (agree shape later)
    rwa [place] at beside

/-- A concatenation that is lowered is what a concatenation has to be. -/
theorem joinable_of_lowered (valid : session.Valid)
    (lowered : Lowered setting operator
      (Arguments.ofList OperatorKind.concat.type operator.arguments) session .concat ref after) :
    ∃ axis shapes, Joinable session operator axis shapes := by
  rcases lowered with @⟨inputs, mid, grown, resolved, emits, rfl⟩
  rcases emits_concat emits with
    ⟨axis, first, others, channel_eq, shapes_eq, inRange, agree, rfl, rfl⟩
  have shapes : operator.inputs.map session.shapeOf? = _ := shapes_of_resolveAll valid resolved
  rw [shapes_eq] at shapes
  have likeFirst := agree_of_first inRange.1 agree
  refine ⟨axis, first :: others, {
    nonempty := ?_
    channels := Arguments.channelAxis_ofList_eq_ok.mp channel_eq
    denotes := shapes
    inside := fun shape member => (likeFirst shape member).1 ▸ inRange.2
    agree := fun one oneMember other otherMember =>
      (likeFirst one oneMember).symm.trans (likeFirst other otherMember) }⟩
  intro nothing
  simp [nothing] at shapes

/-- What is as a concatenation has to be is lowered, and adds what a concatenation adds. -/
theorem lowerOperator_of_joinable {axis : Int} {shapes : List Shape} (valid : session.Valid)
    (isConcat : operator.type = .text "Concat") (joinable : Joinable session operator axis shapes) :
    ∃ ref after, lowerOperator setting operator session = .ok ref after ∧
      Joined setting operator session axis shapes ref after := by
  have known : OperatorKind.ofLabel? operator.type = some .concat := by
    rw [isConcat]
    rfl
  have denote : ∀ name ∈ operator.inputs, ∃ shape, session.shapeOf? name = some shape := by
    intro name member
    have denotes : session.shapeOf? name ∈ operator.inputs.map session.shapeOf? :=
      List.mem_map_of_mem member
    rw [joinable.denotes] at denotes
    rcases List.mem_map.mp denotes with ⟨shape, _, denotes⟩
    exact ⟨shape, denotes.symm⟩
  rcases exists_resolveAll valid denote with ⟨refs, mid, resolved⟩
  have sameNodes := (resolveAll_shapes valid resolved).2
  have shapes_eq : refs.map mid.graph.shapeOf = shapes := by
    have both := (shapes_of_resolveAll valid resolved).symm.trans joinable.denotes
    exact List.map_injective_iff.mpr (Option.some_injective _) both
  rcases shapes with _ | ⟨first, others⟩
  · have none := congrArg List.length joinable.denotes
    simp [joinable.nonempty] at none
  · rcases Int.eq_ofNat_of_zero_le joinable.channels.nonneg with ⟨position, rfl⟩
    have inRange := joinable.inside first List.mem_cons_self
    have agree : ∀ other ∈ others, Graph.agreeBeside position first other := fun other later =>
      Graph.agreeBeside_iff.mpr
        (joinable.agree first List.mem_cons_self other (List.mem_cons_of_mem _ later))
    have emits : Emits setting mid.tensors operator
        (Arguments.ofList OperatorKind.concat.type operator.arguments) mid.graph .concat refs _ _ :=
      .concatenation (Arguments.channelAxis_ofList_eq_ok.mpr joinable.channels) shapes_eq
        ⟨joinable.channels.nonneg, inRange⟩ agree
    have ruleSucceeds := concatenation_eq_ok.mpr (.intro resolved emits rfl)
    refine ⟨_, _, lowerOperator_eq_ok.mpr ⟨.concat, _, known, ruleSucceeds, rfl⟩, {
      published := fun name listed => by simp [listed]
      isNew := by rw [sameNodes]
      node := ⟨refs, _, gathered_of_resolveAll valid resolved (Graph.growsTo_withNode _ _) rfl,
        by rw [← sameNodes]; rfl, ?_, ?_⟩ }⟩
    · intro operand member
      exact (Shape.agreeBeside_set first position _).trans
        (joinable.agree first List.mem_cons_self operand member)
    · exact Graph.extentAt_set_self _ (by omega)

/--
A sum is lowered exactly if it has inputs and all of them denote something of one shape; then it has
added one addition less than it has inputs, from the left and in their order. A concatenation is
lowered exactly if it has inputs, an order of axes that is known, and inputs that denote something
with an axis for the channels and agree on all others; then it has added one node that joins them in
their order. Both promote every name that is not published once.
-/
theorem variadic_accepted_iff (setting : Setting) (session : Session) (operator : Operator)
    (valid : session.Valid) :
    (operator.type = .text "Sum" →
      ((∃ ref after, lowerOperator setting operator session = .ok ref after) ↔
          ∃ shape, Summable session operator shape) ∧
        ∀ ref after shape, lowerOperator setting operator session = .ok ref after →
          Summable session operator shape → Summed setting operator session shape ref after) ∧
      (operator.type = .text "Concat" →
        ((∃ ref after, lowerOperator setting operator session = .ok ref after) ↔
            ∃ axis shapes, Joinable session operator axis shapes) ∧
          ∀ ref after axis shapes, lowerOperator setting operator session = .ok ref after →
            Joinable session operator axis shapes →
              Joined setting operator session axis shapes ref after) := by
  constructor
  · intro isSum
    refine ⟨⟨?_, ?_⟩, ?_⟩
    · rintro ⟨ref, after, lowered⟩
      rcases lowerOperator_eq_ok.mp lowered with ⟨kind, mid, known, ruleSucceeds, _⟩
      rw [isSum] at known
      rcases Option.some.inj known with rfl
      have built : Lowered setting operator
          (Arguments.ofList OperatorKind.sum.type operator.arguments) session .sum ref mid :=
        (sum_eq_ok valid).mp ruleSucceeds
      exact summable_of_lowered valid built
    · rintro ⟨shape, summable⟩
      rcases lowerOperator_of_summable valid isSum summable with ⟨ref, after, lowered, _⟩
      exact ⟨ref, after, lowered⟩
    · intro ref after shape lowered summable
      rcases lowerOperator_of_summable valid isSum summable with ⟨_, _, alsoLowered, summed⟩
      rcases lowered.symm.trans alsoLowered with ⟨⟩
      exact summed
  · intro isConcat
    refine ⟨⟨?_, ?_⟩, ?_⟩
    · rintro ⟨ref, after, lowered⟩
      rcases lowerOperator_eq_ok.mp lowered with ⟨kind, mid, known, ruleSucceeds, _⟩
      rw [isConcat] at known
      rcases Option.some.inj known with rfl
      exact joinable_of_lowered valid (concatenation_eq_ok.mp ruleSucceeds)
    · rintro ⟨axis, shapes, joinable⟩
      rcases lowerOperator_of_joinable valid isConcat joinable with ⟨ref, after, lowered, _⟩
      exact ⟨ref, after, lowered⟩
    · intro ref after axis shapes lowered joinable
      rcases lowerOperator_of_joinable valid isConcat joinable with ⟨_, _, alsoLowered, joined⟩
      rcases lowered.symm.trans alsoLowered with ⟨⟩
      exact joined

end Lower

namespace Sample

/-- Joins the input with a weight and with itself. -/
def join : Operator := ⟨"Concat", "", ["x", "w", "x"], ["y"], [], .done []⟩

end Sample

namespace Lower

/-- A weight is added to the input, or joined with it from both sides. -/
theorem variadic_accepted_iff_sample :
    (∃ ref after, lowerOperator Sample.setting Sample.total Sample.session = .ok ref after ∧
        Summed Sample.setting Sample.total Sample.session [1, 2] ref after) ∧
      ∃ ref after, lowerOperator Sample.setting Sample.join Sample.session = .ok ref after ∧
        Joined Sample.setting Sample.join Sample.session 1 [[1, 2], [1, 2], [1, 2]] ref after := by
  have valid : Sample.session.Valid := Session.valid_of_entries (by decide)
  constructor
  · have summable : Summable Sample.session Sample.total [1, 2] := {
      nonempty := by decide
      denotes := by decide }
    have ⟨accepted, adds⟩ :=
      (variadic_accepted_iff Sample.setting Sample.session Sample.total valid).1 rfl
    rcases accepted.mpr ⟨_, summable⟩ with ⟨ref, after, lowered⟩
    exact ⟨ref, after, lowered, adds ref after _ lowered summable⟩
  · have joinable : Joinable Sample.session Sample.join 1 [[1, 2], [1, 2], [1, 2]] := {
      nonempty := by decide
      channels := .second rfl
      denotes := rfl
      inside := by decide
      agree := by
        intro one oneMember other otherMember
        simp only [List.mem_cons, List.not_mem_nil, or_false, or_self] at oneMember otherMember
        rw [oneMember, otherMember]
        exact ⟨rfl, fun _ _ => rfl⟩ }
    have ⟨accepted, adds⟩ :=
      (variadic_accepted_iff Sample.setting Sample.session Sample.join valid).2 rfl
    rcases accepted.mpr ⟨_, _, joinable⟩ with ⟨ref, after, lowered⟩
    exact ⟨ref, after, lowered, adds ref after _ _ lowered joinable⟩

end Lower

end NetImport
