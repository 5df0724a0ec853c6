import NetImport.Descriptor.Text.Printer
import NetImport.Lowering.Rule

/-!
# Lowering networks

The operators of a network are lowered in order. An operator that cannot be lowered leaves nothing
behind; one that is lowered publishes its result under all its outputs, replacing what was published
there before. At the end the first declared result of the network is saved.
-/

namespace NetImport.Lower

open Descriptor

/-- Publishes something under names, one after the other. -/
def publishAll (ref : Ref) (names : List Label) : Lower Unit :=
  modify fun session => { session with names := session.names.bindAll names ref }

/-- Lowers an operator and publishes its result. -/
def lowerOperator (setting : Setting) (operator : Operator) : Lower Ref := do
  match OperatorKind.ofLabel? operator.type with
  | none =>
    let dump := operator.source.toText .operator
    note (.unsupportedOperator dump)
    throw (.unsupportedOperator operator.type dump)
  | some kind =>
    let arguments := Arguments.ofList kind.type operator.arguments
    let result ← atomically (rule setting operator arguments kind)
    publishAll result operator.outputs
    note (.lowered kind.type operator.title (← shape result))
    return result

/-- Lowers the operators of a network in order. -/
def lowerNetwork (setting : Setting) (network : Network) : Lower Unit :=
  network.operators.forM fun operator => do let _ ← lowerOperator setting operator

/-- Saves the first declared result of a network. -/
def finalize (setting : Setting) (externalOutputs : List Label) : Lower Ref := do
  match externalOutputs with
  | [] => throw .noExternalOutput
  | name :: others =>
    if others ≠ [] then note (.extraOutputs externalOutputs.length name)
    let result ← published name
    onGraph (Graph.createSave setting.function "output" result)

end NetImport.Lower
