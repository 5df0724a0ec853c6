import NetImport.Label
import NetImport.Shape

/-!
# Notices

While it works the library records what it did: entries for a log, warnings for the caller, and
lines for the terminal. A notice carries what it tells about; its channel and its text are
derived.
-/

namespace NetImport

/-- The part of the library that makes a log entry. -/
inductive Component where
  | loading
  | weights
  | lowering
  | importing
  deriving DecidableEq, Repr

inductive Level where
  | debug
  | info
  | error
  deriving DecidableEq, Repr

def Level.text : Level → String
  | debug => "DEBUG"
  | info => "INFO"
  | error => "ERROR"

/-- Where a notice goes. -/
inductive Channel where
  | log (level : Level) (component : Component)
  | warning
  | terminal
  deriving DecidableEq, Repr

/-- Something worth telling. -/
inductive Notice where
  | loaded (path : String) (operators : Nat)
  | tensorKept (name : Label)
  | materialized (directive : String) (outputs : List Label)
  | unsupportedDirective (dump : String)
  | lowered (operatorType : String) (title : Label) (shape : Shape)
  | unsupportedOperator (dump : String)
  | extraOutputs (count : Nat) (saved : Label)
  | importing (netPath weightsPath : String)
  | imported (operators nodes tensors : Nat)
  | summary (netPath : String) (operators : Nat)
  | nodeSummary (nodes : Nat)
  deriving DecidableEq, Repr

namespace Notice

def channel : Notice → Channel
  | loaded .. => .log .debug .loading
  | tensorKept .. => .log .debug .weights
  | materialized .. => .log .debug .weights
  | unsupportedDirective .. => .log .error .weights
  | lowered .. => .log .debug .lowering
  | unsupportedOperator .. => .log .error .lowering
  | extraOutputs .. => .warning
  | importing .. => .log .info .importing
  | imported .. => .log .info .importing
  | summary .. => .terminal
  | nodeSummary .. => .terminal

def text : Notice → String
  | loaded path operators => s!"Loaded {path}: {operators} operators"
  | tensorKept name => s!"Keeping existing tensor {name.shown}"
  | materialized directive outputs => s!"Materialized {directive} -> " ++ Label.listText outputs
  | unsupportedDirective dump => s!"Unsupported weight kind\n{dump}"
  | lowered operatorType title shape =>
      s!"Lowered {operatorType} '{title.shown}' -> " ++ shape.typeText
  | unsupportedOperator dump => s!"Unsupported operator\n{dump}"
  | extraOutputs count saved =>
      s!"Network declares {count} external outputs; only '{saved.shown}' is saved"
  | importing netPath weightsPath => s!"Importing Caffe2 model {netPath} (weights {weightsPath})"
  | imported operators nodes tensors =>
      s!"Imported {operators} operators into {nodes} nodes ({tensors} tensors)"
  | summary netPath operators => s!"Imported: {netPath} ({operators} operators)"
  | nodeSummary nodes => s!"Graph nodes: {nodes}"

end Notice

end NetImport
