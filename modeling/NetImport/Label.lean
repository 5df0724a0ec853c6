import NetImport.Text.Quoted

/-!
# Labels

A label names an operator, a tensor or an argument, or gives a type. Labels that come from a binary
descriptor need not be valid text; such a label keeps its bytes, differs from every text, and is
shown the way raw bytes are written.
-/

namespace NetImport

/-- A name: a text, or raw bytes that are not valid text. -/
inductive Label where
  | text (content : String)
  | raw (bytes : List UInt8)
  deriving DecidableEq, Repr

namespace Label

instance : Coe String Label := ⟨text⟩

instance : Inhabited Label := ⟨text ""⟩

/-- The text that stands for a label inside a longer text. -/
def shown : Label → String
  | text content => content
  | raw bytes => Text.quoteRaw bytes

def quoted : Label → String
  | text content => Text.quote content
  | raw bytes => Text.quoteRaw bytes

/-- The label of a part of something, given the name of the part with what separates it. -/
def part (label : Label) (suffix : String) : Label := text (label.shown ++ suffix)

/-- A list of labels is written between brackets, each label quoted. -/
def listText (labels : List Label) : String :=
  "[" ++ ", ".intercalate (labels.map quoted) ++ "]"

end Label

end NetImport
