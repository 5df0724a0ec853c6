import NetImport.Proofs.Descriptor.File
import NetImport.Proofs.Descriptor.Text.RoundTrip

/-!
# Descriptors survive text files

A network whose fields are all known and whose strings are valid text can be saved in the text
format, and what is loaded from the file agrees with it: it is the same network up to values that
are not numbers.
-/

namespace NetImport.Descriptor

variable {tree : FileTree} {location : List String} {net : Message}

/--
Content that is stored at a path that takes a file is loaded from there, provided that it describes
a network and that its size is within the limit.
-/
theorem loadNet_store {path : String} {content : List UInt8}
    (noNull : '\x00' ∉ (Path.ofString path).toString.toList)
    (takesFile : (tree.locate (Path.ofString path)).TakesFile location)
    (describes : decodeFile? (Path.ofString path).toString content = some net) {limit : Int}
    (within : content.length ≤ limit) :
    loadNet (tree.write location content) path limit = .ok net := by
  refine except_bind_eq_ok.mpr ⟨content, readFile_write takesFile noNull within, ?_⟩
  simp only [describes]

/--
A network without unknown fields, whose strings are valid text, can be saved at any text path that
takes a file. What is loaded from there agrees with it, provided that the text is within the limit
on the size of files. Required fields may be absent.
-/
theorem loads_what_was_saved_as_text {path : String} (isOf : net.IsOf .net)
    (known : net.isKnown) (unicode : net.isUnicode .net)
    (text : isTextPath (Path.ofString path).toString)
    (noNull : '\x00' ∉ (Path.ofString path).toString.toList)
    (takesFile : (tree.locate (Path.ofString path)).TakesFile location) :
    ∃ saved, saveNet tree path net = .ok saved ∧
      ∀ limit : Int, (Text.encodeUtf8 (net.toText .net)).length ≤ limit →
        ∃ loaded, loadNet saved path limit = .ok loaded ∧ net.agrees loaded := by
  have encodes : encodeFile (Path.ofString path).toString net =
      .ok (Text.encodeUtf8 (net.toText .net)) := by
    simp only [encodeFile, text, if_true]
  have describes : decodeFile? (Path.ofString path).toString (Text.encodeUtf8 (net.toText .net)) =
      some net.canonical := by
    simp only [decodeFile?, text, if_true, Text.decodeUtf8?_encodeUtf8, Option.bind_some]
    exact ofText?_toText isOf unicode known
  refine ⟨tree.write location (Text.encodeUtf8 (net.toText .net)), ?_, ?_⟩
  · refine except_bind_eq_ok.mpr ⟨_, encodes, ?_⟩
    simp only [noNull, if_false]
    exact FileTree.store_eq_ok takesFile
  · intro limit within
    exact ⟨net.canonical, loadNet_store noNull takesFile describes within, agrees_canonical net⟩

namespace Sample

/-- A pattern that is not a number, a denormal number and negative zero; bytes that are no text. -/
def numbers : Message :=
  .scalars 1 [.text "a \"b\"\n\\ é"]
    (.scalars 4 [.bytes [0, 39, 255]]
      (.scalars 5 [.single ⟨0x7fc00001⟩, .single ⟨1⟩, .single ⟨0x80000000⟩, .single ⟨0x3dcccccd⟩]
        (.scalars 6 [.integer (-9223372036854775808)]
          (.nested 8 (.done []) (.nested 10 (.scalars 2 [.integer 12] (.scalars 9
            [.double ⟨0x3fb999999999999a⟩, .double ⟨0x7ff0000000000000⟩] (.done [])))
              (.done []))))))

def textNetwork : Message :=
  .scalars 1 [.text ""]
    (.nested 2 (.nested 5 numbers (.scalars 9 [.flag true] (.done []))) (.done []))

end Sample

theorem loads_what_was_saved_as_text_sample :
    ∃ saved, saveNet Sample.machine "../../home/./net.pbtxt" Sample.textNetwork = .ok saved ∧
      ∀ limit : Int, (Text.encodeUtf8 (Sample.textNetwork.toText .net)).length ≤ limit →
        ∃ loaded, loadNet saved "../../home/./net.pbtxt" limit = .ok loaded ∧
          Sample.textNetwork.agrees loaded := by
  have isOf : Sample.textNetwork.IsOf .net := by
    have read : Message.ofBytes? .net Sample.textNetwork.encode = some Sample.textNetwork := by
      decide +kernel
    exact isOf_of_ofBytes? read
  have known : Sample.textNetwork.isKnown := by decide
  have unicode : Sample.textNetwork.isUnicode .net := by decide
  have text : isTextPath (Path.ofString "../../home/./net.pbtxt").toString := by decide
  have noNull : '\x00' ∉ (Path.ofString "../../home/./net.pbtxt").toString.toList := by decide
  have takesFile : (Sample.machine.locate (Path.ofString "../../home/./net.pbtxt")).TakesFile
      ["home", "net.pbtxt"] := by
    have free : Sample.machine.locate (Path.ofString "../../home/./net.pbtxt") =
        .vacant ["home", "net.pbtxt"] := by
      decide
    rw [free]
    exact .vacant
  exact loads_what_was_saved_as_text isOf known unicode text noNull takesFile

end NetImport.Descriptor
