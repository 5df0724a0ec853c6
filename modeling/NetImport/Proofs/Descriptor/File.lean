import NetImport.Descriptor.File
import NetImport.Proofs.Descriptor.RoundTrip

/-!
# Descriptors survive files

Writing a file changes neither the directories along a path to it nor the place that the path leads
to, so the file is found again with its new content. A network that is saved in the binary format is
hence the one that is loaded from the same path.
-/

namespace NetImport.Descriptor

variable {tree : FileTree} {path : Path} {location directory parts : List String}
  {content : List UInt8} {limit : Int} {net : Message}

/-- A place takes a file when one lies there or when it is free. -/
inductive Place.TakesFile (location : List String) : Place → Prop where
  | file {content : List UInt8} : TakesFile location (.file location content)
  | vacant : TakesFile location (.vacant location)

/-! ## Writing into a tree -/

namespace FileTree

theorem entryAt?_write :
    (tree.write location content).entryAt? location = some (.file content) := by
  simp [write, entryAt?]

theorem entryAt?_write_of_ne (other : directory ≠ location) :
    (tree.write location content).entryAt? directory = tree.entryAt? directory := by
  simp only [write, entryAt?, List.lookup_cons, beq_eq_false_iff_ne.mpr other]
  induction tree.entries with
  | nil => rfl
  | cons entry entries hypothesis =>
      rcases entry with ⟨name, held⟩
      by_cases replaced : name = location
      · subst replaced
        rw [List.filter_cons_of_neg (by simp), hypothesis, List.lookup_cons,
          beq_eq_false_iff_ne.mpr other]
      · rw [List.filter_cons_of_pos (by simpa using replaced), List.lookup_cons, hypothesis,
          List.lookup_cons]

theorem isDirectory_iff :
    tree.isDirectory directory ↔
      tree.entryAt? directory = some .directory ∨ directory <+: tree.workplace ∨
        ∃ entry ∈ tree.entries, directory <+: entry.1 ∧ entry.1 ≠ directory := by
  simp [isDirectory, or_assoc]

/-- Writing a file leaves every directory. -/
theorem isDirectory_write (other : directory ≠ location)
    (isDirectory : tree.isDirectory directory) :
    (tree.write location content).isDirectory directory := by
  rw [isDirectory_iff] at isDirectory ⊢
  rw [entryAt?_write_of_ne other]
  rcases isDirectory with listed | above | ⟨entry, member, below⟩
  · exact .inl listed
  · exact .inr (.inl above)
  · by_cases replaced : entry.1 = location
    · rw [replaced] at below
      exact .inr (.inr ⟨_, List.mem_cons_self, below⟩)
    · refine .inr (.inr ⟨entry, List.mem_cons_of_mem _ ?_, below⟩)
      exact List.mem_filter.mpr ⟨member, by simpa using replaced⟩

/-- A file is not a directory if there was none where it is written. -/
theorem isDirectory_write_self (notDirectory : ¬tree.isDirectory location) :
    ¬(tree.write location content).isDirectory location := by
  rw [isDirectory_iff] at notDirectory ⊢
  rw [entryAt?_write]
  rintro (listed | above | ⟨entry, member, below⟩)
  · cases listed
  · exact notDirectory (.inr (.inl above))
  · rcases List.mem_cons.mp member with rfl | kept
    · exact below.2 rfl
    · exact notDirectory (.inr (.inr ⟨entry, List.mem_of_mem_filter kept, below⟩))

theorem placeAt_write :
    (tree.write location content).placeAt location [] = .file location content := by
  simp [placeAt, entryAt?_write]

/-- Only a path that ends there leads to a location that takes a file. -/
theorem of_placeAt_takesFile {next rest : List String}
    (takesFile : (tree.placeAt next rest).TakesFile location) : rest = [] ∧ next = location := by
  unfold placeAt at takesFile
  split at takesFile
  case h_1 | h_3 =>
    cases takesFile
    exact ⟨rfl, rfl⟩
  all_goals cases takesFile

/--
A path that leads to a place for a file leads to that file once it is written. The directories along
the path are not where it ends, so that they stay what they are.
-/
theorem walk_write {here : List String} (takesFile : (tree.walk here parts).TakesFile location) :
    (tree.write location content).walk here parts = .file location content ∧
      ¬tree.isDirectory location := by
  induction parts generalizing here with
  | nil =>
      rw [walk] at takesFile
      cases takesFile
  | cons part rest hypothesis =>
      rw [walk] at takesFile ⊢
      by_cases long : 255 < part.utf8ByteSize
      · rw [if_pos long] at takesFile
        cases takesFile
      · rw [if_neg long] at takesFile ⊢
        by_cases up : part = ".."
        · rw [if_pos up] at takesFile ⊢
          exact hypothesis takesFile
        · rw [if_neg up] at takesFile ⊢
          by_cases further : tree.isDirectory (here ++ [part])
          · rw [if_pos further] at takesFile
            have ⟨leads, ends⟩ := hypothesis takesFile
            have other : here ++ [part] ≠ location := by
              rintro rfl
              exact ends further
            rw [if_pos (isDirectory_write other further)]
            exact ⟨leads, ends⟩
          · rw [if_neg further] at takesFile
            rcases of_placeAt_takesFile takesFile with ⟨rfl, rfl⟩
            rw [if_neg (isDirectory_write_self further), placeAt_write]
            exact ⟨rfl, further⟩

/-- The place that a path leads to stays the same when a file is written there. -/
theorem locate_write (takesFile : (tree.locate path).TakesFile location) :
    (tree.write location content).locate path = .file location content := by
  unfold locate at takesFile ⊢
  split at takesFile
  · cases takesFile
  · rename_i short
    rw [if_neg short]
    exact (walk_write takesFile).1

theorem store_eq_ok (takesFile : (tree.locate path).TakesFile location) :
    tree.store path content = .ok (tree.write location content) := by
  unfold store
  cases place : tree.locate path with
  | file _ _ | vacant _ =>
      rw [place] at takesFile
      cases takesFile
      rfl
  | null | fault _ =>
      rw [place] at takesFile
      cases takesFile

end FileTree

/-! ## Saving and loading -/

/-- What was written is read. -/
theorem readFile_write (takesFile : (tree.locate path).TakesFile location)
    (noNull : '\x00' ∉ path.toString.toList) (within : content.length ≤ limit) :
    readFile (tree.write location content) path limit = .ok content := by
  have found : (tree.write location content).find path = .file content := by
    rw [FileTree.find, FileTree.locate_write takesFile, Place.found]
  simp only [readFile, noNull, if_false, found]
  rw [if_neg (Int.not_lt.mpr within)]

/-- A network that was put together from fields, or that was loaded from a binary file. -/
inductive Message.Obtained (net : Message) : Prop where
  | built (isOf : net.IsOf .net)
  | loaded {tree : FileTree} {path : String} {limit : Int}
      (binary : isTextPath (Path.ofString path).toString = false)
      (loads : loadNet tree path limit = .ok net)

theorem isOf_of_loadNet {path : String}
    (binary : isTextPath (Path.ofString path).toString = false)
    (loads : loadNet tree path limit = .ok net) : net.IsOf .net := by
  rcases except_bind_eq_ok.mp loads with ⟨content, _, decodes⟩
  simp only [decodeFile?, binary, Bool.false_eq_true, if_false] at decodes
  split at decodes
  · rename_i loaded read
    rcases decodes with ⟨⟩
    exact isOf_of_ofBytes? read
  · cases decodes

theorem isOf_of_obtained (obtained : net.Obtained) : net.IsOf .net := by
  cases obtained with
  | built isOf => exact isOf
  | loaded binary loads => exact isOf_of_loadNet binary loads

/--
A complete network, built or loaded, can be saved at any binary path that takes a file, and is what
is loaded from there, provided that its bytes are within the limit on the size of files and within
that of the binary format.
-/
theorem loads_what_was_saved {path : String} (obtained : net.Obtained)
    (complete : net.isComplete .net) (short : net.encode.length < Wire.blockLimit)
    (binary : isTextPath (Path.ofString path).toString = false)
    (noNull : '\x00' ∉ (Path.ofString path).toString.toList)
    (takesFile : (tree.locate (Path.ofString path)).TakesFile location) :
    ∃ saved, saveNet tree path net = .ok saved ∧
      ∀ limit : Int, net.encode.length ≤ limit → loadNet saved path limit = .ok net := by
  have encodes : encodeFile (Path.ofString path).toString net = .ok net.encode := by
    simp only [encodeFile, binary, Bool.false_eq_true, if_false, Message.toBytes, complete, if_true]
  refine ⟨tree.write location net.encode, ?_, ?_⟩
  · refine except_bind_eq_ok.mpr ⟨net.encode, encodes, ?_⟩
    simp only [noNull, if_false]
    exact FileTree.store_eq_ok takesFile
  · intro limit within
    have restored : decodeFile? (Path.ofString path).toString net.encode = some net := by
      rw [decodeFile?, binary]
      exact ofBytes?_encode (isOf_of_obtained obtained) short
    refine except_bind_eq_ok.mpr ⟨net.encode, readFile_write takesFile noNull within, ?_⟩
    simp only [restored]

namespace Sample

/--
The number of workers, a field that is not known, and an operator whose argument packs two integers.
-/
def bytes : List UInt8 :=
  [0x20, 0xfe, 0xff, 0xff, 0xff, 0xff, 0xff, 0xff, 0xff, 0xff, 1] ++ [0x78, 1] ++
    [0x12, 27, 0x22, 4, 0x52, 0x65, 0x6c, 0x75] ++ [0x2a, 19, 0x0a, 4, 0x61, 0x78, 0x65, 0x73] ++
      [0x32, 11, 1, 0xff, 0xff, 0xff, 0xff, 0xff, 0xff, 0xff, 0xff, 0xff, 1]

def axes : Message := .scalars 1 [.text "axes"] (.scalars 6 [.integer 1, .integer (-1)] (.done []))

def network : Message :=
  .nested 2 (.scalars 4 [.text "Relu"] (.nested 5 axes (.done [])))
    (.scalars 4 [.integer (-2)] (.done [0x78, 1]))

/-- A network lies below the root, while the program works in another directory. -/
def machine : FileTree :=
  ⟨[(["home", "nets", "net.pb"], .file bytes), (["dev", "null"], .null)], ["srv", "import"]⟩

end Sample

theorem loads_what_was_saved_sample :
    loadNet Sample.machine "/home/nets/net.pb" 100 = .ok Sample.network ∧
      ∃ saved, saveNet Sample.machine "/home/nets/copy.pb" Sample.network = .ok saved ∧
        ∀ limit : Int, Sample.network.encode.length ≤ limit →
          loadNet saved "/home/nets/copy.pb" limit = .ok Sample.network := by
  have loads : loadNet Sample.machine "/home/nets/net.pb" 100 = .ok Sample.network := by
    decide +kernel
  have takesFile : (Sample.machine.locate (Path.ofString "/home/nets/copy.pb")).TakesFile
      ["home", "nets", "copy.pb"] := by
    have free : Sample.machine.locate (Path.ofString "/home/nets/copy.pb") =
        .vacant ["home", "nets", "copy.pb"] := by
      decide
    rw [free]
    exact .vacant
  have obtained : Sample.network.Obtained := .loaded (by decide) loads
  have complete : Sample.network.isComplete .net := by decide
  have short : Sample.network.encode.length < Wire.blockLimit := by decide +kernel
  have binary : isTextPath (Path.ofString "/home/nets/copy.pb").toString = false := by decide
  have noNull : '\x00' ∉ (Path.ofString "/home/nets/copy.pb").toString.toList := by decide
  refine ⟨loads, ?_⟩
  exact loads_what_was_saved obtained complete short binary noNull takesFile

end NetImport.Descriptor
