import NetImport.Descriptor.Operator
import NetImport.Descriptor.Text.Printer
import NetImport.Descriptor.Text.Reader
import NetImport.Descriptor.Wire.Decode
import NetImport.Descriptor.Wire.Encode

/-!
# Descriptor files

A descriptor is stored in the text format when the name of its file ends in a fixed suffix, and in
the binary format otherwise. Files live in a tree, in which a path is followed from the root or from
the directory where the program works; a path is taken apart at its slashes, and empty parts and
single dots in it are dropped. Loading first compares the size of the file with a limit.
-/

namespace NetImport.Descriptor

/-- The ending of the names of text files. -/
def textSuffix : String := ".pbtxt"

/-- The size in bytes up to which a descriptor is loaded by default. -/
def defaultSizeLimit : Int := 1000000000

/-- Whether a path names a text file. -/
def isTextPath (path : String) : Bool := textSuffix.toList.isSuffixOf path.toList

/-- A path: its leading slashes and its parts. -/
structure Path where
  root : String
  parts : List String
  deriving DecidableEq, Repr

namespace Path

/-- Takes a path apart. Two leading slashes stay, any other number of them counts as one. -/
def ofString (path : String) : Path :=
  let slashes := (path.toList.takeWhile (· = '/')).length
  let parts := (path.toList.splitOnP (· = '/')).map String.ofList
  ⟨if slashes = 0 then "" else if slashes = 2 then "//" else "/",
    parts.filter fun part => part ≠ "" && part ≠ "."⟩

/-- The text of a path; a path without any part is a single dot. -/
def toString (path : Path) : String :=
  let text := path.root ++ "/".intercalate path.parts
  if text = "" then "." else text

end Path

/-- What lies at a location: a file, a directory, or the null device, which keeps nothing. -/
inductive Entry where
  | file (content : List UInt8)
  | directory
  | null
  deriving DecidableEq, Repr

/--
A tree of entries, which are listed by the parts of their absolute paths, with the directory where
relative paths start. What lies above an entry or above that directory need not be listed.
-/
structure FileTree where
  entries : List (List String × Entry)
  workplace : List String
  deriving DecidableEq, Repr

inductive Found where
  | file (content : List UInt8)
  | fault (fault : PathFault)
  deriving DecidableEq, Repr

/-- Where a path leads: to a file, to a free location in a directory, or to the null device. -/
inductive Place where
  | file (location : List String) (content : List UInt8)
  | vacant (location : List String)
  | null
  | fault (fault : PathFault)
  deriving DecidableEq, Repr

/-- What lies at a place; the null device reads as an empty file. -/
def Place.found : Place → Found
  | file _ content => .file content
  | vacant _ => .fault .absent
  | null => .file []
  | fault reason => .fault reason

namespace FileTree

def entryAt? (tree : FileTree) (location : List String) : Option Entry :=
  tree.entries.lookup location

/-- Directories are listed, or something lies below them. -/
def isDirectory (tree : FileTree) (location : List String) : Bool :=
  tree.entryAt? location = some .directory || location.isPrefixOf tree.workplace ||
    tree.entries.any fun entry => location.isPrefixOf entry.1 && entry.1 ≠ location

/-- Where a path leads that ends at a location or goes on from there. -/
def placeAt (tree : FileTree) (location rest : List String) : Place :=
  match tree.entryAt? location, rest with
  | some (.file content), [] => .file location content
  | some .null, [] => .null
  | none, [] => .vacant location
  | some .directory, [] => .fault .directory
  | none, _ => .fault .absent
  | some _, _ => .fault .notDirectory

/-- Follows the parts of a path from a directory. There is nothing above the root but the root. -/
def walk (tree : FileTree) (here : List String) : List String → Place
  | [] => .fault .directory
  | part :: rest =>
    if 255 < part.utf8ByteSize then .fault .nameTooLong
    else if part = ".." then tree.walk here.dropLast rest
    else if tree.isDirectory (here ++ [part]) then tree.walk (here ++ [part]) rest
    else tree.placeAt (here ++ [part]) rest

/-- The number of bytes of a path from which on it is too long, whatever lies along it. -/
def pathLimit : Nat := 4096

/-- Follows a path from the root, or from the directory where the program works. -/
def locate (tree : FileTree) (path : Path) : Place :=
  if pathLimit ≤ path.toString.utf8ByteSize then .fault .nameTooLong
  else tree.walk (if path.root = "" then tree.workplace else []) path.parts

def find (tree : FileTree) (path : Path) : Found := (tree.locate path).found

/--
What lies at a path as it is spelled, of which every byte counts. A slash or a single dot at its end
asks for a directory.
-/
def lookUp (tree : FileTree) (path : String) : Found :=
  if pathLimit ≤ path.utf8ByteSize then .fault .nameTooLong
  else
    let ending := String.ofList ((path.toList.splitOnP (· = '/')).getLast?.getD [])
    match tree.find (Path.ofString path) with
    | .file content =>
      if ending = "" ∨ ending = "." then .fault .notDirectory else .file content
    | found => found

/-- Puts a file into a tree, replacing an older one at the same location. -/
def write (tree : FileTree) (location : List String) (content : List UInt8) : FileTree :=
  { tree with entries := (location, .file content) :: tree.entries.filter (·.1 ≠ location) }

end FileTree

def directorySize : Int := 4096

/-- The content of a file whose size is within a limit. -/
def readFile (tree : FileTree) (path : Path) (limit : Int) : Except Error (List UInt8) :=
  let name := path.toString
  if '\x00' ∈ name.toList then .error .rejectedValue
  else
    match tree.find path with
    | .file content =>
      if limit < content.length then .error (.oversizedDescriptor name content.length limit)
      else .ok content
    | .fault .directory =>
      if limit < directorySize then .error (.oversizedDescriptor name directorySize limit)
      else .error (.unreadableFile name .directory)
    | .fault fault => .error (.unreadableFile name fault)

/-- The message of a type that the content of a file describes. -/
def decodeFile? (path : String) (content : List UInt8) : Option Message :=
  if isTextPath path then
    (Text.decodeUtf8? content).bind (Message.ofText? .net)
  else Message.ofBytes? .net content

/-- The content of a file that describes a network. -/
def encodeFile (path : String) (net : Message) : Except Error (List UInt8) :=
  if isTextPath path then .ok (Text.encodeUtf8 (net.toText .net)) else net.toBytes .net

/-- Loads the description of a network from a file. -/
def loadNet (tree : FileTree) (path : String) (limit : Int) : Except Error Message := do
  let path := Path.ofString path
  let content ← readFile tree path limit
  match decodeFile? path.toString content with
  | some net => .ok net
  | none => .error (.malformedDescriptor path.toString)

/-- Stores content at a path, which leads to a file or to a free location in a directory. -/
def FileTree.store (tree : FileTree) (path : Path) (content : List UInt8) :
    Except Error FileTree :=
  match tree.locate path with
  | .file location _ | .vacant location => .ok (tree.write location content)
  | .null => .ok tree
  | .fault fault => .error (.unopenableFile fault)

/-- Saves the description of a network to a file. -/
def saveNet (tree : FileTree) (path : String) (net : Message) : Except Error FileTree := do
  let path := Path.ofString path
  let content ← encodeFile path.toString net
  if '\x00' ∈ path.toString.toList then .error .rejectedValue
  else tree.store path content

end NetImport.Descriptor
