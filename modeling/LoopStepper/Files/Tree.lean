import LoopStepper.Files.Path

/-!
# File trees

The files and directories around a working directory, as a value. Operations give the tree as they
leave it also when they fail, since what was done before the failure stays. The working directory,
the directories above it and the root are always there; how the root leads to the working directory
is not known, so a path from the root and one from the working directory never lead to one place.

It is a tree: there are no links, hard or symbolic, so each file has one name. Nothing has an owner
or permissions, so every directory may be searched and every file read and written; where that is
not so, asking for a path fails in more cases than here. What can go wrong on the medium itself is
that the writing of a file breaks off.
-/

namespace LoopStepper

/-- A file or a directory. -/
inductive Entry where
  | file (bytes : ByteArray)
  | directory

/-- A place in the tree: the way to it, the last step first, from the working directory, which may
begin with steps up, or from the root, which is a slash. The number of steps is kept with them,
since it tells most places apart at once. -/
structure Place where
  depth : Nat := 0
  steps : List String := []
  deriving DecidableEq, Repr

namespace Place

/-- The root. -/
def root : Place := ⟨1, ["/"]⟩

/-- The place of a name in a directory. -/
def enter (place : Place) (name : String) : Place :=
  ⟨place.depth + 1, name :: place.steps⟩

/-- The directory that a place is in. -/
def parent (place : Place) : Place :=
  ⟨place.depth - 1, place.steps.tail⟩

/-- Whether a place is the root, the working directory or above it. Steps up stand only at the
beginning of the way, so the last step tells. -/
def isFixed (place : Place) : Bool :=
  match place.steps.head? with
  | none => true
  | some last => last == "/" || last == ".."

/-- The place that one step of a path leads to; there is nothing above the root. -/
def step (place : Place) (part : String) : Place :=
  if part != ".." then place.enter part
  else if place == root then root
  else if place.isFixed then place.enter ".."
  else place.parent

/-- Whether a place lies below the working directory. -/
def isInside (place : Place) : Bool :=
  match place.steps.getLast? with
  | none => false
  | some first => first != "/" && first != ".."

/-- The text of a place. -/
def text (place : Place) : String :=
  match place.steps.reverse with
  | "/" :: parts => "/" ++ "/".intercalate parts
  | parts => "/".intercalate parts

end Place

/-- The place from which a path starts. -/
def Path.origin (path : Path) : Place :=
  if path.root.isEmpty then {} else Place.root

/-- The place a path leads to, if there is nothing but directories on the way. -/
def Path.place (path : Path) : Place :=
  path.parts.foldl Place.step path.origin

/-- Why an operation on files fails. -/
inductive FileError where
  | alreadyExists (path : Path)
  | missing (path : Path)
  | notADirectory (path : Path)
  | isADirectory (path : Path)
  | nameTooLong (path : Path)
  | embeddedNul
  | emptyName (path : Path)
  /-- Too many directories are missing on the way to a path. -/
  | tooDeep
  deriving DecidableEq, Repr

/-- The number and the text of an error of the system, with the path it is about. -/
def FileError.system (number : Nat) (text : String) (path : Path) : String :=
  s!"[Errno {number}] {text}: " ++ Text.quotedString path.toString

/-- The message shown for an error. -/
def FileError.message : FileError → String
  | .alreadyExists path => system 17 "File exists" path
  | .missing path => system 2 "No such file or directory" path
  | .notADirectory path => system 20 "Not a directory" path
  | .isADirectory path => system 21 "Is a directory" path
  | .nameTooLong path => system 36 "File name too long" path
  | .embeddedNul => "embedded null byte"
  | .emptyName path => s!"PosixPath({Text.quotedString path.toString}) has an empty name"
  | .tooDeep => "maximum recursion depth exceeded while calling a Python object"

/-- Why a file is not written. -/
inductive WriteError where
  | file (error : FileError)
  /-- The text has no UTF-8 form. -/
  | unencodable
  /-- The medium was full, or failed, when a part of the file was written. -/
  | brokenOff
  deriving DecidableEq, Repr

/-- Files and directories by their places. A file that is written anew keeps its position. -/
structure Tree where
  entries : List (Place × Entry) := []
  /-- Where the writing of a file breaks off, and after how many bytes. -/
  breaks : Place → Option Nat := fun _ => none
  /-- The most directories that are created on the way to one path. Each takes a call inside the one
  for the next; of a thousand that may be open at once, 984 are left below the call that saves a
  file or opens a session by itself. Below another caller it is another number. -/
  maxMissing : Nat := 984

namespace Tree

/-- The most bytes a name may have. -/
def maxNameBytes : Nat := 255

/-- The most bytes a whole path may have. -/
def maxPathBytes : Nat := 4095

/-- What is at a place. -/
def get? (tree : Tree) (place : Place) : Option Entry :=
  if place.isFixed then some .directory else tree.entries.lookup place

/-- Puts an entry at a place, instead of the one that is there. -/
def set (tree : Tree) (place : Place) (entry : Entry) : Tree :=
  { tree with
    entries :=
      if tree.entries.any (·.1 == place) then
        tree.entries.map fun old => if old.1 == place then (place, entry) else old
      else tree.entries ++ [(place, entry)] }

/-- Takes away what is at a place. -/
def remove (tree : Tree) (place : Place) : Tree :=
  { tree with entries := tree.entries.filter (·.1 != place) }

/-- One step of a path from a place that has to be a directory. -/
def descend (tree : Tree) (path : Path) (place : Place) (part : String) :
    Except FileError Place :=
  match tree.get? place with
  | none => .error (.missing path)
  | some (.file _) => .error (.notADirectory path)
  | some .directory =>
    if maxNameBytes < part.utf8ByteSize then .error (.nameTooLong path)
    else .ok (place.step part)

/-- Whether a path can be asked for at all. -/
def checkPath (path : Path) : Except FileError Unit :=
  if path.hasNul then .error .embeddedNul
  else if maxPathBytes < path.toString.utf8ByteSize then .error (.nameTooLong path)
  else .ok ()

/-- The place a path leads to; what is there is not looked at. -/
def locate (tree : Tree) (path : Path) : Except FileError Place := do
  checkPath path
  path.parts.foldlM (tree.descend path) path.origin

/-- Whether there is something at a path. A name that is too long is an error, any other path that
leads nowhere is not. -/
def exists? (tree : Tree) (path : Path) : Except FileError Bool :=
  match tree.locate path with
  | .ok place => .ok (tree.get? place).isSome
  | .error (.nameTooLong path) => .error (.nameTooLong path)
  | .error _ => .ok false

/-- Creates what is missing along the parts of a path that are left, in a directory that is there.
The path is tried as a whole until a directory was created on the way to it; from then on every
further part is tried by itself, as the path `passed` up to there. -/
def makeAlong (whole passed : Path) (created : Bool) (tree : Tree) (place : Place) :
    List String → Tree × Except FileError Unit
  | [] => (tree, .ok ())
  | part :: rest =>
    let passed := passed.child part
    let tried := if created then passed else whole
    let next := place.step part
    if maxNameBytes < part.utf8ByteSize then (tree, .error (.nameTooLong tried))
    else
      match tree.get? next with
      | some .directory => makeAlong whole passed created tree next rest
      | some (.file _) =>
        (tree, .error (if created || rest.isEmpty then .alreadyExists tried
          else .notADirectory tried))
      | none =>
        if !created && tree.maxMissing ≤ rest.length then (tree, .error .tooDeep)
        else makeAlong whole passed true (tree.set next .directory) next rest

/-- Creates a directory and those above it, as far as they are missing. -/
def makeDirectories (tree : Tree) (path : Path) : Tree × Except FileError Unit :=
  match checkPath path with
  | .error error => (tree, .error error)
  | .ok () => makeAlong path ⟨path.root, []⟩ false tree path.origin path.parts

/-- The bytes of the file at a path. -/
def read (tree : Tree) (path : Path) : Except FileError ByteArray := do
  let place ← tree.locate path
  match tree.get? place with
  | some (.file bytes) => .ok bytes
  | some .directory => .error (.isADirectory path)
  | none => .error (.missing path)

/-- The place at which a file can be opened to be written: one that holds a file, or one that holds
nothing, in a directory that is there. -/
def writable (tree : Tree) (path : Path) : Except FileError Place := do
  let place ← tree.locate path
  match tree.get? place with
  | some .directory => .error (.isADirectory path)
  | some (.file _) => .ok place
  | none =>
    match tree.get? place.parent with
    | some .directory => .ok place
    | some (.file _) => .error (.notADirectory path)
    | none => .error (.missing path)

/-- Writes a file. It is empty from when it is opened until bytes are written: a text that has none
leaves it so. Where the medium breaks off, it holds what was written until then. -/
def write (tree : Tree) (path : Path) (content : Option ByteArray) :
    Tree × Except WriteError Unit :=
  match tree.writable path with
  | .error error => (tree, .error (.file error))
  | .ok place =>
    match content, tree.breaks place with
    | none, _ => (tree.set place (.file .empty), .error .unencodable)
    | some bytes, some size =>
      (tree.set place (.file (bytes.extract 0 size)), .error .brokenOff)
    | some bytes, none => (tree.set place (.file bytes), .ok ())

/-- Gives the file at `source` the path `target`, in place of a file that is there. -/
def rename (tree : Tree) (source target : Path) : Except FileError Tree := do
  let bytes ← tree.read source
  let place ← tree.writable target
  let old ← tree.locate source
  return (tree.set place (.file bytes)).remove old

/-- Writes a file so that it is there as a whole or not at all: under a temporary name first, which
stays behind if it cannot take its place. Missing directories are created. -/
def save (tree : Tree) (path : Path) (content : Option ByteArray) :
    Tree × Except WriteError Unit :=
  match tree.makeDirectories path.parent with
  | (tree, .error error) => (tree, .error (.file error))
  | (tree, .ok ()) =>
    match path.temporary? with
    | none => (tree, .error (.file (.emptyName path)))
    | some temporary =>
      match tree.write temporary content with
      | (tree, .error error) => (tree, .error error)
      | (tree, .ok ()) =>
        match tree.rename temporary path with
        | .error error => (tree, .error (.file error))
        | .ok tree => (tree, .ok ())

/-- Puts an entry at a path, with the directories above it. -/
def plant (tree : Tree) (path : Path) (entry : Entry) : Tree :=
  (tree.makeDirectories path.parent).1.set path.place entry

/-- What is in the working directory and below, with the text of each path, in the order of those
texts. -/
def listing (tree : Tree) : List (String × Entry) :=
  let inside := tree.entries.filter fun entry => entry.1.isInside
  (inside.map fun entry => (entry.1.text, entry.2)).mergeSort fun a b => a.1 ≤ b.1

end Tree

end LoopStepper
