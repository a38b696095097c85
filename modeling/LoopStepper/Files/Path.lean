import LoopStepper.Text.Quoted

/-!
# Paths

File names with their directories. A path is kept in its short form: no empty parts, no single
dots, no slash at the end. Two dots stay, since what they mean depends on the files.
-/

namespace LoopStepper

/-- A path: one or two slashes in front if it is absolute, and its parts. -/
structure Path where
  root : String := ""
  parts : List String := []
  deriving DecidableEq, Repr

namespace Path

/-- The pieces of a text between its slashes. -/
def splitSlashes (cs : List Char) : List (List Char) :=
  cs.foldr (fun c pieces =>
    if c = '/' then [] :: pieces
    else match pieces with
      | piece :: pieces => (c :: piece) :: pieces
      | [] => [[c]]) [[]]

/-- What a path starts with: exactly two slashes are kept, any other number counts as one. -/
def rootOf : List Char → String
  | '/' :: '/' :: '/' :: _ => "/"
  | '/' :: '/' :: _ => "//"
  | '/' :: _ => "/"
  | _ => ""

/-- The path that a text names. -/
def ofString (text : String) : Path where
  root := rootOf text.toList
  parts := ((splitSlashes text.toList).filter fun piece => piece ≠ [] && piece ≠ ['.']).map
    String.ofList

/-- The text of a path; the path without parts is a dot. -/
def toString (path : Path) : String :=
  if path.root.isEmpty && path.parts.isEmpty then "."
  else path.root ++ "/".intercalate path.parts

instance : ToString Path := ⟨toString⟩

/-- The last part, or nothing. -/
def name (path : Path) : String :=
  path.parts.getLast?.getD ""

/-- The path without its last part. -/
def parent (path : Path) : Path :=
  { path with parts := path.parts.dropLast }

/-- The path of a file in a directory. -/
def child (path : Path) (name : String) : Path :=
  { path with parts := path.parts ++ [name] }

/-- The name under which a file is written before it takes its place; a path without a name has
none. -/
def temporary? (path : Path) : Option Path :=
  if path.name.isEmpty then none else some (path.parent.child (path.name ++ ".tmp"))

/-- Whether a path holds the character that no file name can hold. -/
def hasNul (path : Path) : Bool :=
  path.parts.any (·.toList.contains (Char.ofNat 0))

end Path

end LoopStepper
