import LoopStepper.Files.Tree
import LoopStepper.Text.CodePoint
import LoopStepper.Text.Lines

/-!
# Script files

A script is kept in a file as UTF-8. Writing changes nothing; reading turns carriage returns into
line feeds, so that a script without them reads back as it was written. A text with half of a
surrogate pair has no UTF-8 form and is not kept; the scripts of a session are texts of characters.
-/

namespace LoopStepper.Tree

/-- The text of a file. -/
def readText (tree : Tree) (path : Path) : Option String :=
  match tree.read path with
  | .error _ => none
  | .ok bytes =>
    (String.fromUTF8? bytes).map fun text => String.ofList (Text.unifyBreaks text.toList)

/-- The script in a file, if there is a file that can be read. Only a name that is too long is an
error. -/
def loadScript (tree : Tree) (path : Path) : Except FileError (Option String) := do
  if ← tree.exists? path then return tree.readText path else return none

/-- Writes a text of code points to a file; says whether the file holds it now. -/
def savePoints (tree : Tree) (path : Path) (points : List Text.CodePoint) : Tree × Bool :=
  match tree.save path (Text.encode? points) with
  | (tree, .ok ()) => (tree, true)
  | (tree, .error _) => (tree, false)

/-- Writes a text to a file; says whether the file holds it now. -/
def saveText (tree : Tree) (path : Path) (text : String) : Tree × Bool :=
  tree.savePoints path (Text.codePoints text)

end LoopStepper.Tree
