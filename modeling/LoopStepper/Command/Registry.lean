import LoopStepper.Text.Blank
import LoopStepper.Text.Case

/-!
# Command registries

Commands are known by names in any case. A line that starts with a slash is a command: its first
word is the name, the other words are the arguments. A registry maps names and aliases to handlers
and keeps a line of help for each name, in the order in which the names were first registered.
-/

namespace LoopStepper

open Text

/-- Handlers by name, with help. -/
structure Registry (η : Type) where
  handlers : List (String × η) := []
  help : List (String × String) := []

/-- What a line asks of a registry. -/
inductive Reading (η : Type) where
  /-- The line does not start with a slash. -/
  | noCommand
  /-- There is nothing behind the slash. -/
  | empty
  | unknown (name : String)
  | call (handler : η) (arguments : List String)

namespace Registry

variable {η : Type}

/-- A list of pairs with the value of a key set; a key that is there keeps its position. -/
def assign {α : Type} (key : String) (value : α) : List (String × α) → List (String × α)
  | [] => [(key, value)]
  | (other, old) :: rest =>
    if other == key then (key, value) :: rest else (other, old) :: assign key value rest

/-- Registers a handler under a name and aliases, in place of those registered there before. -/
def register (registry : Registry η) (name : String) (handler : η) (help : String)
    (aliases : List String := []) : Registry η where
  handlers := (name :: aliases).foldl (fun handlers name =>
    assign (lowerString name) handler handlers) registry.handlers
  help := assign (lowerString name) help registry.help

/-- The handler for a name. -/
def find? (registry : Registry η) (name : String) : Option η :=
  registry.handlers.lookup name

/-- What a line asks for. -/
def read (registry : Registry η) (line : String) : Reading η :=
  match line.toList with
  | '/' :: rest =>
    match words rest with
    | [] => .empty
    | name :: arguments =>
      let name := String.ofList (lower name)
      match registry.find? name with
      | none => .unknown name
      | some handler => .call handler (arguments.map String.ofList)
  | _ => .noCommand

/-- The help of all commands. -/
def helpText (registry : Registry η) : String :=
  "\n".intercalate ("Available commands:" ::
    registry.help.map fun (name, help) => s!"  /{name} - {help}")

/-- The reply to an empty command. -/
def emptyReply : String :=
  "Empty command. Use /help to list available commands."

/-- The reply to a name that is not registered. -/
def unknownReply (name : String) : String :=
  s!"Unknown command: /{name}. Use /help to list available commands."

end Registry

end LoopStepper
