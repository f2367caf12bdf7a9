/-!
Failures at the edges of the documentation model. A reference that finds no target is not one
of them: it is a state of the model. Two failures are recoverable, since a conversion can
record them and go on: registering a symbol that is already registered, and registering under a
sentinel symbol id.
-/

namespace DocLinks

/-- A failure of the library. -/
inductive Error where
  /-- The symbol is already registered, to the reflection with id `existing`. -/
  | duplicateSymbol (symbol : Int) (existing : Nat)
  /-- A reflection cannot be registered under a negative symbol id. -/
  | sentinelSymbol (reflection : Nat)
  /-- Declaration `index` names a parent that is not an earlier declaration. -/
  | invalidParent (index : Nat) (name : String) (parent : Nat)
  /-- Declaration `index` has an empty name. -/
  | emptyName (index : Nat)
  /-- Declaration `index` holds a reference with an empty name. -/
  | emptyReferenceName (index : Nat)
  /-- A text is not the JSON of what was asked for; the message says why and where. -/
  | json (message : String)
  /-- A file could not be read; the message is the system's. -/
  | io (message : String)
  deriving DecidableEq, Repr

namespace Error

/-- The text of a failure. -/
def message : Error → String
  | .duplicateSymbol s e =>
    "Symbol " ++ toString s ++ " is already registered to reflection #" ++ toString e
  | .sentinelSymbol r => "Cannot register reflection #" ++ toString r ++ " under the sentinel symbol id"
  | .invalidParent i n p =>
    "Declaration " ++ toString i ++ " (" ++ n ++ ") names parent " ++ toString p ++
      ", which is not an earlier declaration"
  | .emptyName i => "Declaration " ++ toString i ++ " has an empty name"
  | .emptyReferenceName i => "Declaration " ++ toString i ++ " contains a reference type with an empty name"
  | .json m => "Invalid JSON: " ++ m
  | .io m => "IO error: " ++ m

/-- Whether a conversion may record the failure and go on. -/
def recoverable : Error → Bool
  | .duplicateSymbol .. | .sentinelSymbol .. => true
  | _ => false

/-- The message of the failure beneath this one, for the failures that wrap one. -/
def cause? : Error → Option String
  | .json m | .io m => some m
  | _ => none

/-- The text of a failure followed by the texts of the failures beneath it. -/
def chain (e : Error) : String :=
  match e.cause? with
  | some m => e.message ++ ": " ++ m
  | none => e.message

end Error

/-- Reads with a text reader, turning its fault into a failure. -/
def ofJsonText {α : Type} (read : String → Except String α) (text : String) : Except Error α :=
  match read text with
  | .ok a => .ok a
  | .error m => .error (.json m)

end DocLinks
