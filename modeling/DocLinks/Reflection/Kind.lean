/-!
Kinds of declaration a reflection documents. Four of them declare types (classes, interfaces,
enums and type aliases), the kinds a reference is meant to point at. A kind is written by its
camel-case name.
-/

namespace DocLinks


/-- The kind of declaration a reflection documents. -/
inductive Kind where
  | module
  | «class»
  | interface
  | enum
  | typeAlias
  | function
  | variable
  | property
  | method
  deriving DecidableEq, Repr, Inhabited

namespace Kind

/-- Every kind, in the order of their names in messages. -/
def all : List Kind :=
  [.module, .class, .interface, .enum, .typeAlias, .function, .variable, .property, .method]

/-- The name a kind is written with. -/
def name : Kind → String
  | .module => "module"
  | .class => "class"
  | .interface => "interface"
  | .enum => "enum"
  | .typeAlias => "typeAlias"
  | .function => "function"
  | .variable => "variable"
  | .property => "property"
  | .method => "method"

/-- The capitalised name of a kind, as diagnostics show it. -/
def title : Kind → String
  | .module => "Module"
  | .class => "Class"
  | .interface => "Interface"
  | .enum => "Enum"
  | .typeAlias => "TypeAlias"
  | .function => "Function"
  | .variable => "Variable"
  | .property => "Property"
  | .method => "Method"

/-- Whether the kind declares a type. -/
def isTypeDeclaration : Kind → Bool
  | .class | .interface | .enum | .typeAlias => true
  | _ => false

end Kind

end DocLinks
