import DocLinks.Types.Expr
import DocLinks.Json.Value

/-!
Records: the serialized form of type expressions. A record is an object with `isArray`, the
`type` tag naming its form, and the form's fields; a reference has `name` and `symbolID`, and
may carry `typeArguments` and the `target` id of its bound reflection.

Writing a record from an expression adds `typeArguments` only when that option is on and there
are arguments, and `target` only when that option is on and the reference is bound to a live
reflection. Building an expression from a record ignores `target`; it binds the references
whose symbol a lookup can answer, and leaves the others unbound.
-/

namespace DocLinks

/-- The extras a written record may carry. -/
structure RecordOptions where
  typeArguments : Bool := false
  targets : Bool := false
  deriving DecidableEq, Repr, Inhabited

/-- Both extras on. -/
def RecordOptions.all : RecordOptions := { typeArguments := true, targets := true }

/-- A type expression as a record. -/
inductive TypeRecord where
  | intrinsic (array : Bool) (name : String)
  | reference (array : Bool) (name : String) (symbol : Int)
      (arguments : Option (List TypeRecord)) (target : Option Nat)
  | union (array : Bool) (members : List TypeRecord)
  | tuple (array : Bool) (elements : List TypeRecord)
  | unknown (array : Bool) (name : String)
  deriving Inhabited, BEq

namespace TypeRecord

/-- The tag of a record's form. -/
def typeName : TypeRecord → String
  | .intrinsic .. => "intrinsic"
  | .reference .. => "reference"
  | .union .. => "union"
  | .tuple .. => "tuple"
  | .unknown .. => "unknown"

mutual
/-- A record as a JSON object: `isArray`, `type`, then the form's fields. -/
def toJson : TypeRecord → Json
  | .intrinsic a n => .obj [("isArray", .bool a), ("type", .str "intrinsic"), ("name", .str n)]
  | .unknown a n => .obj [("isArray", .bool a), ("type", .str "unknown"), ("name", .str n)]
  | .reference a n s args target =>
    .obj ([("isArray", .bool a), ("type", .str "reference"), ("name", .str n),
        ("symbolID", .int s)] ++
      (match args with
        | some xs => [("typeArguments", .arr (toJsonAll xs))]
        | none => []) ++
      (match target with
        | some t => [("target", .int t)]
        | none => []))
  | .union a ms => .obj [("isArray", .bool a), ("type", .str "union"), ("types", .arr (toJsonAll ms))]
  | .tuple a es =>
    .obj [("isArray", .bool a), ("type", .str "tuple"), ("elements", .arr (toJsonAll es))]

/-- Records as JSON objects. -/
def toJsonAll : List TypeRecord → List Json
  | [] => []
  | r :: rs => toJson r :: toJsonAll rs
end

mutual
/-- Whether a reference anywhere in the record has an empty name. -/
def hasEmptyReferenceName : TypeRecord → Bool
  | .reference _ n _ args _ =>
    n.isEmpty || (match args with
      | some xs => anyEmptyReferenceName xs
      | none => false)
  | .union _ ms => anyEmptyReferenceName ms
  | .tuple _ es => anyEmptyReferenceName es
  | _ => false

/-- Whether any of the records has a reference with an empty name. -/
def anyEmptyReferenceName : List TypeRecord → Bool
  | [] => false
  | r :: rs => hasEmptyReferenceName r || anyEmptyReferenceName rs
end

end TypeRecord

namespace TypeExpr

mutual
/-- The record of an expression with the given extras. -/
def toRecord (opts : RecordOptions) (live : Targets) : TypeExpr → TypeRecord
  | .intrinsic a n => .intrinsic a n
  | .unknown a n => .unknown a n
  | .reference a n s args slot =>
    let arguments := if opts.typeArguments && !args.isEmpty then some (toRecordAll opts live args)
      else none
    let target := if opts.targets then ((Reference.mk n s args slot).target live).map (·.id)
      else none
    .reference a n s arguments target
  | .union a ms => .union a (toRecordAll opts live ms)
  | .tuple a es => .tuple a (toRecordAll opts live es)

/-- The records of expressions. -/
def toRecordAll (opts : RecordOptions) (live : Targets) : List TypeExpr → List TypeRecord
  | [] => []
  | t :: ts => toRecord opts live t :: toRecordAll opts live ts
end

mutual
/-- The expression of a record, with each reference bound to what `known` answers for its
symbol, if anything. -/
def ofRecordWith (known : Int → Option Link) : TypeRecord → TypeExpr
  | .intrinsic a n => .intrinsic a n
  | .unknown a n => .unknown a n
  | .reference a n s args _ =>
    let arguments := match args with
      | some xs => ofRecordAllWith known xs
      | none => []
    .reference a n s arguments (known s)
  | .union a ms => .union a (ofRecordAllWith known ms)
  | .tuple a es => .tuple a (ofRecordAllWith known es)

/-- The expressions of records. -/
def ofRecordAllWith (known : Int → Option Link) : List TypeRecord → List TypeExpr
  | [] => []
  | r :: rs => ofRecordWith known r :: ofRecordAllWith known rs
end

/-- The expression of a record with nothing bound. -/
def ofRecord (r : TypeRecord) : TypeExpr := ofRecordWith (fun _ => none) r

/-- A built-in type. -/
def intrinsicNamed (name : String) : TypeExpr := .intrinsic false name

/-- An unclassified type. -/
def unknownNamed (name : String) : TypeExpr := .unknown false name

/-- An unbound reference with no type arguments. -/
def referenceTo (name : String) (symbol : Int) : TypeExpr := .reference false name symbol [] none

/-- The same reference with the given type arguments; other expressions stay as they are. -/
def withArguments (args : List TypeExpr) : TypeExpr → TypeExpr
  | .reference a n s _ slot => .reference a n s args slot
  | t => t

/-- A union of members. -/
def unionOf (members : List TypeExpr) : TypeExpr := .union false members

/-- A tuple of elements. -/
def tupleOf (elements : List TypeExpr) : TypeExpr := .tuple false elements

end TypeExpr

namespace TypeRecord

/-- Marks an expression as an array when asked. -/
def arrayIf (a : Bool) (t : TypeExpr) : TypeExpr := if a then t.array else t

mutual
/-- Builds the expression of a record from the constructors, one form at a time, and marks it
as an array last. Nothing is bound. -/
def construct : TypeRecord → TypeExpr
  | .intrinsic a n => arrayIf a (TypeExpr.intrinsicNamed n)
  | .unknown a n => arrayIf a (TypeExpr.unknownNamed n)
  | .reference a n s args _ =>
    let arguments := match args with
      | some xs => constructAll xs
      | none => []
    arrayIf a ((TypeExpr.referenceTo n s).withArguments arguments)
  | .union a ms => arrayIf a (TypeExpr.unionOf (constructAll ms))
  | .tuple a es => arrayIf a (TypeExpr.tupleOf (constructAll es))

/-- Builds the expressions of records. -/
def constructAll : List TypeRecord → List TypeExpr
  | [] => []
  | r :: rs => construct r :: constructAll rs
end

end TypeRecord

end DocLinks
