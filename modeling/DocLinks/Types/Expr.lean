import DocLinks.Reflection.Kind

/-!
Type expressions of the documentation model. A reference names another declaration by the
symbol id the front end gave it, and carries a slot that is written at most once with a link to
the reflection it was bound to. A link does not keep its reflection alive: a model tells which
reflections it still holds through a lookup of the cells links point at, and a reference whose
reflection is gone reads as unbound, though its slot stays written.

A reference shows its bound reflection's name while that reflection is alive, and its written
name otherwise; its type arguments are never shown. A union joins its members with `" | "`, a
tuple writes them in brackets joined by `", "`, and an array type adds `[]`, around parentheses
for a union.
-/

namespace DocLinks

/-- What a written slot holds: the id of the reflection it was bound to, and the cell where
that reflection is kept. -/
structure Link where
  id : Nat
  cell : Nat
  deriving DecidableEq, Repr

/-- What a reference sees of the reflection it is bound to. -/
structure Target where
  id : Nat
  name : String
  kind : Kind
  deriving DecidableEq, Repr

/-- The reflections a model still holds, by the cell a link points at. -/
abbrev Targets := Nat → Option Target

/-- A type expression. Every form may be an array of itself. -/
inductive TypeExpr where
  /-- A built-in type such as `string`. -/
  | intrinsic (array : Bool) (name : String)
  /-- A reference to a declaration by symbol id, with type arguments and a write-once slot. -/
  | reference (array : Bool) (name : String) (symbol : Int) (arguments : List TypeExpr)
      (slot : Option Link)
  /-- `A | B`. -/
  | union (array : Bool) (members : List TypeExpr)
  /-- `[A, B]`. -/
  | tuple (array : Bool) (elements : List TypeExpr)
  /-- Text the front end could not classify. -/
  | unknown (array : Bool) (name : String)
  deriving Inhabited

/-- A reference as the walk over a type meets it: everything but its position. -/
structure Reference where
  name : String
  symbol : Int
  arguments : List TypeExpr
  slot : Option Link

/-- Whether a symbol id is a sentinel, which no lookup can answer. -/
def isSentinel (symbol : Int) : Bool := symbol < 0

namespace Reference

/-- The reflection a reference is bound to, while it is alive. -/
def target (r : Reference) (live : Targets) : Option Target :=
  r.slot.bind fun l => live l.cell

/-- Whether the reference is bound to a live reflection. -/
def isResolved (r : Reference) (live : Targets) : Bool := (r.target live).isSome

/-- The name a reference shows: its bound reflection's while that is alive, its own otherwise. -/
def displayName (r : Reference) (live : Targets) : String :=
  match r.target live with
  | some t => t.name
  | none => r.name

/-- Writes the slot if it is empty; a written slot keeps its link. -/
def bind (r : Reference) (l : Link) : Reference :=
  match r.slot with
  | some _ => r
  | none => { r with slot := some l }

end Reference

namespace TypeExpr

/-- Whether the expression is an array type. -/
def isArray : TypeExpr → Bool
  | .intrinsic a _ | .reference a _ _ _ _ | .union a _ | .tuple a _ | .unknown a _ => a

/-- The same expression as an array type. -/
def array : TypeExpr → TypeExpr
  | .intrinsic _ n => .intrinsic true n
  | .reference _ n s args slot => .reference true n s args slot
  | .union _ ms => .union true ms
  | .tuple _ es => .tuple true es
  | .unknown _ n => .unknown true n

/-- The reference an expression is, if it is one. -/
def asReference : TypeExpr → Option Reference
  | .reference _ n s args slot => some ⟨n, s, args, slot⟩
  | _ => none

/-- Appends `[]` for an array type. -/
def withSuffix (a : Bool) (s : String) : String := if a then s ++ "[]" else s

mutual
/-- The text of an expression. -/
def display (live : Targets) : TypeExpr → String
  | .intrinsic a n => withSuffix a n
  | .unknown a n => withSuffix a n
  | .reference a n s args slot => withSuffix a ((Reference.mk n s args slot).displayName live)
  | .union a ms =>
    let inner := displayJoined live " | " ms
    if a then "(" ++ inner ++ ")[]" else inner
  | .tuple a es => withSuffix a ("[" ++ displayJoined live ", " es ++ "]")

/-- The texts of expressions joined by a separator. -/
def displayJoined (live : Targets) (sep : String) : List TypeExpr → String
  | [] => ""
  | [t] => display live t
  | t :: ts => display live t ++ sep ++ displayJoined live sep ts
end

mutual
/-- Every reference in an expression, in walk order: a reference, then the references in its
type arguments, then those of union and tuple members in order. -/
def references : TypeExpr → List Reference
  | .reference _ n s args slot => ⟨n, s, args, slot⟩ :: referencesAll args
  | .union _ ms => referencesAll ms
  | .tuple _ es => referencesAll es
  | _ => []

/-- The references of expressions, one after the other. -/
def referencesAll : List TypeExpr → List Reference
  | [] => []
  | t :: ts => references t ++ referencesAll ts
end

mutual
/-- Visits the references of an expression in walk order, threading a state; `f` answers the
new state and the reference's slot afterwards. -/
def visit {σ : Type} (f : σ → Reference → σ × Option Link) (s : σ) : TypeExpr → σ × TypeExpr
  | .reference a n sym args slot =>
    let (s1, slot') := f s ⟨n, sym, args, slot⟩
    let (s2, args') := visitAll f s1 args
    (s2, .reference a n sym args' slot')
  | .union a ms =>
    let (s', ms') := visitAll f s ms
    (s', .union a ms')
  | .tuple a es =>
    let (s', es') := visitAll f s es
    (s', .tuple a es')
  | t => (s, t)

/-- Visits expressions one after the other. -/
def visitAll {σ : Type} (f : σ → Reference → σ × Option Link) (s : σ) :
    List TypeExpr → σ × List TypeExpr
  | [] => (s, [])
  | t :: ts =>
    let (s1, t') := visit f s t
    let (s2, ts') := visitAll f s1 ts
    (s2, t' :: ts')
end

/-- Whether any reference in the expression has an empty written name. -/
def hasEmptyReferenceName (t : TypeExpr) : Bool :=
  t.references.any (·.name.isEmpty)

end TypeExpr

end DocLinks
