import DocLinks.Symbols.Table

/-!
Binding a reference against a frozen symbol table. One attempt has four outcomes, tried in this
order: a reference bound to a live reflection is already resolved; a sentinel id has no symbol
to look up; a symbol in the table binds the reference, unless its slot was written before, which
also counts as already resolved; a symbol not in the table leaves it unresolved. An attempt
changes nothing but an empty slot, so repeating it is harmless.

The counters of a pass add up the outcomes; the references left dangling are the unresolved ones
and those without a symbol.
-/

namespace DocLinks

/-- What one binding attempt did. -/
inductive Outcome where
  | resolved
  | alreadyResolved
  | unresolved
  | noSymbol
  deriving DecidableEq, Repr

/-- The name of an outcome. -/
def Outcome.name : Outcome → String
  | .resolved => "resolved"
  | .alreadyResolved => "alreadyResolved"
  | .unresolved => "unresolved"
  | .noSymbol => "noSymbol"

/-- Counters of the outcomes of a pass. -/
structure Stats where
  resolved : Nat := 0
  alreadyResolved : Nat := 0
  unresolved : Nat := 0
  noSymbol : Nat := 0
  deriving DecidableEq, Repr, Inhabited

namespace Stats

/-- Counts one more outcome. -/
def record (s : Stats) : Outcome → Stats
  | .resolved => { s with resolved := s.resolved + 1 }
  | .alreadyResolved => { s with alreadyResolved := s.alreadyResolved + 1 }
  | .unresolved => { s with unresolved := s.unresolved + 1 }
  | .noSymbol => { s with noSymbol := s.noSymbol + 1 }

/-- Adds two sets of counters. -/
def merge (a b : Stats) : Stats :=
  { resolved := a.resolved + b.resolved, alreadyResolved := a.alreadyResolved + b.alreadyResolved,
    unresolved := a.unresolved + b.unresolved, noSymbol := a.noSymbol + b.noSymbol }

/-- The number of references visited. -/
def total (s : Stats) : Nat := s.resolved + s.alreadyResolved + s.unresolved + s.noSymbol

/-- The references left pointing nowhere. -/
def dangling (s : Stats) : Nat := s.unresolved + s.noSymbol

/-- The counters of a list of outcomes. -/
def ofOutcomes (os : List Outcome) : Stats := os.foldl record {}

end Stats

/-- The outcome of one attempt, the reference's slot after it, and what it records. -/
structure Attempt where
  outcome : Outcome
  slot : Option Link
  notes : List Note

/-- Tries to bind a reference against a frozen table. -/
def Reference.attempt (symbols : SymbolMap) (live : Targets) (r : Reference) : Attempt :=
  if r.isResolved live then ⟨.alreadyResolved, r.slot, []⟩
  else if isSentinel r.symbol then
    ⟨.noSymbol, r.slot, [⟨.trace, r.name ++ ": no symbol id, keeping written name"⟩]⟩
  else
    match symbols.lookup r.symbol with
    | some e =>
      match r.slot with
      | some _ => ⟨.alreadyResolved, r.slot, []⟩
      | none =>
        let kindNote : List Note :=
          if e.target.kind.isTypeDeclaration then []
          else [⟨.debug, r.name ++ ": bound to a " ++ e.target.kind.title ++ ", not a type declaration"⟩]
        let bindNote : Note := ⟨.debug, r.name ++ " (symbol " ++ toString r.symbol ++ ") -> #" ++
          toString e.target.id ++ " " ++ e.target.name⟩
        ⟨.resolved, some e.link, kindNote ++ [bindNote]⟩
    | none =>
      ⟨.unresolved, r.slot, [⟨.trace, r.name ++ ": symbol " ++ toString r.symbol ++ " is not documented"⟩]⟩

/-- What a pass over type expressions has done so far: the outcomes in walk order and the
notes recorded. -/
structure Progress where
  outcomes : List Outcome := []
  notes : List Note := []

/-- The counters of a pass's progress. -/
def Progress.stats (p : Progress) : Stats := Stats.ofOutcomes p.outcomes

/-- One attempt within a pass. -/
def Progress.step (symbols : SymbolMap) (live : Targets) (p : Progress) (r : Reference) :
    Progress × Option Link :=
  let a := r.attempt symbols live
  ({ outcomes := p.outcomes ++ [a.outcome], notes := p.notes ++ a.notes }, a.slot)

/-- Tries every reference of an expression in walk order. -/
def TypeExpr.resolve (symbols : SymbolMap) (live : Targets) (p : Progress) (t : TypeExpr) :
    Progress × TypeExpr :=
  t.visit (Progress.step symbols live) p

/-- Tries every reference of expressions, one expression after the other. -/
def TypeExpr.resolveAll (symbols : SymbolMap) (live : Targets) (p : Progress) (ts : List TypeExpr) :
    Progress × List TypeExpr :=
  TypeExpr.visitAll (Progress.step symbols live) p ts

end DocLinks
