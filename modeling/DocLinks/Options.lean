import DocLinks.Types.Record

/-!
Run options: whether the resolving pass runs in parallel, and the extras of written records.
A missing option keeps its default. Switches given elsewhere, such as on the command line, can
only turn options on.
-/

namespace DocLinks

/-- Options of a run. -/
structure Options where
  parallel : Bool := false
  serialize : RecordOptions := {}
  deriving DecidableEq, Repr, Inhabited

namespace Options

/-- Turns on what the switches turn on. -/
def enable (o : Options) (parallel typeArguments targets : Bool) : Options :=
  { parallel := o.parallel || parallel,
    serialize := { typeArguments := o.serialize.typeArguments || typeArguments,
                   targets := o.serialize.targets || targets } }

end Options

end DocLinks
