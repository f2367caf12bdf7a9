import DocLinks.Convert
import DocLinks.Report
import DocLinks.Options

/-!
Documenting a dump: it is converted into a project, the project's symbol table is frozen, and the
resolving pass runs over it, in parallel if the options say so. The notes of the conversion come
first, then those of the pass.
-/

namespace DocLinks

/-- What documenting a dump produces. -/
structure Documentation where
  /-- The project as conversion left it, before the resolving pass. -/
  converted : Builder
  /-- The project after the resolving pass. -/
  project : Project
  stats : Stats

/-- Documents a dump with the given options; answers the documentation or the failure of the
conversion, and the notes recorded. -/
def Dump.document (dump : Dump) (opts : Options) : Except Error Documentation × List Note :=
  let c := dump.convert
  match c.result with
  | .error e => (.error e, c.notes)
  | .ok b =>
    let pass := if opts.parallel then b.finish.resolveParallel else b.finish.resolve
    (.ok { converted := b, project := pass.project, stats := pass.stats }, c.notes ++ pass.notes)

end DocLinks
