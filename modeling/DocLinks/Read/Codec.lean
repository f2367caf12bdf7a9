import DocLinks.Cli.Run
import DocLinks.Json.Write
import DocLinks.Read.Options
import DocLinks.Read.Dump

/-!
The codec of `refdoc`'s texts: the options file and the dump are read from JSON text, and what a
run writes is indented JSON.
-/

namespace DocLinks.Cli

/-- JSON text as `refdoc` reads and writes it. -/
def jsonCodec : Codec := ⟨Options.ofText, Dump.ofText, Json.pretty⟩

end DocLinks.Cli
