import SourceOutline.Config.Registry
import SourceOutline.Proofs.Failure.Sequence
import SourceOutline.Proofs.Session.Steady

/-!
# Logging — in whose name calls log

A call only adds to the log, and each part of the program logs in a name of its own.  So the records
of one part can be told from all others, whatever the calls between them come to.
-/

namespace SourceOutline

/-! ## Calls -/

namespace Call

variable {α β : Type} {names : List String} {t : Call α} {next : α → Call β}

end Call

section Engine

variable {names : List String} (hengine : Engine.loggerName ∈ names) (tools : Toolchain)
include hengine

namespace Call

end Call

end Engine

/-! ## Files -/

section Files

variable {names : List String} (hengine : Engine.loggerName ∈ names)
  (htable : TableChunker.loggerName ∈ names) {tools : Toolchain}

namespace TableChunker

end TableChunker

include hengine htable

end Files

/-! ## Registries -/

section Registries

variable {names : List String} (hengine : Engine.loggerName ∈ names)
  (hregistry : Registry.loggerName ∈ names) {tools : Toolchain}

namespace Registry

include hengine hregistry

end Registry

end Registries

end SourceOutline
