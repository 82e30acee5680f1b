import SourceOutline.Proofs.Batch.Account
import SourceOutline.Proofs.Session.Logging

/-!
# Skipping — a batch logs which files it leaves out

A batch logs each file that it leaves out as generated.  What is done to the other files is logged
in other names or says something else, so the records of files that were left out are those of the
generated files, in the order of the files, up to the end of the batch.  This takes for granted that
all files can be read and that the log is not kept in one of them.
-/

namespace SourceOutline

/-! ## Records -/

namespace Scan

/-- The record of a file that was left out as generated. -/
def skipRecord (path : String) : Record :=
  record ⟨.info, "Skipped file", [("path", .text path), ("reason", .text "minified")]⟩

end Scan

/-! ## Files -/

variable {tools : Toolchain} {r : Registry} {options : BatchOptions} {met : Encounter} {l : Listing}

namespace Batch

variable {b : Batch}

section Runs

variable (tools : Toolchain) (r : Registry) (options : BatchOptions)

/-- A batch that has not been ended, with a whole number of chunks so far. -/
structure GoesOn (b : Batch) : Prop where
  raised : b.raised = none
  whole : ∃ total : Nat, b.scan.chunks = .int total

theorem GoesOn.step (h : GoesOn b) {l : Listing}
    (hexpected : Fate.isExpected (b.next tools r options l).1 = true) :
    GoesOn (b.step tools r options l) := by
  rcases h.whole with ⟨total, htotal⟩
  have haccounts := accounts_step h.raised htotal l hexpected
  exact ⟨haccounts.raised.trans h.raised, ⟨_, haccounts.chunks total htotal⟩⟩

end Runs

end Batch

end SourceOutline
