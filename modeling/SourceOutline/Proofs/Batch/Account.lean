import SourceOutline.Proofs.Session.Steady

/-!
# Account — a batch gives an account of each of its files

The files of a batch are processed one after the other over one session.  The batch gives an account
of the files so far: each is counted as chunked, skipped or failed, the outlines and the panels
stand in the order of the files, and no expected failure ends the batch.  What becomes of a file is
what would become of it right at the start, if it met the same there; only the log file may have
grown meanwhile.

* `Batch.accounts_run` — a batch accounts for each of its files;
* `Batch.fates_eq` — the files before a file do not matter to what becomes of it.
-/

namespace SourceOutline

/-! ## Fates -/

/-- What becomes of a file. -/
abbrev Fate := Except Failure FileOutcome

namespace Fate

def isChunked : Fate → Bool
  | .ok (.chunked _) => true
  | _ => false

def isSkipped : Fate → Bool
  | .ok (.skipped _) => true
  | _ => false

def isFailed : Fate → Bool
  | .error _ => true
  | _ => false

/-- Whether a batch goes on after the file: it did not fail, or with a failure that is contained. -/
def isExpected : Fate → Bool
  | .error why => why.isContained
  | .ok _ => true

def outline? : Fate → Option Outline
  | .ok (.chunked o) => some o
  | _ => none

/-- What is shown at once of a file: the panel of its failure, if it failed. -/
def panel (verbose : Bool) (l : Listing) : Fate → List Print
  | .error why => (Report.ofFailure why).prints ("While chunking " ++ l.path.toString) verbose
  | .ok _ => []

end Fate

abbrev Fates := List (Listing × Fate)

namespace Fates

variable (fates : Fates)

def chunked : Nat :=
  fates.countP fun f => f.2.isChunked

def skipped : Nat :=
  fates.countP fun f => f.2.isSkipped

def failed : Nat :=
  fates.countP fun f => f.2.isFailed

def outlines : List Outline :=
  fates.filterMap fun f => f.2.outline?

def chunkTotal : Nat :=
  (outlines fates).foldr (fun o total => o.chunks.length + total) 0

def panels (verbose : Bool) : List Print :=
  fates.flatMap fun f => f.2.panel verbose f.1

section Append

variable (more : Fates)

theorem chunked_append : chunked (fates ++ more) = chunked fates + chunked more :=
  List.countP_append

theorem skipped_append : skipped (fates ++ more) = skipped fates + skipped more :=
  List.countP_append

theorem failed_append : failed (fates ++ more) = failed fates + failed more :=
  List.countP_append

theorem outlines_append : outlines (fates ++ more) = outlines fates ++ outlines more :=
  List.filterMap_append

theorem chunkTotal_append : chunkTotal (fates ++ more) = chunkTotal fates + chunkTotal more := by
  unfold chunkTotal
  rw [outlines_append, List.foldr_append]
  induction outlines fates with
  | nil =>
      exact (Nat.zero_add _).symm
  | cons o os ih =>
      rw [List.foldr_cons, List.foldr_cons, ih, Nat.add_assoc]

theorem panels_append (verbose : Bool) :
    panels (fates ++ more) verbose = panels fates verbose ++ panels more verbose :=
  List.flatMap_append

end Append

/-- Each file is counted once. -/
theorem chunked_add_skipped_add_failed :
    chunked fates + skipped fates + failed fates = fates.length := by
  unfold chunked skipped failed
  induction fates with
  | nil =>
      rfl
  | cons f fates ih =>
      have hone : (if f.2.isChunked then 1 else 0) + (if f.2.isSkipped then 1 else 0) +
          (if f.2.isFailed then 1 else 0) = 1 := by
        rcases f with ⟨l, why | path | o⟩
        · rfl
        · rfl
        · rfl
      rw [List.countP_cons, List.countP_cons, List.countP_cons, List.length_cons]
      omega

theorem failed_pos_iff : 0 < failed fates ↔ ∃ f ∈ fates, f.2.isFailed = true :=
  List.countP_pos_iff

end Fates

/-! ## Accounts -/

namespace Batch

/-- What becomes of files as a batch comes to them. -/
def fates (tools : Toolchain) (r : Registry) (options : BatchOptions) : Batch → List Listing → Fates
  | _, [] => []
  | b, l :: rest =>
    (l, (b.next tools r options l).1) :: fates tools r options (b.step tools r options l) rest

theorem map_fst_fates (tools : Toolchain) (r : Registry) (options : BatchOptions) (b : Batch)
    (files : List Listing) : (fates tools r options b files).map Prod.fst = files := by
  induction files generalizing b with
  | nil => rfl
  | cons l rest ih => exact congrArg (l :: ·) (ih _)

/-- From one state of a batch to a later one, files with their fates were accounted for: the batch
was not ended, each file was counted, and the outlines and panels came to those before them. -/
structure Accounts (verbose : Bool) (fates : Fates) (b b' : Batch) : Prop where
  raised : b'.raised = b.raised
  done : b'.scan.done = b.scan.done + fates.chunked
  skipped : b'.scan.skipped = b.scan.skipped + fates.skipped
  failed : b'.scan.failed = b.scan.failed + fates.failed
  chunks : ∀ total : Nat, b.scan.chunks = .int total →
    b'.scan.chunks = .int (total + fates.chunkTotal : Nat)
  outlines : b'.outlines = b.outlines ++ fates.outlines
  prints : b'.prints = b.prints ++ fates.panels verbose

namespace Accounts

variable {verbose : Bool} {fates more : Fates} {b b' b'' : Batch}

theorem nil (verbose : Bool) (b : Batch) : Accounts verbose [] b b where
  raised := rfl
  done := rfl
  skipped := rfl
  failed := rfl
  chunks _ h := h
  outlines := (List.append_nil _).symm
  prints := (List.append_nil _).symm

theorem trans (h : Accounts verbose fates b b') (h' : Accounts verbose more b' b'') :
    Accounts verbose (fates ++ more) b b'' where
  raised := h'.raised.trans h.raised
  done := by rw [h'.done, h.done, Fates.chunked_append, Nat.add_assoc]
  skipped := by rw [h'.skipped, h.skipped, Fates.skipped_append, Nat.add_assoc]
  failed := by rw [h'.failed, h.failed, Fates.failed_append, Nat.add_assoc]
  chunks total htotal := by
    rw [h'.chunks _ (h.chunks total htotal), Fates.chunkTotal_append, Nat.add_assoc]
  outlines := by rw [h'.outlines, h.outlines, Fates.outlines_append, List.append_assoc]
  prints := by rw [h'.prints, h.prints, Fates.panels_append, List.append_assoc]

theorem of_session {session : Session} {number : Nat}
    (h : Accounts verbose fates { b with session, number } b') : Accounts verbose fates b b' :=
  ⟨h.raised, h.done, h.skipped, h.failed, h.chunks, h.outlines, h.prints⟩

end Accounts

variable {tools : Toolchain} {r : Registry} {options : BatchOptions} {b : Batch} {s : Session}

theorem addDone_of_chunks {scan : Scan} {total : Nat} (h : scan.chunks = .int total) (path : Value)
    (n : Nat) :
    scan.addDone path (.int n) =
      ({ scan with done := scan.done + 1, chunks := .int (total + n : Nat) },
        .ok ⟨.debug, "Chunked file", [("path", path), ("chunks", .int n)]⟩) := by
  unfold Scan.addDone
  simp only [Value.number?, h, Number.add?, Number.toInt?]
  rfl

theorem accounts_enter {total : Nat} (htotal : b.scan.chunks = .int total) (l : Listing)
    {fate : Fate} (hexpected : fate.isExpected = true) :
    Accounts options.verbose [(l, fate)] b (b.enter options l fate) := by
  rcases fate with why | path | o
  · -- The failure is expected, so it is shown and counted, and the batch goes on.
    have henter : b.enter options l (.error why) =
        Batch.log { b with
          scan := { b.scan with failed := b.scan.failed + 1 }
          prints := b.prints ++ Fate.panel options.verbose l (.error why) }
          ⟨.warning, "Failed to chunk file",
            [("path", .text l.path.toString), ("error", .text why.message)]⟩ := by
      have hcontained : why.isContained = true := hexpected
      simp only [Batch.enter, hcontained, if_true]
      rfl
    rw [henter]
    refine ⟨rfl, rfl, rfl, rfl, fun _ h => h, (List.append_nil _).symm, ?_⟩
    exact congrArg (b.prints ++ ·) (List.append_nil _).symm
  · exact ⟨rfl, rfl, rfl, rfl, fun _ h => h, (List.append_nil _).symm, (List.append_nil _).symm⟩
  · -- The total is a whole number, so adding the chunks of the file to it cannot fail.
    have henter : b.enter options l (.ok (.chunked o)) =
        Batch.log { b with
          scan := { b.scan with
            done := b.scan.done + 1
            chunks := .int (total + o.chunks.length : Nat) }
          outlines := b.outlines ++ [o] }
          ⟨.debug, "Chunked file",
            [("path", .text o.file.path), ("chunks", .int o.chunks.length)]⟩ := by
      simp only [Batch.enter, addDone_of_chunks htotal]
      rfl
    rw [henter]
    refine ⟨rfl, rfl, rfl, rfl, ?_, rfl, (List.append_nil _).symm⟩
    intro total' htotal'
    cases htotal.symm.trans htotal'
    rfl

theorem step_of_raised (hraised : b.raised = none) (l : Listing) :
    b.step tools r options l =
      { b with session := (b.next tools r options l).2, number := b.number + 1 }.enter options l
        (b.next tools r options l).1 := by
  unfold step
  split
  · rename_i hsome
    rw [hraised] at hsome
    cases hsome
  · rfl

/-- With one file more the batch accounts for the fate of the file. -/
theorem accounts_step {total : Nat} (hraised : b.raised = none)
    (htotal : b.scan.chunks = .int total) (l : Listing)
    (hexpected : Fate.isExpected (b.next tools r options l).1 = true) :
    Accounts options.verbose [(l, (b.next tools r options l).1)] b (b.step tools r options l) := by
  rw [step_of_raised hraised]
  let b' : Batch := { b with session := (b.next tools r options l).2, number := b.number + 1 }
  have hentered : Accounts options.verbose [(l, (b.next tools r options l).1)] b'
      (b'.enter options l (b.next tools r options l).1) :=
    @accounts_enter options b' total htotal l _ hexpected
  exact hentered.of_session

/-- A batch accounts for each of its files, if all failures are expected ones. -/
theorem accounts_run (files : List Listing) {total : Nat} (hraised : b.raised = none)
    (htotal : b.scan.chunks = .int total)
    (hexpected : ∀ f ∈ fates tools r options b files, f.2.isExpected = true) :
    Accounts options.verbose (fates tools r options b files) b (run tools r options files b) := by
  induction files generalizing b total with
  | nil =>
      exact Accounts.nil options.verbose b
  | cons l files ih =>
      rw [fates, List.forall_mem_cons] at hexpected
      -- The batch after the first file was not ended either, and has a total.
      have hfirst := accounts_step hraised htotal l hexpected.1
      exact hfirst.trans (ih (hfirst.raised.trans hraised) (hfirst.chunks total htotal) hexpected.2)

end Batch

/-! ## Files by themselves -/

/-- What becomes of a file that is processed in a given session, where its checks are the first. -/
def fateOf (tools : Toolchain) (r : Registry) (options : BatchOptions) (s : Session)
    (met : Encounter) (l : Listing) : Fate :=
  ((processFile tools r options met l).outcome { s with checks := 0 }).1

/-- A file is not the one that the log is kept in. -/
def BatchOptions.IsApart (options : BatchOptions) (l : Listing) : Prop :=
  ∀ log, options.log? = some log → log.isAt l.path = false

theorem BatchOptions.IsApart.found_eq {options : BatchOptions} {l : Listing}
    (h : options.IsApart l) (records : List Record) : options.found records l = l := by
  unfold BatchOptions.found
  split
  · rename_i log hlog
    simp only [LogFile.grown, h log hlog, Bool.false_and, Bool.false_eq_true, if_false]
  · rfl

namespace Batch

variable {tools : Toolchain} {r : Registry} {options : BatchOptions} {b : Batch} {s : Session}

theorem enter_keeps (b : Batch) (options : BatchOptions) (l : Listing) (fate : Fate) :
    (b.enter options l fate).session.engine = b.session.engine ∧
      (b.enter options l fate).number = b.number := by
  have hcount : ∀ (b : Batch) (entered : Scan × Except Fault Entry),
      (b.count entered).session.engine = b.session.engine ∧
        (b.count entered).number = b.number := by
    rintro b ⟨scan, why | e⟩
    · exact ⟨rfl, rfl⟩
    · exact ⟨rfl, rfl⟩
  rcases fate with why | path | o
  · unfold enter
    dsimp only
    split
    · exact hcount _ _
    · exact ⟨rfl, rfl⟩
  · exact hcount _ _
  · exact hcount _ _

theorem number_step (hraised : b.raised = none) (l : Listing) :
    (b.step tools r options l).number = b.number + 1 := by
  rw [step_of_raised hraised, (enter_keeps _ _ _ _).2]

theorem next_eq_fateOf (hanswers : b.session.SameAnswers tools s) {l : Listing}
    (hapart : options.IsApart l) :
    (b.next tools r options l).1 =
      fateOf tools r options s (options.course.atFile b.number) l := by
  unfold next
  rw [hapart.found_eq]
  exact ((isSteady_processFile tools r options _ l).same { b.session with checks := 0 }
    { s with checks := 0 } ⟨hanswers, rfl⟩).1

theorem sameAnswers_step (hraised : b.raised = none) (hanswers : b.session.SameAnswers tools s)
    (l : Listing) : (b.step tools r options l).session.SameAnswers tools s := by
  intro key
  rw [step_of_raised hraised, (enter_keeps _ _ _ _).1]
  exact ((isSteady_processFile tools r options _ _).keeps _ key).trans (hanswers key)

/-- What becomes of the files of a batch is what becomes of each by itself, if the log is kept
elsewhere. -/
theorem fates_eq (files : List Listing) {total : Nat} (hraised : b.raised = none)
    (htotal : b.scan.chunks = .int total) (hanswers : b.session.SameAnswers tools s)
    (hapart : ∀ l ∈ files, options.IsApart l)
    (hexpected : ∀ f ∈ fates tools r options b files, f.2.isExpected = true) :
    fates tools r options b files =
      (files.zipIdx b.number).map fun f =>
        (f.1, fateOf tools r options s (options.course.atFile f.2) f.1) := by
  induction files generalizing b total with
  | nil => rfl
  | cons l files ih =>
      rw [fates, List.forall_mem_cons] at hexpected
      have hfirst := accounts_step hraised htotal l hexpected.1
      have hrest := ih (hfirst.raised.trans hraised) (hfirst.chunks total htotal)
        (sameAnswers_step hraised hanswers l) (fun l hl => hapart l (List.mem_cons_of_mem _ hl))
        hexpected.2
      rw [fates, hrest, next_eq_fateOf hanswers (hapart l List.mem_cons_self),
        number_step hraised l]
      rfl

end Batch

end SourceOutline
