import SourceOutline.Proofs.Chunker.Outcome
import SourceOutline.Proofs.Engine.Memory
import SourceOutline.Batch

/-!
# Steady — calls whose result does not depend on the calls before them

Calls over one session share the memory of an engine, the number of checks and the log.  Where the
checks are counted anew, what a call comes to depends on the memory only, and of the memory only on
which grammars would be refused.  No call changes that, so the calls before a call do not matter for
its result.
-/

namespace SourceOutline

/-- Two sessions whose engines would refuse the same grammars for the same reasons. -/
def Session.SameAnswers (tools : Toolchain) (s s' : Session) : Prop :=
  ∀ key, s.engine.refusal? tools key = s'.engine.refusal? tools key

theorem Session.SameAnswers.trans {tools : Toolchain} {s s' s'' : Session}
    (h : s.SameAnswers tools s') (h' : s'.SameAnswers tools s'') : s.SameAnswers tools s'' :=
  fun key => (h key).trans (h' key)

/-- Two sessions that differ only in what no call looks at. -/
structure Session.IsLike (tools : Toolchain) (s s' : Session) : Prop where
  answers : s.SameAnswers tools s'
  checks : s.checks = s'.checks

namespace Call

variable {α β : Type} {tools : Toolchain} {t : Call α} {next : α → Call β}

/-- Like sessions give the same result and have made as many checks after the call, and the call
does not change which grammars would be refused. -/
structure IsSteady (tools : Toolchain) (t : Call α) : Prop where
  keeps : ∀ s, (t.outcome s).2.SameAnswers tools s
  same : ∀ s s', s.IsLike tools s' →
    (t.outcome s).1 = (t.outcome s').1 ∧ (t.outcome s).2.checks = (t.outcome s').2.checks

/-! ## Steps -/

theorem isSteady_pure (tools : Toolchain) (a : α) : IsSteady tools (pure a : Call α) where
  keeps _ _ := rfl
  same _ _ h := ⟨rfl, h.checks⟩

theorem isSteady_throw (tools : Toolchain) (why : Failure) :
    IsSteady tools (throw why : Call α) where
  keeps _ _ := rfl
  same _ _ h := ⟨rfl, h.checks⟩

theorem isSteady_log (tools : Toolchain) (r : Record) : IsSteady tools (log r) where
  keeps _ _ := rfl
  same _ _ h := ⟨rfl, h.checks⟩

theorem isSteady_bind (ht : IsSteady tools t) (hnext : ∀ a, IsSteady tools (next a)) :
    IsSteady tools (t >>= next) := by
  refine ⟨?_, ?_⟩
  · intro s
    have hbefore := ht.keeps s
    rw [outcome_bind]
    rcases hfirst : t.outcome s with ⟨result, s₁⟩
    rw [hfirst] at hbefore
    cases result with
    | error why => exact hbefore
    | ok a => exact ((hnext a).keeps s₁).trans hbefore
  · intro s s' hlike
    -- After the first step the sessions are still alike, each answering as the one it came from.
    have hresult := ht.same s s' hlike
    have hbefore := ht.keeps s
    have hbefore' := ht.keeps s'
    rw [outcome_bind, outcome_bind]
    rcases hfirst : t.outcome s with ⟨result, s₁⟩
    rcases hfirst' : t.outcome s' with ⟨result', s₁'⟩
    rw [hfirst, hfirst'] at hresult
    rw [hfirst] at hbefore
    rw [hfirst'] at hbefore'
    rcases hresult with ⟨hsame, hchecks⟩
    cases (hsame : result = result')
    cases result with
    | error why => exact ⟨rfl, hchecks⟩
    | ok a =>
        refine (hnext a).same s₁ s₁' ⟨fun key => ?_, hchecks⟩
        exact (hbefore key).trans ((hlike.answers key).trans (hbefore' key).symm)

theorem isSteady_parse (tools : Toolchain) (language : String) (source : Bytes) :
    IsSteady tools (parse tools language source) := by
  have hasked : ∀ s : Session, (s.asked tools language).SameAnswers tools s := fun s key =>
    Engine.refusal?_load tools s.engine language key
  have hparsed : ∀ s : Session, (s.parsed tools language).SameAnswers tools s := fun s key =>
    Engine.refusal?_load tools s.engine language key
  refine ⟨?_, ?_⟩
  · intro s
    rw [outcome_parse_eq]
    cases s.engine.refusal? tools (lowerCase language) with
    | none => exact hparsed s
    | some reason => exact hasked s
  · intro s s' hlike
    rw [outcome_parse_eq, outcome_parse_eq, hlike.answers]
    cases s'.engine.refusal? tools (lowerCase language) with
    | none => exact ⟨rfl, hlike.checks⟩
    | some reason => exact ⟨rfl, hlike.checks⟩

theorem isSteady_check (p : Poll) : IsSteady tools (check (some p)) := by
  refine ⟨?_, ?_⟩
  · intro s
    rw [outcome_check_some]
    cases p (s.checks + 1) with
    | none => exact fun _ => rfl
    | some why => exact fun _ => rfl
  · intro s s' hlike
    rw [outcome_check_some, outcome_check_some, hlike.checks]
    cases p (s'.checks + 1) with
    | none => exact ⟨rfl, rfl⟩
    | some why => exact ⟨rfl, rfl⟩

theorem isSteady_outlining {p : Poll} {grammar : String} {file : SourceFile}
    {make : SyntaxNode → Call Outline} (hmake : ∀ tree, IsSteady tools (make tree)) :
    IsSteady tools (outlining tools grammar file (some p) make) := by
  refine isSteady_bind (isSteady_check p) fun _ => ?_
  cases file.content.isBlank with
  | true => exact isSteady_pure tools _
  | false => exact isSteady_bind (isSteady_parse tools grammar file.content) hmake

end Call

/-! ## Chunkers -/

variable {tools : Toolchain} {p : Poll}

theorem TableChunker.isSteady_walk (plan : Plan) (interval : Number) (tree : SyntaxNode) :
    Call.IsSteady tools (walk plan interval (some p) tree) := by
  refine ⟨?_, ?_⟩
  · intro s key
    rcases hrun : plan.run interval (some p) (plan.start tree s.checks) with ⟨t, halt⟩
    rw [outcome_walk plan interval (some p) tree s hrun]
  · intro s s' hlike
    rcases hrun : plan.run interval (some p) (plan.start tree s.checks) with ⟨t, halt⟩
    have hrun' : plan.run interval (some p) (plan.start tree s'.checks) = (t, halt) :=
      hlike.checks ▸ hrun
    rw [outcome_walk plan interval (some p) tree s hrun,
      outcome_walk plan interval (some p) tree s' hrun']
    exact ⟨rfl, rfl⟩

theorem TableChunker.isSteady_outlineTree (c : TableChunker) (file : SourceFile)
    (tree : SyntaxNode) : Call.IsSteady tools (c.outlineTree file (some p) tree) :=
  Call.isSteady_bind (isSteady_walk (c.plan file) c.interval tree) fun _ =>
    Call.isSteady_bind (Call.isSteady_log tools _) fun _ => Call.isSteady_pure tools _

theorem Reference.isSteady_outlineTree (r : Reference) (levels : Nat) (file : SourceFile)
    (tree : SyntaxNode) : Call.IsSteady tools (r.outlineTree levels file tree) := by
  refine ⟨?_, ?_⟩
  · intro s key
    rw [outcome_outlineTree]
  · intro s s' hlike
    rw [outcome_outlineTree, outcome_outlineTree]
    exact ⟨rfl, hlike.checks⟩

theorem Chunker.isSteady_chunk (p : Poll) (file : SourceFile) (chunker : Chunker) :
    Call.IsSteady tools (chunker.chunk tools file (some p)) := by
  cases chunker with
  | table c => exact Call.isSteady_outlining fun tree => c.isSteady_outlineTree file tree
  | reference r =>
      rw [Chunker.chunk, Reference.chunk_eq_outlining]
      exact Call.isSteady_outlining fun tree => r.isSteady_outlineTree tools.levels file tree
  | fallback => exact Call.isSteady_bind (Call.isSteady_check p) fun _ => Call.isSteady_pure tools _

theorem exists_chunker_chunkOne (tools : Toolchain) (r : Registry) (useReferences : Bool)
    (file : SourceFile) (poll : Poll) :
    ∃ (chunker : Chunker) (file' : SourceFile),
      chunkOne tools r useReferences file poll = chunker.chunk tools file' (some poll) := by
  unfold chunkOne
  dsimp only
  split
  · rename_i reference language _ _
    exact ⟨.reference reference, file.withLanguage language, rfl⟩
  · exact r.exists_chunker tools file (some poll)

theorem isSteady_chunkOne (p : Poll) (r : Registry) (useReferences : Bool)
    (file : SourceFile) : Call.IsSteady tools (chunkOne tools r useReferences file p) := by
  rcases exists_chunker_chunkOne tools r useReferences file p with ⟨chunker, file', hchunk⟩
  rw [hchunk]
  exact Chunker.isSteady_chunk p file' chunker

/-- What becomes of a file does not depend on what was done before it. -/
theorem isSteady_processFile (tools : Toolchain) (r : Registry) (options : BatchOptions)
    (met : Encounter) (l : Listing) : Call.IsSteady tools (processFile tools r options met l) := by
  unfold processFile
  dsimp only
  split
  · exact Call.isSteady_throw tools _
  · split
    · exact Call.isSteady_pure tools _
    · split
      · exact Call.isSteady_throw tools _
      · refine Call.isSteady_bind ?_ fun _ => Call.isSteady_pure tools _
        exact isSteady_chunkOne _ r options.useReferences l.toSourceFile

end SourceOutline
