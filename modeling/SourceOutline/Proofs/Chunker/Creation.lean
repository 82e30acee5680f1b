import SourceOutline.Proofs.Chunker.Outcome
import SourceOutline.Proofs.Engine.Memory

/-!
# Creation — a chunker has its grammar

A chunker with a table is made only if the engine has the grammar or can load it.  The engine then
keeps the grammar, so that chunking does not fail for want of it.
-/

namespace SourceOutline

namespace TableChunker

variable {tools : Toolchain} {c : TableChunker} {table : LanguageTable} {interval : Number}
variable {s s' : Session}

/-- Only a grammar that is refused keeps a chunker from being made, if the interval is allowed. -/
theorem outcome_create (hinterval : interval.lt (.int 1) = false) :
    (create (some tools) (some table) interval).outcome s =
      (match s.engine.refusal? tools (lowerCase table.grammar) with
        | none => .ok { table, interval }
        | some _ => .error (.grammarNotLoadable table.grammar table.language),
      s.asked tools table.grammar) := by
  unfold create
  simp only [hinterval, Bool.false_eq_true, if_false]
  rw [Call.outcome_bind, Call.outcome_supports]
  cases s.engine.refusal? tools (lowerCase table.grammar) with
  | none => rfl
  | some reason => rfl

/-- A chunker that was made has its table, and the grammar is loaded from then on. -/
theorem of_outcome_create_eq_ok
    (h : (create (some tools) (some table) interval).outcome s = (.ok c, s')) :
    c.table = table ∧ lowerCase table.grammar ∈ s'.engine.loaded := by
  cases hinterval : interval.lt (.int 1) with
  | true =>
      simp only [create, hinterval, if_true] at h
      cases h
  | false =>
      rw [outcome_create hinterval] at h
      cases hrefusal : s.engine.refusal? tools (lowerCase table.grammar) with
      | some reason =>
          rw [hrefusal] at h
          cases h
      | none =>
          rw [hrefusal] at h
          cases h
          refine ⟨rfl, Engine.mem_loaded_iff.2 ?_⟩
          -- The request for the grammar was not refused, and that is remembered.
          simp only [Session.asked, Engine.remembered?_load, if_true, hrefusal]

/-- A chunker whose grammar is loaded does not fail for want of a grammar. -/
theorem outcome_chunk_ne_unsupported (h : lowerCase c.table.grammar ∈ s.engine.loaded)
    (tools : Toolchain) (file : SourceFile) (poll : Option Poll) (language reason : String) :
    ((c.chunk tools file poll).outcome s).1 ≠ .error (.unsupportedLanguage language reason) := by
  rw [chunk_eq_outlining, Call.outlining, Call.outcome_bind]
  rcases hcheck : (Call.check poll).outcome s with ⟨result, s₁⟩
  cases result with
  | error why =>
      rcases Call.exists_eq_interrupted_of_outcome_check hcheck with ⟨_, rfl⟩
      simp
  | ok _ =>
      rcases Call.of_outcome_check_eq_ok hcheck with ⟨n, rfl⟩
      simp only
      split
      · simp
      · have hrefusal : ({ s with checks := n } : Session).engine.refusal? tools
            (lowerCase c.table.grammar) = none := by
          rw [Engine.refusal?, Engine.mem_loaded_iff.1 h]
          rfl
        rw [Call.outcome_bind, Call.outcome_parse_eq, hrefusal]
        simp only
        cases tools.parse (lowerCase c.table.grammar) file.content with
        | noTree => simp [ParserAnswer.result]
        | refused _ => simp [ParserAnswer.result]
        | crashed _ => simp [ParserAnswer.result]
        | tree root =>
            -- With a tree only the walk can fail.
            simp only [ParserAnswer.result]
            rcases hrun : (c.plan file).run c.interval poll ((c.plan file).start root
              (({ s with checks := n } : Session).parsed tools c.table.grammar).checks) with
              ⟨t, halt⟩
            rcases outcome_outlineTree hrun with ⟨s₂, _, hout⟩
            rw [hout]
            cases halt with
            | finished => simp
            | interrupted _ => simp
            | emptyStack => simp

end TableChunker

end SourceOutline
