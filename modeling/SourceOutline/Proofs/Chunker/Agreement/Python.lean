import Mathlib.Data.List.Basic
import SourceOutline.Proofs.Chunker.Agreement
import SourceOutline.Proofs.Chunker.Ancestors

/-!
# Python — the chunker for Python and the packaged table

The chunker for Python hands the owner of methods down the tree, as the recursion behind the walk
does, and starts below the top.
-/

namespace SourceOutline

namespace Reference

/-! ## Nodes -/

theorem pythonNodes_eq_concatenate (file : SourceFile) (rootId owner : String) (room : Nat)
    (ns : List SyntaxNode) :
    pythonNodes file rootId owner room ns =
      concatenate (pythonNode file rootId owner room) ns := by
  induction ns with
  | nil =>
      rw [pythonNodes, concatenate]
  | cons n rest ih =>
      rw [pythonNodes, concatenate, ih]

theorem pythonNode_zero (file : SourceFile) (rootId owner : String) (n : SyntaxNode) :
    pythonNode file rootId owner 0 n = .error .tooDeep := by
  cases n with
  | node type span field children => rfl

theorem pythonNode_succ (file : SourceFile) (rootId owner : String) (room : Nat)
    (n : SyntaxNode) :
    pythonNode file rootId owner (room + 1) n =
      if n.type = "class_definition" then
        match python.declared? file n .classLike rootId with
        | some c => (concatenate (pythonNode file rootId c.id room) n.children).map (c :: ·)
        | none => concatenate (pythonNode file rootId owner room) n.children
      else if n.type = "function_definition" then
        .ok (python.declared? file n .method owner).toList
      else concatenate (pythonNode file rootId owner room) n.children := by
  cases n with
  | node type span field children =>
      simp only [pythonNode, pythonNodes_eq_concatenate]
      rfl

theorem isClass_python (type : String) :
    LanguageTable.python.isClass type = decide (type = "class_definition") := by
  simp [LanguageTable.isClass, LanguageTable.python]

theorem isMethod_python (type : String) :
    LanguageTable.python.isMethod type = decide (type = "function_definition") := by
  simp [LanguageTable.isMethod, LanguageTable.python]

/-- A node is met if none above it is a function. -/
def PythonMet (o : Occurrence) : Prop :=
  ∀ a ∈ o.above, a.type ≠ "function_definition"

instance : DecidablePred PythonMet :=
  fun o => inferInstanceAs (Decidable (∀ a ∈ o.above, a.type ≠ "function_definition"))

theorem pythonNode_eq_ite {p : Plan} (htable : p.table = .python) (owner : Chunk)
    {above : List SyntaxNode} (habove : ∀ a ∈ above, a.type ≠ "function_definition") (room : Nat)
    (n : SyntaxNode) :
    pythonNode p.file p.root.id owner.id room n =
      if n.IsNestedWithin PythonMet (above.length + room) above then .ok (p.chunksUnder owner n)
      else .error .tooDeep := by
  induction n generalizing owner above room with
  | node n ih =>
      cases room with
      | zero =>
          -- The node itself is met, and lies too deep.
          rw [pythonNode_zero, if_neg]
          intro hnested
          exact absurd (hnested _ (n.mem_occurrences_self above) habove) (Nat.lt_irrefl _)
      | succ room =>
          have hdeclared := declared?_eq (p := p) (r := python) (by rw [htable]; rfl)
            (by rw [htable]; rfl) n
          rw [pythonNode_succ, Plan.chunksUnder_eq, hdeclared, hdeclared, htable, isClass_python,
            isMethod_python]
          by_cases hfunction : n.type = "function_definition"
          · -- Nothing is met below a function.
            have hnested : n.IsNestedWithin PythonMet (above.length + (room + 1)) above :=
              SyntaxNode.isNestedWithin_of_stop (fun _ => by omega)
                fun o hn hmet => hmet n hn hfunction
            rw [if_pos hnested]
            simp [hfunction]
          · have hinner : ∀ a ∈ n :: above, a.type ≠ "function_definition" :=
              List.forall_mem_cons.2 ⟨hfunction, habove⟩
            have hnested : n.IsNestedWithin PythonMet (above.length + (room + 1)) above ↔
                ∀ c ∈ n.children,
                  c.IsNestedWithin PythonMet ((n :: above).length + room) (n :: above) := by
              rw [SyntaxNode.isNestedWithin_iff, List.length_cons, Nat.add_right_comm,
                Nat.add_assoc, and_iff_right fun _ => by omega]
            have hbelow : ∀ next : Chunk,
                concatenate (pythonNode p.file p.root.id next.id room) n.children =
                  if n.IsNestedWithin PythonMet (above.length + (room + 1)) above then
                    .ok (n.children.flatMap (p.chunksUnder next))
                  else .error .tooDeep := by
              intro next
              rw [concatenate_eq_ite fun c hc => ih c hc next hinner room]
              exact if_congr hnested.symm rfl rfl
            by_cases hclass : n.type = "class_definition"
            · -- The owner changes exactly if the class has a chunk.
              simp only [hclass, decide_true, if_true]
              cases (p.declare n .classLike p.root.id).chunk? with
              | none => exact hbelow owner
              | some c =>
                  simp only [hbelow c, apply_ite (Except.map (c :: ·))]
                  rfl
            · simp only [hclass, hfunction, decide_false, if_false, Bool.false_eq_true, hbelow]

theorem eq_flatMap_of_chunks_python {p : Plan} (htable : p.table = .python) {levels : Nat}
    {tree : SyntaxNode} {found : List Chunk}
    (h : python.chunks p.file p.root.id levels tree = .ok found) :
    found = tree.children.flatMap (p.chunksUnder p.root) := by
  have hbelow := concatenate_eq_ite (l := tree.children) fun n _ =>
    pythonNode_eq_ite htable p.root (List.forall_mem_nil _) levels n
  rw [← pythonNodes_eq_concatenate] at hbelow
  rw [chunks, hbelow] at h
  split at h
  · exact (Except.ok.inj h).symm
  · cases h

/-! ## Files -/

/-- The nodes that are met lie no deeper than there is room for. -/
def PythonFits (levels : Nat) (tree : SyntaxNode) : Prop :=
  ∀ o ∈ tree.occurrences [], PythonMet o → o.above.length ≤ levels

instance (levels : Nat) (tree : SyntaxNode) : Decidable (PythonFits levels tree) :=
  inferInstanceAs (Decidable (∀ o ∈ tree.occurrences [], PythonMet o → o.above.length ≤ levels))

theorem pythonFits_iff {levels : Nat} {tree : SyntaxNode} :
    PythonFits levels tree ↔
      ∀ c ∈ tree.children, c.IsNestedWithin PythonMet ([tree].length + levels) [tree] := by
  have hbound : PythonFits levels tree ↔ tree.IsNestedWithin PythonMet (levels + 1) [] := by
    simp only [PythonFits, SyntaxNode.IsNestedWithin, Nat.lt_succ_iff]
  have htop : PythonMet ⟨tree, []⟩ → ([] : List SyntaxNode).length < levels + 1 :=
    fun _ => Nat.succ_pos levels
  rw [hbound, SyntaxNode.isNestedWithin_iff, and_iff_right htop, List.length_singleton,
    Nat.add_comm levels]

/-- Below a top that is neither a class nor a function both chunkers find the same, if there is
room. -/
theorem outline_python_eq {c : TableChunker} (htable : c.table = .python) (file : SourceFile)
    {tree : SyntaxNode} (hclass : tree.type ≠ "class_definition")
    (hfunction : tree.type ≠ "function_definition") (levels : Nat) :
    python.outline levels file tree =
      if PythonFits levels tree then .ok (c.outline file tree) else .error .tooDeep := by
  have hplan : (c.plan file).table = .python := htable
  have hunder : (c.plan file).chunksUnder (c.plan file).root tree =
      tree.children.flatMap ((c.plan file).chunksUnder (c.plan file).root) := by
    rw [Plan.chunksUnder_eq, hplan, isClass_python, isMethod_python]
    simp [hclass, hfunction]
  refine outline_eq_of_chunks (by rw [TableChunker.language, htable]; rfl) ?_
  rw [hunder, chunks, pythonNodes_eq_concatenate]
  have htop : ∀ a ∈ [tree], a.type ≠ "function_definition" := by
    simpa using hfunction
  have hbelow := concatenate_eq_ite (l := tree.children) fun n _ =>
    pythonNode_eq_ite hplan (c.plan file).root htop levels n
  exact hbelow.trans (if_congr pythonFits_iff.symm rfl rfl)

/-- For a file whose tree has neither a class nor a function at its top, the chunker for Python and
the one with the packaged table give the same chunks, if the nodes that are met lie no deeper than
there is room for; if they do, the chunker for Python fails, and the other one does not.  A blank
file has no chunks. -/
theorem python_agrees (tools : Toolchain) (interval : Number) (file : SourceFile)
    (s₁ s₂ : Session) :
    (file.content.isBlank = true →
      ((python.chunk tools file none).outcome s₁).1 = .ok { file } ∧
      ((TableChunker.chunk tools ⟨.python, interval⟩ file none).outcome s₂).1 = .ok { file }) ∧
    ∀ tree : SyntaxNode, file.content.isBlank = false →
      s₁.engine.Parses tools "python" file.content tree →
      s₂.engine.Parses tools "python" file.content tree →
      tree.type ≠ "class_definition" → tree.type ≠ "function_definition" →
        ∃ chunks,
          ((TableChunker.chunk tools ⟨.python, interval⟩ file none).outcome s₂).1 =
            .ok { file, chunks } ∧
          (PythonFits tools.levels tree →
            ((python.chunk tools file none).outcome s₁).1 = .ok { file, chunks }) ∧
          (¬ PythonFits tools.levels tree →
            ((python.chunk tools file none).outcome s₁).1 = .error (.fault .tooDeep)) ∧
          (∀ poll o, ((python.chunk tools file poll).outcome s₁).1 = .ok o →
            o = { file, chunks }) ∧
          ∀ poll o,
            ((TableChunker.chunk tools ⟨.python, interval⟩ file poll).outcome s₂).1 = .ok o →
              o = { file, chunks } := by
  constructor
  · intro hblank
    exact outcomes_blank tools python ⟨.python, interval⟩ hblank s₁ s₂
  · intro tree hblank hparses₁ hparses₂ hclass hfunction
    exact outcomes_agree rfl (outline_python_eq rfl file hclass hfunction tools.levels) hblank
      hparses₁ hparses₂

open NestedClass in
theorem python_agrees_nestedClass :
    (blankFile.content.isBlank = true ∧
      ((python.chunk (.answering tree) blankFile none).outcome {}).1 =
        .ok { file := blankFile } ∧
      ((chunker.chunk (.answering tree) blankFile none).outcome {}).1 =
        .ok { file := blankFile }) ∧
    file.content.isBlank = false ∧
      ({} : Engine).Parses (.answering tree) "python" file.content tree ∧
      tree.type ≠ "class_definition" ∧ tree.type ≠ "function_definition" ∧
      PythonFits (Toolchain.answering tree).levels tree ∧
      ∃ chunks,
        ((chunker.chunk (.answering tree) file none).outcome {}).1 = .ok { file, chunks } ∧
        ((python.chunk (.answering tree) file none).outcome {}).1 = .ok { file, chunks } := by
  have hparses := Engine.parses_answering "python" file.content tree
  have hfits : PythonFits (Toolchain.answering tree).levels tree := by decide +kernel
  have hblank := (python_agrees (.answering tree) chunker.interval blankFile {} {}).1 rfl
  rcases (python_agrees (.answering tree) chunker.interval file {} {}).2 tree content_not_blank
    hparses hparses (by decide) (by decide) with ⟨chunks, htable, hpython, _⟩
  exact ⟨⟨rfl, hblank⟩, content_not_blank, hparses, by decide, by decide, hfits, chunks, htable,
    hpython hfits⟩

open DeepSum in
theorem python_disagrees_deepSum :
    file.content.isBlank = false ∧
      ({} : Engine).Parses (.answering (tree 3000)) "python" file.content (tree 3000) ∧
      (tree 3000).type ≠ "class_definition" ∧ (tree 3000).type ≠ "function_definition" ∧
      ((python.chunk (.answering (tree 3000)) file none).outcome {}).1 =
        .error (.fault .tooDeep) ∧
      ((TableChunker.chunk (.answering (tree 3000)) { table := .python } file none).outcome {}).1 =
        .ok { file, chunks := [Chunk.ofFile file "python"] } := by
  have hparses := Engine.parses_answering "python" file.content (tree 3000)
  have hfunction : ∀ type ∈ types, type ≠ "function_definition" := by decide
  have hdeep : ¬ PythonFits (Toolchain.answering (tree 3000)).levels (tree 3000) := by
    intro hfits
    rcases exists_deep 3000 with ⟨o, ho, hlength⟩
    have hless := hfits o ho fun a ha => hfunction _ (type_mem ho a (List.mem_cons_of_mem _ ha))
    rw [hlength] at hless
    exact absurd hless (by decide)
  refine ⟨content_not_blank, hparses, by decide, by decide, ?_, ?_⟩
  · rw [outcome_chunk content_not_blank hparses, outline_python_eq (c := { table := .python }) rfl
      file (by decide) (by decide), if_neg hdeep]
    rfl
  · rw [TableChunker.outcome_chunk content_not_blank hparses,
      DeepSum.outline_eq (by decide) (by decide)]
    rfl

end Reference

end SourceOutline
