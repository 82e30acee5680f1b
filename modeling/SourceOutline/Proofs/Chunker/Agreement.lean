import SourceOutline.Proofs.Chunker.Outcome
import SourceOutline.Proofs.SyntaxTree.Occurrence

/-!
# Agreement — chunkers written for a language and its table

What the chunkers for one language have in common when they are compared with the table of that
language: they declare nodes in the same way, so they agree on a file as soon as they find the same
chunks in its tree.  The chunkers written for a language have room for so many calls within each
other, so they agree only on trees that are not nested deeper; the walk with a table keeps a list of
its own and needs no such room.
-/

namespace SourceOutline

/-! ## One after the other -/

section Concatenation

variable {α β ε : Type} {f : α → Except ε (List β)} {l : List α}

/-- What is found in each member, in order, unless one fails. -/
def concatenate (f : α → Except ε (List β)) : List α → Except ε (List β)
  | [] => .ok []
  | a :: rest => do
    let first ← f a
    let others ← concatenate f rest
    pure (first ++ others)

/-- If a member gives its own list where a condition holds and fails for one and the same reason
elsewhere, then the condition decides on all members together. -/
theorem concatenate_eq_ite {P : α → Prop} [DecidablePred P] {g : α → List β} {why : ε}
    (h : ∀ a ∈ l, f a = if P a then .ok (g a) else .error why) :
    concatenate f l = if ∀ a ∈ l, P a then .ok (l.flatMap g) else .error why := by
  induction l with
  | nil => simp [concatenate]
  | cons a rest ih =>
      have hrest := ih fun b hb => h b (List.mem_cons_of_mem a hb)
      rw [concatenate, h a List.mem_cons_self, hrest]
      by_cases ha : P a
      · by_cases hall : ∀ b ∈ rest, P b
        · rw [if_pos ha, if_pos hall, if_pos (List.forall_mem_cons.2 ⟨ha, hall⟩)]
          rfl
        · rw [if_pos ha, if_neg hall, if_neg fun hboth => hall (List.forall_mem_cons.1 hboth).2]
          rfl
      · rw [if_neg ha, if_neg fun hboth => ha (List.forall_mem_cons.1 hboth).1]
        rfl

theorem exists_of_mem_concatenate {found : List β} {b : β} (h : concatenate f l = .ok found)
    (hb : b ∈ found) : ∃ a ∈ l, ∃ here, f a = .ok here ∧ b ∈ here := by
  induction l generalizing found with
  | nil =>
      cases h
      cases hb
  | cons a rest ih =>
      rw [concatenate] at h
      cases hfirst : f a with
      | error why =>
          rw [hfirst] at h
          cases h
      | ok here =>
          cases hothers : concatenate f rest with
          | error why =>
              rw [hfirst, hothers] at h
              cases h
          | ok others =>
              rw [hfirst, hothers] at h
              cases h
              rcases List.mem_append.1 hb with hhere | hother
              · exact ⟨a, List.mem_cons_self, here, hfirst, hhere⟩
              · rcases ih hothers hother with ⟨c, hc, found, hfound, hmem⟩
                exact ⟨c, List.mem_cons_of_mem a hc, found, hfound, hmem⟩

end Concatenation

/-! ## Nesting -/

namespace SyntaxNode

/-- The nodes that a walk meets, from `n` on, have fewer than `bound` nodes above them. -/
def IsNestedWithin (met : Occurrence → Prop) (bound : Nat) (above : List SyntaxNode)
    (n : SyntaxNode) : Prop :=
  ∀ o ∈ n.occurrences above, met o → o.above.length < bound

instance (met : Occurrence → Prop) [DecidablePred met] (bound : Nat) (above : List SyntaxNode) :
    DecidablePred (IsNestedWithin met bound above) :=
  fun n => inferInstanceAs (Decidable (∀ o ∈ n.occurrences above, met o → o.above.length < bound))

variable {met : Occurrence → Prop} {bound : Nat} {above : List SyntaxNode} {n : SyntaxNode}

theorem isNestedWithin_iff :
    n.IsNestedWithin met bound above ↔
      (met ⟨n, above⟩ → above.length < bound) ∧
        ∀ c ∈ n.children, c.IsNestedWithin met bound (n :: above) := by
  unfold IsNestedWithin
  rw [occurrences_eq, List.forall_mem_cons]
  refine and_congr_right fun _ => ?_
  simp only [List.mem_flatMap]
  constructor
  · intro h c hc o ho
    exact h o ⟨c, hc, ho⟩
  · rintro h o ⟨c, hc, ho⟩
    exact h c hc o ho

/-- Where nothing is met below a node it is enough to know the node. -/
theorem isNestedWithin_of_stop (hself : met ⟨n, above⟩ → above.length < bound)
    (hstop : ∀ o : Occurrence, n ∈ o.above → ¬ met o) : n.IsNestedWithin met bound above := by
  refine isNestedWithin_iff.2 ⟨hself, fun c _ o ho hmet => ?_⟩
  exact absurd hmet (hstop o (mem_above_of_mem_occurrences ho List.mem_cons_self))

end SyntaxNode

namespace Reference

/-! ## Declarations -/

/-- A plan with the table of a language declares a node as the chunker for that language does. -/
theorem declared?_eq {p : Plan} {r : Reference} (hlanguage : p.table.language = r.language)
    (hfield : p.table.nameField = "name") (n : SyntaxNode) (level : Level) (parentId : String) :
    r.declared? p.file n level parentId = (p.declare n level parentId).chunk? := by
  unfold declared? Plan.declare
  rw [hlanguage, hfield]
  cases n.declaredName? p.file.content "name" with
  | none => rfl
  | some name =>
      simp only [Option.bind_some]
      cases Chunk.ofNode? n p.file level name parentId r.language with
      | none => rfl
      | some c => rfl

def plan (r : Reference) (file : SourceFile) : Plan where
  table := { language := r.language, extensions := [], grammar := r.language }
  file := file
  root := Chunk.ofFile file r.language

theorem declared?_eq_plan (r : Reference) (file : SourceFile) (n : SyntaxNode) (level : Level)
    (parentId : String) :
    r.declared? file n level parentId = ((r.plan file).declare n level parentId).chunk? :=
  declared?_eq (p := r.plan file) rfl rfl n level parentId

/-! ## From trees to files -/

variable {tools : Toolchain} {r : Reference} {c : TableChunker} {file : SourceFile}
variable {tree : SyntaxNode} {levels : Nat}

/-- The outlines of a file are the same as soon as the chunks below its own are. -/
theorem outline_eq_of_chunks {P : Prop} [Decidable P] (hlanguage : c.language = r.language)
    (hchunks : r.chunks file (c.plan file).root.id levels tree =
      if P then .ok ((c.plan file).chunksUnder (c.plan file).root tree) else .error .tooDeep) :
    r.outline levels file tree =
      if P then .ok (c.outline file tree) else .error .tooDeep := by
  have hroot : Chunk.ofFile file r.language = (c.plan file).root := by
    rw [← hlanguage]
    rfl
  rw [outline, TableChunker.outline_eq, hroot, hchunks]
  split <;> rfl

/-- If there is room for the walk exactly under a condition, and it finds what the walk with the
table finds, then the chunkers give the same chunks under that condition: both give them without a
poll, and neither gives others with a poll.  The chunker with the table gives them in any case. -/
theorem outcomes_agree {P : Prop} [Decidable P] {s₁ s₂ : Session}
    (hgrammar : c.table.grammar = r.language)
    (houtline : r.outline tools.levels file tree =
      if P then .ok (c.outline file tree) else .error .tooDeep)
    (hblank : file.content.isBlank = false)
    (hparses₁ : s₁.engine.Parses tools r.language file.content tree)
    (hparses₂ : s₂.engine.Parses tools r.language file.content tree) :
    ∃ chunks,
      ((c.chunk tools file none).outcome s₂).1 = .ok { file, chunks } ∧
      (P → ((r.chunk tools file none).outcome s₁).1 = .ok { file, chunks }) ∧
      (¬ P → ((r.chunk tools file none).outcome s₁).1 = .error (.fault .tooDeep)) ∧
      (∀ poll o, ((r.chunk tools file poll).outcome s₁).1 = .ok o → o = { file, chunks }) ∧
      ∀ poll o, ((c.chunk tools file poll).outcome s₂).1 = .ok o → o = { file, chunks } := by
  -- Both parse the same tree; what is left to compare are the outlines that they make of it.
  rw [← hgrammar] at hparses₂
  refine ⟨(c.outline file tree).chunks, ?_, ?_, ?_, ?_, ?_⟩
  · rw [TableChunker.outcome_chunk hblank hparses₂]
    rfl
  · intro hP
    rw [outcome_chunk hblank hparses₁, houtline, if_pos hP]
    rfl
  · intro hP
    rw [outcome_chunk hblank hparses₁, houtline, if_neg hP]
    rfl
  · intro poll o ho
    have hmade := outline_eq_ok_of_outcome_chunk hblank hparses₁ ho
    rw [houtline] at hmade
    split at hmade
    · cases hmade
      rfl
    · cases hmade
  · intro poll o ho
    rw [TableChunker.eq_outline_of_outcome_chunk hblank hparses₂ ho]
    rfl

/-- Neither kind of chunker gives a chunk for a blank file. -/
theorem outcomes_blank (tools : Toolchain) (r : Reference) (c : TableChunker) {file : SourceFile}
    (hblank : file.content.isBlank = true) (s₁ s₂ : Session) :
    ((r.chunk tools file none).outcome s₁).1 = .ok { file } ∧
      ((c.chunk tools file none).outcome s₂).1 = .ok { file } := by
  rw [chunk_eq_outlining, TableChunker.chunk_eq_outlining, Call.outcome_outlining_blank hblank,
    Call.outcome_outlining_blank hblank]
  exact ⟨rfl, rfl⟩

end Reference

def blankFile : SourceFile where
  path := "blank"
  content := [32, 10]

/-! ## A deep tree -/

theorem Plan.chunksUnder_eq_nil {p : Plan} {n : SyntaxNode} {above : List SyntaxNode}
    (h : ∀ o ∈ n.occurrences above,
      p.table.isClass o.node.type = false ∧ p.table.isMethod o.node.type = false)
    (owner : Chunk) : p.chunksUnder owner n = [] := by
  induction n generalizing above with
  | node n ih =>
      rcases h _ (n.mem_occurrences_self above) with ⟨hclass, hmethod⟩
      rw [chunksUnder_eq, hclass, hmethod, if_neg Bool.false_ne_true, if_neg Bool.false_ne_true,
        List.flatMap_eq_nil_iff]
      intro c hc
      exact ih c hc fun o ho => h o (SyntaxNode.mem_occurrences_of_child hc ho)

namespace DeepSum

/-- A sum of sums, so many levels deep. -/
def sum : Nat → SyntaxNode
  | 0 => .node "identifier" ⟨0, 1, 0, 0⟩ none []
  | k + 1 => .node "sum" ⟨0, 1, 0, 0⟩ none [sum k]

def tree (k : Nat) : SyntaxNode :=
  .node "module" ⟨0, 1, 0, 0⟩ none [sum k]

def file : SourceFile where
  path := "deep"
  content := utf8Bytes "a"

theorem content_not_blank : file.content.isBlank = false := by decide

def types : List String :=
  ["module", "sum", "identifier"]

theorem type_mem_of_mem_sum {k : Nat} {above : List SyntaxNode} {o : Occurrence}
    (habove : ∀ a ∈ above, a.type ∈ types) (ho : o ∈ (sum k).occurrences above) :
    ∀ a ∈ o.node :: o.above, a.type ∈ types := by
  induction k generalizing above with
  | zero =>
      rw [SyntaxNode.occurrences_eq] at ho
      cases List.mem_singleton.1 ho
      exact List.forall_mem_cons.2 ⟨by simp [sum, SyntaxNode.type, types], habove⟩
  | succ k ih =>
      have hhere : ∀ a ∈ sum (k + 1) :: above, a.type ∈ types :=
        List.forall_mem_cons.2 ⟨by simp [sum, SyntaxNode.type, types], habove⟩
      rw [SyntaxNode.occurrences_eq] at ho
      rcases List.mem_cons.1 ho with rfl | hbelow
      · exact hhere
      · rcases List.mem_flatMap.1 hbelow with ⟨c, hc, hmem⟩
        cases List.mem_singleton.1 hc
        exact ih hhere hmem

theorem type_mem {k : Nat} {o : Occurrence} (ho : o ∈ (tree k).occurrences []) :
    ∀ a ∈ o.node :: o.above, a.type ∈ types := by
  have htop : ∀ a ∈ [tree k], a.type ∈ types := by
    simp [tree, SyntaxNode.type, types]
  rw [SyntaxNode.occurrences_eq] at ho
  rcases List.mem_cons.1 ho with rfl | hbelow
  · exact htop
  · rcases List.mem_flatMap.1 hbelow with ⟨c, hc, hmem⟩
    cases List.mem_singleton.1 hc
    exact type_mem_of_mem_sum htop hmem

theorem exists_innermost (k : Nat) (above : List SyntaxNode) :
    ∃ o ∈ (sum k).occurrences above, o.above.length = above.length + k := by
  induction k generalizing above with
  | zero => exact ⟨_, SyntaxNode.mem_occurrences_self _ _, rfl⟩
  | succ k ih =>
      rcases ih (sum (k + 1) :: above) with ⟨o, ho, hlength⟩
      refine ⟨o, SyntaxNode.mem_occurrences_of_child List.mem_cons_self ho, ?_⟩
      rw [hlength, List.length_cons, Nat.add_right_comm, Nat.add_assoc]

theorem exists_deep (k : Nat) : ∃ o ∈ (tree k).occurrences [], o.above.length = k + 1 := by
  rcases exists_innermost k [tree k] with ⟨o, ho, hlength⟩
  refine ⟨o, SyntaxNode.mem_occurrences_of_child List.mem_cons_self ho, ?_⟩
  rw [hlength, List.length_singleton, Nat.add_comm]

theorem outline_eq {c : TableChunker} {k : Nat}
    (hclass : ∀ type ∈ types, c.table.isClass type = false)
    (hmethod : ∀ type ∈ types, c.table.isMethod type = false) :
    c.outline file (tree k) = { file, chunks := [Chunk.ofFile file c.language] } := by
  have hnone : ∀ o ∈ (tree k).occurrences [],
      (c.plan file).table.isClass o.node.type = false ∧
        (c.plan file).table.isMethod o.node.type = false := by
    intro o ho
    have htype := type_mem ho o.node List.mem_cons_self
    exact ⟨hclass _ htype, hmethod _ htype⟩
  rw [TableChunker.outline_eq, Plan.chunksUnder_eq_nil hnone]
  rfl

end DeepSum

end SourceOutline
