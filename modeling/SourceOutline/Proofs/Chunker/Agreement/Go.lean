import Mathlib.Data.List.Basic
import SourceOutline.Proofs.Chunker.Agreement
import SourceOutline.Proofs.SyntaxTree.Occurrence

/-!
# Go — the chunker for Go and the packaged table

The chunker for Go looks for types among the children of type declarations only, while the walk
finds a type specification at any place.  They agree if type specifications and functions are where
the grammar of Go puts them.
-/

namespace SourceOutline

namespace Reference

/-! ## Trees in shape -/

/-- The nodes of a Go tree below which nothing is looked for. -/
def IsGoFunction (type : String) : Prop :=
  type = "function_declaration" ∨ type = "method_declaration"

instance (type : String) : Decidable (IsGoFunction type) :=
  inferInstanceAs (Decidable (_ ∨ _))

/-- A node is reached if none above it is a function. -/
def GoReached (o : Occurrence) : Prop :=
  ∀ a ∈ o.above, ¬ IsGoFunction a.type

/-- A node of a Go tree is in place if it is a type specification only directly in a type
declaration, no type declaration lies further above such a specification, and none at all above a
function. -/
structure GoPlaced (o : Occurrence) : Prop where
  spec_in_declaration : o.node.type = "type_spec" →
    o.above.head?.map SyntaxNode.type = some "type_declaration"
  spec_no_deeper : o.node.type = "type_spec" →
    ∀ d ∈ o.above.tail, d.type ≠ "type_declaration"
  function_outside : IsGoFunction o.node.type → ∀ d ∈ o.above, d.type ≠ "type_declaration"

instance (o : Occurrence) : Decidable (GoReached o) :=
  inferInstanceAs (Decidable (∀ a ∈ o.above, ¬ IsGoFunction a.type))

instance (o : Occurrence) : Decidable (GoPlaced o) :=
  decidable_of_iff
    ((o.node.type = "type_spec" →
        o.above.head?.map SyntaxNode.type = some "type_declaration") ∧
      (o.node.type = "type_spec" → ∀ d ∈ o.above.tail, d.type ≠ "type_declaration") ∧
      (IsGoFunction o.node.type → ∀ d ∈ o.above, d.type ≠ "type_declaration"))
    ⟨fun h => ⟨h.1, h.2.1, h.2.2⟩, fun h => ⟨h.1, h.2, h.3⟩⟩

/-- A Go tree whose top is nothing that is looked for and whose reached nodes are in place. -/
structure GoShaped (tree : SyntaxNode) : Prop where
  top_ne_spec : tree.type ≠ "type_spec"
  top_ne_declaration : tree.type ≠ "type_declaration"
  top_no_function : ¬ IsGoFunction tree.type
  placed : ∀ o ∈ tree.occurrences [], GoReached o → GoPlaced o

theorem goNodes_eq_concatenate (file : SourceFile) (rootId : String) (room : Nat)
    (ns : List SyntaxNode) :
    goNodes file rootId room ns = concatenate (goNode file rootId room) ns := by
  induction ns with
  | nil =>
      rw [goNodes, concatenate]
  | cons n rest ih =>
      rw [goNodes, concatenate, ih]

theorem goNode_eq (file : SourceFile) (rootId : String) (room : Nat) (n : SyntaxNode) :
    goNode file rootId room n =
      if IsGoFunction n.type then .ok (go.declared? file n .method rootId).toList
      else if n.type = "type_declaration" then .ok (goTypes file rootId n.children)
      else goChunks file rootId room n := by
  cases n with
  | node type span field children => cases room <;> rfl

theorem goChunks_succ (file : SourceFile) (rootId : String) (room : Nat) (n : SyntaxNode) :
    goChunks file rootId (room + 1) n = concatenate (goNode file rootId room) n.children := by
  rw [goChunks, goNodes_eq_concatenate]

theorem isClass_go (type : String) :
    LanguageTable.go.isClass type = decide (type = "type_spec") := by
  simp [LanguageTable.isClass, LanguageTable.go]

theorem isMethod_go (type : String) :
    LanguageTable.go.isMethod type = decide (IsGoFunction type) := by
  rw [Bool.eq_iff_iff, decide_eq_true_iff]
  simp [LanguageTable.isMethod, LanguageTable.go, IsGoFunction]

section Placed

variable {p : Plan} {n : SyntaxNode} {above : List SyntaxNode}

theorem goReached_child (hreached : ∀ a ∈ above, ¬ IsGoFunction a.type)
    (hn : ¬ IsGoFunction n.type) : ∀ a ∈ n :: above, ¬ IsGoFunction a.type := by
  intro a ha
  rcases List.mem_cons.1 ha with rfl | hmem
  · exact hn
  · exact hreached a hmem

/-- Deeper than the children of a type declaration nothing has a chunk. -/
theorem chunksUnder_below_declaration (htable : p.table = .go) (owner : Chunk)
    (inner : List SyntaxNode) {outer : List SyntaxNode} {d : SyntaxNode}
    (hd : d.type = "type_declaration") (hinner : inner ≠ [])
    (hreached : ∀ a ∈ inner ++ d :: outer, ¬ IsGoFunction a.type)
    (hplaced : ∀ o ∈ n.occurrences (inner ++ d :: outer), GoReached o → GoPlaced o) :
    p.chunksUnder owner n = [] := by
  induction n generalizing inner owner with
  | node n ih =>
      have hhere := hplaced _ (SyntaxNode.mem_occurrences_self n _) hreached
      have hfunction : ¬ IsGoFunction n.type := fun h =>
        hhere.function_outside h d (by simp) hd
      -- A specification this deep would have `d` above its parent.
      have hclass : n.type ≠ "type_spec" := by
        intro hspec
        cases inner with
        | nil => exact hinner rfl
        | cons b inner => exact hhere.spec_no_deeper hspec d (by simp) hd
      rw [Plan.chunksUnder_eq, htable, isClass_go, isMethod_go]
      simp only [hclass, hfunction, decide_false, if_false, Bool.false_eq_true]
      rw [List.flatMap_eq_nil_iff]
      intro c hc
      refine ih c hc owner (n :: inner) (by simp) (goReached_child hreached hfunction) ?_
      intro o ho
      exact hplaced o (SyntaxNode.mem_occurrences_of_child hc ho)

/-- A child of a type declaration has a chunk if it is a type specification, and nothing below it
has one. -/
theorem chunksUnder_in_declaration (htable : p.table = .go) (owner : Chunk)
    {outer : List SyntaxNode} {d : SyntaxNode} (hd : d.type = "type_declaration")
    (hreached : ∀ a ∈ d :: outer, ¬ IsGoFunction a.type)
    (hplaced : ∀ o ∈ n.occurrences (d :: outer), GoReached o → GoPlaced o) :
    p.chunksUnder owner n =
      (if n.type = "type_spec" then (p.declare n .classLike p.root.id).chunk?
        else none).toList := by
  have hhere := hplaced _ (SyntaxNode.mem_occurrences_self n _) hreached
  have hfunction : ¬ IsGoFunction n.type := fun h =>
    hhere.function_outside h d List.mem_cons_self hd
  have hbelow : ∀ next : Chunk, n.children.flatMap (p.chunksUnder next) = [] := by
    intro next
    rw [List.flatMap_eq_nil_iff]
    intro c hc
    refine chunksUnder_below_declaration htable next [n] hd (by simp)
      (goReached_child hreached hfunction) ?_
    intro o ho
    exact hplaced o (SyntaxNode.mem_occurrences_of_child hc ho)
  rw [Plan.chunksUnder_eq, htable, isClass_go, isMethod_go]
  by_cases hclass : n.type = "type_spec"
  · simp only [hclass, decide_true, if_true, hbelow, List.append_nil]
  · simp only [hclass, hfunction, decide_false, if_false, Bool.false_eq_true, hbelow,
      Option.toList_none]

/-- A node is entered if neither it nor any node above it is a function or a type declaration. -/
def GoEntered (o : Occurrence) : Prop :=
  ∀ a ∈ o.node :: o.above, ¬ IsGoFunction a.type ∧ a.type ≠ "type_declaration"

instance : DecidablePred GoEntered := fun o =>
  inferInstanceAs (Decidable (∀ a ∈ o.node :: o.above,
    ¬ IsGoFunction a.type ∧ a.type ≠ "type_declaration"))

theorem isNestedWithin_of_not_entered {bound : Nat}
    (hn : IsGoFunction n.type ∨ n.type = "type_declaration") :
    n.IsNestedWithin GoEntered bound above := by
  have hstop : ∀ o : Occurrence, n ∈ o.node :: o.above → ¬ GoEntered o := by
    intro o hmem hentered
    rcases hn with hfunction | hd
    · exact (hentered n hmem).1 hfunction
    · exact (hentered n hmem).2 hd
  exact SyntaxNode.isNestedWithin_of_stop
    (fun hentered => absurd hentered (hstop ⟨n, above⟩ List.mem_cons_self))
    fun o ho => hstop o (List.mem_cons_of_mem _ ho)

/-- If the nodes below a node take room as the recursion says, then so does the node, as far as it
is entered. -/
theorem goChunks_eq_ite {room : Nat} (hentered : GoEntered ⟨n, above⟩)
    (hunder : p.chunksUnder p.root n = n.children.flatMap (p.chunksUnder p.root))
    (hbelow : ∀ room, ∀ c ∈ n.children, goNode p.file p.root.id room c =
      if c.IsNestedWithin GoEntered ((n :: above).length + room) (n :: above) then
        .ok (p.chunksUnder p.root c)
      else .error .tooDeep) :
    goChunks p.file p.root.id room n =
      if n.IsNestedWithin GoEntered (above.length + room) above then .ok (p.chunksUnder p.root n)
      else .error .tooDeep := by
  cases room with
  | zero =>
      rw [goChunks, if_neg]
      intro hnested
      exact absurd (hnested _ (n.mem_occurrences_self above) hentered) (Nat.lt_irrefl _)
  | succ room =>
      rw [goChunks_succ, concatenate_eq_ite (hbelow room), hunder]
      refine if_congr ?_ rfl rfl
      rw [SyntaxNode.isNestedWithin_iff, List.length_cons, Nat.add_right_comm, Nat.add_assoc,
        and_iff_right fun _ => by omega]

/-- Outside type declarations the recursion finds what the walk finds, if there is room. -/
theorem goNode_eq_ite (htable : p.table = .go)
    (houtside : ∀ a ∈ above, a.type ≠ "type_declaration")
    (hreached : ∀ a ∈ above, ¬ IsGoFunction a.type)
    (hplaced : ∀ o ∈ n.occurrences above, GoReached o → GoPlaced o) (room : Nat) :
    goNode p.file p.root.id room n =
      if n.IsNestedWithin GoEntered (above.length + room) above then .ok (p.chunksUnder p.root n)
      else .error .tooDeep := by
  induction n generalizing above room with
  | node n ih =>
      have hchild : ∀ c ∈ n.children, ∀ o ∈ c.occurrences (n :: above), GoReached o → GoPlaced o :=
        fun c hc o ho => hplaced o (SyntaxNode.mem_occurrences_of_child hc ho)
      have hdeclared := declared?_eq (p := p) (r := go) (by rw [htable]; rfl) (by rw [htable]; rfl)
      -- A specification here would be directly in a type declaration, and none is above.
      have hclass : n.type ≠ "type_spec" := by
        intro hspec
        have hhere := hplaced _ (SyntaxNode.mem_occurrences_self n above) hreached
        have hparent := hhere.spec_in_declaration hspec
        cases above with
        | nil => simp at hparent
        | cons d outer => exact houtside d List.mem_cons_self (by simpa using hparent)
      have hunder : p.chunksUnder p.root n =
          if IsGoFunction n.type then (p.declare n .method p.root.id).chunk?.toList
          else n.children.flatMap (p.chunksUnder p.root) := by
        rw [Plan.chunksUnder_eq, htable, isClass_go, isMethod_go]
        simp [hclass]
      rw [goNode_eq, hdeclared]
      by_cases hfunction : IsGoFunction n.type
      · rw [if_pos hfunction, if_pos (isNestedWithin_of_not_entered (.inl hfunction)), hunder,
          if_pos hfunction]
      · rw [if_neg hfunction] at hunder ⊢
        by_cases hd : n.type = "type_declaration"
        · -- The children are looked at by themselves; the walk finds no more below them.
          rw [if_pos hd, if_pos (isNestedWithin_of_not_entered (.inr hd)), hunder, goTypes,
            List.filterMap_eq_flatMap_toList]
          refine congrArg Except.ok (List.flatMap_congr fun c hc => ?_)
          rw [chunksUnder_in_declaration htable p.root hd
            (goReached_child hreached hfunction) (hchild c hc), hdeclared]
        · rw [if_neg hd]
          have houtside' : ∀ a ∈ n :: above, a.type ≠ "type_declaration" :=
            List.forall_mem_cons.2 ⟨hd, houtside⟩
          have hreached' := goReached_child hreached hfunction
          exact goChunks_eq_ite (fun a ha => ⟨hreached' a ha, houtside' a ha⟩) hunder
            fun room c hc => ih c hc houtside' hreached' (hchild c hc) room

end Placed

/-! ## Files -/

/-- The nodes that are entered lie less deep than there is room for. -/
def GoFits (levels : Nat) (tree : SyntaxNode) : Prop :=
  ∀ o ∈ tree.occurrences [], GoEntered o → o.above.length < levels

instance (levels : Nat) (tree : SyntaxNode) : Decidable (GoFits levels tree) :=
  inferInstanceAs (Decidable (∀ o ∈ tree.occurrences [], GoEntered o → o.above.length < levels))

/-- On a tree in shape both chunkers find the same, if there is room. -/
theorem outline_go_eq {c : TableChunker} (htable : c.table = .go) (file : SourceFile)
    {tree : SyntaxNode} (hshape : GoShaped tree) (levels : Nat) :
    go.outline levels file tree =
      if GoFits levels tree then .ok (c.outline file tree) else .error .tooDeep := by
  have hplan : (c.plan file).table = .go := htable
  have hunder : (c.plan file).chunksUnder (c.plan file).root tree =
      tree.children.flatMap ((c.plan file).chunksUnder (c.plan file).root) := by
    rw [Plan.chunksUnder_eq, hplan, isClass_go, isMethod_go]
    simp [hshape.top_ne_spec, hshape.top_no_function]
  refine outline_eq_of_chunks (by rw [TableChunker.language, htable]; rfl) ?_
  have houtside : ∀ a ∈ [tree], a.type ≠ "type_declaration" := by
    simp [hshape.top_ne_declaration]
  have hreached : ∀ a ∈ [tree], ¬ IsGoFunction a.type := by
    simp [hshape.top_no_function]
  have htop : goChunks (c.plan file).file (c.plan file).root.id levels tree =
      if tree.IsNestedWithin GoEntered (([] : List SyntaxNode).length + levels) [] then
        .ok ((c.plan file).chunksUnder (c.plan file).root tree)
      else .error .tooDeep :=
    goChunks_eq_ite (fun a ha => ⟨hreached a ha, houtside a ha⟩) hunder fun room n hn =>
      goNode_eq_ite hplan houtside hreached
        (fun o ho => hshape.placed o (SyntaxNode.mem_occurrences_of_child hn ho)) room
  rw [List.length_nil, Nat.zero_add] at htop
  exact htop

/-- For a file whose tree is in shape, the chunker for Go and the one with the packaged table give
the same chunks, if the nodes that are entered lie less deep than there is room for; if they do not,
the chunker for Go fails, and the other one does not. -/
theorem go_agrees (tools : Toolchain) (interval : Number) (file : SourceFile) (s₁ s₂ : Session) :
    (file.content.isBlank = true →
      ((go.chunk tools file none).outcome s₁).1 = .ok { file } ∧
      ((TableChunker.chunk tools ⟨.go, interval⟩ file none).outcome s₂).1 = .ok { file }) ∧
    ∀ tree : SyntaxNode, file.content.isBlank = false →
      s₁.engine.Parses tools "go" file.content tree →
      s₂.engine.Parses tools "go" file.content tree → GoShaped tree →
        ∃ chunks,
          ((TableChunker.chunk tools ⟨.go, interval⟩ file none).outcome s₂).1 =
            .ok { file, chunks } ∧
          (GoFits tools.levels tree →
            ((go.chunk tools file none).outcome s₁).1 = .ok { file, chunks }) ∧
          (¬ GoFits tools.levels tree →
            ((go.chunk tools file none).outcome s₁).1 = .error (.fault .tooDeep)) ∧
          (∀ poll o, ((go.chunk tools file poll).outcome s₁).1 = .ok o →
            o = { file, chunks }) ∧
          ∀ poll o,
            ((TableChunker.chunk tools ⟨.go, interval⟩ file poll).outcome s₂).1 = .ok o →
              o = { file, chunks } := by
  constructor
  · intro hblank
    exact outcomes_blank tools go ⟨.go, interval⟩ hblank s₁ s₂
  · intro tree hblank hparses₁ hparses₂ hshape
    exact outcomes_agree rfl (outline_go_eq rfl file hshape tools.levels) hblank hparses₁ hparses₂

end Reference

/-! ## A local type -/

namespace LocalType

def file : SourceFile where
  path := "a.go"
  content := utf8Bytes "package p\ntype A struct\x7b\x7d\nfunc F() \x7b\x7d\n"

/-- The type declaration also holds a specification without a name, and there is another type
declaration inside the function. -/
def tree : SyntaxNode :=
  let name (start stop : Nat) (row : Int) := SyntaxNode.node "identifier" ⟨start, stop, row, row⟩
    (some "name") []
  let spec := SyntaxNode.node "type_spec" ⟨15, 25, 1, 1⟩ none [name 15 16 1]
  let unnamed := SyntaxNode.node "type_spec" ⟨15, 25, 1, 1⟩ none []
  let declaration := SyntaxNode.node "type_declaration" ⟨10, 25, 1, 1⟩ none [spec, unnamed]
  let body := SyntaxNode.node "block" ⟨35, 37, 2, 2⟩ none [declaration]
  .node "source_file" ⟨0, 38, 0, 3⟩ none
    [declaration, .node "function_declaration" ⟨26, 37, 2, 2⟩ none [name 31 32 2, body]]

theorem content_not_blank : file.content.isBlank = false := by decide

theorem goShaped : Reference.GoShaped tree :=
  ⟨by decide, by decide, by decide, by decide +kernel⟩

end LocalType

namespace Reference

open LocalType in
theorem go_agrees_localType :
    (blankFile.content.isBlank = true ∧
      ((go.chunk (.answering tree) blankFile none).outcome {}).1 = .ok { file := blankFile } ∧
      ((TableChunker.chunk (.answering tree) ⟨.go, .int 1⟩ blankFile none).outcome {}).1 =
        .ok { file := blankFile }) ∧
    file.content.isBlank = false ∧
      ({} : Engine).Parses (.answering tree) "go" file.content tree ∧ GoShaped tree ∧
      GoFits (Toolchain.answering tree).levels tree ∧
      ∃ chunks,
        ((TableChunker.chunk (.answering tree) ⟨.go, .int 1⟩ file none).outcome {}).1 =
          .ok { file, chunks } ∧
        ((go.chunk (.answering tree) file none).outcome {}).1 = .ok { file, chunks } := by
  have hparses := Engine.parses_answering "go" file.content tree
  have hfits : GoFits (Toolchain.answering tree).levels tree := by decide +kernel
  have hblank := (go_agrees (.answering tree) (.int 1) blankFile {} {}).1 rfl
  rcases (go_agrees (.answering tree) (.int 1) file {} {}).2 tree content_not_blank hparses
    hparses goShaped with ⟨chunks, htable, hgo, _⟩
  exact ⟨⟨rfl, hblank⟩, content_not_blank, hparses, goShaped, hfits, chunks, htable, hgo hfits⟩

open DeepSum in
/-- On a sum that is nested too deep the chunker for Go fails, and the one with the table finds
nothing but the file. -/
theorem go_disagrees_deepSum :
    file.content.isBlank = false ∧
      ({} : Engine).Parses (.answering (tree 3000)) "go" file.content (tree 3000) ∧
      GoShaped (tree 3000) ∧
      ((go.chunk (.answering (tree 3000)) file none).outcome {}).1 = .error (.fault .tooDeep) ∧
      ((TableChunker.chunk (.answering (tree 3000)) { table := .go } file none).outcome {}).1 =
        .ok { file, chunks := [Chunk.ofFile file "go"] } := by
  have hparses := Engine.parses_answering "go" file.content (tree 3000)
  have hnone : ∀ type ∈ types,
      ¬ IsGoFunction type ∧ type ≠ "type_declaration" ∧ type ≠ "type_spec" := by decide
  have hshape : GoShaped (tree 3000) := by
    refine ⟨by decide, by decide, by decide, fun o ho _ => ?_⟩
    rcases hnone _ (type_mem ho o.node List.mem_cons_self) with ⟨hfunction, -, hspec⟩
    exact ⟨fun h => absurd h hspec, fun h => absurd h hspec, fun h => absurd h hfunction⟩
  have hdeep : ¬ GoFits (Toolchain.answering (tree 3000)).levels (tree 3000) := by
    intro hfits
    rcases exists_deep 3000 with ⟨o, ho, hlength⟩
    have hless := hfits o ho fun a ha =>
      ⟨(hnone _ (type_mem ho a ha)).1, (hnone _ (type_mem ho a ha)).2.1⟩
    rw [hlength] at hless
    exact absurd hless (by decide)
  refine ⟨content_not_blank, hparses, hshape, ?_, ?_⟩
  · rw [outcome_chunk content_not_blank hparses, outline_go_eq (c := { table := .go }) rfl file
      hshape, if_neg hdeep]
    rfl
  · rw [TableChunker.outcome_chunk content_not_blank hparses,
      DeepSum.outline_eq (by decide) (by decide)]
    rfl

end Reference

end SourceOutline
