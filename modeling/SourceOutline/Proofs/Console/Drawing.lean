import Mathlib.Data.List.Nodup
import Mathlib.Data.List.Perm.Subperm
import SourceOutline.Console.OutlineTree
import SourceOutline.Proofs.Outline.Hierarchy

/-!
# Drawing — every chunk stands once in the tree of its file

A drawing has below each chunk the chunks that name it as their parent.  Nothing bounds its depth,
so chunks whose parents go in a circle have no drawing; where there is one, the bound of
`Outline.branches` does not cut it.  An outline of two levels whose digests differ has a drawing in
which each chunk stands once.

* `Outline.branch_of_outcome` — the tree of what a chunker or a registry gives.
-/

namespace SourceOutline

namespace Outline

/-! ## Drawings -/

/-- Chunks are drawn one after the other, each with the drawing of its children below it. -/
inductive Draws (o : Outline) : List Chunk → List Branch → Prop
  | nil : Draws o [] []
  | cons {c : Chunk} {rest : List Chunk} {below bs : List Branch}
      (hbelow : Draws o (o.childrenOf (some c.id)) below) (hrest : Draws o rest bs) :
      Draws o (c :: rest) (.node c.label below :: bs)

variable {o : Outline} {root c d : Chunk} {cs above : List Chunk} {bs bs' : List Branch}

theorem Draws.unique (h : o.Draws cs bs) (h' : o.Draws cs bs') : bs = bs' := by
  induction h generalizing bs' with
  | nil =>
      cases h'
      rfl
  | cons _ _ ihbelow ihrest =>
      cases h' with
      | cons hbelow hrest => rw [ihbelow hbelow, ihrest hrest]

theorem mem_childrenOf_iff {id : Option String} :
    c ∈ o.childrenOf id ↔ c ∈ o.chunks ∧ c.parentId = id := by
  simp [childrenOf]

theorem childrenOf_subset (o : Outline) (id : Option String) : o.childrenOf id ⊆ o.chunks :=
  fun _ hc => (mem_childrenOf_iff.1 hc).1

/-- If the digests of chunks differ, no chunk belongs to two of them. -/
theorem eq_of_mem_childrenOf (hids : (o.chunks.map Chunk.id).Nodup) (hd : d ∈ o.chunks)
    {e : Chunk} (he : e ∈ o.chunks) (hcd : c ∈ o.childrenOf (some d.id))
    (hce : c ∈ o.childrenOf (some e.id)) : d = e := by
  refine List.inj_on_of_nodup_map hids hd he (Option.some.inj ?_)
  exact (mem_childrenOf_iff.1 hcd).2.symm.trans (mem_childrenOf_iff.1 hce).2

theorem branches_eq_map {depth : Nat} {id : String}
    (h : o.childrenOf (some id) = [] ∨ 0 < depth) :
    o.branches depth id =
      (o.childrenOf (some id)).map fun c => .node c.label (o.branches (depth - 1) c.id) := by
  cases depth with
  | zero =>
      rcases h with hempty | hpos
      · simp [branches, hempty]
      · exact absurd hpos (Nat.lt_irrefl 0)
  | succ depth => rfl

/-- A depth that leaves room for every chunk that does not stand above is enough for a drawing.  What
is drawn below a chunk that stands above is at least as large, so the chunk is not drawn again. -/
theorem Draws.map_branches (h : o.Draws cs bs) (hmem : cs ⊆ o.chunks) (hsub : above ⊆ o.chunks)
    (hnodup : above.Nodup)
    (hlarger : ∀ d ∈ above, ∀ below, o.Draws (o.childrenOf (some d.id)) below →
      sizeOf bs ≤ sizeOf below)
    {depth : Nat} (hdepth : o.chunks.length ≤ depth + above.length) :
    (cs = [] ∨ 0 < depth) ∧
      (cs.map fun c => Branch.node c.label (o.branches (depth - 1) c.id)) = bs := by
  induction h generalizing above depth with
  | nil => exact ⟨Or.inl rfl, rfl⟩
  | @cons c rest below bs hbelow hrest ihbelow ihrest =>
      -- What is drawn below a chunk is smaller than what the chunk stands in, so the chunk is new.
      have hbelowLt : sizeOf below < sizeOf (Branch.node c.label below :: bs) := by
        simp only [List.cons.sizeOf_spec, Branch.node.sizeOf_spec]
        omega
      have hrestLt : sizeOf bs < sizeOf (Branch.node c.label below :: bs) := by
        simp only [List.cons.sizeOf_spec, Branch.node.sizeOf_spec]
        omega
      have hnew : c ∉ above := by
        intro hc
        have := hlarger c hc below hbelow
        omega
      have hsub' : c :: above ⊆ o.chunks := List.cons_subset.2 ⟨hmem List.mem_cons_self, hsub⟩
      have hnodup' : (c :: above).Nodup := List.nodup_cons.2 ⟨hnew, hnodup⟩
      -- The chunks above are different ones of the outline, so there is still depth left.
      have hroom : above.length + 1 ≤ o.chunks.length :=
        (List.subperm_of_subset hnodup' hsub').length_le
      have hlarger' : ∀ d ∈ c :: above, ∀ drawn, o.Draws (o.childrenOf (some d.id)) drawn →
          sizeOf below ≤ sizeOf drawn := by
        intro d hd drawn hdrawn
        rcases List.mem_cons.1 hd with rfl | hd
        · exact Nat.le_of_eq (congrArg sizeOf (hbelow.unique hdrawn))
        · have := hlarger d hd drawn hdrawn
          omega
      have hdepth' : o.chunks.length ≤ depth - 1 + (c :: above).length := by
        rw [List.length_cons]
        omega
      have hunder := ihbelow (o.childrenOf_subset _) hsub' hnodup' hlarger' hdepth'
      have hafter := ihrest (fun d hd => hmem (List.mem_cons_of_mem c hd)) hsub hnodup
        (fun d hd drawn hdrawn => by
          have := hlarger d hd drawn hdrawn
          omega) hdepth
      refine ⟨Or.inr (by omega), ?_⟩
      rw [List.map_cons, hafter.2, branches_eq_map hunder.1, hunder.2]

/-- The tree of a file is the whole drawing of what belongs to its first chunk. -/
theorem branch_eq_of_draws (hroot : o.fileChunk? = some root)
    (h : o.Draws (o.childrenOf (some root.id)) bs) : o.branch = .node o.label bs := by
  have hbranches := h.map_branches (o.childrenOf_subset _) (List.nil_subset _) List.nodup_nil
    (fun d hd => absurd hd List.not_mem_nil) (Nat.le_refl o.chunks.length)
  unfold branch
  rw [hroot]
  simp only
  rw [branches_eq_map hbranches.1, hbranches.2]

theorem Draws.of_forall {below : Chunk → List Branch}
    (h : ∀ c ∈ cs, o.Draws (o.childrenOf (some c.id)) (below c)) :
    o.Draws cs (cs.map fun c => .node c.label (below c)) := by
  induction cs with
  | nil => exact .nil
  | cons c rest ih =>
      exact .cons (h c List.mem_cons_self) (ih fun d hd => h d (List.mem_cons_of_mem c hd))

/-! ## Two levels -/

/-- The children of a chunk, and below each of them its own children. -/
def twoLevels (o : Outline) (root : Chunk) : List Branch :=
  (o.childrenOf (some root.id)).map fun c =>
    .node c.label ((o.childrenOf (some c.id)).map fun m => .node m.label [])

def drawnChunks (o : Outline) (root : Chunk) : List Chunk :=
  root :: (o.childrenOf (some root.id)).flatMap fun c => c :: o.childrenOf (some c.id)

namespace IsTwoLevel

theorem exists_fileChunk (h : o.IsTwoLevel) :
    ∃ root, o.chunks[0]? = some root ∧ o.fileChunk? = some root ∧ root.level = .file ∧
      root.parentId = none := by
  rcases h.first with ⟨root, hroot, hlevel, hparent⟩
  refine ⟨root, hroot, ?_, hlevel, hparent⟩
  cases hchunks : o.chunks with
  | nil => simp [hchunks] at hroot
  | cons c rest =>
      have hc : c = root := by simpa [hchunks] using hroot
      simp [fileChunk?, hchunks, hc, Chunk.isFile, hlevel]

theorem ne_of_mem_childrenOf (h : o.IsTwoLevel) (hroot : o.chunks[0]? = some root) {id : String}
    (hc : c ∈ o.childrenOf (some id)) : c ≠ root := by
  rcases h.first with ⟨root', hroot', _, hnone⟩
  rw [hroot, Option.some.injEq] at hroot'
  intro heq
  rw [← hroot', ← heq, (mem_childrenOf_iff.1 hc).2] at hnone
  cases hnone

section Distinct

variable (h : o.IsTwoLevel) (hids : (o.chunks.map Chunk.id).Nodup)
  (hroot : o.chunks[0]? = some root)

include h hids hroot

theorem levels_of_mem_childrenOf (hd : d ∈ o.chunks) (hc : c ∈ o.childrenOf (some d.id)) :
    (d = root ∧ (c.level = .classLike ∨ c.level = .method)) ∨
      (d.level = .classLike ∧ c.level = .method) := by
  rcases mem_childrenOf_iff.1 hc with ⟨hmem, hparent⟩
  rcases List.mem_iff_getElem?.1 hmem with ⟨i, hi⟩
  cases i with
  | zero => exact absurd (Option.some.inj (hi.symm.trans hroot)) (h.ne_of_mem_childrenOf hroot hc)
  | succ i =>
      rcases h.later (i + 1) c (Nat.succ_pos i) hi with ⟨j, owner, _, howner, hparent', hlevels⟩
      have howner' : owner = d := by
        refine List.inj_on_of_nodup_map hids (List.mem_of_getElem? howner) hd ?_
        exact Option.some.inj (hparent'.symm.trans hparent)
      subst howner'
      rcases hlevels with ⟨hlevel, rfl⟩ | ⟨hlevel, rfl | hclass⟩
      · exact Or.inl ⟨Option.some.inj (howner.symm.trans hroot), Or.inl hlevel⟩
      · exact Or.inl ⟨Option.some.inj (howner.symm.trans hroot), Or.inr hlevel⟩
      · exact Or.inr ⟨hclass, hlevel⟩

omit hids in
theorem mem_childrenOf_of_classLike (hd : d ∈ o.chunks) (hclass : d.level = .classLike) :
    d ∈ o.childrenOf (some root.id) := by
  rcases List.mem_iff_getElem?.1 hd with ⟨i, hi⟩
  cases i with
  | zero =>
      rcases h.first with ⟨root', hroot', hfile, _⟩
      cases hi.symm.trans hroot'
      rw [hclass] at hfile
      cases hfile
  | succ i =>
      rcases h.later (i + 1) d (Nat.succ_pos i) hi with ⟨j, e, _, he, hparent, hlevels⟩
      rcases hlevels with ⟨_, rfl⟩ | ⟨hmethod, _⟩
      · cases he.symm.trans hroot
        exact mem_childrenOf_iff.2 ⟨hd, hparent⟩
      · rw [hclass] at hmethod
        cases hmethod

omit hids in
theorem eq_or_mem_childrenOf (hc : c ∈ o.chunks) :
    c = root ∨ c ∈ o.childrenOf (some root.id) ∨
      ∃ d ∈ o.childrenOf (some root.id), c ∈ o.childrenOf (some d.id) := by
  rcases List.mem_iff_getElem?.1 hc with ⟨i, hi⟩
  cases i with
  | zero => exact Or.inl (Option.some.inj (hi.symm.trans hroot))
  | succ i =>
      rcases h.later (i + 1) c (Nat.succ_pos i) hi with ⟨j, d, _, hd, hparent, hlevels⟩
      have hmem : c ∈ o.childrenOf (some d.id) := mem_childrenOf_iff.2 ⟨hc, hparent⟩
      have hparentPlace : j = 0 ∨ d.level = .classLike := by
        rcases hlevels with ⟨_, hzero⟩ | ⟨_, hplace⟩
        · exact Or.inl hzero
        · exact hplace
      rcases hparentPlace with rfl | hclass
      · cases hd.symm.trans hroot
        exact Or.inr (Or.inl hmem)
      · have hd' := h.mem_childrenOf_of_classLike hroot (List.mem_of_getElem? hd) hclass
        exact Or.inr (Or.inr ⟨d, hd', hmem⟩)

theorem level_of_mem_childrenOf_first (hc : c ∈ o.childrenOf (some root.id)) :
    c.level = .classLike ∨ c.level = .method := by
  rcases h.levels_of_mem_childrenOf hids hroot (List.mem_of_getElem? hroot) hc with
    ⟨_, hlevel⟩ | ⟨_, hmethod⟩
  · exact hlevel
  · exact Or.inr hmethod

theorem childrenOf_eq_nil (hc : c ∈ o.chunks) (hne : c ≠ root) (hmethod : c.level = .method) :
    o.childrenOf (some c.id) = [] := by
  refine List.eq_nil_iff_forall_not_mem.2 ?_
  intro m hm
  rcases h.levels_of_mem_childrenOf hids hroot hc hm with ⟨heq, _⟩ | ⟨hclass, _⟩
  · exact hne heq
  · rw [hmethod] at hclass
    cases hclass

theorem level_of_mem_childrenOf (hd : d ∈ o.chunks) (hne : d ≠ root)
    (hc : c ∈ o.childrenOf (some d.id)) : c.level = .method := by
  rcases h.levels_of_mem_childrenOf hids hroot hd hc with ⟨heq, _⟩ | ⟨_, hmethod⟩
  · exact absurd heq hne
  · exact hmethod

theorem levels_below (hc : c ∈ o.childrenOf (some root.id)) :
    (c.level = .classLike ∧ ∀ m ∈ o.childrenOf (some c.id), m.level = .method) ∨
      (c.level = .method ∧ o.childrenOf (some c.id) = []) := by
  have hmem := o.childrenOf_subset _ hc
  have hne := h.ne_of_mem_childrenOf hroot hc
  rcases h.level_of_mem_childrenOf_first hids hroot hc with hclass | hmethod
  · exact Or.inl ⟨hclass, fun m hm => h.level_of_mem_childrenOf hids hroot hmem hne hm⟩
  · exact Or.inr ⟨hmethod, h.childrenOf_eq_nil hids hroot hmem hne hmethod⟩

theorem draws_twoLevels : o.Draws (o.childrenOf (some root.id)) (o.twoLevels root) := by
  refine Draws.of_forall fun c hc => Draws.of_forall fun m hm => ?_
  have hmethod := h.level_of_mem_childrenOf hids hroot (o.childrenOf_subset _ hc)
    (h.ne_of_mem_childrenOf hroot hc) hm
  rw [h.childrenOf_eq_nil hids hroot (o.childrenOf_subset _ hm) (h.ne_of_mem_childrenOf hroot hm)
    hmethod]
  exact .nil

theorem notMem_childrenOf (hc : c ∈ o.childrenOf (some root.id))
    (hd : d ∈ o.childrenOf (some root.id)) : c ∉ o.childrenOf (some d.id) := by
  intro hcd
  refine h.ne_of_mem_childrenOf hroot hd ?_
  exact eq_of_mem_childrenOf hids (o.childrenOf_subset _ hd) (List.mem_of_getElem? hroot) hcd hc

theorem nodup_drawnChunks : (o.drawnChunks root).Nodup := by
  have hchildren : ∀ id, (o.childrenOf id).Nodup := fun id => hids.of_map.filter _
  refine List.nodup_cons.2 ⟨?_, List.nodup_flatMap.2 ⟨?_, ?_⟩⟩
  · intro hmem
    rcases List.mem_flatMap.1 hmem with ⟨c, hc, hmem⟩
    rcases List.mem_cons.1 hmem with heq | hmem
    · exact h.ne_of_mem_childrenOf hroot hc heq.symm
    · exact h.ne_of_mem_childrenOf hroot hmem rfl
  · intro c hc
    exact List.nodup_cons.2 ⟨h.notMem_childrenOf hids hroot hc hc, hchildren _⟩
  · refine (hchildren _).pairwise_of_forall_ne fun c hc d hd hne e hce hde => ?_
    rcases List.mem_cons.1 hce with rfl | hce <;> rcases List.mem_cons.1 hde with rfl | hde
    · exact hne rfl
    · exact h.notMem_childrenOf hids hroot hc hd hde
    · exact h.notMem_childrenOf hids hroot hd hc hce
    · exact hne (eq_of_mem_childrenOf hids (o.childrenOf_subset _ hc) (o.childrenOf_subset _ hd)
        hce hde)

/-- Every chunk is drawn exactly once. -/
theorem perm_drawnChunks : o.chunks.Perm (o.drawnChunks root) := by
  refine (List.perm_ext_iff_of_nodup hids.of_map (h.nodup_drawnChunks hids hroot)).2 fun c => ?_
  constructor
  · intro hc
    rcases h.eq_or_mem_childrenOf hroot hc with rfl | hc | ⟨d, hd, hc⟩
    · exact List.mem_cons_self
    · exact List.mem_cons_of_mem _ (List.mem_flatMap.2 ⟨c, hc, List.mem_cons_self⟩)
    · exact List.mem_cons_of_mem _ (List.mem_flatMap.2 ⟨d, hd, List.mem_cons_of_mem _ hc⟩)
  · intro hc
    rcases List.mem_cons.1 hc with rfl | hc
    · exact List.mem_of_getElem? hroot
    · rcases List.mem_flatMap.1 hc with ⟨d, hd, hc⟩
      rcases List.mem_cons.1 hc with rfl | hc
      · exact o.childrenOf_subset _ hd
      · exact o.childrenOf_subset _ hc

end Distinct

end IsTwoLevel

/-! ## What chunkers give -/

/-- Whatever a chunker or a registry gives for a file, if the digests of its chunks differ: without
chunks the tree says so, and otherwise it is the drawing of the chunks.  The file stands at the root,
below it stand the chunks that belong to it, below each class stand its methods, all in the order of
the outline, and no chunk is lost, repeated or deeper. -/
theorem branch_of_outcome {tools : Toolchain} {file : SourceFile} {poll : Option Poll} {s : Session}
    (h : (∃ chunker : Chunker, ((chunker.chunk tools file poll).outcome s).1 = .ok o) ∨
      ∃ registry : Registry, ((registry.chunk tools file poll).outcome s).1 = .ok o)
    (hids : (o.chunks.map Chunk.id).Nodup) :
    (o.chunks = [] → o.branch = .node o.label [.node "[dim]no chunks[/dim]" []]) ∧
      (o.chunks ≠ [] → ∃ root, o.fileChunk? = some root ∧ root.level = .file ∧
        o.Draws (o.childrenOf (some root.id)) (o.twoLevels root) ∧
        o.branch = .node o.label (o.twoLevels root) ∧
        o.chunks.Perm (o.drawnChunks root) ∧
        ∀ c ∈ o.childrenOf (some root.id),
          (c.level = .classLike ∧ ∀ m ∈ o.childrenOf (some c.id), m.level = .method) ∨
            (c.level = .method ∧ o.childrenOf (some c.id) = [])) := by
  constructor
  · intro hempty
    simp [branch, fileChunk?, hempty]
  · intro hne
    have htwo := (eq_nil_or_isTwoLevel h).resolve_left hne
    rcases htwo.exists_fileChunk with ⟨root, hroot, hfile, hlevel, _⟩
    have hdraws := htwo.draws_twoLevels hids hroot
    exact ⟨root, hfile, hlevel, hdraws, branch_eq_of_draws hfile hdraws,
      htwo.perm_drawnChunks hids hroot, fun c hc => htwo.levels_below hids hroot hc⟩

end Outline

namespace NestedClass

theorem branch_outline :
    ((registry.chunk (.answering tree) file none).outcome {}).1 = .ok outline ∧
      (outline.chunks.map Chunk.id).Nodup ∧ outline.chunks ≠ [] ∧
      ∃ root, outline.branch =
          .node "[bold]a.py[/bold] [dim](python)[/dim]" (outline.twoLevels root) ∧
        (outline.drawnChunks root).map Chunk.label =
          ["[bold]file[/bold] a.py [dim]L1-3[/dim]", "[cyan]class[/cyan] A [dim]L1-2[/dim]",
            "[green]method[/green] f [dim]L2-2[/dim]"] := by
  have hchunks : (outline.chunks.map Chunk.id).Nodup ∧
      (outline.fileChunk?.map fun c => (outline.drawnChunks c).map Chunk.label) =
        some ["[bold]file[/bold] a.py [dim]L1-3[/dim]", "[cyan]class[/cyan] A [dim]L1-2[/dim]",
          "[green]method[/green] f [dim]L2-2[/dim]"] := by decide +kernel
  rcases hchunks with ⟨hids, hlabels⟩
  have hlabel : outline.label = "[bold]a.py[/bold] [dim](python)[/dim]" := by decide +kernel
  have hne : outline.chunks ≠ [] := List.cons_ne_nil _ _
  have htree := (Outline.branch_of_outcome (Or.inr ⟨registry, outcome_registry⟩) hids).2 hne
  rcases htree with ⟨root, hroot, -, -, hbranch, -⟩
  rw [hlabel] at hbranch
  rw [hroot] at hlabels
  exact ⟨outcome_registry, hids, hne, root, hbranch, Option.some.inj hlabels⟩

end NestedClass

end SourceOutline
