import Mathlib.Data.List.Nodup
import Mathlib.Data.List.Perm.Subperm
import SourceOutline.Proofs.Outline.Hierarchy

/-!
# Climb — from a chunk to its parent, and on from there

Chunks pass for a forest with one root if one of them stands for the file, that one has no parent,
and the parent that any other names is among them.  This looks at one link at a time.  A digest does
not depend on the parent, so chunks can be put together, and others taken away, until a chunk
belongs to itself; then going from parent to parent has no end.  What the links do ensure is that
there is no other way to miss the root.

* `Outline.climb_of_problems_eq_nil` — every chunk lies below the root exactly if none is its own
  ancestor;
* `LeftoverLink.isOwnAncestor_again` — a chunk that belongs to itself is no problem.
-/

namespace SourceOutline

namespace Outline

/-- The chunk that a chunk names as its parent. -/
def parent? (o : Outline) (c : Chunk) : Option Chunk :=
  c.parentId.bind o.get?

/-- Where a number of steps from chunk to parent lead. -/
def climb (o : Outline) : Nat → Chunk → Option Chunk
  | 0, c => some c
  | steps + 1, c => (o.parent? c).bind (o.climb steps)

/-- Going up from a chunk leads back to it. -/
def IsOwnAncestor (o : Outline) (c : Chunk) : Prop :=
  ∃ steps, 0 < steps ∧ o.climb steps c = some c

/-- A chunk with a parent stands after one that has the parent's digest. -/
def LinksBackwards (o : Outline) : Prop :=
  ∀ (i : Nat) (c : Chunk) (id : String), o.chunks[i]? = some c → c.parentId = some id →
    ∃ (j : Nat) (d : Chunk), j < i ∧ o.chunks[j]? = some d ∧ d.id = id

/-- One chunk stands for the file and has no parent, and every other one has a parent. -/
structure HasOneRoot (o : Outline) (root : Chunk) : Prop where
  only : o.chunks.filter Chunk.isFile = [root]
  parentless : root.parentId = none
  found : ∀ c ∈ o.chunks, c.isFile = false → (o.parent? c).isSome = true

variable {o : Outline} {root c d : Chunk} {i j : Nat}

/-! ## Links -/

theorem parent?_of_parentId {id : String} (h : c.parentId = some id) : o.parent? c = o.get? id := by
  rw [parent?, h, Option.bind_some]

theorem mem_of_parent?_eq_some (h : o.parent? c = some d) : d ∈ o.chunks := by
  rcases Option.bind_eq_some_iff.1 h with ⟨id, -, hget⟩
  exact List.mem_of_find?_eq_some hget

theorem get?_isSome_iff {id : String} :
    (o.get? id).isSome = true ↔ (o.chunks.map Chunk.id).contains id = true := by
  rw [get?, List.find?_isSome, List.contains_iff_mem, List.mem_map]
  simp only [beq_iff_eq]

theorem parentProblem?_eq_none_iff (hfile : c.isFile = false) :
    parentProblem? (o.chunks.map Chunk.id) c = none ↔ (o.parent? c).isSome = true := by
  unfold parentProblem?
  cases hparent : c.parentId with
  | none => simp [parent?, hparent, hfile]
  | some id =>
      rw [parent?_of_parentId hparent, get?_isSome_iff]
      simp [hfile]

theorem problems_eq_nil_iff (hne : o.chunks ≠ []) :
    o.problems = [] ↔ ∃ root, o.HasOneRoot root := by
  have hparents : o.chunks.filterMap (parentProblem? (o.chunks.map Chunk.id)) = [] ↔
      ∀ c ∈ o.chunks, c.isFile = false → (o.parent? c).isSome = true := by
    rw [List.filterMap_eq_nil_iff]
    refine forall₂_congr fun c _ => ?_
    cases hfile : c.isFile with
    | true => simp [parentProblem?, hfile]
    | false => simp [parentProblem?_eq_none_iff hfile]
  have hempty : o.chunks.isEmpty = false := by simpa using hne
  unfold problems
  simp only [hempty, Bool.false_eq_true, if_false, List.append_eq_nil_iff, List.map_eq_nil_iff,
    hparents]
  constructor
  · rintro ⟨⟨hcount, hroots⟩, hfound⟩
    have hone : (o.chunks.filter Chunk.isFile).length = 1 := by
      by_contra hother
      rw [if_neg hother] at hcount
      cases hcount
    rcases List.length_eq_one_iff.1 hone with ⟨root, honly⟩
    rw [honly] at hroots
    exact ⟨root, honly, by simpa using hroots, hfound⟩
  · rintro ⟨root, honly, hparentless, hfound⟩
    rw [honly]
    exact ⟨⟨rfl, by simp [hparentless]⟩, hfound⟩

/-! ## Steps -/

theorem climb_add (o : Outline) (i j : Nat) (c : Chunk) :
    o.climb (i + j) c = (o.climb i c).bind (o.climb j) := by
  induction i generalizing c with
  | zero => rw [Nat.zero_add, climb, Option.bind_some]
  | succ i ih =>
      rw [Nat.succ_add, climb, climb]
      cases o.parent? c with
      | none => rfl
      | some d => exact ih d

theorem mem_of_climb_eq_some (hc : c ∈ o.chunks) (h : o.climb i c = some d) : d ∈ o.chunks := by
  induction i generalizing c with
  | zero =>
      cases h
      exact hc
  | succ i ih =>
      rcases Option.bind_eq_some_iff.1 h with ⟨next, hnext, hrest⟩
      exact ih (mem_of_parent?_eq_some hnext) hrest

theorem climb_ne_none_of_le (hij : i ≤ j) (h : o.climb j c ≠ none) : o.climb i c ≠ none := by
  rcases Nat.exists_eq_add_of_le hij with ⟨more, rfl⟩
  intro hnone
  rw [climb_add, hnone] at h
  exact h rfl

theorem climb_mul (h : o.climb i c = some c) (times : Nat) : o.climb (times * i) c = some c := by
  induction times with
  | zero => rw [Nat.zero_mul, climb]
  | succ times ih => rw [Nat.succ_mul, climb_add, ih, Option.bind_some, h]

theorem climb_sub_of_repeat (hij : i < j) (hi : o.climb i c = some d)
    (hj : o.climb j c = some d) : o.climb (j - i) d = some d :=
  calc
    o.climb (j - i) d = (o.climb i c).bind (o.climb (j - i)) := by rw [hi, Option.bind_some]
    _ = o.climb (i + (j - i)) c := (climb_add o i (j - i) c).symm
    _ = some d := by rw [Nat.add_sub_cancel' (Nat.le_of_lt hij), hj]

theorem climb_ne_none_of_repeat (hij : i < j) (hi : o.climb i c = some d)
    (hj : o.climb j c = some d) (steps : Nat) : o.climb steps c ≠ none := by
  have hround := climb_sub_of_repeat hij hi hj
  -- After as many rounds as steps, more than that number of steps are done.
  have hfar : o.climb (i + steps * (j - i)) c ≠ none := by
    rw [climb_add, hi, Option.bind_some, climb_mul hround]
    exact Option.some_ne_none d
  refine climb_ne_none_of_le ?_ hfar
  have hpos : 0 < j - i := Nat.sub_pos_of_lt hij
  exact Nat.le_trans (Nat.le_mul_of_pos_right steps hpos) (Nat.le_add_left _ _)

theorem exists_repeat (hc : c ∈ o.chunks)
    (h : ∀ steps ≤ o.chunks.length, o.climb steps c ≠ none) :
    ∃ i j d, i < j ∧ o.climb i c = some d ∧ o.climb j c = some d := by
  let way : List (Option Chunk) := (List.range (o.chunks.length + 1)).map fun k => o.climb k c
  have hsub : way ⊆ o.chunks.map some := by
    intro place hplace
    rcases List.mem_map.1 hplace with ⟨k, hk, rfl⟩
    rcases Option.ne_none_iff_exists'.1 (h k (by simpa [Nat.lt_succ_iff] using hk)) with ⟨d, hd⟩
    simp only [hd]
    exact List.mem_map_of_mem (mem_of_climb_eq_some hc hd)
  have htwice : ¬ way.Nodup := by
    intro hnodup
    have hlength := (List.subperm_of_subset hnodup hsub).length_le
    rw [List.length_map, List.length_map, List.length_range] at hlength
    exact Nat.not_succ_le_self _ hlength
  rw [List.nodup_iff_pairwise_ne, List.pairwise_map, List.pairwise_iff_getElem] at htwice
  push Not at htwice
  rcases htwice with ⟨i, j, hi, hj, hij, hsame⟩
  rw [List.getElem_range, List.getElem_range] at hsame
  rw [List.length_range] at hi
  rcases Option.ne_none_iff_exists'.1 (h i (Nat.lt_succ_iff.1 hi)) with ⟨d, hd⟩
  exact ⟨i, j, d, hij, hd, hsame.symm.trans hd⟩

/-! ## Roots -/

namespace HasOneRoot

theorem eq_root (h : o.HasOneRoot root) (hc : c ∈ o.chunks) (hfile : c.isFile = true) :
    c = root := by
  have hmem : c ∈ o.chunks.filter Chunk.isFile := List.mem_filter.2 ⟨hc, hfile⟩
  rw [h.only] at hmem
  exact List.mem_singleton.1 hmem

theorem climb_succ_eq_none (h : o.HasOneRoot root) (hroot : o.climb i c = some root) :
    o.climb (i + 1) c = none := by
  rw [climb_add, hroot, Option.bind_some, climb, parent?, h.parentless]
  rfl

theorem exists_climb_root_of_eq_none (h : o.HasOneRoot root) (hc : c ∈ o.chunks)
    (hend : o.climb i c = none) : ∃ j < i, o.climb j c = some root := by
  induction i generalizing c with
  | zero => cases hend
  | succ i ih =>
      cases hfile : c.isFile with
      | true => exact ⟨0, Nat.succ_pos i, by rw [h.eq_root hc hfile, climb]⟩
      | false =>
          rcases Option.isSome_iff_exists.1 (h.found c hc hfile) with ⟨next, hnext⟩
          rw [climb, hnext, Option.bind_some] at hend
          rcases ih (mem_of_parent?_eq_some hnext) hend with ⟨j, hj, hroot⟩
          exact ⟨j + 1, Nat.succ_lt_succ hj, by rw [climb, hnext, Option.bind_some, hroot]⟩

theorem exists_climb_root_or_repeat (h : o.HasOneRoot root) (hc : c ∈ o.chunks) :
    (∃ steps < o.chunks.length, o.climb steps c = some root) ∨
      ∃ i j d, i < j ∧ o.climb i c = some d ∧ o.climb j c = some d := by
  by_cases hends : ∃ steps ≤ o.chunks.length, o.climb steps c = none
  · rcases hends with ⟨steps, hsteps, hend⟩
    rcases h.exists_climb_root_of_eq_none hc hend with ⟨j, hj, hroot⟩
    exact .inl ⟨j, Nat.lt_of_lt_of_le hj hsteps, hroot⟩
  · push Not at hends
    exact .inr (exists_repeat hc hends)

theorem exists_climb_of_repeat (h : o.HasOneRoot root) (hc : c ∈ o.chunks) (hij : i < j)
    (hi : o.climb i c = some d) (hj : o.climb j c = some d) (steps : Nat) :
    ∃ e ∈ o.chunks, e.isFile = false ∧ o.climb steps c = some e := by
  have hendless := climb_ne_none_of_repeat hij hi hj
  rcases Option.ne_none_iff_exists'.1 (hendless steps) with ⟨e, he⟩
  have hmem := mem_of_climb_eq_some hc he
  refine ⟨e, hmem, ?_, he⟩
  by_contra hfile
  rw [h.eq_root hmem (by simpa using hfile)] at he
  exact hendless (steps + 1) (h.climb_succ_eq_none he)

/-- Every way up ends at the root exactly if none leads back to where it began. -/
theorem forall_climb_root_iff (h : o.HasOneRoot root) :
    (∀ c ∈ o.chunks, ∃ steps, o.climb steps c = some root) ↔
      ∀ c ∈ o.chunks, ¬ o.IsOwnAncestor c := by
  constructor
  · rintro hall c hc ⟨steps, hpos, hback⟩
    rcases hall c hc with ⟨n, hroot⟩
    exact climb_ne_none_of_repeat (d := c) hpos rfl hback (n + 1) (h.climb_succ_eq_none hroot)
  · intro hnone c hc
    rcases h.exists_climb_root_or_repeat hc with ⟨steps, -, hroot⟩ | ⟨i, j, d, hij, hi, hj⟩
    · exact ⟨steps, hroot⟩
    · -- The chunk that is come to again is its own ancestor.
      have hround := climb_sub_of_repeat hij hi hj
      exact absurd ⟨j - i, Nat.sub_pos_of_lt hij, hround⟩ (hnone d (mem_of_climb_eq_some hc hi))

end HasOneRoot

/-! ## Links to earlier chunks -/

namespace LinksBackwards

theorem exists_parent_before (h : o.LinksBackwards) (hc : o.chunks[j]? = some c)
    (hparent : o.parent? c = some d) : ∃ i < j, o.chunks[i]? = some d := by
  rcases Option.bind_eq_some_iff.1 hparent with ⟨id, hid, hget⟩
  rcases h j c id hc hid with ⟨i, e, hij, he, heid⟩
  rcases List.getElem?_eq_some_iff.1 he with ⟨hi, hie⟩
  rcases List.find?_eq_some_iff_getElem.1 hget with ⟨-, k, hk, hkd, hbefore⟩
  refine ⟨k, ?_, List.getElem?_eq_some_iff.2 ⟨hk, hkd⟩⟩
  -- The chunk that is found stands no later than any other with the digest.
  by_contra hlate
  have hno := hbefore i (by omega)
  rw [hie, heid] at hno
  simp at hno

theorem exists_climb_before (h : o.LinksBackwards) {steps : Nat} (hc : o.chunks[j]? = some c)
    (hd : o.climb (steps + 1) c = some d) : ∃ i < j, o.chunks[i]? = some d := by
  induction steps generalizing j c with
  | zero =>
      rcases Option.bind_eq_some_iff.1 hd with ⟨next, hnext, hlast⟩
      cases hlast
      exact h.exists_parent_before hc hnext
  | succ steps ih =>
      rcases Option.bind_eq_some_iff.1 hd with ⟨next, hnext, hrest⟩
      rcases h.exists_parent_before hc hnext with ⟨k, hk, hplace⟩
      rcases ih hplace hrest with ⟨i, hi, hend⟩
      exact ⟨i, Nat.lt_trans hi hk, hend⟩

/-- Where parents come first, no chunk is its own ancestor. -/
theorem not_isOwnAncestor (h : o.LinksBackwards) (hc : c ∈ o.chunks) : ¬ o.IsOwnAncestor c := by
  rintro ⟨steps, hpos, hback⟩
  rcases Nat.exists_eq_add_one_of_ne_zero (Nat.ne_of_gt hpos) with ⟨n, rfl⟩
  rcases List.mem_iff_getElem?.1 hc with ⟨j, hj⟩
  -- Going round once more leads to an earlier place of the same chunk.
  induction j using Nat.strongRecOn with
  | ind j ih =>
      rcases h.exists_climb_before hj hback with ⟨i, hi, hplace⟩
      exact ih i hi hplace

end LinksBackwards

theorem IsTwoLevel.linksBackwards (h : o.IsTwoLevel) : o.LinksBackwards := by
  intro i c id hc hid
  cases i with
  | zero =>
      rcases h.first with ⟨root, hroot, -, hparentless⟩
      rw [hroot] at hc
      cases hc
      rw [hparentless] at hid
      cases hid
  | succ i =>
      rcases h.later (i + 1) c (Nat.succ_pos i) hc with ⟨j, d, hj, hd, hparent, -⟩
      rw [hid] at hparent
      exact ⟨j, d, hj, hd, (Option.some.inj hparent).symm⟩

/-! ## Forests -/

/-- Chunks without a problem have one root, the only chunk that stands for the file.  Going up from
any of them ends there in fewer steps than there are chunks, or it has no end and never comes to the
root.  It always ends exactly if no chunk is its own ancestor, as where each parent comes before its
chunks. -/
theorem climb_of_problems_eq_nil {o : Outline} (hne : o.chunks ≠ []) (h : o.problems = []) :
    ∃ root, o.chunks.filter Chunk.isFile = [root] ∧ root.parentId = none ∧
      (∀ c ∈ o.chunks,
        (∃ steps < o.chunks.length, o.climb steps c = some root) ∨
          ∀ steps, ∃ d ∈ o.chunks, d.isFile = false ∧ o.climb steps c = some d) ∧
      ((∀ c ∈ o.chunks, ∃ steps, o.climb steps c = some root) ↔
        ∀ c ∈ o.chunks, ¬ o.IsOwnAncestor c) ∧
      (o.LinksBackwards → ∀ c ∈ o.chunks, ¬ o.IsOwnAncestor c) := by
  rcases (problems_eq_nil_iff hne).1 h with ⟨root, hroot⟩
  refine ⟨root, hroot.only, hroot.parentless, ?_, hroot.forall_climb_root_iff,
    fun hback c hc => hback.not_isOwnAncestor hc⟩
  intro c hc
  rcases hroot.exists_climb_root_or_repeat hc with hends | ⟨i, j, d, hij, hi, hj⟩
  · exact .inl hends
  · exact .inr (hroot.exists_climb_of_repeat hc hij hi hj)

end Outline

/-! ## A chunk that belongs to itself -/

theorem Chunk.id_withParent (c : Chunk) (parentId : Option String) :
    ({ c with parentId } : Chunk).id = c.id :=
  rfl

namespace LeftoverLink

def file : SourceFile where
  path := "a.py"
  content := utf8Bytes "def f(): pass\n"

def root : Chunk := Chunk.ofFile file "python"

def method : Chunk where
  path := "a.py"
  startLine := 1
  endLine := 1
  level := .method
  language := "python"
  content := Text.ofString "def f(): pass"
  name := Text.ofString "f"
  parentId := some root.id

/-- The same method once more, as one that belongs to the first. -/
def again : Chunk :=
  { method with parentId := some method.id }

def outline : Outline :=
  ((({ file } : Outline).add root).add method).add again

/-- The first method has been taken away. -/
def leftover : Outline :=
  outline.eraseAt 1

theorem id_again : again.id = method.id :=
  method.id_withParent _

theorem parentId_method : method.parentId = some root.id :=
  rfl

theorem parentId_again : again.parentId = some method.id :=
  rfl

theorem chunks_outline : outline.chunks = [root, method, again] :=
  rfl

theorem chunks_leftover : leftover.chunks = [root, again] :=
  rfl

theorem linksBackwards_outline : outline.LinksBackwards := by
  intro i c id hc hid
  rw [chunks_outline] at hc ⊢
  match i, hc with
  | 0, rfl => cases hid
  | 1, rfl =>
      cases hid
      exact ⟨0, root, by decide, rfl, rfl⟩
  | 2, rfl =>
      cases hid
      exact ⟨1, method, by decide, rfl, rfl⟩

/-- Where the parents come first, all chunks lie below that of the file. -/
theorem climb_outline :
    outline.chunks ≠ [] ∧ outline.problems = [] ∧ outline.LinksBackwards ∧
      ∃ top, outline.chunks.filter Chunk.isFile = [top] ∧
        ∀ c ∈ outline.chunks, ∃ steps, outline.climb steps c = some top := by
  have hne : outline.chunks ≠ [] := by simp [chunks_outline]
  have hproblems : outline.problems = [] := by
    refine (Outline.problems_eq_nil_iff hne).2 ⟨root, rfl, rfl, ?_⟩
    intro c hc hfile
    rw [chunks_outline] at hc
    rcases List.mem_cons.1 hc with rfl | hlater
    · cases hfile
    · -- Both methods name a digest that is in the list.
      rcases List.mem_pair.1 hlater with rfl | rfl
      · rw [Outline.parent?_of_parentId parentId_method, Outline.get?_isSome_iff]
        simp [chunks_outline]
      · rw [Outline.parent?_of_parentId parentId_again, Outline.get?_isSome_iff]
        simp [chunks_outline]
  rcases Outline.climb_of_problems_eq_nil hne hproblems with ⟨top, honly, -, -, hiff, hordered⟩
  exact ⟨hne, hproblems, linksBackwards_outline, top, honly,
    hiff.2 (hordered linksBackwards_outline)⟩

/-- Once the first method is gone, the other one belongs to itself.  It never leads to the file, and
yet there is no problem. -/
theorem isOwnAncestor_again :
    leftover.chunks ≠ [] ∧ leftover.problems = [] ∧ again ∈ leftover.chunks ∧
      leftover.IsOwnAncestor again ∧
      ¬ ∃ steps top, top.isFile = true ∧ leftover.climb steps again = some top := by
  have hne : leftover.chunks ≠ [] := by simp [chunks_leftover]
  have hdigests : root.id ≠ method.id := by decide +kernel
  have hparent : leftover.parent? again = some again := by
    rw [Outline.parent?_of_parentId parentId_again, Outline.get?, chunks_leftover,
      List.find?_cons_of_neg (by simpa using hdigests), List.find?_cons_of_pos (by simp [id_again])]
  have hround : ∀ steps, leftover.climb steps again = some again := by
    intro steps
    induction steps with
    | zero => rfl
    | succ steps ih => rw [Outline.climb, hparent, Option.bind_some, ih]
  refine ⟨hne, ?_, by simp [chunks_leftover], ⟨1, Nat.one_pos, hround 1⟩, ?_⟩
  · refine (Outline.problems_eq_nil_iff hne).2 ⟨root, rfl, rfl, ?_⟩
    intro c hc hfile
    rw [chunks_leftover] at hc
    rcases List.mem_pair.1 hc with rfl | rfl
    · cases hfile
    · rw [hparent]
      rfl
  · rintro ⟨steps, top, hfile, htop⟩
    rw [hround steps] at htop
    cases htop
    cases hfile

end LeftoverLink

end SourceOutline
