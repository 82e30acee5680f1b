import Mathlib.Logic.Relation
import SourceOutline.Proofs.Chunker.Events

/-!
# Rounds — a walk from round to round

A walk is a loop; a round takes one frame from the work list, counts it, asks the poll, and takes a
step.  What a round keeps, the whole walk keeps.
-/

namespace SourceOutline

namespace Plan

variable {p : Plan} {interval : Number} {poll : Option Poll} {s t : WalkState}

/-! ## Rounds -/

/-- The walk after one more round, if nothing ends it there. -/
def advance (p : Plan) (interval : Number) (poll : Option Poll) (s : WalkState) :
    Option WalkState :=
  match s.work with
  | [] => none
  | frame :: rest =>
    let counted := count interval poll frame { s with work := rest }
    match found poll s counted with
    | some _ => none
    | none => p.step frame counted

/-- A walk comes from one state to another in any number of rounds. -/
def Reaches (p : Plan) (interval : Number) (poll : Option Poll) : WalkState → WalkState → Prop :=
  Relation.ReflTransGen fun s t => p.advance interval poll s = some t

theorem exists_count_eq (interval : Number) (poll : Option Poll) (frame : Frame) (s : WalkState) :
    ∃ visited checks, count interval poll frame s = { s with visited, checks } := by
  cases frame with
  | leave n =>
      exact ⟨s.visited, s.checks, rfl⟩
  | visit n =>
      exact ⟨_, _, rfl⟩

/-- What a round does: it counts a frame, finds no reason to stop, and takes a step. -/
theorem of_advance_eq_some (h : p.advance interval poll s = some t) :
    ∃ frame rest, s.work = frame :: rest ∧
      found poll s (count interval poll frame { s with work := rest }) = none ∧
      p.step frame (count interval poll frame { s with work := rest }) = some t := by
  unfold advance at h
  cases hwork : s.work with
  | nil =>
      simp [hwork] at h
  | cons frame rest =>
      simp only [hwork] at h
      cases hfound : found poll s (count interval poll frame { s with work := rest }) with
      | some why =>
          rw [hfound] at h
          simp at h
      | none =>
          rw [hfound] at h
          exact ⟨frame, rest, rfl, hfound, h⟩

theorem exists_step_of_advance (h : p.advance interval poll s = some t) :
    ∃ frame rest visited checks, s.work = frame :: rest ∧
      p.step frame { s with work := rest, visited, checks } = some t := by
  rcases of_advance_eq_some h with ⟨frame, rest, hwork, _, hstep⟩
  rcases exists_count_eq interval poll frame { s with work := rest } with
    ⟨visited, checks, hcount⟩
  rw [hcount] at hstep
  exact ⟨frame, rest, visited, checks, hwork, hstep⟩

theorem weight_advance (h : p.advance interval poll s = some t) :
    weight t.work < weight s.work := by
  rcases exists_step_of_advance h with ⟨frame, rest, visited, checks, hwork, hstep⟩
  have hlight := weight_step hstep
  rw [hwork]
  exact hlight

theorem run_of_advance (h : p.advance interval poll s = some t) :
    p.run interval poll s = p.run interval poll t := by
  rw [run]
  unfold advance at h
  -- A walk that goes on has work, finds nothing to stop for, and has a next step.
  split
  · rename_i hwork
    simp [hwork] at h
  · rename_i frame rest hwork
    simp only [hwork] at h
    dsimp only
    split
    · rename_i why hfound
      simp [hfound] at h
    · rename_i hfound
      simp only [hfound] at h
      split
      · rename_i hstep
        simp [hstep] at h
      · rename_i next hstep
        rw [hstep] at h
        cases h
        rfl

theorem exists_last_round (p : Plan) (interval : Number) (poll : Option Poll) (s : WalkState) :
    ∃ t, p.Reaches interval poll s t ∧ p.advance interval poll t = none ∧
      p.run interval poll s = p.run interval poll t := by
  -- Induction on the weight of the work list, which every round makes lighter.
  induction hw : weight s.work using Nat.strongRecOn generalizing s with
  | ind w ih =>
      cases hnext : p.advance interval poll s with
      | none =>
          exact ⟨s, .refl, hnext, rfl⟩
      | some next =>
          have hlight := weight_advance hnext
          rw [hw] at hlight
          rcases ih _ hlight next rfl with ⟨t, hreach, hlast, hrun⟩
          exact ⟨t, .head hnext hreach, hlast, (run_of_advance hnext).trans hrun⟩

/-! ## The last round -/

theorem run_of_work_nil (h : s.work = []) : p.run interval poll s = (s, .finished) := by
  rw [run]
  split
  · rfl
  · rename_i hwork
    simp [h] at hwork

/-- A walk that finishes has no work left in its last round. -/
theorem work_eq_nil_of_run_finished (hlast : p.advance interval poll s = none)
    (h : p.run interval poll s = (t, .finished)) : s.work = [] ∧ t = s := by
  rw [run] at h
  unfold advance at hlast
  -- With work left, the last round is one that a check or a missing step ends in another way.
  split at h
  · rename_i hwork
    exact ⟨hwork, (congrArg Prod.fst h).symm⟩
  · rename_i frame rest hwork
    simp only [hwork] at hlast
    dsimp only at h
    split at h
    · simp at h
    · rename_i hfound
      simp only [hfound] at hlast
      split at h
      · simp at h
      · rename_i next hstep
        simp [hstep] at hlast

/-! ## Events of a whole walk -/

theorem outlook_advance (h : p.advance interval poll s = some t) : p.outlook t = p.outlook s := by
  rcases exists_step_of_advance h with ⟨frame, rest, visited, checks, hwork, hstep⟩
  rw [outlook_step hstep]
  simp only [outlook, hwork]

theorem outlook_of_reaches (h : p.Reaches interval poll s t) : p.outlook t = p.outlook s := by
  induction h with
  | refl => rfl
  | tail _ hnext ih => exact (outlook_advance hnext).trans ih

/-- A walk that is not stopped gives the events of its tree. -/
theorem events_of_run_finished {tree : SyntaxNode} {checks : Nat}
    (h : p.run interval poll (p.start tree checks) = (t, .finished)) :
    t.events.reverse = p.events p.root tree := by
  rcases exists_last_round p interval poll (p.start tree checks) with ⟨last, hreach, hlast, hrun⟩
  rw [hrun] at h
  rcases work_eq_nil_of_run_finished hlast h with ⟨hwork, rfl⟩
  have hkept := outlook_of_reaches hreach
  simpa [outlook, hwork, pending, start] using hkept

/-! ## The stack fits the work -/

/-- A stack fits a work list: it holds the chunk of each class that is still to be left, the
innermost first, and the chunk of the file below all of them. -/
inductive Encloses (p : Plan) : List Frame → List Chunk → Prop where
  | nil : Encloses p [] [p.root]
  | visit (n : SyntaxNode) {rest : List Frame} {stack : List Chunk} :
      Encloses p rest stack → Encloses p (.visit n :: rest) stack
  | leave (n : SyntaxNode) (c : Chunk) {rest : List Frame} {stack : List Chunk} :
      p.table.isClass n.type = true → p.declare n .classLike p.root.id = .chunk c →
        Encloses p rest stack → Encloses p (.leave n :: rest) (c :: stack)

namespace Encloses

variable {frame : Frame} {work : List Frame} {stack : List Chunk}

theorem ne_nil (h : p.Encloses work stack) : stack ≠ [] := by
  induction h with
  | nil => simp
  | visit n _ ih => exact ih
  | leave n c _ _ _ _ => simp

theorem map_visit_append (ns : List SyntaxNode) (h : p.Encloses work stack) :
    p.Encloses (ns.map .visit ++ work) stack := by
  induction ns with
  | nil => exact h
  | cons n ns ih => exact Encloses.visit n ih

theorem stepsTo (hstep : p.StepsTo s frame t) (h : p.Encloses (frame :: s.work) s.enclosing) :
    p.Encloses t.work t.enclosing := by
  cases hstep with
  | leave n inner outer hstack =>
      rw [hstack] at h
      cases h with
      | leave _ _ _ _ hrest => exact hrest
  | enter n c hclass hown =>
      cases h with
      | visit _ hrest => exact map_visit_append _ (.leave n c hclass hown hrest)
  | skip n _ _ =>
      cases h with
      | visit _ hrest => exact map_visit_append _ hrest
  | method n inner outer _ _ _ =>
      cases h with
      | visit _ hrest => exact hrest
  | pass n _ _ =>
      cases h with
      | visit _ hrest => exact map_visit_append _ hrest

theorem exists_step (h : p.Encloses (frame :: s.work) s.enclosing) :
    ∃ t, p.step frame s = some t := by
  cases hstack : s.enclosing with
  | nil => exact absurd hstack h.ne_nil
  | cons inner outer =>
      cases frame with
      | leave n =>
          simp only [step, hstack]
          exact ⟨_, rfl⟩
      | visit n =>
          -- The stack is not empty, so a method finds its parent.
          simp only [step, hstack]
          split
          · split
            · exact ⟨_, rfl⟩
            · exact ⟨_, rfl⟩
          · split
            · exact ⟨_, rfl⟩
            · exact ⟨_, rfl⟩

theorem start (p : Plan) (tree : SyntaxNode) (checks : Nat) :
    p.Encloses (p.start tree checks).work (p.start tree checks).enclosing :=
  Encloses.visit tree Encloses.nil

theorem of_advance (hnext : p.advance interval poll s = some t)
    (h : p.Encloses s.work s.enclosing) : p.Encloses t.work t.enclosing := by
  rcases exists_step_of_advance hnext with ⟨frame, rest, visited, checks, hwork, hstep⟩
  rw [hwork] at h
  exact stepsTo (StepsTo.of_step hstep) h

theorem of_reaches (hreach : p.Reaches interval poll s t) (h : p.Encloses s.work s.enclosing) :
    p.Encloses t.work t.enclosing := by
  induction hreach with
  | refl => exact h
  | tail _ hnext ih => exact of_advance hnext ih

end Encloses

theorem run_of_last_round (hlast : p.advance interval poll s = none)
    (hfits : p.Encloses s.work s.enclosing) :
    (s.work = [] ∧ p.run interval poll s = (s, .finished)) ∨
      ∃ frame rest why, s.work = frame :: rest ∧
        found poll s (count interval poll frame { s with work := rest }) = some why ∧
        p.run interval poll s =
          (count interval poll frame { s with work := rest }, .interrupted why) := by
  cases hwork : s.work with
  | nil => exact Or.inl ⟨rfl, run_of_work_nil hwork⟩
  | cons frame rest =>
      right
      cases hfound : found poll s (count interval poll frame { s with work := rest }) with
      | some why =>
          refine ⟨frame, rest, why, rfl, hfound, ?_⟩
          rw [run]
          split
          · rename_i hnil
            simp [hwork] at hnil
          · rename_i frame' rest' hcons
            rw [hwork] at hcons
            cases hcons
            simp only [hfound]
      | none =>
          -- Nothing stops this round, so it has a step and is not the last one.
          exfalso
          rcases exists_count_eq interval poll frame { s with work := rest } with
            ⟨visited, checks, hcount⟩
          rw [hwork] at hfits
          rcases Encloses.exists_step (s := { s with work := rest, visited, checks }) hfits with
            ⟨next, hstep⟩
          rw [hcount] at hfound
          simp [advance, hwork, hcount, hfound, hstep] at hlast

/-! ## Walks that are not stopped -/

theorem found_unpolled (before after : WalkState) : found none before after = none := by
  unfold found
  split <;> rfl

theorem run_of_found (hfound : ∀ before after, found poll before after = none) (tree : SyntaxNode)
    (checks : Nat) :
    ∃ t, p.Reaches interval poll (p.start tree checks) t ∧
      p.run interval poll (p.start tree checks) = (t, .finished) := by
  rcases exists_last_round p interval poll (p.start tree checks) with ⟨t, hreach, hlast, hrun⟩
  have hfits := Encloses.of_reaches hreach (Encloses.start p tree checks)
  rcases run_of_last_round hlast hfits with ⟨_, hfinished⟩ | ⟨frame, rest, why, _, hwhy, _⟩
  · exact ⟨t, hreach, hrun.trans hfinished⟩
  · rw [hfound] at hwhy
    cases hwhy

theorem checks_advance_unpolled (h : p.advance interval none s = some t) :
    t.checks = s.checks := by
  rcases of_advance_eq_some h with ⟨frame, rest, _, _, hstep⟩
  have hcount : (count interval none frame { s with work := rest }).checks = s.checks := by
    cases frame with
    | leave n => rfl
    | visit n => simp [count]
  exact (StepsTo.checks_eq (StepsTo.of_step hstep)).trans hcount

theorem run_unpolled (p : Plan) (interval : Number) (tree : SyntaxNode) (checks : Nat) :
    ∃ t, p.run interval none (p.start tree checks) = (t, .finished) ∧ t.checks = checks := by
  rcases run_of_found found_unpolled tree checks with ⟨t, hreach, hrun⟩
  have hchecks : t.checks = (p.start tree checks).checks := by
    clear hrun
    induction hreach with
    | refl => rfl
    | tail _ hnext ih => exact (checks_advance_unpolled hnext).trans ih
  exact ⟨t, hrun, hchecks⟩

end Plan

end SourceOutline
