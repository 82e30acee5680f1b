import Mathlib.Data.Rat.Lemmas
import SourceOutline.Proofs.Chunker.Agreement
import SourceOutline.Proofs.Chunker.Ancestors
import SourceOutline.Proofs.Chunker.Visits

/-!
# Polling — how often a walk asks whether to stop

A call with a poll makes one check at its start and one at every `k`-th node that it visits.  What
it comes to depends on the answers only through the first one that is a reason to stop: if that
check is made, the call ends there with that reason; if it is not, the call is the one without a
poll.

* `TableChunker.outcome_chunk_polled` — how a call with a poll ends.
-/

namespace SourceOutline

/-! ## Polls -/

/-- After some checks that were made before, the `n`-th check is the first that finds a reason to
stop. -/
structure Poll.StopsAfter (poll : Poll) (before n : Nat) (why : Interruption) : Prop where
  pos : 0 < n
  stops : poll (before + n) = some why
  passes : ∀ i, 0 < i → i < n → poll (before + i) = none

def Poll.stoppingAt (number : Nat) (why : Interruption) : Poll := fun i =>
  if i = number then some why else none

theorem Poll.stopsAfter_stoppingAt {number : Nat} (hpos : 0 < number) (why : Interruption) :
    (Poll.stoppingAt number why).StopsAfter 0 number why := by
  refine ⟨hpos, by simp [stoppingAt], ?_⟩
  intro i _ hlt
  have hne : i ≠ number := by omega
  simp [stoppingAt, hne]

theorem Poll.StopsAfter.unique {poll : Poll} {before m n : Nat} {why why' : Interruption}
    (h : poll.StopsAfter before m why) (h' : poll.StopsAfter before n why') :
    m = n ∧ why = why' := by
  -- The later of two would have to pass at the earlier.
  have hle : ∀ {i j : Nat} {w w' : Interruption}, poll.StopsAfter before i w →
      poll.StopsAfter before j w' → j ≤ i := by
    intro i j w w' hi hj
    by_contra hlt
    have hpass := hj.passes i hi.pos (by omega)
    rw [hi.stops] at hpass
    cases hpass
  have hmn : m = n := Nat.le_antisymm (hle h' h) (hle h h')
  subst hmn
  have hsame := h.stops.symm.trans h'.stops
  exact ⟨rfl, Option.some.inj hsame⟩

theorem Poll.StopsAfter.succ {poll : Poll} {before n : Nat} {why : Interruption}
    (hpass : poll (before + 1) = none) (h : poll.StopsAfter (before + 1) n why) :
    poll.StopsAfter before (n + 1) why := by
  refine ⟨Nat.succ_pos n, ?_, ?_⟩
  · rw [← h.stops, Nat.add_assoc, Nat.add_comm 1 n]
  · intro i hpos hlt
    by_cases hone : i = 1
    · rw [hone, hpass]
    · have hearlier := h.passes (i - 1) (by omega) (by omega)
      have hi : before + 1 + (i - 1) = before + i := by omega
      rwa [hi] at hearlier

theorem Poll.eq_none_of_forall_lt {poll : Poll} {before last : Nat}
    (h : ∀ n why, poll.StopsAfter before n why → last < n) :
    ∀ i, 0 < i → i ≤ last → poll (before + i) = none := by
  intro i
  induction i using Nat.strongRecOn with
  | ind i ih =>
      intro hpos hle
      cases hanswer : poll (before + i) with
      | none => rfl
      | some why =>
          have hfirst : poll.StopsAfter before i why :=
            ⟨hpos, hanswer, fun j hj hlt => ih j hlt hj (by omega)⟩
          have hlt := h i why hfirst
          omega

theorem Number.divides_int {k : Nat} (hk : 0 < k) (count : Nat) :
    (Number.int k).divides count = decide (k ∣ count) := by
  have hne : k ≠ 0 := by omega
  have hden : (((count : Int) : Rat) / ((k : Int) : Rat)).den = 1 ↔ (k : Int) ∣ (count : Int) :=
    Rat.den_div_intCast_eq_one_iff (count : Int) (k : Int) (by exact_mod_cast hne)
  have hnonzero : (((k : Int) : Rat) != 0) = true := by
    simpa using hne
  rw [Bool.eq_iff_iff, decide_eq_true_iff]
  simp only [divides, value?, hnonzero, Bool.true_and, beq_iff_eq]
  rw [hden, Int.natCast_dvd_natCast]

namespace Plan

variable {p : Plan} {k : Nat} {poll : Poll} {frame : Frame} {s t : WalkState}

/-! ## One round -/

theorem found_polled_eq_none {before after : WalkState} :
    found (some poll) before after = none ↔
      after.checks = before.checks ∨ poll after.checks = none := by
  unfold found
  by_cases hsame : after.checks = before.checks
  · simp [hsame]
  · simp [hsame]

theorem found_polled_eq_some {before after : WalkState} {why : Interruption} :
    found (some poll) before after = some why ↔
      after.checks ≠ before.checks ∧ poll after.checks = some why := by
  unfold found
  by_cases hsame : after.checks = before.checks
  · simp [hsame]
  · simp [hsame]

theorem visited_count (interval : Number) (poll : Option Poll) (frame : Frame) (s : WalkState) :
    (count interval poll frame s).visited = s.visited + frame.visits := by
  cases frame <;> rfl

theorem checks_count (hk : 0 < k) (poll : Poll) (frame : Frame) (s : WalkState) :
    (count (.int k) (some poll) frame s).checks + s.visited / k =
      s.checks + (s.visited + frame.visits) / k := by
  cases frame with
  | leave n =>
      rfl
  | visit n =>
      have hdiv : (s.visited + 1) / k = s.visited / k + if k ∣ s.visited + 1 then 1 else 0 :=
        Nat.succ_div
      simp only [count, Frame.visits, Number.divides_int hk, Option.isSome_some, Bool.true_and,
        decide_eq_true_eq]
      by_cases hdue : k ∣ s.visited + 1
      · rw [if_pos hdue] at hdiv ⊢
        omega
      · rw [if_neg hdue] at hdiv ⊢
        omega

theorem visited_div_le (hk : 0 < k) (visited : Nat) (frame : Frame) :
    (visited + frame.visits) / k ≤ visited / k + 1 := by
  have hvisits : visited + frame.visits ≤ visited + k := by
    cases frame with
    | visit n => simp only [Frame.visits]; omega
    | leave n => simp only [Frame.visits]; omega
  calc (visited + frame.visits) / k ≤ (visited + k) / k := Nat.div_le_div_right hvisits
    _ = visited / k + 1 := Nat.add_div_right visited hk

/-- Between two rounds of a walk that was started after some checks: the visits made and those left
are those of the tree, there was one check for every `k` visits, and all checks passed. -/
structure Paced (p : Plan) (k total before : Nat) (poll : Poll) (s : WalkState) : Prop where
  visits : s.visited + visitsLeft p.table s.work = total
  checks : s.checks = before + s.visited / k
  passed : ∀ i, 0 < i → i ≤ s.visited / k → poll (before + i) = none

namespace Paced

variable {total before : Nat}

theorem start (p : Plan) (k before : Nat) (poll : Poll) (tree : SyntaxNode) :
    p.Paced k (p.table.visitCount tree) before poll (p.start tree before) where
  visits := by simp [Plan.start, Frame.visitsLeft]
  checks := by simp [Plan.start]
  passed := by
    intro i hpos hle
    simp [Plan.start] at hle
    omega

theorem checks_counted (hk : 0 < k) (h : p.Paced k total before poll s) (frame : Frame)
    (rest : List Frame) :
    (count (.int k) (some poll) frame { s with work := rest }).checks =
      before + (s.visited + frame.visits) / k := by
  have hcount := checks_count hk poll frame { s with work := rest }
  have hchecks := h.checks
  simp only at hcount
  omega

/-- A check that a round makes is the next one after those made so far. -/
theorem checks_of_ne (hk : 0 < k) (h : p.Paced k total before poll s) {rest : List Frame}
    (hmade : (count (.int k) (some poll) frame { s with work := rest }).checks ≠ s.checks) :
    (s.visited + frame.visits) / k = s.visited / k + 1 := by
  have hcounted := h.checks_counted hk frame rest
  have hchecks := h.checks
  have hmost := visited_div_le hk s.visited frame
  have hleast : s.visited / k ≤ (s.visited + frame.visits) / k :=
    Nat.div_le_div_right (Nat.le_add_right _ _)
  omega

theorem of_advance (htable : p.table.IsAccepted) (hk : 0 < k)
    (hnext : p.advance (.int k) (some poll) s = some t) (h : p.Paced k total before poll s) :
    p.Paced k total before poll t := by
  rcases of_advance_eq_some hnext with ⟨frame, rest, hwork, hfound, hstep⟩
  have hsteps := StepsTo.of_step hstep
  have hvisited : t.visited = s.visited + frame.visits :=
    hsteps.visited_eq.trans (visited_count _ _ frame { s with work := rest })
  have hcounted := h.checks_counted hk frame rest
  refine ⟨?_, ?_, ?_⟩
  · have hleft := hsteps.visitsLeft htable
    rw [work_count] at hleft
    have hold := h.visits
    rw [hwork, visitsLeft_cons] at hold
    simp only at hleft
    omega
  · rw [hsteps.checks_eq, hvisited, hcounted]
  · intro i hpos hle
    rw [hvisited] at hle
    -- Either this round made no check, or it made the next one and that passed.
    rcases found_polled_eq_none.1 hfound with hsame | hpass
    · have hchecks := h.checks
      exact h.passed i hpos (by omega)
    · by_cases hseen : i ≤ s.visited / k
      · exact h.passed i hpos hseen
      · have hmost := visited_div_le hk s.visited frame
        have hi : i = (s.visited + frame.visits) / k := by omega
        rwa [hcounted, ← hi] at hpass

theorem of_reaches (htable : p.table.IsAccepted) (hk : 0 < k)
    (hreach : p.Reaches (.int k) (some poll) s t) (h : p.Paced k total before poll s) :
    p.Paced k total before poll t := by
  induction hreach with
  | refl => exact h
  | tail _ hnext ih => exact of_advance htable hk hnext ih

end Paced

/-! ## Walks -/

/-- A walk that starts after some checks is stopped by the first check that finds a reason to, if it
makes that check; otherwise it finishes with one check for every `k` visits. -/
theorem run_polled (htable : p.table.IsAccepted) (hk : 0 < k) (tree : SyntaxNode) (before : Nat)
    (poll : Poll) :
    (∃ t, p.run (.int k) (some poll) (p.start tree before) = (t, .finished) ∧
      t.checks = before + p.table.visitCount tree / k ∧
      ∀ i, 0 < i → i ≤ p.table.visitCount tree / k → poll (before + i) = none) ∨
    ∃ t n why, p.run (.int k) (some poll) (p.start tree before) = (t, .interrupted why) ∧
      t.checks = before + n ∧ n ≤ p.table.visitCount tree / k ∧ poll.StopsAfter before n why := by
  rcases exists_last_round p (.int k) (some poll) (p.start tree before) with
    ⟨s, hreach, hlast, hrun⟩
  have hfits := Encloses.of_reaches hreach (Encloses.start p tree before)
  have hpaced := Paced.of_reaches htable hk hreach (Paced.start p k before poll tree)
  rcases run_of_last_round hlast hfits with ⟨hwork, hend⟩ | ⟨frame, rest, why, hwork, hfound, hend⟩
  · left
    have hall : s.visited = p.table.visitCount tree := by
      simpa [hwork] using hpaced.visits
    rw [← hall]
    exact ⟨s, hrun.trans hend, hpaced.checks, hpaced.passed⟩
  · right
    rcases found_polled_eq_some.1 hfound with ⟨hmade, hstops⟩
    have hcounted := hpaced.checks_counted hk frame rest
    have hnext := hpaced.checks_of_ne hk hmade
    -- Only a visit is counted, and the node visited is one of those that were left.
    have hvisits : s.visited + frame.visits ≤ p.table.visitCount tree := by
      have hleft := hpaced.visits
      rw [hwork, visitsLeft_cons] at hleft
      have hframe := frame.visits_le p.table
      omega
    have hmost : (s.visited + frame.visits) / k ≤ p.table.visitCount tree / k :=
      Nat.div_le_div_right hvisits
    rw [hnext] at hcounted hmost
    refine ⟨_, s.visited / k + 1, why, hrun.trans hend, hcounted, hmost, Nat.succ_pos _, ?_, ?_⟩
    · rw [← hcounted]
      exact hstops
    · intro i hpos hlt
      exact hpaced.passed i hpos (by omega)

end Plan

/-! ## Files -/

namespace TableChunker

variable {tools : Toolchain} {c : TableChunker} {file : SourceFile} {s : Session} {k : Nat}
variable {poll : Poll}

theorem exists_outcome_chunk_polled {tree : SyntaxNode} (hblank : file.content.isBlank = false)
    (hparses : s.engine.Parses tools c.table.grammar file.content tree)
    (hpass : poll (s.checks + 1) = none) {t : WalkState} {halt : Halt}
    (hrun : (c.plan file).run c.interval (some poll) ((c.plan file).start tree (s.checks + 1)) =
      (t, halt)) :
    ∃ s', s'.checks = t.checks ∧
      (c.chunk tools file (some poll)).outcome s =
        match halt with
        | .finished => (.ok (c.outline file tree), s')
        | .interrupted why => (.error (.interrupted why), s')
        | .emptyStack => (.error (.fault .emptyStack), s') := by
  have hparses' : ({ s with checks := s.checks + 1 } : Session).engine.Parses tools
      c.table.grammar file.content tree := hparses
  rw [chunk_eq_outlining, Call.outcome_outlining_passed hpass,
    Call.outcome_outlining hblank hparses']
  exact outcome_outlineTree hrun

theorem outcome_chunk_stopped {tree : SyntaxNode} (htable : c.table.IsAccepted) (hk : 0 < k)
    (hinterval : c.interval = .int k) (hblank : file.content.isBlank = false)
    (hparses : s.engine.Parses tools c.table.grammar file.content tree) {n : Nat}
    {why : Interruption} (hfirst : poll.StopsAfter s.checks n why)
    (hmade : n ≤ 1 + c.table.visitCount tree / k) :
    ∃ s', (c.chunk tools file (some poll)).outcome s = (.error (.interrupted why), s') ∧
      s'.checks = s.checks + n ∧ (n = 1 → s'.parses = s.parses) := by
  by_cases hone : n = 1
  · subst hone
    refine ⟨{ s with checks := s.checks + 1 }, ?_, rfl, fun _ => rfl⟩
    rw [chunk_eq_outlining, Call.outcome_outlining_stopped hfirst.stops]
  · have hpos := hfirst.pos
    have hpass : poll (s.checks + 1) = none :=
      hfirst.passes 1 Nat.one_pos (by omega)
    have hwalk := (c.plan file).run_polled htable hk tree (s.checks + 1) poll
    rw [table_plan] at hwalk
    rcases hwalk with ⟨t, hrun, _, hpassed⟩ | ⟨t, m, why', hrun, hchecks, _, hstops⟩
    · -- A walk that finishes made the check that stops, so this cannot be.
      exfalso
      have hnone := hpassed (n - 1) (by omega) (by omega)
      have hn : s.checks + 1 + (n - 1) = s.checks + n := by omega
      rw [hn, hfirst.stops] at hnone
      cases hnone
    · rcases hfirst.unique (hstops.succ hpass) with ⟨rfl, rfl⟩
      rw [← hinterval] at hrun
      rcases exists_outcome_chunk_polled hblank hparses hpass hrun with ⟨s', hs', hout⟩
      refine ⟨s', hout, by omega, fun h => absurd h hone⟩

theorem outcome_chunk_passed {tree : SyntaxNode} (htable : c.table.IsAccepted) (hk : 0 < k)
    (hinterval : c.interval = .int k) (hblank : file.content.isBlank = false)
    (hparses : s.engine.Parses tools c.table.grammar file.content tree)
    (hnone : ∀ n why, poll.StopsAfter s.checks n why → 1 + c.table.visitCount tree / k < n) :
    ∃ o s', (c.chunk tools file (some poll)).outcome s = (.ok o, s') ∧
      s'.checks = s.checks + (1 + c.table.visitCount tree / k) ∧
      ((c.chunk tools file none).outcome s).1 = .ok o := by
  have hpass : poll (s.checks + 1) = none :=
    Poll.eq_none_of_forall_lt hnone 1 Nat.one_pos (Nat.le_add_right 1 _)
  have hwalk := (c.plan file).run_polled htable hk tree (s.checks + 1) poll
  rw [table_plan] at hwalk
  rcases hwalk with ⟨t, hrun, hchecks, _⟩ | ⟨t, m, why, _, _, hmade, hstops⟩
  · rw [← hinterval] at hrun
    rcases exists_outcome_chunk_polled hblank hparses hpass hrun with ⟨s', hs', hout⟩
    refine ⟨c.outline file tree, s', hout, by omega, ?_⟩
    rw [outcome_chunk hblank hparses]
  · exfalso
    have hlate := hnone _ _ (hstops.succ hpass)
    omega

theorem outcome_chunk_blank (hblank : file.content.isBlank = true) :
    (c.chunk tools file (some poll)).outcome s =
      (match poll (s.checks + 1) with
        | some why => .error (.interrupted why)
        | none => .ok { file },
      { s with checks := s.checks + 1 }) := by
  rw [chunk_eq_outlining]
  cases hanswer : poll (s.checks + 1) with
  | some why => exact Call.outcome_outlining_stopped hanswer
  | none =>
      rw [Call.outcome_outlining_passed hanswer]
      exact Call.outcome_outlining_blank hblank _

/-- A call with a poll makes one check at its start and one at every `k`-th node that a full walk
visits.  If one of them is a reason to stop, the call fails with the first such reason right after
that check; at the first check of all, nothing has been parsed.  If none is, the call gives what it
gives without a poll.  For a blank file only the first check is made, and nothing is parsed. -/
theorem outcome_chunk_polled (htable : c.table.IsAccepted) (hk : 0 < k)
    (hinterval : c.interval = .int k) :
    (∀ tree, file.content.isBlank = false →
      s.engine.Parses tools c.table.grammar file.content tree →
        (∀ n why, poll.StopsAfter s.checks n why → n ≤ 1 + c.table.visitCount tree / k →
          ∃ s', (c.chunk tools file (some poll)).outcome s = (.error (.interrupted why), s') ∧
            s'.checks = s.checks + n ∧ (n = 1 → s'.parses = s.parses)) ∧
        ((∀ n why, poll.StopsAfter s.checks n why → 1 + c.table.visitCount tree / k < n) →
          ∃ o s', (c.chunk tools file (some poll)).outcome s = (.ok o, s') ∧
            s'.checks = s.checks + (1 + c.table.visitCount tree / k) ∧
            ((c.chunk tools file none).outcome s).1 = .ok o)) ∧
    (file.content.isBlank = true →
      (c.chunk tools file (some poll)).outcome s =
        (match poll (s.checks + 1) with
          | some why => .error (.interrupted why)
          | none => .ok { file },
        { s with checks := s.checks + 1 })) := by
  refine ⟨?_, outcome_chunk_blank⟩
  intro tree hblank hparses
  refine ⟨?_, outcome_chunk_passed htable hk hinterval hblank hparses⟩
  intro n why hfirst hmade
  exact outcome_chunk_stopped htable hk hinterval hblank hparses hfirst hmade

end TableChunker

/-! ## A walk of five visits -/

namespace TableChunker

/-- A chunker that checks at every second visit. -/
def checkingOften : TableChunker := { table := .python, interval := .int 2 }

open NestedClass in
/-- A full walk visits five nodes of the tree, so there are three checks in all. -/
theorem outcome_chunk_polled_nestedClass :
    checkingOften.table.IsAccepted ∧ file.content.isBlank = false ∧
      ({} : Engine).Parses (.answering tree) checkingOften.table.grammar file.content tree ∧
      checkingOften.table.visitCount tree = 5 ∧
      (∃ s', (checkingOften.chunk (.answering tree) file
          (some (.stoppingAt 3 .cancelled))).outcome {} = (.error (.interrupted .cancelled), s') ∧
        s'.checks = 3) ∧
      (∃ s', (checkingOften.chunk (.answering tree) file
          (some (.stoppingAt 1 (.deadlineExceeded none)))).outcome {} =
            (.error (.interrupted (.deadlineExceeded none)), s') ∧
        s'.checks = 1 ∧ s'.parses = []) ∧
      (∃ o s', (checkingOften.chunk (.answering tree) file
          (some (.stoppingAt 4 .cancelled))).outcome {} = (.ok o, s') ∧ s'.checks = 3 ∧
        ((checkingOften.chunk (.answering tree) file none).outcome {}).1 = .ok o) ∧
      blankFile.content.isBlank = true ∧
      (checkingOften.chunk (.answering tree) blankFile (some (.stoppingAt 2 .cancelled))).outcome
        {} = (.ok { file := blankFile }, { checks := 1 }) := by
  have htable : checkingOften.table.IsAccepted :=
    LanguageTable.isAccepted_of_mem_packaged (t := .python) (by decide)
  have hparses := Engine.parses_answering checkingOften.table.grammar file.content tree
  have hblank : blankFile.content.isBlank = true := by decide
  have hvisits : checkingOften.table.visitCount tree = 5 := by decide +kernel
  have hcalls := fun (file : SourceFile) (poll : Poll) =>
    @outcome_chunk_polled (.answering tree) checkingOften file {} 2 poll htable (by decide) rfl
  have hthird := ((hcalls file (.stoppingAt 3 .cancelled)).1 tree content_not_blank hparses).1 3
    .cancelled (Poll.stopsAfter_stoppingAt (by decide) _) (by omega)
  have hfirst := ((hcalls file (.stoppingAt 1 (.deadlineExceeded none))).1 tree content_not_blank
    hparses).1 1 (.deadlineExceeded none) (Poll.stopsAfter_stoppingAt (by decide) _)
      (by omega)
  have hnever := ((hcalls file (.stoppingAt 4 .cancelled)).1 tree content_not_blank hparses).2
    (by
      intro n why hstops
      rcases hstops.unique (Poll.stopsAfter_stoppingAt (by decide) .cancelled) with ⟨rfl, _⟩
      omega)
  rw [hvisits] at hnever
  rcases hthird with ⟨s₁, hout₁, hchecks₁, _⟩
  rcases hfirst with ⟨s₂, hout₂, hchecks₂, hunparsed⟩
  exact ⟨htable, content_not_blank, hparses, hvisits, ⟨s₁, hout₁, hchecks₁⟩,
    ⟨s₂, hout₂, hchecks₂, hunparsed rfl⟩, hnever, hblank,
    (hcalls blankFile (.stoppingAt 2 .cancelled)).2 hblank⟩

end TableChunker

end SourceOutline
