import Mathlib.Tactic.Tauto
import SourceOutline.LanguageTable.Packaged
import SourceOutline.Proofs.Text.LowerCase

/-!
# Acceptance — what is known of a table that was accepted

* `WrittenTable.faults_eq_nil_iff` — which tables have no fault;
* `LanguageTable.isAccepted_of_mem_packaged` — the packaged tables are accepted.
-/

namespace SourceOutline

/-! ## Sorted lists without repetitions -/

theorem mem_eraseReps_loop {α : Type} [BEq α] [LawfulBEq α] {x a : α} {rest done : List α} :
    x ∈ List.eraseRepsBy.loop (· == ·) a rest done ↔ x = a ∨ x ∈ rest ∨ x ∈ done := by
  induction rest generalizing a done with
  | nil =>
      rw [List.eraseRepsBy.loop, List.mem_reverse, List.mem_cons]
      simp
  | cons b rest ih =>
      rw [List.eraseRepsBy.loop]
      by_cases hab : a = b
      · subst hab
        simp only [beq_self_eq_true, ih, List.mem_cons]
        tauto
      · simp only [beq_eq_false_iff_ne.2 hab, ih, List.mem_cons]
        tauto

theorem mem_eraseReps {α : Type} [BEq α] [LawfulBEq α] {x : α} {items : List α} :
    x ∈ items.eraseReps ↔ x ∈ items := by
  cases items with
  | nil =>
      rfl
  | cons a rest =>
      rw [List.eraseReps, List.eraseRepsBy, mem_eraseReps_loop]
      simp

theorem mem_sortedUnique {α : Type} [LT α] [DecidableLT α] [BEq α] [LawfulBEq α] {x : α}
    {items : List α} : x ∈ sortedUnique items ↔ x ∈ items := by
  rw [sortedUnique, mem_eraseReps, List.mem_mergeSort]

theorem pairwise_eraseReps_loop {a : String} {rest done : List String}
    (hdone : (a :: done).Pairwise fun x y => y < x) (hrest : (a :: rest).Pairwise (· ≤ ·)) :
    (List.eraseRepsBy.loop (· == ·) a rest done).Pairwise (· < ·) := by
  induction rest generalizing a done with
  | nil =>
      rw [List.eraseRepsBy.loop, List.pairwise_reverse]
      exact hdone
  | cons b rest ih =>
      rw [List.eraseRepsBy.loop]
      rcases List.pairwise_cons.1 hrest with ⟨hle, hrest'⟩
      by_cases hab : a = b
      · subst hab
        simp only [beq_self_eq_true]
        exact ih hdone hrest'
      · simp only [beq_eq_false_iff_ne.2 hab]
        -- The next item is above the last one, and so above all that were kept before.
        have hlt : a < b :=
          String.not_le.1 fun hba => hab (String.le_antisymm (hle b List.mem_cons_self) hba)
        refine ih (List.pairwise_cons.2 ⟨?_, hdone⟩) hrest'
        intro c hc
        rcases List.mem_cons.1 hc with rfl | hc
        · exact hlt
        · exact String.lt_trans ((List.pairwise_cons.1 hdone).1 c hc) hlt

theorem pairwise_sortedUnique (items : List String) :
    (sortedUnique items).Pairwise (· < ·) := by
  have hsorted : (items.mergeSort fun a b => !(b < a)).Pairwise (· ≤ ·) := by
    refine (List.pairwise_mergeSort ?_ ?_ items).imp ?_
    · intro a b c hab hbc
      simp only [Bool.not_eq_true', decide_eq_false_iff_not, String.not_lt] at hab hbc ⊢
      exact String.le_trans hab hbc
    · intro a b
      simp only [Bool.or_eq_true, Bool.not_eq_true', decide_eq_false_iff_not, String.not_lt]
      exact String.le_total a b
    · intro a b hab
      simpa only [Bool.not_eq_true', decide_eq_false_iff_not, String.not_lt] using hab
  unfold sortedUnique
  cases hitems : items.mergeSort fun a b => !(b < a) with
  | nil =>
      exact List.Pairwise.nil
  | cons a rest =>
      rw [hitems] at hsorted
      exact pairwise_eraseReps_loop (List.pairwise_singleton _ a) hsorted

/-! ## Accepted tables -/

theorem eq_ok_of_toOption {ε α : Type} {outcome : Except ε α} {a : α}
    (h : outcome.toOption = some a) : outcome = .ok a := by
  cases outcome with
  | error e =>
      cases h
  | ok b =>
      cases h
      rfl

namespace WrittenTable

/-- What acceptance asks of a table that was put together from parts: the language and the grammar
are strings and not empty, there are extensions and all begin with a dot, there are node types, and
none of them stands for classes and for methods at once. -/
structure IsSound (t : WrittenTable) : Prop where
  language : t.language ≠ [] ∧ t.language.any CodePoint.isSurrogate = false
  extensions : t.extensions ≠ [] ∧ ∀ ext ∈ t.extensions, ext.head? = some (.ofChar '.')
  grammar : t.grammar ≠ [] ∧ t.grammar.any CodePoint.isSurrogate = false
  types : t.classTypes ≠ [] ∨ t.methodTypes ≠ []
  apart : ∀ type ∈ t.classTypes, type ∉ t.methodTypes

theorem textFaults_eq_nil_iff {location : String} {t : Text} :
    textFaults location t = [] ↔ t ≠ [] ∧ t.any CodePoint.isSurrogate = false := by
  unfold textFaults faultIf
  cases t.any CodePoint.isSurrogate with
  | true => simp
  | false => simp

theorem extensionFaults_eq_nil_iff {extensions : List Text} :
    extensionFaults extensions = [] ↔
      extensions ≠ [] ∧ ∀ ext ∈ extensions, ext.head? = some (.ofChar '.') := by
  unfold extensionFaults
  split
  · simp_all
  · next hne =>
    rw [List.isEmpty_iff] at hne
    split
    · next ext hfind =>
      have hmem := List.mem_of_find?_eq_some hfind
      have hplain := List.find?_some hfind
      simp only [isDotted, Bool.not_eq_true', beq_eq_false_iff_ne] at hplain
      constructor
      · intro h
        cases h
      · rintro ⟨-, hall⟩
        exact absurd (hall ext hmem) hplain
    · next hfind =>
      simp only [true_iff]
      refine ⟨hne, fun ext hext => ?_⟩
      simpa [isDotted] using List.find?_eq_none.1 hfind ext hext

theorem sharedTypes_eq_nil_iff {t : WrittenTable} :
    t.sharedTypes = [] ↔ ∀ type ∈ t.classTypes, type ∉ t.methodTypes := by
  simp only [List.eq_nil_iff_forall_not_mem, sharedTypes, mem_sortedUnique, List.mem_filter,
    List.contains_iff_mem, not_and]

theorem typeFaults_eq_nil_iff {t : WrittenTable} :
    t.typeFaults = [] ↔
      (t.classTypes ≠ [] ∨ t.methodTypes ≠ []) ∧ ∀ type ∈ t.classTypes, type ∉ t.methodTypes := by
  unfold typeFaults faultIf
  rw [← sharedTypes_eq_nil_iff]
  split
  · simp_all
  · split
    · simp_all
    · simp_all
      tauto

theorem faults_eq_nil_iff {t : WrittenTable} : t.faults = [] ↔ t.IsSound := by
  have hparts : t.partFaults = [] ↔ textFaults "language" t.language = [] ∧
      extensionFaults t.extensions = [] ∧ textFaults "grammar" t.grammar = [] := by
    simp only [partFaults, List.append_eq_nil_iff, and_assoc]
  rw [textFaults_eq_nil_iff, extensionFaults_eq_nil_iff, textFaults_eq_nil_iff] at hparts
  simp only [faults, List.isEmpty_iff]
  constructor
  · intro h
    -- The node types are looked at only if the single parts are right.
    split at h
    · next hnil =>
      obtain ⟨hlanguage, hextensions, hgrammar⟩ := hparts.1 hnil
      obtain ⟨htypes, hapart⟩ := typeFaults_eq_nil_iff.1 h
      exact ⟨hlanguage, hextensions, hgrammar, htypes, hapart⟩
    · next hnil => exact absurd h hnil
  · intro h
    rw [if_pos (hparts.2 ⟨h.language, h.extensions, h.grammar⟩)]
    exact typeFaults_eq_nil_iff.2 ⟨h.types, h.apart⟩

theorem accept_eq_ok_iff {parts t : WrittenTable} :
    parts.accept = .ok t ↔ parts.IsSound ∧ t = parts.normal := by
  simp only [← faults_eq_nil_iff, accept, List.isEmpty_iff]
  split
  · next hnil => simp [hnil, eq_comm]
  · next hnil => simp [hnil]

end WrittenTable

namespace LanguageTable

def IsAccepted (t : LanguageTable) : Prop :=
  ∃ parts : LanguageTable, parts.accept = .ok t

theorem faults_eq_nil_of_accept {parts t : LanguageTable} (h : parts.accept = .ok t) :
    parts.faults = [] ∧ t = parts.normal := by
  unfold accept at h
  split at h
  · rename_i hfaults
    cases h
    exact ⟨List.isEmpty_iff.1 hfaults, rfl⟩
  · cases h

theorem IsAccepted.isMethod_eq_false {t : LanguageTable} (h : t.IsAccepted) {type : String}
    (hclass : t.isClass type = true) : t.isMethod type = false := by
  rcases h with ⟨parts, haccept⟩
  rcases faults_eq_nil_of_accept haccept with ⟨hfaults, rfl⟩
  have hsound := WrittenTable.faults_eq_nil_iff.1 hfaults
  cases hmethod : parts.normal.isMethod type with
  | false => rfl
  | true =>
      exact absurd (List.mem_map_of_mem (List.contains_iff_mem.1 hmethod))
        (hsound.apart (Text.ofString type) (List.mem_map_of_mem (List.contains_iff_mem.1 hclass)))

theorem isAccepted_of_toOption_accept {t : LanguageTable} (h : t.accept.toOption = some t) :
    t.IsAccepted :=
  ⟨t, eq_ok_of_toOption h⟩

theorem isAccepted_of_mem_packaged {t : LanguageTable} (h : t ∈ packaged) : t.IsAccepted := by
  have hall : ∀ u ∈ packaged, u.accept.toOption = some u := by decide +kernel
  exact isAccepted_of_toOption_accept (hall t h)

end LanguageTable

end SourceOutline
