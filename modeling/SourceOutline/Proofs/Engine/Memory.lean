import Mathlib.Data.List.Nodup
import Mathlib.Tactic.Tauto
import SourceOutline.Proofs.Session.Outcome

/-!
# Memory — what an engine remembers of grammars

An engine remembers the answer to its first request for a grammar, under the lower-case name of the
grammar: that it loaded, or why it was refused.  Every call of an engine begins with a load, so what
a call comes to can be said in terms of that answer.
-/

namespace SourceOutline

theorem lookup_eq_none_iff_notMem {α : Type} {key : String} {entries : List (String × α)} :
    entries.lookup key = none ↔ key ∉ entries.map Prod.fst := by
  rw [List.lookup_eq_none_iff]
  simp only [bne_iff_ne, List.mem_map, not_exists, not_and]
  constructor
  · intro h entry hentry heq
    exact h entry hentry heq.symm
  · intro h entry hentry heq
    exact h entry hentry heq.symm

namespace Engine

variable {tools : Toolchain} {e : Engine} {language key : String}

/-! ## Answers -/

/-- What is remembered of a grammar that was asked for: no refusal, or the reason for one. -/
def remembered? (e : Engine) (key : String) : Option (Option String) :=
  if e.loaded.contains key then some none else (e.refused.lookup key).map some

/-- Why an engine refuses a grammar, if it does: what is remembered decides, and what is installed
only if nothing is remembered. -/
def refusal? (tools : Toolchain) (e : Engine) (key : String) : Option String :=
  (e.remembered? key).getD (tools.refusal? key)

def loading (language : String) : Option String → Except Failure String
  | none => .ok (lowerCase language)
  | some reason => .error (.unsupportedLanguage language reason)

def learn (e : Engine) (key : String) : Option String → Engine
  | none => { e with loaded := e.loaded ++ [key], requests := e.requests ++ [key] }
  | some reason =>
    { e with refused := e.refused ++ [(key, reason)], requests := e.requests ++ [key] }

theorem remembered?_of_mem_loaded (h : key ∈ e.loaded) : e.remembered? key = some none := by
  simp [remembered?, h]

theorem remembered?_of_notMem_loaded (h : key ∉ e.loaded) :
    e.remembered? key = (e.refused.lookup key).map some := by
  simp [remembered?, h]

theorem mem_loaded_iff : key ∈ e.loaded ↔ e.remembered? key = some none := by
  constructor
  · exact remembered?_of_mem_loaded
  · intro h
    by_contra hmem
    rw [remembered?_of_notMem_loaded hmem] at h
    simp at h

theorem remembered?_eq_none_iff :
    e.remembered? key = none ↔ key ∉ e.loaded ∧ key ∉ e.refused.map Prod.fst := by
  by_cases hmem : key ∈ e.loaded
  · simp [remembered?_of_mem_loaded hmem, hmem]
  · rw [remembered?_of_notMem_loaded hmem, Option.map_eq_none_iff, lookup_eq_none_iff_notMem]
    simp only [hmem, not_false_eq_true, true_and]

/-! ## Loads -/

theorem load_of_remembered {answer : Option String}
    (h : e.remembered? (lowerCase language) = some answer) :
    e.load tools language = (loading language answer, e, []) := by
  unfold remembered? at h
  unfold load
  dsimp only
  by_cases hloaded : e.loaded.contains (lowerCase language) = true
  · rw [if_pos hloaded] at h ⊢
    cases h
    rfl
  · rw [if_neg hloaded] at h ⊢
    rcases Option.map_eq_some_iff.1 h with ⟨reason, hreason, rfl⟩
    rw [hreason]
    rfl

theorem load_of_new (h : e.remembered? (lowerCase language) = none) :
    (e.load tools language).1 = loading language (tools.refusal? (lowerCase language)) ∧
      (e.load tools language).2.1 =
        e.learn (lowerCase language) (tools.refusal? (lowerCase language)) := by
  rcases remembered?_eq_none_iff.1 h with ⟨hloaded, hrefused⟩
  have hlookup : e.refused.lookup (lowerCase language) = none :=
    lookup_eq_none_iff_notMem.2 hrefused
  unfold load
  simp only [List.contains_iff_mem, hloaded, if_false, hlookup]
  cases tools.refusal? (lowerCase language) with
  | none => exact ⟨rfl, rfl⟩
  | some reason => exact ⟨rfl, rfl⟩

theorem load_fst (tools : Toolchain) (e : Engine) (language : String) :
    (e.load tools language).1 = loading language (e.refusal? tools (lowerCase language)) := by
  unfold refusal?
  cases h : e.remembered? (lowerCase language) with
  | none => exact (load_of_new h).1
  | some answer => rw [load_of_remembered h]; rfl

theorem remembered?_learn (h : e.remembered? key = none) (answer : Option String)
    (other : String) :
    (e.learn key answer).remembered? other =
      if other = key then some answer else e.remembered? other := by
  rcases remembered?_eq_none_iff.1 h with ⟨hloaded, hrefused⟩
  -- What is new stands at the end of a list that did not have it, so what stood there comes first.
  cases answer with
  | none =>
      by_cases heq : other = key
      · subst heq
        simp [learn, remembered?]
      · simp [learn, remembered?, heq]
  | some reason =>
      by_cases heq : other = key
      · subst heq
        have hlookup : e.refused.lookup other = none := lookup_eq_none_iff_notMem.2 hrefused
        simp [learn, remembered?, hloaded, List.lookup_append, hlookup]
      · have hne : (other == key) = false := beq_eq_false_iff_ne.2 heq
        simp [learn, remembered?, heq, List.lookup_append, List.lookup_cons, hne]

/-- A load remembers the answer that it got, and every other answer stays. -/
theorem remembered?_load (tools : Toolchain) (e : Engine) (language key : String) :
    (e.load tools language).2.1.remembered? key =
      if key = lowerCase language then some (e.refusal? tools key) else e.remembered? key := by
  unfold refusal?
  cases h : e.remembered? (lowerCase language) with
  | none =>
      rw [(load_of_new h).2, remembered?_learn h]
      by_cases heq : key = lowerCase language
      · rw [if_pos heq, if_pos heq, heq, h]
        rfl
      · rw [if_neg heq, if_neg heq]
  | some answer =>
      rw [load_of_remembered h]
      by_cases heq : key = lowerCase language
      · rw [if_pos heq, heq, h]
        rfl
      · rw [if_neg heq]

/-- With the same grammars installed, a load changes no answer. -/
theorem refusal?_load (tools : Toolchain) (e : Engine) (language key : String) :
    (e.load tools language).2.1.refusal? tools key = e.refusal? tools key := by
  rw [refusal?, remembered?_load]
  by_cases heq : key = lowerCase language
  · rw [if_pos heq]
    rfl
  · rw [if_neg heq]
    rfl

/-! ## Requests -/

structure IsSettled (e : Engine) : Prop where
  nodup : e.requests.Nodup
  perm : e.requests.Perm (e.loaded ++ e.refused.map Prod.fst)

namespace IsSettled

theorem start : IsSettled {} :=
  ⟨List.nodup_nil, List.Perm.nil⟩

theorem mem_requests_iff (h : e.IsSettled) :
    key ∈ e.requests ↔ (e.remembered? key).isSome = true := by
  rw [h.perm.mem_iff, List.mem_append, Option.isSome_iff_ne_none, ne_eq, remembered?_eq_none_iff]
  tauto

theorem nodup_append (h : e.IsSettled) : (e.loaded ++ e.refused.map Prod.fst).Nodup :=
  h.perm.nodup_iff.1 h.nodup

theorem learn (h : e.IsSettled) (hnew : e.remembered? key = none) (answer : Option String) :
    (e.learn key answer).IsSettled := by
  have hkey : key ∉ e.requests := by
    rw [h.mem_requests_iff, hnew]
    simp
  have hnodup : (e.requests ++ [key]).Nodup := by
    rw [List.nodup_append]
    refine ⟨h.nodup, List.nodup_singleton key, ?_⟩
    intro a ha b hb heq
    rw [heq, List.mem_singleton.1 hb] at ha
    exact hkey ha
  cases answer with
  | none =>
      refine ⟨hnodup, ?_⟩
      -- The new name stands in the middle, between what loaded and what was refused.
      have hmoved : ((e.loaded ++ e.refused.map Prod.fst) ++ [key]).Perm
          ((e.loaded ++ [key]) ++ e.refused.map Prod.fst) := by
        rw [List.append_assoc, List.append_assoc]
        exact List.perm_append_comm.append_left e.loaded
      exact (h.perm.append_right [key]).trans hmoved
  | some reason =>
      refine ⟨hnodup, ?_⟩
      have hperm := h.perm.append_right [key]
      simpa [Engine.learn] using hperm

theorem load (h : e.IsSettled) (tools : Toolchain) (language : String) :
    (e.load tools language).2.1.IsSettled := by
  cases hkey : e.remembered? (lowerCase language) with
  | none =>
      rw [(load_of_new hkey).2]
      exact h.learn hkey _
  | some answer =>
      rw [load_of_remembered hkey]
      exact h

end IsSettled

end Engine

/-! ## Steps of calls -/

def Session.asked (tools : Toolchain) (language : String) (s : Session) : Session :=
  { s with
      engine := (s.engine.load tools language).2.1
      records := s.records ++ (s.engine.load tools language).2.2 }

namespace Call

variable {α : Type}

@[simp] theorem outcome_attempt (t : Call α) (s : Session) :
    outcome (attempt t) s = (.ok (outcome t s).1, (outcome t s).2) :=
  rfl

/-- What a load comes to is decided by why the engine refuses the grammar, if it does. -/
theorem outcome_load_eq (tools : Toolchain) (language : String) (s : Session) :
    outcome (load tools language) s =
      (Engine.loading language (s.engine.refusal? tools (lowerCase language)),
        s.asked tools language) := by
  rw [outcome_load, Engine.load_fst]
  rfl

theorem outcome_supports (tools : Toolchain) (language : String) (s : Session) :
    outcome (supports tools language) s =
      (.ok (s.engine.refusal? tools (lowerCase language)).isNone, s.asked tools language) := by
  rw [supports, outcome_bind, outcome_attempt, outcome_load_eq]
  cases s.engine.refusal? tools (lowerCase language) with
  | none => rfl
  | some reason => rfl

/-- A parse fails as the load does; after a load it gives what the parser answers. -/
theorem outcome_parse_eq (tools : Toolchain) (language : String) (source : Bytes) (s : Session) :
    outcome (parse tools language source) s =
      match s.engine.refusal? tools (lowerCase language) with
      | some reason => (.error (.unsupportedLanguage language reason), s.asked tools language)
      | none =>
        ((tools.parse (lowerCase language) source).result language, s.parsed tools language) := by
  rw [parse, outcome_bind, outcome_load_eq]
  cases s.engine.refusal? tools (lowerCase language) with
  | some reason => rfl
  | none =>
      simp only [Engine.loading]
      rw [outcome_bind, outcome_modify]
      simp only
      cases (tools.parse (lowerCase language) source).result language with
      | ok root => rfl
      | error why => rfl

end Call

end SourceOutline
