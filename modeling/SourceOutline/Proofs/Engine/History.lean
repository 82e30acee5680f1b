import SourceOutline.Proofs.Chunker.Creation
import SourceOutline.Proofs.LanguageTable.Acceptance

/-!
# History — an engine along a sequence of calls

Calls of any kind follow one another on one engine, and what is installed may be different at each
of them.  The first call for a grammar decides for all later ones, in whatever case its name is
written: they get the answer of that call, and no other call asks for the grammar again.

* `engine_repeats_first_answers` — the engine after any calls, and each of these calls;
* `FirstRequest.loaded_after_noTree` — a call that fails in parsing may be the first for its
  grammar.
-/

namespace SourceOutline

/-! ## Calls -/

inductive EngineAction where
  | load
  | supports
  | parse (source : Bytes)

inductive EngineAnswer where
  | grammar (key : String)
  | supported (yes : Bool)
  | tree (root : SyntaxNode)

/-- A call of an engine: for which language, and what is installed at the time. -/
structure EngineCall where
  tools : Toolchain
  language : String
  action : EngineAction

namespace EngineCall

def key (c : EngineCall) : String :=
  lowerCase c.language

def run (c : EngineCall) : Call EngineAnswer :=
  match c.action with
  | .load => do return .grammar (← Call.load c.tools c.language)
  | .supports => do return .supported (← Call.supports c.tools c.language)
  | .parse source => do return .tree (← Call.parse c.tools c.language source)

def answer (c : EngineCall) : Option String → Except Failure EngineAnswer
  | none =>
    match c.action with
    | .load => .ok (.grammar c.key)
    | .supports => .ok (.supported true)
    | .parse source => ((c.tools.parse c.key source).result c.language).map .tree
  | some reason =>
    match c.action with
    | .supports => .ok (.supported false)
    | _ => .error (.unsupportedLanguage c.language reason)

theorem exists_outcome_run (c : EngineCall) (s : Session) :
    ∃ s', c.run.outcome s = (c.answer (s.engine.refusal? c.tools c.key), s') ∧
      s'.engine = (s.engine.load c.tools c.language).2.1 := by
  unfold run answer key
  cases c.action with
  | load =>
      simp only [Call.outcome_bind, Call.outcome_load_eq]
      cases s.engine.refusal? c.tools (lowerCase c.language) with
      | none => exact ⟨_, rfl, rfl⟩
      | some reason => exact ⟨_, rfl, rfl⟩
  | supports =>
      simp only [Call.outcome_bind, Call.outcome_supports]
      cases s.engine.refusal? c.tools (lowerCase c.language) with
      | none => exact ⟨_, rfl, rfl⟩
      | some reason => exact ⟨_, rfl, rfl⟩
  | parse source =>
      simp only [Call.outcome_bind, Call.outcome_parse_eq]
      cases s.engine.refusal? c.tools (lowerCase c.language) with
      | some reason => exact ⟨_, rfl, rfl⟩
      | none =>
          -- The parser may still fail, but it leaves the engine as the load left it.
          cases (c.tools.parse (lowerCase c.language) source).result c.language with
          | ok root => exact ⟨_, rfl, rfl⟩
          | error why => exact ⟨_, rfl, rfl⟩

theorem outcome_run (c : EngineCall) (s : Session) :
    (c.run.outcome s).1 = c.answer (s.engine.refusal? c.tools c.key) := by
  rcases c.exists_outcome_run s with ⟨s', houtcome, _⟩
  rw [houtcome]

theorem engine_run (c : EngineCall) (s : Session) :
    (c.run.outcome s).2.engine = (s.engine.load c.tools c.language).2.1 := by
  rcases c.exists_outcome_run s with ⟨s', houtcome, hengine⟩
  rw [houtcome, hengine]

end EngineCall

/-! ## Sequences of calls -/

def Session.after (calls : List EngineCall) (s : Session) : Session :=
  calls.foldl (fun s c => (c.run.outcome s).2) s

/-- The answer that the first of some calls for a grammar gets. -/
def firstAnswer? (calls : List EngineCall) (key : String) : Option (Option String) :=
  (calls.find? fun c => c.key == key).map fun c => c.tools.refusal? key

theorem firstAnswer?_append (xs ys : List EngineCall) (key : String) :
    firstAnswer? (xs ++ ys) key = (firstAnswer? xs key).or (firstAnswer? ys key) := by
  rw [firstAnswer?, List.find?_append, Option.map_or]
  rfl

theorem firstAnswer?_singleton (c : EngineCall) (key : String) :
    firstAnswer? [c] key = if key = c.key then some (c.tools.refusal? key) else none := by
  by_cases heq : key = c.key
  · simp [firstAnswer?, heq]
  · have hne : (c.key == key) = false := beq_eq_false_iff_ne.2 (Ne.symm heq)
    simp [firstAnswer?, hne, heq]

theorem isSome_firstAnswer?_iff {calls : List EngineCall} {key : String} :
    (firstAnswer? calls key).isSome = true ↔ ∃ c ∈ calls, c.key = key := by
  simp [firstAnswer?, List.find?_isSome]

namespace Session

theorem after_append (xs ys : List EngineCall) (s : Session) :
    after (xs ++ ys) s = after ys (after xs s) :=
  List.foldl_append

theorem remembered?_run (c : EngineCall) (s : Session) (key : String) :
    (c.run.outcome s).2.engine.remembered? key =
      (s.engine.remembered? key).or (firstAnswer? [c] key) := by
  rw [EngineCall.engine_run, Engine.remembered?_load, firstAnswer?_singleton, EngineCall.key]
  unfold Engine.refusal?
  by_cases heq : key = lowerCase c.language
  · rw [if_pos heq, if_pos heq]
    cases s.engine.remembered? key with
    | none => rfl
    | some answer => rfl
  · rw [if_neg heq, if_neg heq, Option.or_none]

theorem remembered?_after (calls : List EngineCall) (s : Session) (key : String) :
    (s.after calls).engine.remembered? key =
      (s.engine.remembered? key).or (firstAnswer? calls key) := by
  induction calls generalizing s with
  | nil =>
      exact Option.or_none.symm
  | cons c calls ih =>
      calc (s.after (c :: calls)).engine.remembered? key
          = ((c.run.outcome s).2.engine.remembered? key).or (firstAnswer? calls key) := ih _
        _ = ((s.engine.remembered? key).or (firstAnswer? [c] key)).or (firstAnswer? calls key) := by
            rw [remembered?_run]
        _ = (s.engine.remembered? key).or (firstAnswer? (c :: calls) key) := by
            rw [Option.or_assoc, ← firstAnswer?_append, List.singleton_append]

theorem mem_loaded_after {s : Session} {key : String} (h : key ∈ s.engine.loaded)
    (calls : List EngineCall) : key ∈ (s.after calls).engine.loaded := by
  rw [Engine.mem_loaded_iff] at h ⊢
  rw [remembered?_after, h]
  rfl

theorem isSettled_after (calls : List EngineCall) {s : Session} (h : s.engine.IsSettled) :
    (s.after calls).engine.IsSettled := by
  induction calls generalizing s with
  | nil =>
      exact h
  | cons c calls ih =>
      refine ih ?_
      rw [EngineCall.engine_run]
      exact h.load c.tools c.language

end Session

/-! ## Repeated answers -/

/-- Made in a session, a call comes to what an answer says.  It adds to the loaded grammars only its
own, and that only if it is the first to ask for it and the answer is no refusal. -/
structure EngineCall.Repeats (c : EngineCall) (s : Session) (answer : Option String) : Prop where
  outcome_eq : (c.run.outcome s).1 = c.answer answer
  loaded_eq : (c.run.outcome s).2.engine.loaded =
    s.engine.loaded ++ if answer = none ∧ c.key ∉ s.engine.requests then [c.key] else []

theorem EngineCall.repeats_refusal? (c : EngineCall) {s : Session} (hs : s.engine.IsSettled) :
    c.Repeats s (s.engine.refusal? c.tools c.key) := by
  refine ⟨c.outcome_run s, ?_⟩
  have hasked : lowerCase c.language ∈ s.engine.requests ↔
      (s.engine.remembered? (lowerCase c.language)).isSome = true := hs.mem_requests_iff
  rw [c.engine_run]
  unfold Engine.refusal? key
  cases h : s.engine.remembered? (lowerCase c.language) with
  | some answer =>
      rw [Engine.load_of_remembered h]
      simp [hasked, h]
  | none =>
      rw [(Engine.load_of_new h).2]
      cases hanswer : c.tools.refusal? (lowerCase c.language) with
      | none => simp [Engine.learn, hasked, h]
      | some reason => simp [Engine.learn]

/-! ## Histories -/

/-- After any calls on a new engine, each grammar was asked for at most once, under its lower-case
name, and that if and only if there was a call for it.  No grammar is both loaded and refused.
The loaded grammars stand in strict order; they are those whose first answer was no refusal, and
none of them is ever lost.  Every call comes to what the first answer for its grammar says,
whatever is installed by then.  No call, whether it fails or not, adds another grammar to the
loaded ones than its own, and it adds that only if it is the first to ask for it and is not
refused.  A chunker that was made after the calls never fails for want of a grammar, whatever is
called in between. -/
theorem engine_repeats_first_answers (calls : List EngineCall) :
    let e := (Session.after calls {}).engine
    (e.requests.Nodup ∧ ∀ key, key ∈ e.requests ↔ ∃ c ∈ calls, c.key = key) ∧
    (∀ key, ¬(key ∈ e.loaded ∧ key ∈ e.refused.map Prod.fst)) ∧
    (e.loadedLanguages.Pairwise (· < ·) ∧
      ∀ key, key ∈ e.loadedLanguages ↔ firstAnswer? calls key = some none) ∧
    (∀ before c after, calls = before ++ c :: after →
      (Session.after before {}).engine.loadedLanguages ⊆ e.loadedLanguages ∧
        ∃ answer, firstAnswer? calls c.key = some answer ∧
          c.Repeats (Session.after before {}) answer) ∧
    (∀ tools table interval chunker s,
      (TableChunker.create (some tools) (some table) interval).outcome (Session.after calls {}) =
          (.ok chunker, s) →
        ∀ later tools' file poll language reason,
          ((chunker.chunk tools' file poll).outcome (s.after later)).1 ≠
            .error (.unsupportedLanguage language reason)) := by
  intro e
  have hsettled : e.IsSettled := Session.isSettled_after calls .start
  have hremembered : ∀ key, e.remembered? key = firstAnswer? calls key := fun key =>
    Session.remembered?_after calls {} key
  refine ⟨⟨hsettled.nodup, ?_⟩, ?_, ⟨pairwise_sortedUnique _, ?_⟩, ?_, ?_⟩
  · intro key
    rw [hsettled.mem_requests_iff, hremembered, isSome_firstAnswer?_iff]
  · rintro key ⟨hloaded, hrefused⟩
    exact (List.nodup_append.1 hsettled.nodup_append).2.2 key hloaded key hrefused rfl
  · intro key
    rw [Engine.loadedLanguages, mem_sortedUnique, Engine.mem_loaded_iff, hremembered]
  · rintro before c after rfl
    have hlater : e = ((Session.after before {}).after (c :: after)).engine := by
      rw [← Session.after_append]
    refine ⟨?_, ?_⟩
    · intro key hkey
      rw [Engine.loadedLanguages, mem_sortedUnique] at hkey ⊢
      rw [hlater]
      exact Session.mem_loaded_after hkey (c :: after)
    · refine ⟨_, ?_, c.repeats_refusal? (Session.isSettled_after before .start)⟩
      -- The answer that the call gets is the first one, be it remembered or new.
      have hbefore : (Session.after before {}).engine.remembered? c.key =
          firstAnswer? before c.key := Session.remembered?_after before {} c.key
      rw [Engine.refusal?, hbefore, ← List.singleton_append, firstAnswer?_append,
        firstAnswer?_append, firstAnswer?_singleton, if_pos rfl]
      cases firstAnswer? before c.key with
      | none => rfl
      | some answer => rfl
  · intro tools table interval chunker s hcreate later tools' file poll language reason
    rcases TableChunker.of_outcome_create_eq_ok hcreate with ⟨htable, hloaded⟩
    rw [← htable] at hloaded
    exact TableChunker.outcome_chunk_ne_unsupported (Session.mem_loaded_after hloaded later) tools'
      file poll language reason

namespace FirstRequest

/-- No grammar is installed, for a reason that may change. -/
def without (reason : String) : Toolchain where
  refusal? := fun _ => some reason
  parse := fun _ _ => .noTree

/-- Every grammar is installed, and the parser gives no tree. -/
def treeless : Toolchain where
  refusal? := fun _ => none
  parse := fun _ _ => .noTree

/-- A grammar is missing, and is installed too late; another is removed when it is loaded. -/
def calls : List EngineCall :=
  [⟨without "not found", "Toy", .load⟩, ⟨treeless, "TOY", .supports⟩,
    ⟨treeless, "Python", .parse [0x78]⟩, ⟨without "removed", "python", .load⟩]

def chunker : TableChunker := { table := .python }

/-- The grammar that was missing at first stays missing, the one that was there stays loaded, and so
its chunker can still be made and does not fail for want of it. -/
theorem answers_of_calls :
    ((⟨treeless, "TOY", .supports⟩ : EngineCall).run.outcome (Session.after (calls.take 1) {})).1 =
        .ok (.supported false) ∧
      ((⟨without "removed", "python", .load⟩ : EngineCall).run.outcome
        (Session.after (calls.take 3) {})).1 = .ok (.grammar "python") ∧
      ∃ s, (TableChunker.create (some (without "removed")) (some .python) (.int 1024)).outcome
          (Session.after calls {}) = (.ok chunker, s) ∧
        ∀ file, ((chunker.chunk (without "removed") file none).outcome s).1 ≠
          .error (.unsupportedLanguage "python" "removed") := by
  have htoy : firstAnswer? calls "toy" = some (some "not found") := by decide +kernel
  have hpython : firstAnswer? calls "python" = some none := by decide +kernel
  have hkeys : lowerCase "TOY" = "toy" ∧ lowerCase "python" = "python" := by decide +kernel
  rcases engine_repeats_first_answers calls with ⟨_, _, _, hcalls, hchunker⟩
  refine ⟨?_, ?_, ?_⟩
  · rcases (hcalls (calls.take 1) ⟨treeless, "TOY", .supports⟩ (calls.drop 2) rfl).2 with
      ⟨answer, hanswer, hrepeats⟩
    rw [EngineCall.key, hkeys.1, htoy] at hanswer
    cases hanswer
    exact hrepeats.outcome_eq
  · rcases (hcalls (calls.take 3) ⟨without "removed", "python", .load⟩ [] rfl).2 with
      ⟨answer, hanswer, hrepeats⟩
    rw [EngineCall.key, hkeys.2, hpython] at hanswer
    cases hanswer
    rw [hrepeats.outcome_eq, EngineCall.answer, EngineCall.key, hkeys.2]
  · have hrefusal : (Session.after calls {}).engine.refusal? (without "removed")
        (lowerCase LanguageTable.python.grammar) = none := by
      have hgrammar : lowerCase LanguageTable.python.grammar = "python" := hkeys.2
      rw [Engine.refusal?, Session.remembered?_after, hgrammar, hpython]
      rfl
    have hcreate : (TableChunker.create (some (without "removed")) (some .python)
        (.int 1024)).outcome (Session.after calls {}) =
          (.ok chunker, (Session.after calls {}).asked (without "removed")
            LanguageTable.python.grammar) := by
      rw [TableChunker.outcome_create (by decide), hrefusal]
      rfl
    refine ⟨_, hcreate, ?_⟩
    intro file
    exact hchunker _ _ _ _ _ hcreate [] _ file none "python" "removed"

/-- A call that fails in parsing can be the first one for its grammar, which is loaded after it and
was not before it. -/
theorem loaded_after_noTree :
    let c : EngineCall := ⟨treeless, "python", .parse [0x78]⟩
    (c.run.outcome {}).1 = .error (.noTree "python") ∧
      ({} : Session).engine.loadedLanguages = [] ∧
      (c.run.outcome {}).2.engine.loadedLanguages = ["python"] := by
  refine ⟨rfl, ?_, ?_⟩
  · exact congrArg List.eraseReps List.mergeSort_nil
  · exact congrArg List.eraseReps (List.mergeSort_singleton "python")

end FirstRequest

end SourceOutline
