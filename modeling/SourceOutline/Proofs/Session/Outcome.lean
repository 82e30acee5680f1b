import SourceOutline.Session

/-!
# Outcome — what the steps of a call come to

A call over a session is put together from steps.  This module says what each step comes to, so that
a call can be followed step by step without opening the monad again.
-/

namespace SourceOutline

namespace Call

variable {α β : Type}

/-! ## Plain steps -/

@[simp] theorem outcome_pure (a : α) (s : Session) : outcome (pure a : Call α) s = (.ok a, s) :=
  rfl

@[simp] theorem outcome_throw (why : Failure) (s : Session) :
    outcome (throw why : Call α) s = (.error why, s) :=
  rfl

@[simp] theorem outcome_get (s : Session) : outcome (get : Call Session) s = (.ok s, s) :=
  rfl

@[simp] theorem outcome_set (s s' : Session) : outcome (set s' : Call Unit) s = (.ok (), s') :=
  rfl

@[simp] theorem outcome_modify (f : Session → Session) (s : Session) :
    outcome (modify f : Call Unit) s = (.ok (), f s) :=
  rfl

@[simp] theorem outcome_log (r : Record) (s : Session) :
    outcome (log r) s = (.ok (), { s with records := s.records ++ [r] }) :=
  rfl

/-- The next step starts where the first one ended, unless the first one failed. -/
theorem outcome_bind (t : Call α) (next : α → Call β) (s : Session) :
    outcome (t >>= next) s =
      match outcome t s with
      | (.ok a, s') => outcome (next a) s'
      | (.error why, s') => (.error why, s') := by
  -- Failures and the session are two layers of one monad, opened one after the other.
  have hbind : outcome (t >>= next) s =
      outcome (ExceptT.mk (ExceptT.run t >>= ExceptT.bindCont next)) s := rfl
  have hstate : outcome (ExceptT.mk (ExceptT.run t >>= ExceptT.bindCont next)) s =
      (ExceptT.bindCont next (outcome t s).1).run (outcome t s).2 := rfl
  rw [hbind, hstate]
  rcases outcome t s with ⟨result, s'⟩
  cases result with
  | ok a => rfl
  | error why => rfl

theorem outcome_bind_of_ok {t : Call α} {next : α → Call β} {s s' : Session} {a : α}
    (h : outcome t s = (.ok a, s')) : outcome (t >>= next) s = outcome (next a) s' := by
  rw [outcome_bind, h]

theorem of_outcome_bind_eq_ok {t : Call α} {next : α → Call β} {s s'' : Session} {b : β}
    (h : outcome (t >>= next) s = (.ok b, s'')) :
    ∃ a s', outcome t s = (.ok a, s') ∧ outcome (next a) s' = (.ok b, s'') := by
  rw [outcome_bind] at h
  rcases hfirst : outcome t s with ⟨result, s'⟩
  rw [hfirst] at h
  cases result with
  | ok a => exact ⟨a, s', rfl, h⟩
  | error why => simp at h

theorem outcome_forM_log (records : List Record) (s : Session) :
    (records.forM log).outcome s = (.ok (), { s with records := s.records ++ records }) := by
  induction records generalizing s with
  | nil =>
      rw [List.append_nil]
      rfl
  | cons record records ih =>
      have hsteps : (record :: records).forM log =
          log record >>= fun _ => records.forM log := rfl
      rw [hsteps, outcome_bind, outcome_log]
      simp only [ih, List.append_assoc, List.singleton_append]

/-! ## Checks -/

@[simp] theorem outcome_check_none (s : Session) : outcome (check none) s = (.ok (), s) :=
  rfl

theorem outcome_check_some (p : Poll) (s : Session) :
    outcome (check (some p)) s =
      match p (s.checks + 1) with
      | some why => (.error (.interrupted why), { s with checks := s.checks + 1 })
      | none => (.ok (), { s with checks := s.checks + 1 }) := by
  have hsteps : outcome (check (some p)) s =
      outcome (match p (s.checks + 1) with
        | some why => throw (.interrupted why)
        | none => pure ()) { s with checks := s.checks + 1 } := rfl
  rw [hsteps]
  cases p (s.checks + 1) with
  | none => rfl
  | some why => rfl

theorem of_outcome_check_eq_ok {poll : Option Poll} {s s' : Session}
    (h : outcome (check poll) s = (.ok (), s')) : ∃ n, s' = { s with checks := n } := by
  cases poll with
  | none =>
      cases h
      exact ⟨s.checks, rfl⟩
  | some p =>
      rw [outcome_check_some] at h
      cases hanswer : p (s.checks + 1) with
      | none =>
          rw [hanswer] at h
          cases h
          exact ⟨s.checks + 1, rfl⟩
      | some why =>
          rw [hanswer] at h
          cases h

theorem exists_eq_interrupted_of_outcome_check {poll : Option Poll} {s s' : Session} {why : Failure}
    (h : outcome (check poll) s = (.error why, s')) : ∃ i, why = .interrupted i := by
  cases poll with
  | none =>
      cases h
  | some p =>
      rw [outcome_check_some] at h
      cases hanswer : p (s.checks + 1) with
      | none =>
          rw [hanswer] at h
          cases h
      | some i =>
          rw [hanswer] at h
          cases h
          exact ⟨i, rfl⟩

end Call

/-! ## Parsing -/

/-- An engine parses a source to a tree: the grammar is known or can be loaded, and the parser
answers with the tree. -/
structure Engine.Parses (tools : Toolchain) (e : Engine) (language : String) (source : Bytes)
    (tree : SyntaxNode) : Prop where
  loads : (e.load tools language).1 = .ok (lowerCase language)
  answers : tools.parse (lowerCase language) source = .tree tree

theorem Engine.eq_lowerCase_of_load {tools : Toolchain} {e : Engine} {language key : String}
    (h : (e.load tools language).1 = .ok key) : key = lowerCase language := by
  unfold Engine.load at h
  dsimp only at h
  split at h
  · cases h
    rfl
  · split at h
    · cases h
    · split at h
      · cases h
      · cases h
        rfl

theorem Engine.Parses.tree_eq {tools : Toolchain} {e e' : Engine} {language : String}
    {source : Bytes} {tree tree' : SyntaxNode} (h : e.Parses tools language source tree)
    (h' : e'.Parses tools language source tree') : tree' = tree := by
  have hsame := h'.answers.symm.trans h.answers
  cases hsame
  rfl

/-- A toolchain that has every grammar and whose parser always gives the same tree. -/
def Toolchain.answering (tree : SyntaxNode) : Toolchain where
  refusal? := fun _ => none
  parse := fun _ _ => .tree tree

theorem Engine.parses_answering (language : String) (source : Bytes) (tree : SyntaxNode) :
    ({} : Engine).Parses (.answering tree) language source tree :=
  ⟨rfl, rfl⟩

namespace Session

/-- The session after a source was handed to the parser with the grammar of a language. -/
def parsed (tools : Toolchain) (language : String) (s : Session) : Session :=
  let (_, engine, records) := s.engine.load tools language
  { s with
      engine
      records := s.records ++ records
      parses := s.parses ++ [lowerCase language] }

end Session

namespace Call

theorem outcome_load (tools : Toolchain) (language : String) (s : Session) :
    outcome (load tools language) s =
      ((s.engine.load tools language).1,
        { s with
            engine := (s.engine.load tools language).2.1
            records := s.records ++ (s.engine.load tools language).2.2 }) := by
  simp only [load, outcome_bind, outcome_get, outcome_set]
  cases (s.engine.load tools language).1 with
  | ok key => rfl
  | error why => rfl

theorem outcome_parse {tools : Toolchain} {language : String} {source : Bytes} {tree : SyntaxNode}
    {s : Session} (h : s.engine.Parses tools language source tree) :
    outcome (parse tools language source) s = (.ok tree, s.parsed tools language) := by
  have hload := outcome_load tools language s
  rw [h.loads] at hload
  rw [parse, outcome_bind_of_ok hload, outcome_bind, outcome_modify]
  simp only [h.answers, ParserAnswer.result, outcome_pure]
  rfl

theorem outcome_parse_eq_ok {tools : Toolchain} {language : String} {source : Bytes}
    {tree : SyntaxNode} {s s' : Session} :
    outcome (parse tools language source) s = (.ok tree, s') ↔
      s.engine.Parses tools language source tree ∧ s' = s.parsed tools language := by
  constructor
  · intro h
    rcases of_outcome_bind_eq_ok h with ⟨key, s₁, hload, hrest⟩
    rw [outcome_load] at hload
    have hkey : (s.engine.load tools language).1 = .ok key := congrArg Prod.fst hload
    have hlower := Engine.eq_lowerCase_of_load hkey
    subst hlower
    rw [outcome_bind, outcome_modify] at hrest
    -- Every other answer of the parser is a failure.
    have hanswer : tools.parse (lowerCase language) source = .tree tree := by
      cases ha : tools.parse (lowerCase language) source with
      | tree root =>
          simp only [ha, ParserAnswer.result, outcome_pure] at hrest
          cases hrest
          rfl
      | noTree => simp [ha, ParserAnswer.result] at hrest
      | refused reason => simp [ha, ParserAnswer.result] at hrest
      | crashed reason => simp [ha, ParserAnswer.result] at hrest
    have hparses : s.engine.Parses tools language source tree := ⟨hkey, hanswer⟩
    -- The session is known from the other direction, since a call has one outcome.
    have hsame := (outcome_parse hparses).symm.trans h
    exact ⟨hparses, (congrArg Prod.snd hsame).symm⟩
  · rintro ⟨h, rfl⟩
    exact outcome_parse h

end Call

end SourceOutline
