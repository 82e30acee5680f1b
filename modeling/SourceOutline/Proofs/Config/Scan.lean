import Mathlib.Data.List.Forall2
import Mathlib.Data.List.TakeWhile
import SourceOutline.Proofs.Config.Expansion

/-!
# Scan — replacing references is one pass from left to right

A reference can be recognised in one way only, so a text is read once, and the result is determined
by what stands in it.

* `Value.replaceVariables_follows_scan` — the walk through a value gives what one pass over its
  texts gives.
-/

namespace SourceOutline

/-! ## References -/

/-- A name of a variable in a reference: neither a closing brace nor a colon can be part of it. -/
structure IsVariableName (name : Text) : Prop where
  ne_nil : name ≠ []
  noBrace : closeBrace ∉ name
  noColon : colon ∉ name

namespace VariableRef

/-- A reference stands at the front of a text, and the rest follows it: a dollar sign, and in braces
a name, which may be followed by a colon and a default. -/
inductive Opens : VariableRef → Text → Text → Prop
  | bare {name rest : Text} (hname : IsVariableName name) :
      Opens ⟨name, []⟩ (dollar :: openBrace :: (name ++ closeBrace :: rest)) rest
  | withDefault {name default rest : Text} (hname : IsVariableName name)
      (hdefault : closeBrace ∉ default) :
      Opens ⟨name, default⟩
        (dollar :: openBrace :: (name ++ colon :: (default ++ closeBrace :: rest))) rest

def OpensNone (t : Text) : Prop :=
  ∀ (r : VariableRef) (after : Text), ¬ r.Opens t after

/-- A reference stands for the value of its variable, also for an empty one.  If the variable is not
set, it stands for its default, which is empty if none is given. -/
inductive StandsFor (env : Environment) (r : VariableRef) : Text → Prop
  | value {t : Text} (hset : env.value? r.name = some t) : StandsFor env r t
  | default (hunset : env.value? r.name = none) : StandsFor env r r.default

variable {env : Environment} {r : VariableRef} {t rest name : Text}
  {c : CodePoint}

theorem standsFor_iff : r.StandsFor env t ↔ t = r.value env := by
  unfold VariableRef.value
  constructor
  · intro h
    cases h with
    | value hset => rw [hset, Option.getD_some]
    | default hunset => rw [hunset, Option.getD_none]
  · rintro rfl
    cases hvalue : env.value? r.name with
    | some value => exact .value hvalue
    | none => exact .default hvalue

theorem takeWhile_append_stop {p : CodePoint → Bool} (hrun : ∀ d ∈ name, p d = true)
    (hstop : p c = false) : (name ++ c :: rest).takeWhile p = name := by
  rw [List.takeWhile_append_of_pos hrun, List.takeWhile_cons_of_neg (by simp [hstop]),
    List.append_nil]

theorem dropWhile_append_stop {p : CodePoint → Bool} (hrun : ∀ d ∈ name, p d = true)
    (hstop : p c = false) : (name ++ c :: rest).dropWhile p = c :: rest := by
  rw [List.dropWhile_append_of_pos hrun, List.dropWhile_cons_of_neg (by simp [hstop])]

theorem eq_takeWhile_append_stop {p : CodePoint → Bool} (h : t.dropWhile p = c :: rest) :
    t = t.takeWhile p ++ c :: rest ∧ (∀ d ∈ t.takeWhile p, p d = true) ∧ p c = false := by
  refine ⟨?_, fun d hd => List.mem_takeWhile_imp hd, ?_⟩
  · rw [← h, List.takeWhile_append_dropWhile]
  · have hne : t.dropWhile p ≠ [] := by simp [h]
    simpa [h] using List.head_dropWhile_not p hne

theorem isVariableName_iff : IsVariableName name ↔
    name ≠ [] ∧ ∀ d ∈ name, (d != closeBrace && d != colon) = true := by
  simp only [Bool.and_eq_true, bne_iff_ne]
  constructor
  · intro h
    refine ⟨h.ne_nil, fun d hd => ⟨?_, ?_⟩⟩
    · rintro rfl
      exact h.noBrace hd
    · rintro rfl
      exact h.noColon hd
  · rintro ⟨hne, hall⟩
    exact ⟨hne, fun hmem => (hall _ hmem).1 rfl, fun hmem => (hall _ hmem).2 rfl⟩

theorem Opens.readReference?_eq (h : r.Opens (dollar :: openBrace :: t) rest) :
    readReference? t = some (r, rest) := by
  cases h with
  | bare hname =>
      obtain ⟨hne, hall⟩ := isVariableName_iff.1 hname
      have hstop : (closeBrace != closeBrace && closeBrace != colon) = false := by decide
      simp only [readReference?, takeWhile_append_stop hall hstop,
        dropWhile_append_stop hall hstop, List.isEmpty_iff, hne, if_false, if_true]
  | withDefault hname hdefault =>
      obtain ⟨hne, hall⟩ := isVariableName_iff.1 hname
      have hstop : (colon != closeBrace && colon != colon) = false := by decide
      have hbrace : colon ≠ closeBrace := by decide
      -- The default ends at the first closing brace, since there is none in it.
      have hrun : ∀ d ∈ _, (d != closeBrace) = true := fun d hd =>
        bne_iff_ne.2 fun heq => hdefault (heq ▸ hd)
      have hend : (closeBrace != closeBrace) = false := by decide
      simp only [readReference?, takeWhile_append_stop hall hstop,
        dropWhile_append_stop hall hstop, List.isEmpty_iff, hne, if_false, hbrace,
        takeWhile_append_stop hrun hend, dropWhile_append_stop hrun hend]

theorem opens_of_readReference? (h : readReference? t = some (r, rest)) :
    r.Opens (dollar :: openBrace :: t) rest := by
  simp only [readReference?] at h
  split at h
  · cases h
  · next hne =>
    rw [List.isEmpty_iff] at hne
    split at h
    · cases h
    · next c more hdrop =>
      obtain ⟨ht, hall, hstop⟩ := eq_takeWhile_append_stop hdrop
      have hname := isVariableName_iff.2 ⟨hne, hall⟩
      -- The name stops at a closing brace, which ends the reference, or at a colon.
      split at h
      · next hclose =>
        subst hclose
        cases h
        have hopens := @Opens.bare _ rest hname
        rwa [← ht] at hopens
      · next hopen =>
        have hcolon : c = colon := by
          simpa [hopen] using hstop
        subst hcolon
        split at h
        · cases h
        · next d tail hdrop' =>
          obtain ⟨hmore, hrun, hend⟩ := eq_takeWhile_append_stop hdrop'
          obtain rfl : d = closeBrace := by simpa using hend
          cases h
          have hdefault : closeBrace ∉ more.takeWhile (· != closeBrace) := fun hmem =>
            absurd (hrun _ hmem) (by decide)
          have hopens := @Opens.withDefault _ _ rest hname hdefault
          rwa [← hmore, ← ht] at hopens

/-- What is read at the front of a text is a reference in any of its forms.  So no text can be taken
for a reference in two ways. -/
theorem referenceAt?_eq_some_iff : referenceAt? t = some (r, rest) ↔ r.Opens t rest := by
  constructor
  · intro h
    unfold referenceAt? at h
    split at h
    · split at h
      · next hmarks =>
        rw [hmarks.1, hmarks.2]
        exact opens_of_readReference? h
      · cases h
    · cases h
  · intro h
    obtain ⟨body, rfl⟩ : ∃ body, t = dollar :: openBrace :: body := by
      cases h with
      | bare hname => exact ⟨_, rfl⟩
      | withDefault hname hdefault => exact ⟨_, rfl⟩
    rw [referenceAt?, if_pos ⟨rfl, rfl⟩]
    exact h.readReference?_eq

theorem referenceAt?_eq_none_iff : referenceAt? t = none ↔ OpensNone t := by
  rw [Option.eq_none_iff_forall_ne_some]
  constructor
  · intro h r after hopens
    exact h (r, after) (referenceAt?_eq_some_iff.2 hopens)
  · rintro h ⟨r, after⟩ hsome
    exact h r after (referenceAt?_eq_some_iff.1 hsome)

end VariableRef

/-! ## Texts -/

/-- One pass over a text: a reference is replaced where it stands, any other character is copied.
What a reference stands for is put in as it is, and the pass goes on behind the reference. -/
inductive Scans (env : Environment) : Text → Text → Prop
  | done : Scans env [] []
  | replace {t after value u : Text} {r : VariableRef} (hopens : r.Opens t after)
      (hvalue : r.StandsFor env value) (hafter : Scans env after u) : Scans env t (value ++ u)
  | copy {c : CodePoint} {rest u : Text} (hplain : VariableRef.OpensNone (c :: rest))
      (hrest : Scans env rest u) : Scans env (c :: rest) (c :: u)

/-- The pass meets a reference in a text. -/
inductive VariableRef.IsMetIn (r : VariableRef) : Text → Prop
  | here {t after : Text} (hopens : r.Opens t after) : IsMetIn r t
  | behind {t after : Text} {r' : VariableRef} (hopens : r'.Opens t after)
      (hafter : IsMetIn r after) : IsMetIn r t
  | later {c : CodePoint} {rest : Text} (hplain : OpensNone (c :: rest))
      (hrest : IsMetIn r rest) : IsMetIn r (c :: rest)

section Texts

variable {env : Environment} {t u : Text} {r : VariableRef} {c : CodePoint} {rest : Text}

theorem expandText_of_plain (env : Environment) (h : referenceAt? (c :: rest) = none) :
    expandText env (c :: rest) = c :: expandText env rest := by
  rw [expandText, pieces_of_plain h]
  rfl

theorem references_of_plain (h : referenceAt? (c :: rest) = none) :
    references (c :: rest) = references rest := by
  rw [references, pieces_of_plain h]
  rfl

theorem scans_expandText (env : Environment) (t : Text) : Scans env t (expandText env t) := by
  induction t using pieces.induct with
  | case1 =>
      rw [expandText, pieces]
      exact .done
  | case2 c rest r after href hlt ih =>
      rw [expandText_of_reference env href]
      exact .replace (VariableRef.referenceAt?_eq_some_iff.1 href)
        (VariableRef.standsFor_iff.2 rfl) ih
  | case3 c rest hnone ih =>
      rw [expandText_of_plain env hnone]
      exact .copy (VariableRef.referenceAt?_eq_none_iff.1 hnone) ih

/-- There is one pass over a text, and it is the one that runs. -/
theorem scans_iff : Scans env t u ↔ u = expandText env t := by
  constructor
  · intro h
    -- Each step of the pass is the one that the text at hand allows.
    induction h with
    | done =>
        rw [expandText, pieces]
        rfl
    | replace hopens hvalue hafter ih =>
        rw [expandText_of_reference env (VariableRef.referenceAt?_eq_some_iff.2 hopens),
          VariableRef.standsFor_iff.1 hvalue, ih]
    | copy hplain hrest ih =>
        rw [expandText_of_plain env (VariableRef.referenceAt?_eq_none_iff.2 hplain), ih]
  · rintro rfl
    exact scans_expandText env t

theorem isMetIn_of_mem_references (h : r ∈ references t) : r.IsMetIn t := by
  induction t using pieces.induct with
  | case1 =>
      rw [references, pieces] at h
      cases h
  | case2 c rest r' after href hlt ih =>
      have hopens := VariableRef.referenceAt?_eq_some_iff.1 href
      rw [references_of_reference href, List.mem_cons] at h
      rcases h with rfl | h
      · exact .here hopens
      · exact .behind hopens (ih h)
  | case3 c rest hnone ih =>
      rw [references_of_plain hnone] at h
      exact .later (VariableRef.referenceAt?_eq_none_iff.1 hnone) (ih h)

theorem isMetIn_iff : r.IsMetIn t ↔ r ∈ references t := by
  constructor
  · intro h
    induction h with
    | here hopens =>
        rw [references_of_reference (VariableRef.referenceAt?_eq_some_iff.2 hopens)]
        exact List.mem_cons_self
    | behind hopens hafter ih =>
        rw [references_of_reference (VariableRef.referenceAt?_eq_some_iff.2 hopens)]
        exact List.mem_cons_of_mem _ ih
    | later hplain hrest ih =>
        rwa [references_of_plain (VariableRef.referenceAt?_eq_none_iff.2 hplain)]
  · exact isMetIn_of_mem_references

end Texts

/-! ## Values -/

namespace Value

/-- A value with the references in its texts replaced.  Lists and maps keep their members and the
order of these, maps keep their keys, and what is none of these three stays as it is. -/
inductive RewritesTo (env : Environment) : Value → Value → Prop
  | text {v : Value} {t u : Text} (htext : v.toText? = some t) (hscan : Scans env t u) :
      RewritesTo env v (ofText u)
  | list {items items' : List Value} (hitems : List.Forall₂ (RewritesTo env) items items') :
      RewritesTo env (list items) (list items')
  | map {entries entries' : List (Value × Value)}
      (hkeys : entries'.map Prod.fst = entries.map Prod.fst)
      (hvalues : List.Forall₂ (RewritesTo env) (entries.map Prod.snd) (entries'.map Prod.snd)) :
      RewritesTo env (map entries) (map entries')
  | other {v : Value} (htext : v.toText? = none) (hlist : ∀ items, v ≠ list items)
      (hmap : ∀ entries, v ≠ map entries) : RewritesTo env v v

/-- A text stands somewhere in a value; the keys of maps do not count. -/
inductive HasText : Value → Text → Prop
  | text {v : Value} {t : Text} (htext : v.toText? = some t) : HasText v t
  | item {items : List Value} {v : Value} {t : Text} (hmem : v ∈ items) (hv : HasText v t) :
      HasText (list items) t
  | entry {entries : List (Value × Value)} {k v : Value} {t : Text} (hmem : (k, v) ∈ entries)
      (hv : HasText v t) : HasText (map entries) t

/-- The system can be asked for the name of every reference in the texts of a value. -/
def IsAskable (v : Value) : Prop :=
  ∀ (t : Text) (r : VariableRef), v.HasText t → r.IsMetIn t →
    ∀ c ∈ r.name, c.isUnencodable = false

variable {env : Environment} {v w : Value} {t : Text}

/-! ### What is rewritten -/

theorem rewritesTo_of_toText? (htext : v.toText? = some t) :
    v.RewritesTo env w ↔ w = ofText (expandText env t) := by
  constructor
  · intro h
    cases h with
    | text htext' hscan =>
        cases htext.symm.trans htext'
        rw [scans_iff.1 hscan]
    | list hitems => cases htext
    | map hkeys hvalues => cases htext
    | other hnone hlist hmap => cases htext.symm.trans hnone
  · rintro rfl
    exact .text htext (scans_expandText env t)

theorem rewritesTo_of_other (htext : v.toText? = none) (hlist : ∀ items, v ≠ list items)
    (hmap : ∀ entries, v ≠ map entries) : v.RewritesTo env w ↔ w = v := by
  constructor
  · intro h
    cases h with
    | text htext' hscan => cases htext.symm.trans htext'
    | list hitems => exact absurd rfl (hlist _)
    | map hkeys hvalues => exact absurd rfl (hmap _)
    | other hnone hlist hmap => rfl
  · rintro rfl
    exact .other htext hlist hmap

mutual

/-- A value rewrites to its expansion and to nothing else. -/
theorem rewritesTo_iff (v w : Value) : v.RewritesTo env w ↔ w = v.expand env := by
  -- A collection rewrites member by member, so the lists of members are settled together with it.
  cases v with
  | text s =>
      rw [expand]
      exact rewritesTo_of_toText? rfl
  | surrogateText t =>
      rw [expand]
      exact rewritesTo_of_toText? rfl
  | list items =>
      rw [expand]
      constructor
      · intro h
        cases h with
        | text htext hscan => cases htext
        | list hitems => rw [(forall₂_rewritesTo_iff items _).1 hitems]
        | other htext hlist hmap => exact absurd rfl (hlist items)
      · rintro rfl
        exact .list ((forall₂_rewritesTo_iff items _).2 rfl)
  | map entries =>
      rw [expand]
      constructor
      · intro h
        cases h with
        | text htext hscan => cases htext
        | map hkeys hvalues => rw [(entries_rewriteTo_iff entries _).1 ⟨hkeys, hvalues⟩]
        | other htext hlist hmap => exact absurd rfl (hmap entries)
      · rintro rfl
        obtain ⟨hkeys, hvalues⟩ := (entries_rewriteTo_iff entries _).2 rfl
        exact .map hkeys hvalues
  | _ => exact rewritesTo_of_other rfl (by intro items h; cases h) (by intro entries h; cases h)

theorem forall₂_rewritesTo_iff (items items' : List Value) :
    List.Forall₂ (RewritesTo env) items items' ↔ items' = expandItems env items := by
  cases items with
  | nil =>
      rw [expandItems]
      exact List.forall₂_nil_left_iff
  | cons v rest =>
      rw [expandItems, List.forall₂_cons_left_iff]
      constructor
      · rintro ⟨w, rest', hv, hrest, rfl⟩
        rw [(rewritesTo_iff v w).1 hv, (forall₂_rewritesTo_iff rest rest').1 hrest]
      · rintro rfl
        exact ⟨_, _, (rewritesTo_iff v _).2 rfl, (forall₂_rewritesTo_iff rest _).2 rfl, rfl⟩

theorem entries_rewriteTo_iff (entries entries' : List (Value × Value)) :
    (entries'.map Prod.fst = entries.map Prod.fst ∧
        List.Forall₂ (RewritesTo env) (entries.map Prod.snd) (entries'.map Prod.snd)) ↔
      entries' = expandEntries env entries := by
  -- The keys of both maps are taken off together with the values, so the order is kept.
  cases entries with
  | nil => cases entries' <;> simp [expandEntries]
  | cons e rest =>
      rcases e with ⟨k, v⟩
      cases entries' with
      | nil => simp [expandEntries]
      | cons e' rest' =>
          rcases e' with ⟨k', w⟩
          simp only [expandEntries, List.map_cons, List.cons.injEq, List.forall₂_cons,
            Prod.mk.injEq, rewritesTo_iff v w, ← entries_rewriteTo_iff rest rest']
          tauto

end

/-! ### What is asked for -/

theorem hasText_of_toText? {t' : Text} (htext : v.toText? = some t') :
    v.HasText t ↔ t ∈ [t'] := by
  rw [List.mem_singleton]
  constructor
  · intro h
    cases h with
    | text htext' => exact (Option.some.inj (htext.symm.trans htext')).symm
    | item hmem hv => cases htext
    | entry hmem hv => cases htext
  · rintro rfl
    exact .text htext

mutual

theorem hasText_iff (v : Value) (t : Text) : v.HasText t ↔ t ∈ v.texts := by
  cases v with
  | text s => exact hasText_of_toText? rfl
  | surrogateText t' => exact hasText_of_toText? rfl
  | list items =>
      rw [texts, ← exists_hasText_item_iff]
      constructor
      · intro h
        cases h with
        | text htext => cases htext
        | item hmem hv => exact ⟨_, hmem, hv⟩
      · rintro ⟨v, hmem, hv⟩
        exact .item hmem hv
  | map entries =>
      rw [texts, ← exists_hasText_entry_iff]
      constructor
      · intro h
        cases h with
        | text htext => cases htext
        | entry hmem hv => exact ⟨_, hmem, hv⟩
      · rintro ⟨e, hmem, hv⟩
        exact .entry hmem hv
  | _ =>
      constructor
      · intro h
        cases h with
        | text htext => cases htext
      · intro h
        cases h

theorem exists_hasText_item_iff (items : List Value) (t : Text) :
    (∃ v ∈ items, v.HasText t) ↔ t ∈ textsOfItems items := by
  cases items with
  | nil => simp [textsOfItems]
  | cons v rest =>
      rw [textsOfItems, List.mem_append, ← hasText_iff v t, ← exists_hasText_item_iff rest t]
      simp only [List.mem_cons, exists_eq_or_imp]

theorem exists_hasText_entry_iff (entries : List (Value × Value)) (t : Text) :
    (∃ e ∈ entries, e.2.HasText t) ↔ t ∈ textsOfEntries entries := by
  cases entries with
  | nil => simp [textsOfEntries]
  | cons e rest =>
      rcases e with ⟨k, v⟩
      rw [textsOfEntries, List.mem_append, ← hasText_iff v t, ← exists_hasText_entry_iff rest t]
      simp only [List.mem_cons, exists_eq_or_imp]

end

theorem isAskable_iff (v : Value) : v.IsAskable ↔ v.asksUnencodable = false := by
  simp only [IsAskable, asksUnencodable, anyUnencodable, List.any_eq_false, hasText_iff,
    isMetIn_iff, Bool.not_eq_true]
  constructor
  · intro h t ht r hr
    exact h t r ht hr
  · intro h t r ht hr
    exact h t ht r hr

/-! ### The value as a whole -/

/-- The walk through a value gives the one value that the pass over all its texts gives, if there is
room for the nesting of the value and the system can be asked for all names in it.  Nothing else
keeps it from ending. -/
theorem replaceVariables_follows_scan (env : Environment) (v : Value) :
    (∃! w, v.RewritesTo env w) ∧
      (∀ w, v.replaceVariables env = .ok w ↔
        v.depth ≤ env.levels ∧ v.IsAskable ∧ v.RewritesTo env w) ∧
      ∀ why, v.replaceVariables env = .error why →
        why = .tooDeep ∧ env.levels < v.depth ∨ why = .unencodable ∧ ¬ v.IsAskable := by
  simp only [isAskable_iff, rewritesTo_iff, Bool.not_eq_false]
  exact ⟨⟨v.expand env, rfl, fun w hw => hw⟩, fun w => replaceVariables_eq_ok_iff,
    fun why h => causes_of_replaceVariables h⟩

end Value

/-! ## A name that no system knows -/

namespace LoneSurrogate

def reference : Text :=
  [dollar, openBrace, ⟨0xD800, by decide⟩, closeBrace]

/-- One pass makes nothing of the reference, since its variable is not set.  But asking for the
variable fails, so no value is given at all. -/
theorem rewritesTo_but_not_replaced :
    (Value.surrogateText reference).RewritesTo {} (.text "") ∧
      ∀ w, (Value.surrogateText reference).replaceVariables {} ≠ .ok w := by
  have hopens : referenceAt? reference = some (⟨[⟨0xD800, by decide⟩], []⟩, []) := by decide
  have hrest : references [] = [] := references_eq_nil List.not_mem_nil
  constructor
  -- The reference stands for its default, which is empty.
  · rw [Value.rewritesTo_iff, Value.expand, expandText_of_reference {} hopens,
      expandText_eq_self {} hrest]
    exact (Value.ofText_ofString "").symm
  · intro w h
    have hasks : (Value.surrogateText reference).asksUnencodable = true := by
      rw [Value.asksUnencodable, Value.texts, Value.anyUnencodable, List.any_cons,
        references_of_reference hopens, hrest]
      decide
    exact Bool.false_ne_true ((Value.replaceVariables_eq_ok_iff.1 h).2.1.symm.trans hasks)

end LoneSurrogate

end SourceOutline
