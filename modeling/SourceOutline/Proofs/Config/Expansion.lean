import SourceOutline.Config.Expand
import SourceOutline.Proofs.Text.Surrogate

/-!
# Expansion — what replacing references changes in a value

References are replaced in the texts of a value and nowhere else: the entries of a map stay under
their keys, and numbers stay as they are.  A text without references is left alone.
-/

namespace SourceOutline

/-! ## Texts -/

theorem pieces_of_reference {t after : Text} {r : VariableRef}
    (h : referenceAt? t = some (r, after)) : pieces t = .reference r :: pieces after := by
  cases t with
  | nil => cases h
  | cons c rest =>
      rw [pieces]
      split
      · rename_i heq
        cases heq.symm.trans h
        rfl
      · rename_i hnone
        cases hnone.symm.trans h

theorem pieces_of_plain {c : CodePoint} {rest : Text} (h : referenceAt? (c :: rest) = none) :
    pieces (c :: rest) = .plain c :: pieces rest := by
  rw [pieces]
  split
  · rename_i hsome
    cases hsome.symm.trans h
  · rfl

theorem referenceAt?_eq_none {c : CodePoint} {rest : Text} (h : c ≠ dollar) :
    referenceAt? (c :: rest) = none := by
  unfold referenceAt?
  split
  · rename_i heq
    cases heq
    rw [if_neg fun hboth => h hboth.1]
  · rfl

theorem references_eq_nil {t : Text} (h : dollar ∉ t) : references t = [] := by
  induction t with
  | nil =>
      rw [references, pieces]
      rfl
  | cons c rest ih =>
      rw [List.mem_cons, not_or] at h
      rw [references, pieces_of_plain (referenceAt?_eq_none (Ne.symm h.1))]
      exact ih h.2

theorem references_of_reference {t after : Text} {r : VariableRef}
    (h : referenceAt? t = some (r, after)) : references t = r :: references after := by
  rw [references, pieces_of_reference h]
  rfl

theorem expandText_of_reference (env : Environment) {t after : Text} {r : VariableRef}
    (h : referenceAt? t = some (r, after)) :
    expandText env t = r.value env ++ expandText env after := by
  rw [expandText, pieces_of_reference h]
  rfl

theorem expandText_eq_self (env : Environment) {t : Text} (h : references t = []) :
    expandText env t = t := by
  rw [references] at h
  unfold expandText
  induction t using pieces.induct with
  | case1 =>
      rw [pieces]
      rfl
  | case2 c rest r after href hlt ih =>
      -- The text would begin with a reference.
      rw [pieces_of_reference href] at h
      cases h
  | case3 c rest hnone ih =>
      -- A character that begins no reference stands for itself.
      rw [pieces_of_plain hnone] at h
      rw [pieces_of_plain hnone, List.flatMap_cons, ih h]
      rfl

namespace Value

theorem expand_ofText (env : Environment) (t : Text) :
    (ofText t).expand env = ofText (expandText env t) := by
  rw [ofText]
  split
  · rw [expand]
  · rename_i hplain
    rw [expand, Text.ofString_toString (Bool.eq_false_iff.2 hplain)]

theorem texts_ofText (t : Text) : (ofText t).texts = [t] := by
  rw [ofText]
  split
  · rw [texts]
  · rename_i hplain
    rw [texts, Text.ofString_toString (Bool.eq_false_iff.2 hplain)]

theorem integers_ofText (t : Text) : (ofText t).integers = [] := by
  rw [ofText]
  split <;> rfl

theorem number?_ofNumber (x : Number) : (ofNumber x).number? = some x := by
  cases x <;> rfl

theorem expand_ofNumber (env : Environment) (x : Number) :
    (ofNumber x).expand env = ofNumber x := by
  cases x <;> rfl

/-! ## Entries -/

theorem lookup_expandEntries (env : Environment) (key : String) (entries : List (Value × Value)) :
    lookup key (expandEntries env entries) = (lookup key entries).map (expand env) := by
  induction entries with
  | nil => rfl
  | cons e rest ih =>
      rcases e with ⟨k, v⟩
      cases k with
      | text k =>
          simp only [expandEntries, lookup]
          split
          · rfl
          · exact ih
      | _ => exact ih

theorem get?_expand (env : Environment) (v : Value) (key : String) :
    (v.expand env).get? key = (v.get? key).map (expand env) := by
  cases v with
  | map entries => exact lookup_expandEntries env key entries
  | text s => rw [expand, ofText]; split <;> rfl
  | surrogateText t => rw [expand, ofText]; split <;> rfl
  | _ => rfl

theorem mem_of_lookup {key : String} {entries : List (Value × Value)} {u : Value}
    (h : lookup key entries = some u) : (text key, u) ∈ entries := by
  induction entries with
  | nil => cases h
  | cons e rest ih =>
      rcases e with ⟨k, v⟩
      cases k with
      | text k =>
          rw [lookup] at h
          split at h
          · rename_i hkey
            cases h
            rw [hkey]
            exact List.mem_cons_self
          · exact List.mem_cons_of_mem _ (ih h)
      | _ => exact List.mem_cons_of_mem _ (ih h)

/-! ## Nesting -/

mutual

/-- How many calls stand inside each other at most when a value is walked through. -/
def depth : Value → Nat
  | list items => depthOfItems items + 1
  | map entries => depthOfEntries entries + 1
  | _ => 1

def depthOfItems : List Value → Nat
  | [] => 0
  | v :: rest => max v.depth (depthOfItems rest)

def depthOfEntries : List (Value × Value) → Nat
  | [] => 0
  | (_, v) :: rest => max v.depth (depthOfEntries rest)

end

theorem depth_ofText (t : Text) : (ofText t).depth = 1 := by
  rw [ofText]
  split <;> rfl

theorem depth_ofNumber (x : Number) : (ofNumber x).depth = 1 := by
  cases x <;> rfl

mutual

theorem depth_expand (env : Environment) (v : Value) : (v.expand env).depth = v.depth := by
  cases v with
  | text s => exact depth_ofText _
  | surrogateText t => exact depth_ofText _
  | list items => exact congrArg (· + 1) (depthOfItems_expandItems env items)
  | map entries => exact congrArg (· + 1) (depthOfEntries_expandEntries env entries)
  | _ => rfl

theorem depthOfItems_expandItems (env : Environment) (items : List Value) :
    depthOfItems (expandItems env items) = depthOfItems items := by
  cases items with
  | nil => rfl
  | cons v rest =>
      rw [expandItems, depthOfItems, depthOfItems, depth_expand env v,
        depthOfItems_expandItems env rest]

theorem depthOfEntries_expandEntries (env : Environment) (entries : List (Value × Value)) :
    depthOfEntries (expandEntries env entries) = depthOfEntries entries := by
  cases entries with
  | nil => rfl
  | cons e rest =>
      rcases e with ⟨k, v⟩
      rw [expandEntries, depthOfEntries, depthOfEntries, depth_expand env v,
        depthOfEntries_expandEntries env rest]

end

theorem depth_le_of_mem {k u : Value} {entries : List (Value × Value)} (h : (k, u) ∈ entries) :
    u.depth ≤ depthOfEntries entries := by
  induction entries with
  | nil => cases h
  | cons e rest ih =>
      rcases e with ⟨k', v⟩
      rw [depthOfEntries]
      rcases List.mem_cons.1 h with heq | hrest
      · cases heq
        exact Nat.le_max_left _ _
      · exact Nat.le_trans (ih hrest) (Nat.le_max_right _ _)

theorem depth_lt_of_get? {v u : Value} {key : String} (h : v.get? key = some u) :
    u.depth < v.depth := by
  cases v with
  | map entries => exact Nat.lt_succ_of_le (depth_le_of_mem (mem_of_lookup h))
  | _ => cases h

/-! ## Integers -/

theorem integers_subset_of_mem {k u : Value} {entries : List (Value × Value)}
    (h : (k, u) ∈ entries) : u.integers ⊆ integersOfEntries entries := by
  induction entries with
  | nil => cases h
  | cons e rest ih =>
      rcases List.mem_cons.1 h with rfl | hrest
      · exact List.Subset.trans (List.subset_append_right _ _) (List.subset_append_left _ _)
      · exact List.Subset.trans (ih hrest) (List.subset_append_right _ _)

theorem integers_subset_of_get? {v u : Value} {key : String} (h : v.get? key = some u) :
    u.integers ⊆ v.integers := by
  cases v with
  | map entries => exact integers_subset_of_mem (mem_of_lookup h)
  | _ => cases h

/-! ## Values -/

mutual

theorem integers_expand (env : Environment) (v : Value) :
    (v.expand env).integers = v.integers := by
  cases v with
  | text s => exact integers_ofText _
  | surrogateText t => exact integers_ofText _
  | list items => exact integersOfItems_expandItems env items
  | map entries => exact integersOfEntries_expandEntries env entries
  | _ => rfl

theorem integersOfItems_expandItems (env : Environment) (items : List Value) :
    integersOfItems (expandItems env items) = integersOfItems items := by
  cases items with
  | nil => rfl
  | cons v rest =>
      rw [expandItems, integersOfItems, integersOfItems, integers_expand env v,
        integersOfItems_expandItems env rest]

theorem integersOfEntries_expandEntries (env : Environment) (entries : List (Value × Value)) :
    integersOfEntries (expandEntries env entries) = integersOfEntries entries := by
  cases entries with
  | nil => rfl
  | cons e rest =>
      rcases e with ⟨k, v⟩
      rw [expandEntries, integersOfEntries, integersOfEntries, integers_expand env v,
        integersOfEntries_expandEntries env rest]

end

mutual

theorem expand_expand (env env' : Environment) (v : Value)
    (h : ∀ t ∈ (v.expand env).texts, references t = []) :
    (v.expand env).expand env' = v.expand env := by
  cases v with
  | text s =>
      rw [expand, texts_ofText] at h
      rw [expand, expand_ofText, expandText_eq_self env' (h _ List.mem_cons_self)]
  | surrogateText t =>
      rw [expand, texts_ofText] at h
      rw [expand, expand_ofText, expandText_eq_self env' (h _ List.mem_cons_self)]
  | list items =>
      rw [expand, expand, expandItems_expandItems env env' items h]
  | map entries =>
      rw [expand, expand, expandEntries_expandEntries env env' entries h]
  | _ => rfl

theorem expandItems_expandItems (env env' : Environment) (items : List Value)
    (h : ∀ t ∈ textsOfItems (expandItems env items), references t = []) :
    expandItems env' (expandItems env items) = expandItems env items := by
  cases items with
  | nil => rfl
  | cons v rest =>
      rw [expandItems, textsOfItems, List.forall_mem_append] at h
      rw [expandItems, expandItems, expand_expand env env' v h.1,
        expandItems_expandItems env env' rest h.2]

theorem expandEntries_expandEntries (env env' : Environment) (entries : List (Value × Value))
    (h : ∀ t ∈ textsOfEntries (expandEntries env entries), references t = []) :
    expandEntries env' (expandEntries env entries) = expandEntries env entries := by
  cases entries with
  | nil => rfl
  | cons e rest =>
      rcases e with ⟨k, v⟩
      rw [expandEntries, textsOfEntries, List.forall_mem_append] at h
      rw [expandEntries, expandEntries, expand_expand env env' v h.1,
        expandEntries_expandEntries env env' rest h.2]

end

/-! ## The walk through a value -/

/-- How the walk through something ends that is nested `depth` deep and has the texts `ts`, where
`room` more calls may be made inside each other: with the expanded form, or with a fault that has
its cause. -/
inductive Replaced {α : Type} (room depth : Nat) (ts : List Text) (expanded : α) :
    Except Fault α → Prop
  | done (hdepth : depth ≤ room) (hasks : anyUnencodable ts = false) :
    Replaced room depth ts expanded (.ok expanded)
  | tooDeep (h : room < depth) : Replaced room depth ts expanded (.error .tooDeep)
  | unencodable (h : anyUnencodable ts = true) :
    Replaced room depth ts expanded (.error .unencodable)

variable {env : Environment} {room : Nat}

theorem Replaced.map {α β : Type} {depth : Nat} {ts : List Text} {a : α}
    {r : Except Fault α} (h : Replaced room depth ts a r) (f : α → β) :
    Replaced (room + 1) (depth + 1) ts (f a) (r.map f) := by
  cases h with
  | done hdepth hasks => exact .done (Nat.succ_le_succ hdepth) hasks
  | tooDeep h => exact .tooDeep (Nat.succ_lt_succ h)
  | unencodable h => exact .unencodable h

/-- The rest of a list is walked through in the same room as its head, and after it. -/
theorem Replaced.bind {α β γ : Type} {depth depth' : Nat} {ts ts' : List Text} {a : α} {b : β}
    {r : Except Fault α} {r' : Except Fault β} (f : α → β → γ)
    (h : Replaced room depth ts a r) (h' : Replaced room depth' ts' b r') :
    Replaced room (max depth depth') (ts ++ ts') (f a b)
      (r.bind fun a => r'.bind fun b => .ok (f a b)) := by
  have happend : anyUnencodable (ts ++ ts') = (anyUnencodable ts || anyUnencodable ts') :=
    List.any_append
  cases h with
  | done hdepth hasks =>
      cases h' with
      | done hdepth' hasks' =>
          exact .done (Nat.max_le.2 ⟨hdepth, hdepth'⟩) (by rw [happend, hasks, hasks']; rfl)
      | tooDeep h' => exact .tooDeep (Nat.lt_of_lt_of_le h' (Nat.le_max_right _ _))
      | unencodable h' => exact .unencodable (by rw [happend, h', Bool.or_true])
  | tooDeep h => exact .tooDeep (Nat.lt_of_lt_of_le h (Nat.le_max_left _ _))
  | unencodable h => exact .unencodable (by rw [happend, h, Bool.true_or])

theorem replaced_replaceText (env : Environment) (room : Nat) (t : Text) :
    Replaced (room + 1) 1 [t] (ofText (expandText env t)) (replaceText env t) := by
  unfold replaceText
  split
  · rename_i hasks
    exact .unencodable hasks
  · rename_i hasks
    exact .done (Nat.le_add_left 1 room) (Bool.eq_false_iff.2 hasks)

mutual

theorem replaced_replaceWithin (env : Environment) (room : Nat) (v : Value) :
    Replaced room v.depth v.texts (v.expand env) (replaceWithin env room v) := by
  cases room with
  | zero =>
      cases v <;> exact .tooDeep (Nat.succ_pos _)
  | succ room =>
      cases v with
      | text s => exact replaced_replaceText env room (Text.ofString s)
      | surrogateText t => exact replaced_replaceText env room t
      | list items => exact (replaced_replaceItems env room items).map list
      | map entries => exact (replaced_replaceEntries env room entries).map map
      | _ => exact .done (Nat.le_add_left 1 room) rfl

theorem replaced_replaceItems (env : Environment) (room : Nat) (items : List Value) :
    Replaced room (depthOfItems items) (textsOfItems items) (expandItems env items)
      (replaceItems env room items) := by
  cases items with
  | nil => exact .done (Nat.zero_le room) rfl
  | cons v rest =>
      exact (replaced_replaceWithin env room v).bind List.cons (replaced_replaceItems env room rest)

theorem replaced_replaceEntries (env : Environment) (room : Nat) (entries : List (Value × Value)) :
    Replaced room (depthOfEntries entries) (textsOfEntries entries) (expandEntries env entries)
      (replaceEntries env room entries) := by
  cases entries with
  | nil => exact .done (Nat.zero_le room) rfl
  | cons e rest =>
      rcases e with ⟨k, v⟩
      exact (replaced_replaceWithin env room v).bind (fun v rest => (k, v) :: rest)
        (replaced_replaceEntries env room rest)

end

/-- The walk ends with the expanded value exactly if there is room for the nesting of the value and
no name in it keeps the system from being asked. -/
theorem replaceVariables_eq_ok_iff {v w : Value} :
    v.replaceVariables env = .ok w ↔
      v.depth ≤ env.levels ∧ v.asksUnencodable = false ∧ w = v.expand env := by
  have h := replaced_replaceWithin env env.levels v
  unfold replaceVariables asksUnencodable
  constructor
  · intro hok
    rw [hok] at h
    cases h with
    | done hdepth hasks => exact ⟨hdepth, hasks, rfl⟩
  · rintro ⟨hdepth, hasks, rfl⟩
    cases hwalk : replaceWithin env env.levels v with
    | ok w =>
        rw [hwalk] at h
        cases h
        rfl
    | error why =>
        rw [hwalk] at h
        cases h with
        | tooDeep hdeep => exact absurd hdepth (Nat.not_le.2 hdeep)
        | unencodable hasks' => exact absurd (hasks.symm.trans hasks') Bool.false_ne_true

theorem causes_of_replaceVariables {v : Value} {why : Fault}
    (h : v.replaceVariables env = .error why) :
    why = .tooDeep ∧ env.levels < v.depth ∨ why = .unencodable ∧ v.asksUnencodable = true := by
  have hwalk := replaced_replaceWithin env env.levels v
  rw [show replaceWithin env env.levels v = .error why from h] at hwalk
  cases hwalk with
  | tooDeep hdeep => exact .inl ⟨rfl, hdeep⟩
  | unencodable hasks => exact .inr ⟨rfl, hasks⟩

end Value

end SourceOutline
