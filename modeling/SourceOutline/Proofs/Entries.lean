import Mathlib.Tactic.Tauto
import SourceOutline.Entries

/-!
# Entries — what is found under a name

* `lookup_putEntry` — what is found after a value was put under a name.
-/

namespace SourceOutline

variable {α : Type} {name key : String} {a : α} {entries : List (String × α)}

/-! ## Look-up -/

theorem lookup_cons_eq_ite (key n : String) (b : α) (rest : List (String × α)) :
    ((n, b) :: rest).lookup key = if key = n then some b else rest.lookup key := by
  rw [List.lookup_cons]
  by_cases hkey : key = n
  · rw [if_pos hkey, beq_iff_eq.2 hkey]
  · rw [if_neg hkey, beq_false_of_ne hkey]

theorem mem_of_lookup_eq_some (h : entries.lookup name = some a) : (name, a) ∈ entries := by
  rcases List.lookup_eq_some_iff.1 h with ⟨before, after, rfl, -⟩
  exact List.mem_append_right before List.mem_cons_self

/-! ## Replacement -/

theorem putEntry_cons (n : String) (b : α) (rest : List (String × α)) :
    putEntry name a ((n, b) :: rest) =
      if n = name then (n, a) :: rest else (n, b) :: putEntry name a rest :=
  rfl

theorem lookup_putEntry (name : String) (a : α) (entries : List (String × α)) (key : String) :
    (putEntry name a entries).lookup key = if key = name then some a else entries.lookup key := by
  induction entries with
  | nil =>
      rw [putEntry, lookup_cons_eq_ite]
  | cons e rest ih =>
      rcases e with ⟨n, b⟩
      rw [putEntry_cons]
      by_cases hn : n = name
      · subst hn
        -- The entry of this name is the one that is replaced.
        rw [if_pos rfl, lookup_cons_eq_ite, lookup_cons_eq_ite]
        by_cases hkey : key = n
        · rw [if_pos hkey, if_pos hkey]
        · rw [if_neg hkey, if_neg hkey, if_neg hkey]
      · rw [if_neg hn, lookup_cons_eq_ite, lookup_cons_eq_ite, ih]
        by_cases hkey : key = n
        · have hother : key ≠ name := hkey ▸ hn
          rw [if_pos hkey, if_pos hkey, if_neg hother]
        · rw [if_neg hkey, if_neg hkey]

theorem putEntry_eq_self (hfound : entries.lookup name = some a) :
    putEntry name a entries = entries := by
  induction entries with
  | nil =>
      cases hfound
  | cons e rest ih =>
      rcases e with ⟨n, b⟩
      rw [lookup_cons_eq_ite] at hfound
      rw [putEntry_cons]
      by_cases hn : n = name
      · rw [if_pos hn.symm] at hfound
        cases hfound
        rw [if_pos hn]
      · rw [if_neg (Ne.symm hn)] at hfound
        rw [if_neg hn, ih hfound]

theorem mem_keys_putEntry :
    key ∈ (putEntry name a entries).map Prod.fst ↔ key ∈ entries.map Prod.fst ∨ name = key := by
  induction entries with
  | nil =>
      simp [putEntry, eq_comm]
  | cons e rest ih =>
      rcases e with ⟨n, b⟩
      rw [putEntry_cons]
      by_cases hn : n = name
      · simp only [hn, if_true, List.map_cons, List.mem_cons]
        rw [eq_comm]
        tauto
      · simp only [hn, if_false, List.map_cons, List.mem_cons, ih]
        tauto

end SourceOutline
