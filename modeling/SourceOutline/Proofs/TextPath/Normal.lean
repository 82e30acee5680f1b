import SourceOutline.TextPath

/-!
# Normal — paths as reading leaves them

Reading a path leaves one of three anchors and components that are not empty, are no single dot and
hold no slash; a home directory put in for a tilde keeps it so.  Such a path is read back as it was
when it has been written.
-/

namespace SourceOutline

/-! ## Splitting -/

section Splitting

variable {α : Type} [DecidableEq α] {slash : α}

theorem splitSlashes_eq_splitOn (cs : List α) : splitSlashes slash cs = cs.splitOn slash := by
  induction cs with
  | nil =>
      rfl
  | cons c cs ih =>
      rw [splitSlashes, ih, List.splitOn_cons_eq_if_modifyHead]
      by_cases hslash : c = slash
      · rw [if_pos hslash, if_pos (beq_iff_eq.2 hslash)]
      · rw [if_neg hslash, if_neg (fun h => hslash (beq_iff_eq.1 h))]
        cases hsplit : cs.splitOn slash with
        | nil => exact absurd hsplit (List.splitOn_ne_nil slash cs)
        | cons piece pieces => rfl

theorem splitSlashes_intercalate {parts : List (List α)} (hne : parts ≠ [])
    (h : ∀ part ∈ parts, slash ∉ part) :
    splitSlashes slash ([slash].intercalate parts) = parts := by
  rw [splitSlashes_eq_splitOn, List.splitOn_intercalate slash h hne]

theorem slash_notMem_of_mem_splitSlashes {cs piece : List α} (h : piece ∈ splitSlashes slash cs) :
    slash ∉ piece := by
  induction cs generalizing piece with
  | nil =>
      rw [List.mem_singleton.1 h]
      exact List.not_mem_nil
  | cons c cs ih =>
      rw [splitSlashes] at h
      split at h
      · rcases List.mem_cons.1 h with rfl | hrest
        · exact List.not_mem_nil
        · exact ih hrest
      · rename_i hslash
        split at h
        -- A character other than the slash is put in front of the first piece.
        · rw [List.mem_singleton.1 h, List.mem_singleton]
          exact Ne.symm hslash
        · rename_i first others hsplit
          rw [hsplit] at ih
          rcases List.mem_cons.1 h with rfl | hrest
          · rw [List.mem_cons, not_or]
            exact ⟨Ne.symm hslash, ih List.mem_cons_self⟩
          · exact ih (List.mem_cons_of_mem _ hrest)

end Splitting

namespace TextPath

/-! ## Normal paths -/

/-- What can stand between the slashes of a path that has been read. -/
structure IsComponent (part : Text) : Prop where
  nonempty : part ≠ []
  ne_dot : part ≠ [dot]
  plain : slash ∉ part

/-- The path is as reading leaves it. -/
structure IsNormal (p : TextPath) : Prop where
  anchor : p.anchor = "" ∨ p.anchor = "/" ∨ p.anchor = "//"
  parts : ∀ part ∈ p.parts, IsComponent part

variable {p q : TextPath} {home name : Text}

theorem isNormal_ofText (t : Text) : (ofText t).IsNormal where
  anchor := by
    simp only [ofText, FilePath.anchorOf]
    split
    · exact .inl rfl
    · split
      · exact .inr (.inr rfl)
      · exact .inr (.inl rfl)
  parts := by
    intro part hpart
    rcases List.mem_filter.1 hpart with ⟨hmem, hkept⟩
    rw [Bool.and_eq_true, bne_iff_ne, bne_iff_ne] at hkept
    exact ⟨hkept.1, hkept.2, slash_notMem_of_mem_splitSlashes hmem⟩

theorem isNormal_homeOf (h : homeOf home name = .ok p) : p.IsNormal := by
  unfold homeOf at h
  split at h
  · split at h
    · cases h
    · cases h
      exact isNormal_ofText _
  · split at h
    · cases h
    · split at h
      · cases h
      · split at h
        · cases h
          exact isNormal_ofText _
        · cases h

theorem isNormal_expandHome (hp : p.IsNormal) (h : p.expandHome home = .ok q) : q.IsNormal := by
  unfold expandHome at h
  split at h
  · cases h
    exact hp
  · rename_i name huser
    cases hbase : homeOf home name with
    | error why =>
        rw [hbase] at h
        cases h
    | ok base =>
        rw [hbase] at h
        cases h
        -- The home directory stands in the place of the component with the tilde.
        have hnormal := isNormal_homeOf hbase
        refine ⟨hnormal.anchor, fun part hpart => ?_⟩
        rcases List.mem_append.1 hpart with hpart | hpart
        · exact hnormal.parts part hpart
        · exact hp.parts part (List.mem_of_mem_tail hpart)

/-! ## Writing and reading -/

theorem takeWhile_slash_intercalate {parts : List Text} (h : ∀ part ∈ parts, IsComponent part) :
    ([slash].intercalate parts).takeWhile (· == slash) = [] := by
  cases parts with
  | nil => rfl
  | cons part rest =>
      -- The first component begins with a character other than the slash.
      have hpart := h part List.mem_cons_self
      cases part with
      | nil => exact absurd rfl hpart.nonempty
      | cons c cs =>
          have hc : c ≠ slash := fun hc => hpart.plain (hc ▸ List.mem_cons_self)
          cases rest <;> simp [List.intercalate, hc]

theorem filter_splitSlashes_intercalate {parts : List Text} (h : ∀ part ∈ parts, IsComponent part) :
    (splitSlashes slash ([slash].intercalate parts)).filter
      (fun part => part != [] && part != [dot]) = parts := by
  cases parts with
  | nil => rfl
  | cons part rest =>
      have hplain : ∀ p ∈ part :: rest, slash ∉ p := fun p hp => (h p hp).plain
      rw [splitSlashes_intercalate (List.cons_ne_nil part rest) hplain, List.filter_eq_self]
      intro p hp
      rw [Bool.and_eq_true, bne_iff_ne, bne_iff_ne]
      exact ⟨(h p hp).nonempty, (h p hp).ne_dot⟩

theorem ofText_replicate_append (n : Nat) {parts : List Text}
    (h : ∀ part ∈ parts, IsComponent part) :
    ofText (List.replicate n slash ++ [slash].intercalate parts) =
      { anchor := FilePath.anchorOf n, parts } := by
  have hparts : (splitSlashes slash (List.replicate n slash ++ [slash].intercalate parts)).filter
      (fun part => part != [] && part != [dot]) = parts := by
    induction n with
    | zero => exact filter_splitSlashes_intercalate h
    | succ n ih =>
        -- One slash more leaves one empty piece more, and those are left out.
        rw [List.replicate_succ, List.cons_append, splitSlashes, if_pos rfl, List.filter_cons]
        exact ih
  have hslashes : (List.replicate n slash ++ [slash].intercalate parts).takeWhile (· == slash) =
      List.replicate n slash := by
    rw [List.takeWhile_append_of_pos (by simp), takeWhile_slash_intercalate h, List.append_nil]
  rw [ofText, hslashes, hparts, List.length_replicate]

theorem IsNormal.exists_anchorOf (h : p.IsNormal) :
    ∃ n, Text.ofString p.anchor = List.replicate n slash ∧ FilePath.anchorOf n = p.anchor := by
  rcases h.anchor with hanchor | hanchor | hanchor
  · exact ⟨0, by rw [hanchor]; rfl, hanchor.symm⟩
  · exact ⟨1, by rw [hanchor]; rfl, hanchor.symm⟩
  · exact ⟨2, by rw [hanchor]; rfl, hanchor.symm⟩

/-- A path that reading left is read back from what is written for it. -/
theorem ofText_toText (h : p.IsNormal) : ofText p.toText = p := by
  rcases h.exists_anchorOf with ⟨n, hslashes, hn⟩
  rw [toText]
  split
  · rename_i hempty
    rcases p with ⟨anchor, parts⟩
    rcases hempty with ⟨rfl, rfl⟩
    rfl
  · rw [hslashes, ofText_replicate_append n h.parts, hn]

end TextPath

end SourceOutline
