import SourceOutline.Proofs.Text.LowerCase
import SourceOutline.SourceFile

/-!
# Suffix — by which extension a file is routed

A file is routed by the suffix of its name, which is what stands from the last dot on.  When a name
is a stem with an extension behind it, the suffix depends on the extension alone.
-/

namespace SourceOutline

namespace FilePath

theorem splitSlashes_of_notMem {α : Type} [DecidableEq α] {slash : α} {cs : List α}
    (h : slash ∉ cs) : splitSlashes slash cs = [cs] := by
  induction cs with
  | nil =>
      rfl
  | cons c cs ih =>
      rw [List.mem_cons, not_or] at h
      rw [splitSlashes, if_neg (Ne.symm h.1), ih h.2]

theorem name_ofString {s : String} (hslash : '/' ∉ s.toList) (hempty : s ≠ "") (hdot : s ≠ ".") :
    (ofString s).name = s := by
  simp [name, ofString, splitSlashes_of_notMem hslash, hempty, hdot]

/-- Behind the last dot stands the suffix, if something stands there and the dot is not in front. -/
theorem suffixOf_append {front last : List Char} (hlast : '.' ∉ last) (hfront : front ≠ []) :
    suffixOf (front ++ '.' :: last) = if last = [] then [] else '.' :: last := by
  have hplain : ∀ c ∈ last.reverse, (c != '.') = true := by
    intro c hc
    rw [bne_iff_ne]
    rintro rfl
    exact hlast (List.mem_reverse.1 hc)
  -- The suffix is read from the end of the name, up to the first dot there.
  have hafter : ((front ++ '.' :: last).reverse.takeWhile (· != '.')).reverse = last := by
    rw [List.reverse_append, List.reverse_cons, List.append_assoc,
      List.takeWhile_append_of_pos hplain]
    simp
  have hlength : 0 < front.length := List.length_pos_iff.2 hfront
  unfold suffixOf
  simp only [hafter, List.length_append, List.length_cons]
  by_cases hnil : last = []
  · simp [hnil]
  · have hlong : ¬ front.length + (last.length + 1) < last.length + 2 := by omega
    simp [hnil, hlong]

end FilePath

/-- The path of a file is a stem without a slash, and an extension behind it. -/
def SourceFile.IsNamed (file : SourceFile) (ext : String) : Prop :=
  ∃ stem : String, stem ≠ "" ∧ '/' ∉ stem.toList ∧ file.path = stem ++ ext

/-- Of an extension in lower case a file is routed by what stands from the last dot on, and not at
all if the last dot is the end. -/
theorem SourceFile.extension_of_isNamed {file : SourceFile} {ext : String} {front last : List Char}
    (hfile : file.IsNamed ext) (hlower : IsLowerCase ext) (hslash : '/' ∉ ext.toList)
    (hext : ext.toList = front ++ '.' :: last) (hlast : '.' ∉ last) :
    file.extension = if last = [] then "" else String.ofList ('.' :: last) := by
  rcases hfile with ⟨stem, hstem, hstemSlash, hpath⟩
  have hstemNil : stem.toList ≠ [] := by
    intro h
    exact hstem (String.toList_eq_nil_iff.1 h)
  have hchars : (stem ++ ext).toList = (stem.toList ++ front) ++ '.' :: last := by
    rw [String.toList_append, hext, List.append_assoc]
  have hpathSlash : '/' ∉ (stem ++ ext).toList := by
    rw [String.toList_append, List.mem_append, not_or]
    exact ⟨hstemSlash, hslash⟩
  have hpathLength : (stem ++ ext).toList.length ≠ 0 ∧ (stem ++ ext).toList.length ≠ 1 := by
    have hpos := List.length_pos_iff.2 hstemNil
    rw [hchars]
    simp only [List.length_append, List.length_cons]
    omega
  have hname : (FilePath.ofString (stem ++ ext)).name = stem ++ ext := by
    refine FilePath.name_ofString hpathSlash ?_ ?_
    · intro h
      exact hpathLength.1 (by rw [h]; rfl)
    · intro h
      exact hpathLength.2 (by rw [h]; rfl)
  have hsuffix : (FilePath.ofString (stem ++ ext)).suffix =
      if last = [] then "" else String.ofList ('.' :: last) := by
    rw [FilePath.suffix, hname, hchars, FilePath.suffixOf_append hlast (by simp [hstemNil])]
    split
    · rfl
    · rfl
  rw [SourceFile.extension, fileExtension, hpath, hsuffix]
  -- The suffix is part of the extension, so it is in lower case already.
  refine lowerCase_of_isLowerCase ?_
  intro c hc
  split at hc
  · simp at hc
  · rw [String.toList_ofList] at hc
    exact hlower c (hext ▸ List.mem_append_right front hc)

end SourceOutline
