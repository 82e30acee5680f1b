import SourceOutline.Value.Basic

/-!
# Surrogate — texts that are strings, and texts that are not

A text without surrogates is a string and is written as one; the values of texts tell both kinds
apart.
-/

namespace SourceOutline

namespace CodePoint

theorem isSurrogate_ofChar (c : Char) : (ofChar c).isSurrogate = false := by
  have hvalid : c.toNat.isValidChar := c.valid
  simp only [Nat.isValidChar] at hvalid
  rw [isSurrogate, Bool.and_eq_false_iff, decide_eq_false_iff_not, decide_eq_false_iff_not]
  simp only [ofChar]
  omega

theorem toChar_ofChar (c : Char) : (ofChar c).toChar = c := by
  rw [toChar, isSurrogate_ofChar]
  exact Char.ofNat_toNat c

theorem ofChar_toChar {c : CodePoint} (h : c.isSurrogate = false) : ofChar c.toChar = c := by
  -- The surrogates are the only code points that are no characters.
  have hvalid : c.val.isValidChar := by
    have hlt := c.isLt
    simp only [isSurrogate, Bool.and_eq_false_iff, decide_eq_false_iff_not] at h
    simp only [Nat.isValidChar]
    omega
  cases c with
  | mk n hlt =>
      simp only [toChar, h, ofChar, Bool.false_eq_true, if_false, mk.injEq]
      rw [Char.ofNat, dif_pos hvalid]
      rfl

theorem ofNat_eq {c : CodePoint} {n : Nat} (h : n = c.val) : ofNat n = c := by
  cases c with
  | mk val hlt =>
      subst h
      rw [ofNat, dif_pos hlt]

theorem isSurrogate_eq_false_iff {c : CodePoint} :
    c.isSurrogate = false ↔ c.val < 0xD800 ∨ 0xDFFF < c.val := by
  rw [isSurrogate, Bool.and_eq_false_iff, decide_eq_false_iff_not, decide_eq_false_iff_not]
  omega

end CodePoint

namespace Text

theorem any_isSurrogate_ofString (s : String) :
    (ofString s).any CodePoint.isSurrogate = false := by
  rw [List.any_eq_false]
  intro c hc
  rcases List.mem_map.1 hc with ⟨d, -, rfl⟩
  simp [CodePoint.isSurrogate_ofChar]

theorem toString_ofString (s : String) : (ofString s).toString = s := by
  have hchars : (s.toList.map CodePoint.ofChar).map CodePoint.toChar = s.toList := by
    simp [List.map_map, Function.comp_def, CodePoint.toChar_ofChar]
  rw [Text.toString, ofString, hchars, String.ofList_toList]

theorem ofString_toString {t : Text} (h : t.any CodePoint.isSurrogate = false) :
    ofString t.toString = t := by
  rw [Text.toString, ofString, String.toList_ofList, List.map_map]
  have hid : ∀ c ∈ t, (CodePoint.ofChar ∘ CodePoint.toChar) c = c := by
    intro c hc
    exact CodePoint.ofChar_toChar (Bool.eq_false_iff.2 (List.any_eq_false.1 h c hc))
  exact (List.map_congr_left hid).trans (List.map_id' t)

end Text

namespace Value

theorem ofText_ofString (s : String) : ofText (Text.ofString s) = text s := by
  rw [ofText, Text.any_isSurrogate_ofString, Text.toString_ofString]
  simp

theorem toText?_ofText (t : Text) : (ofText t).toText? = some t := by
  unfold ofText
  split
  · rfl
  · rename_i hplain
    rw [toText?, Text.ofString_toString (Bool.eq_false_iff.2 hplain)]

end Value

end SourceOutline
