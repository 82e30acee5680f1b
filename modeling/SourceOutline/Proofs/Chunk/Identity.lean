import Mathlib
import SourceOutline.Chunk.Basic
import SourceOutline.Proofs.Text.Utf8

/-!
# Identity — the bytes over which the digest of a chunk is taken determine the chunk's identity

The parts of an identity are joined with a separator.  Decimal numbers and the words for levels do
not hold it, names may.  A name comes last, so everything after the fifth separator belongs to it.
A path or a language that holds the separator can take over other parts; one that two identities
have in common cannot.

* `Identity.digestInput_inj` — equal digest inputs mean equal identities.
-/

namespace SourceOutline

/-! ## Levels and lines in text -/

theorem Level.name_injective : Function.Injective Level.name := by
  intro k l h
  cases k <;> cases l <;> first | rfl | exact absurd h (by decide)

namespace Identity

theorem separator_notMem_name (l : Level) : separator ∉ Text.ofString l.name := by
  cases l <;> decide

theorem isDigit_or_eq_of_mem_decimal {line : Int} {c : Char} (h : c ∈ (toString line).toList) :
    c.isDigit = true ∨ c = '-' := by
  have hdigit : ∀ {n : Nat}, c ∈ n.repr.toList → c.isDigit = true := by
    intro n hc
    rw [Nat.toList_repr] at hc
    exact Nat.isDigit_of_mem_toDigits (by decide) (by decide) hc
  rw [Int.toString_eq_repr, Int.repr_eq_if] at h
  split_ifs at h
  · exact .inl (hdigit h)
  · rw [String.toList_append] at h
    rcases List.mem_append.1 h with hsign | hc
    · exact .inr (by simpa using hsign)
    · exact .inl (hdigit hc)

theorem separator_notMem_decimal (line : Int) : separator ∉ Text.ofString (toString line) := by
  intro h
  rcases List.mem_map.1 h with ⟨c, hc, hval⟩
  have hcode : c.toNat = 0x1F := congrArg CodePoint.val hval
  rcases isDigit_or_eq_of_mem_decimal hc with hdigit | rfl
  · have hchar : c = Char.ofNat 0x1F := Char.toNat_inj.1 hcode
    rw [hchar] at hdigit
    exact absurd hdigit (by decide)
  · exact absurd hcode (by decide)

theorem decimal_injective : Function.Injective fun line : Int => Text.ofString (toString line) := by
  intro k l h
  have hstring : toString k = toString l := Text.ofString_injective h
  have hread : some k = some l := by
    calc
      some k = (toString k).toInt? := by rw [Int.toString_eq_repr, Int.toInt?_repr]
      _ = (toString l).toInt? := by rw [hstring]
      _ = some l := by rw [Int.toString_eq_repr, Int.toInt?_repr]
  exact Option.some.inj hread

/-! ## Joined parts -/

/-- What comes before the first separator can be told from what comes after it. -/
theorem append_separator_inj {t u xs ys : Text} (ht : separator ∉ t) (hu : separator ∉ u)
    (h : t ++ separator :: xs = u ++ separator :: ys) : t = u ∧ xs = ys := by
  induction t generalizing u with
  | nil =>
      cases u with
      | nil => exact ⟨rfl, (List.cons.inj h).2⟩
      | cons d u =>
          -- The separator on the left would be a character of `u`.
          have hhead : separator = d := (List.cons.inj h).1
          exact absurd (hhead ▸ List.mem_cons_self) hu
  | cons c t ih =>
      cases u with
      | nil =>
          have hhead : c = separator := (List.cons.inj h).1
          exact absurd (hhead ▸ List.mem_cons_self) ht
      | cons d u =>
          have hcons := List.cons.inj h
          have htail := ih (fun hc => ht (List.mem_cons_of_mem c hc))
            (fun hd => hu (List.mem_cons_of_mem d hd)) hcons.2
          exact ⟨by rw [hcons.1, htail.1], htail.2⟩

/-- The first of several joined parts can be split off if it does not hold the separator, or if it
is known. -/
theorem joinParts_cons_inj {t u v w : Text} {ts us : List Text}
    (hfirst : t = u ∨ separator ∉ t ∧ separator ∉ u)
    (h : joinParts (t :: v :: ts) = joinParts (u :: w :: us)) :
    t = u ∧ joinParts (v :: ts) = joinParts (w :: us) := by
  have happend : t ++ separator :: joinParts (v :: ts) = u ++ separator :: joinParts (w :: us) := h
  rcases hfirst with rfl | ⟨ht, hu⟩
  · have hrest := List.append_cancel_left happend
    exact ⟨rfl, (List.cons.inj hrest).2⟩
  · exact append_separator_inj ht hu happend

/-! ## Identities -/

variable {i j : Identity} {k l : Level}

/-- Identities with the same digest input are the same, if their levels are levels and their paths
and languages either do not hold the separator or are known to be the same. -/
theorem eq_of_digestInput_eq (hi : i.level = Text.ofString k.name)
    (hj : j.level = Text.ofString l.name)
    (hpath : i.path = j.path ∨ separator ∉ i.path ∧ separator ∉ j.path)
    (hlanguage : i.language = j.language ∨ separator ∉ i.language ∧ separator ∉ j.language)
    (h : i.digestInput = j.digestInput) : i = j := by
  have hjoined : joinParts i.parts = joinParts j.parts := Utf8.encode_injective h
  -- One part after the other is split off; neither levels nor decimal numbers hold the separator.
  have hlevels : separator ∉ i.level ∧ separator ∉ j.level := by
    rw [hi, hj]
    exact ⟨separator_notMem_name k, separator_notMem_name l⟩
  rcases joinParts_cons_inj hpath hjoined with ⟨hpaths, hafterPath⟩
  rcases joinParts_cons_inj
      (.inr ⟨separator_notMem_decimal i.startLine, separator_notMem_decimal j.startLine⟩)
      hafterPath with ⟨hstart, hafterStart⟩
  rcases joinParts_cons_inj
      (.inr ⟨separator_notMem_decimal i.endLine, separator_notMem_decimal j.endLine⟩)
      hafterStart with ⟨hend, hafterEnd⟩
  rcases joinParts_cons_inj (.inr hlevels) hafterEnd with ⟨hlevel, hafterLevel⟩
  -- What is left after the language is the name, with all separators that are in it.
  rcases joinParts_cons_inj hlanguage hafterLevel with ⟨hlanguages, hname⟩
  have hnames : i.name = j.name := hname
  have hstarts := decimal_injective hstart
  have hends := decimal_injective hend
  cases i
  cases j
  rw [mk.injEq]
  exact ⟨hpaths, hstarts, hends, hlevel, hlanguages, hnames⟩

/-- Equal digest inputs mean equal identities when no path and no language holds the separator; when
the paths are the same and the languages are the same, they mean that all else is. -/
theorem digestInput_inj (hi : i.level = Text.ofString k.name) (hj : j.level = Text.ofString l.name) :
    (separator ∉ i.path → separator ∉ i.language → separator ∉ j.path → separator ∉ j.language →
      (i.digestInput = j.digestInput ↔ i = j)) ∧
    (i.path = j.path → i.language = j.language →
      (i.digestInput = j.digestInput ↔
        i.startLine = j.startLine ∧ i.endLine = j.endLine ∧ i.level = j.level ∧
          i.name = j.name)) := by
  constructor
  · intro hpi hli hpj hlj
    constructor
    · intro h
      exact eq_of_digestInput_eq hi hj (.inr ⟨hpi, hpj⟩) (.inr ⟨hli, hlj⟩) h
    · rintro rfl
      rfl
  · intro hpath hlanguage
    constructor
    · intro h
      have hsame := eq_of_digestInput_eq hi hj (.inl hpath) (.inl hlanguage) h
      exact ⟨by rw [hsame], by rw [hsame], by rw [hsame], by rw [hsame]⟩
    · rintro ⟨hstart, hend, hlevel, hname⟩
      simp only [digestInput, parts, hpath, hlanguage, hstart, hend, hlevel, hname]

/-- Methods of some lines, with the separator for a name. -/
def spanning (path : Text) (startLine endLine : Int) : Identity where
  path := path
  startLine := startLine
  endLine := endLine
  level := Text.ofString Level.method.name
  language := Text.ofString "go"
  name := [separator]

theorem level_spanning (path : Text) (startLine endLine : Int) :
    (spanning path startLine endLine).level = Text.ofString Level.method.name := rfl

/-- The digits of two lines do not run together, neither below a path with a lone surrogate nor
below one with the separator. -/
theorem digestInput_spanning_ne :
    (spanning [⟨0xD800, by decide⟩] (-1) 23).digestInput ≠
        (spanning [⟨0xD800, by decide⟩] (-12) 3).digestInput ∧
      (spanning [separator] (-1) 23).digestInput ≠ (spanning [separator] (-12) 3).digestInput := by
  constructor
  · intro h
    have hinj := (digestInput_inj (level_spanning [⟨0xD800, by decide⟩] (-1) 23)
      (level_spanning [⟨0xD800, by decide⟩] (-12) 3)).1
      (by decide) (by decide) (by decide) (by decide)
    exact absurd (hinj.1 h) (by decide)
  · intro h
    have hinj := (digestInput_inj (level_spanning [separator] (-1) 23)
      (level_spanning [separator] (-12) 3)).2 rfl rfl
    exact absurd (hinj.1 h) (by decide)

/-- A path that holds the separator can take over the lines, the level and the language. -/
example :
    let method (path name : String) : Identity :=
      ⟨Text.ofString path, 1, 2, Text.ofString "method", Text.ofString "go", Text.ofString name⟩
    (method "a" "1\x1f2\x1fmethod\x1fgo\x1fb").digestInput =
      (method "a\x1f1\x1f2\x1fmethod\x1fgo" "b").digestInput := by
  decide

end Identity

/-! ## Chunks -/

/-- Chunks of one file and one language have the same digest input exactly if they have the same
lines, level and name. -/
theorem Chunk.digestInput_eq_iff {c d : Chunk} (hpath : c.path = d.path)
    (hlanguage : c.language = d.language) :
    c.identity.digestInput = d.identity.digestInput ↔
      c.startLine = d.startLine ∧ c.endLine = d.endLine ∧ c.level = d.level ∧ c.name = d.name := by
  constructor
  · intro h
    have hpaths : c.identity.path = d.identity.path := congrArg Text.ofString hpath
    have hlanguages : c.identity.language = d.identity.language :=
      congrArg Text.ofString hlanguage
    have hsame := Identity.eq_of_digestInput_eq (k := c.level) (l := d.level) rfl rfl
      (.inl hpaths) (.inl hlanguages) h
    have hlevel : c.level.name = d.level.name :=
      Text.ofString_injective (congrArg Identity.level hsame)
    exact ⟨congrArg Identity.startLine hsame, congrArg Identity.endLine hsame,
      Level.name_injective hlevel, congrArg Identity.name hsame⟩
  · rintro ⟨hstart, hend, hlevel, hname⟩
    simp only [identity, hpath, hlanguage, hstart, hend, hlevel, hname]

end SourceOutline
