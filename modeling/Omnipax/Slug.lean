import Mathlib.Data.List.Basic

/-!
# Slugs

`slugify`: five rewrites of a text, one after the other. `toLowerCase` goes by
the tables of Unicode and is a parameter, with what they say of the letters that
a slug can have.
-/

namespace Omnipax

/-- `String.prototype.toLowerCase`: the letters of ASCII are mapped among
themselves, and no other letter is mapped to a capital one of these. -/
structure CaseMapping where
  toLowerCase : String → String
  ascii : ∀ s : String, (∀ c ∈ s.toList, c.toNat < 128) →
    toLowerCase s = String.ofList (s.toList.map Char.toLower)
  not_upper : ∀ s : String, ∀ c ∈ (toLowerCase s).toList, c.isUpper = false

namespace Sample

theorem isUpper_toLower (c : Char) : c.toLower.isUpper = false := by
  have hval : c.toLower.val = if c.val ≥ 'A'.val ∧ c.val ≤ 'Z'.val then c.val + 32 else c.val := by
    by_cases h : c.val ≥ 'A'.val ∧ c.val ≤ 'Z'.val
    · exact (congrArg Char.val (dif_pos h)).trans (if_pos h).symm
    · exact (congrArg Char.val (dif_neg h)).trans (if_neg h).symm
  have hrange : ¬(c.toLower.val ≥ 'A'.val ∧ c.toLower.val ≤ 'Z'.val) := by
    rw [hval]
    by_cases h : c.val ≥ 'A'.val ∧ c.val ≤ 'Z'.val
    · rw [if_pos h]
      grind [UInt32.toNat_add, Char.toNat_val]
    · rwa [if_neg h]
  exact decide_eq_false hrange

/-- Letters outside ASCII have no case. -/
def asciiCase : CaseMapping where
  toLowerCase s := String.ofList (s.toList.map Char.toLower)
  ascii _ _ := rfl
  not_upper s c hc := by
    rw [String.toList_ofList] at hc
    obtain ⟨x, -, rfl⟩ := List.mem_map.mp hc
    exact isUpper_toLower x

end Sample

/-- `\s`, and what `trim` removes. -/
def isSpace (c : Char) : Bool :=
  c.toNat ∈ [0x09, 0x0a, 0x0b, 0x0c, 0x0d, 0x20, 0xa0, 0x1680, 0x2028, 0x2029, 0x202f, 0x205f,
    0x3000, 0xfeff] || (0x2000 ≤ c.toNat && c.toNat ≤ 0x200a)

/-- `\w` -/
def isWord (c : Char) : Bool :=
  ('a' ≤ c && c ≤ 'z') || ('A' ≤ c && c ≤ 'Z') || ('0' ≤ c && c ≤ '9') || c == '_'

/-- `[a-z0-9_-]`: the characters of a slug. -/
def isSlugChar (c : Char) : Bool :=
  ('a' ≤ c && c ≤ 'z') || ('0' ≤ c && c ≤ '9') || c == '_' || c == '-'

/-- Each run of such characters replaced by one `r`; `inRun` is whether one has
begun. -/
def replaceRuns (p : Char → Bool) (r : Char) : Bool → List Char → List Char
  | _, [] => []
  | inRun, c :: cs =>
      if p c then
        if inRun then replaceRuns p r true cs else r :: replaceRuns p r true cs
      else c :: replaceRuns p r false cs

def trimBoth (p : Char → Bool) (l : List Char) : List Char :=
  ((l.dropWhile p).reverse.dropWhile p).reverse

def slugify (U : CaseMapping) (text : String) : String :=
  let trimmed := trimBoth isSpace (U.toLowerCase text).toList
  let dashed := replaceRuns isSpace '-' false trimmed
  let words := dashed.filter fun c => isWord c || c == '-'
  -- `--+` leaves a single dash alone, as a run of one
  let single := replaceRuns (· == '-') '-' false words
  String.ofList (trimBoth (· == '-') single)

end Omnipax
