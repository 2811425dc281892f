import Omnipax.Slug
import Omnipax.Text.Words

/-!
# What slugs look like

The rewrites of `slugify` one by one: none of them changes the words of the
text, and the last ones leave single dashes between them. So a slug is the words
of the text joined by dashes, and is its own slug.
-/

namespace Omnipax

open Text

/-! ## Runs and ends -/

section Rewrites

variable {p : Char → Bool} {r : Char}

theorem trimBoth_eq (l : List Char) : trimBoth p l = (l.dropWhile p).rdropWhile p := rfl

theorem head_replaceRuns (l : List Char) : (replaceRuns (· == r) r true l).head? ≠ some r := by
  induction l with
  | nil => nofun
  | cons c l ih =>
      rw [replaceRuns]
      by_cases hc : c = r
      · rw [if_pos (by simpa using hc), if_pos rfl]
        exact ih
      · rw [if_neg (by simpa using hc)]
        exact fun h => hc (Option.some.inj h)

theorem apart_replaceRuns (b : Bool) (l : List Char) :
    (replaceRuns (· == r) r b l).IsChain fun x y => ¬(x = r ∧ y = r) := by
  induction l generalizing b with
  | nil => exact .nil
  | cons c l ih =>
      rw [replaceRuns]
      by_cases hc : c = r
      · rw [if_pos (by simpa using hc)]
        cases b with
        | true => exact ih true
        | false =>
            refine List.isChain_cons.mpr ⟨fun y hy hr => ?_, ih true⟩
            exact head_replaceRuns l (by rw [Option.mem_def.mp hy, hr.2])
      · rw [if_neg (by simpa using hc)]
        exact List.isChain_cons.mpr ⟨fun _ _ hr => hc hr.1, ih false⟩

theorem spaced_trimBoth {l : List Char} (h : l.IsChain fun x y => ¬(x = r ∧ y = r)) :
    Spaced r (trimBoth (· == r) l) := by
  have hprefix : (l.dropWhile (· == r)).rdropWhile (· == r) <+: l.dropWhile (· == r) :=
    List.rdropWhile_prefix _ _
  have hchain : ((l.dropWhile (· == r)).rdropWhile (· == r)).IsChain fun x y => ¬(x = r ∧ y = r) := by
    obtain ⟨rest, hrest⟩ := hprefix
    have hdrop := h.suffix (List.dropWhile_suffix (· == r))
    rw [← hrest] at hdrop
    exact hdrop.left_of_append
  refine ⟨hchain, fun hhead => ?_, fun hlast => ?_⟩
  · have hnot := List.head?_dropWhile_not (· == r) l
    obtain ⟨l', hl'⟩ := List.head?_eq_some_iff.mp hhead
    obtain ⟨l'', hl''⟩ := hprefix
    rw [← hl'', ← trimBoth_eq, hl'] at hnot
    simp at hnot
  · obtain ⟨hne, hr⟩ := List.mem_getLast?_eq_getLast hlast
    exact List.rdropWhile_last_not _ _ hne (beq_iff_eq.mpr hr.symm)

end Rewrites

/-! ## The words of a text -/

/-- A slug has a dash for it. -/
def isBreak (c : Char) : Bool := isSpace c || c == '-'

/-- What `slugify` keeps of a text, or has a dash for. -/
def kept (text : List Char) : List Char := text.filter fun c => isWord c || isBreak c

/-- The words of a text for its slug. -/
def slugWords (U : CaseMapping) (text : String) : List (List Char) :=
  words isBreak (kept (U.toLowerCase text).toList)

theorem isBreak_of_isSpace {c : Char} (h : isSpace c = true) : isBreak c = true := by
  rw [isBreak, h, Bool.true_or]

theorem kept_cons (c : Char) (cs : List Char) :
    kept (c :: cs) = if isWord c || isBreak c then c :: kept cs else kept cs := by
  cases h : isWord c || isBreak c with
  | true => exact List.filter_cons_of_pos (by simpa using h)
  | false => exact List.filter_cons_of_neg (by simpa using h)

theorem words_trimBoth {p q : Char → Bool} (k : Char → Bool) (h : ∀ c, q c = true → p c = true)
    (l : List Char) : words p ((trimBoth q l).filter k) = words p (l.filter k) := by
  rw [trimBoth_eq, words_filter_rdropWhile k h, words_filter_dropWhile k h]

/-- White space made dashes, and what is neither in a word nor a dash left out:
within a run no word has begun. -/
theorem words_dashed (b : Bool) (cur l : List Char) (h : b = true → cur = []) :
    wordsFrom (· == '-') cur
        ((replaceRuns isSpace '-' b l).filter fun c => isWord c || c == '-')
      = wordsFrom isBreak cur (kept l) := by
  induction l generalizing b cur with
  | nil => rfl
  | cons c l ih =>
      rw [replaceRuns, kept_cons]
      cases hspace : isSpace c with
      | true =>
          have hbreak := isBreak_of_isSpace hspace
          rw [if_pos rfl, hbreak, Bool.or_true, if_pos rfl, wordsFrom_break _ _ hbreak]
          cases b with
          | true =>
              obtain rfl := h rfl
              exact ih true [] fun _ => rfl
          | false =>
              rw [if_neg (by decide), List.filter_cons_of_pos (by decide),
                wordsFrom_break (p := (· == '-')) _ _ (by decide), ih true [] fun _ => rfl]
      | false =>
          rw [if_neg (by decide)]
          have hbreak : isBreak c = (c == '-') := by rw [isBreak, hspace, Bool.false_or]
          rw [hbreak]
          cases hkept : isWord c || c == '-' with
          | false =>
              rw [List.filter_cons_of_neg (by simp [hkept]), if_neg (by decide)]
              exact ih false cur nofun
          | true =>
              rw [List.filter_cons_of_pos (by simpa using hkept), if_pos rfl]
              cases hdash : c == '-' with
              | true =>
                  rw [wordsFrom_break (p := (· == '-')) _ _ hdash, wordsFrom_break _ _ (hbreak.trans hdash),
                    ih false [] nofun]
              | false =>
                  rw [wordsFrom_other (p := (· == '-')) _ _ hdash, wordsFrom_other _ _ (hbreak.trans hdash),
                    ih false (cur ++ [c]) nofun]

theorem words_single (b : Bool) (cur l : List Char) (h : b = true → cur = []) :
    wordsFrom (· == '-') cur (replaceRuns (· == '-') '-' b l) = wordsFrom (· == '-') cur l := by
  induction l generalizing b cur with
  | nil => rfl
  | cons c l ih =>
      rw [replaceRuns]
      cases hdash : c == '-' with
      | true =>
          rw [if_pos rfl, wordsFrom_break (p := (· == '-')) _ l hdash]
          cases b with
          | true =>
              obtain rfl := h rfl
              exact ih true [] fun _ => rfl
          | false =>
              rw [if_neg (by decide), wordsFrom_break (p := (· == '-')) _ _ (by decide), ih true [] fun _ => rfl]
      | false =>
          rw [if_neg (by decide), wordsFrom_other (p := (· == '-')) _ _ hdash,
            wordsFrom_other (p := (· == '-')) _ _ hdash, ih false (cur ++ [c]) nofun]

/-! ## Slugs -/

section Slugs

variable (U : CaseMapping) (text : String)

/-- What the last rewrite starts from. -/
def singleDashes : List Char :=
  replaceRuns (· == '-') '-' false
    ((replaceRuns isSpace '-' false (trimBoth isSpace (U.toLowerCase text).toList)).filter
      fun c => isWord c || c == '-')

theorem toList_slugify :
    (slugify U text).toList = trimBoth (· == '-') (singleDashes U text) := String.toList_ofList

theorem spaced_slugify : Spaced '-' (slugify U text).toList := by
  rw [toList_slugify]
  exact spaced_trimBoth (apart_replaceRuns false _)

/-- A slug is the words of the text joined by dashes. -/
theorem slugify_eq : (slugify U text).toList = ['-'].intercalate (slugWords U text) := by
  have hwords : words (· == '-') (slugify U text).toList = slugWords U text := by
    calc words (· == '-') (slugify U text).toList
        = words (· == '-') (singleDashes U text) := by
          have htrim := words_trimBoth (q := (· == '-')) (fun _ => true) (fun _ h => h)
            (singleDashes U text)
          rwa [List.filter_true, List.filter_true, ← toList_slugify] at htrim
      _ = words (· == '-') ((replaceRuns isSpace '-' false
            (trimBoth isSpace (U.toLowerCase text).toList)).filter fun c => isWord c || c == '-') :=
          words_single false [] _ nofun
      _ = words isBreak (kept (trimBoth isSpace (U.toLowerCase text).toList)) :=
          words_dashed false [] _ nofun
      _ = slugWords U text := words_trimBoth _ (fun _ => isBreak_of_isSpace) _
  rw [← hwords, (spaced_slugify U text).intercalate_words]

theorem isSlugChar_of_isWord {c : Char} (h : isWord c = true) (hupper : c.isUpper = false) :
    isSlugChar c = true := by
  have hcapital : ¬('A' ≤ c ∧ c ≤ 'Z') := of_decide_eq_false hupper
  simp only [isWord, isSlugChar, Bool.or_eq_true, Bool.and_eq_true, decide_eq_true_eq] at h ⊢
  rcases h with ((h | h) | h) | h
  · exact Or.inl (Or.inl (Or.inl h))
  · exact absurd h hcapital
  · exact Or.inl (Or.inl (Or.inr h))
  · exact Or.inl (Or.inr h)

theorem mem_slugWords {c : Char} (h : c ∈ (slugWords U text).flatten) :
    c ∈ (U.toLowerCase text).toList ∧ isWord c = true := by
  obtain ⟨w, hw, hc⟩ := List.mem_flatten.mp h
  obtain ⟨hkept, hbreak⟩ := mem_words hw hc
  obtain ⟨hmem, hword⟩ := List.mem_filter.mp hkept
  exact ⟨hmem, by rwa [hbreak, Bool.or_false] at hword⟩

theorem isSlugChar_of_mem {c : Char} (h : c ∈ (slugify U text).toList) : isSlugChar c = true := by
  rw [slugify_eq] at h
  rcases mem_intercalate h with rfl | h
  · decide
  · obtain ⟨hmem, hword⟩ := mem_slugWords U text h
    exact isSlugChar_of_isWord hword (U.not_upper text c hmem)

theorem toNat_of_isSlugChar {c : Char} (h : isSlugChar c = true) : c.toNat < 128 := by
  simp only [isSlugChar, Bool.or_eq_true, Bool.and_eq_true, decide_eq_true_eq, beq_iff_eq] at h
  rcases h with ((h | h) | rfl) | rfl
  · exact Nat.lt_of_le_of_lt (Char.le_def.mp h.2) (by decide)
  · exact Nat.lt_of_le_of_lt (Char.le_def.mp h.2) (by decide)
  · decide
  · decide

/-- No rewrite changes a character of a slug, nor takes one other than the dash
for a break. -/
theorem isSlugChar_spec {c : Char} (h : isSlugChar c = true) :
    c.toLower = c ∧ (isWord c || isBreak c) = true ∧ isBreak c = (c == '-') := by
  have hall : ∀ n < 128, isSlugChar (Char.ofNat n) = true →
      (Char.ofNat n).toLower = Char.ofNat n ∧
        (isWord (Char.ofNat n) || isBreak (Char.ofNat n)) = true ∧
        isBreak (Char.ofNat n) = (Char.ofNat n == '-') := by decide
  have hc := hall c.toNat (toNat_of_isSlugChar h)
  rw [Char.ofNat_toNat] at hc
  exact hc h

end Slugs

/-- **Slugs**: letters, digits, `_` and single dashes between them, and a slug
is its own slug. -/
theorem slugify_form (U : CaseMapping) (x : String) :
    (∀ c ∈ (slugify U x).toList, isSlugChar c = true) ∧
      (slugify U x).toList.head? ≠ some '-' ∧ (slugify U x).toList.getLast? ≠ some '-' ∧
      (slugify U x).toList.IsChain (fun a b => ¬(a = '-' ∧ b = '-')) ∧
      slugify U (slugify U x) = slugify U x := by
  have hchars : ∀ c ∈ (slugify U x).toList, isSlugChar c = true :=
    fun _ => isSlugChar_of_mem U x
  have hspaced := spaced_slugify U x
  refine ⟨hchars, hspaced.head, hspaced.last, hspaced.apart, String.toList_inj.mp ?_⟩
  have hlower : U.toLowerCase (slugify U x) = slugify U x := by
    rw [U.ascii _ fun c hc => toNat_of_isSlugChar (hchars c hc)]
    refine String.toList_inj.mp (String.toList_ofList.trans ?_)
    exact (List.map_congr_left fun c hc => (isSlugChar_spec (hchars c hc)).1).trans (List.map_id _)
  have hkept : kept (slugify U x).toList = (slugify U x).toList :=
    List.filter_eq_self.mpr fun c hc => (isSlugChar_spec (hchars c hc)).2.1
  calc (slugify U (slugify U x)).toList
      = ['-'].intercalate (words isBreak (slugify U x).toList) := by
        rw [slugify_eq, slugWords, hlower, hkept]
    _ = ['-'].intercalate (words (· == '-') (slugify U x).toList) := by
        rw [words_congr fun c hc => (isSlugChar_spec (hchars c hc)).2.2]
    _ = (slugify U x).toList := hspaced.intercalate_words

theorem slugify_theater :
    slugify Sample.asciiCase " --Rex & Sons\t(No. 2) " = "rex-sons-no-2" ∧
      (slugify Sample.asciiCase " --Rex & Sons\t(No. 2) ").toList.IsChain
        (fun a b => ¬(a = '-' ∧ b = '-')) ∧
      slugify Sample.asciiCase (slugify Sample.asciiCase " --Rex & Sons\t(No. 2) ")
        = slugify Sample.asciiCase " --Rex & Sons\t(No. 2) " :=
  ⟨by decide +kernel, (slugify_form Sample.asciiCase _).2.2.2⟩

end Omnipax
