import Mathlib.Data.List.Chain
import Mathlib.Data.List.DropRight

/-!
# Words and single separators

`words p l`: what stands in `l` between characters that `p` takes for breaks.
A list in which a separator never comes first, last or after another one is the
words of itself, joined.
-/

namespace Text

variable {α : Type}

/-- `cur` is the word that has begun. -/
def wordsFrom (p : α → Bool) : List α → List α → List (List α)
  | cur, [] => if cur.isEmpty then [] else [cur]
  | cur, c :: cs =>
      if p c then if cur.isEmpty then wordsFrom p [] cs else cur :: wordsFrom p [] cs
      else wordsFrom p (cur ++ [c]) cs

/-- The runs of characters that are no breaks. -/
def words (p : α → Bool) (l : List α) : List (List α) := wordsFrom p [] l

/-- Separators stand singly, and between others: such a text is what joining its words gives
back. -/
structure Spaced (r : α) (l : List α) : Prop where
  apart : l.IsChain fun a b => ¬(a = r ∧ b = r)
  head : l.head? ≠ some r
  last : l.getLast? ≠ some r

/-! ## Words -/

section Words

variable {p : α → Bool} {c : α}

theorem wordsFrom_break (cur l : List α) (h : p c = true) :
    wordsFrom p cur (c :: l) = if cur.isEmpty then wordsFrom p [] l else cur :: wordsFrom p [] l := by
  rw [wordsFrom, if_pos h]

theorem wordsFrom_other (cur l : List α) (h : p c = false) :
    wordsFrom p cur (c :: l) = wordsFrom p (cur ++ [c]) l := by
  rw [wordsFrom, if_neg (by simp [h])]

theorem wordsFrom_nil_break (l : List α) (h : p c = true) :
    wordsFrom p [] (c :: l) = wordsFrom p [] l := by
  rw [wordsFrom_break [] l h]
  rfl

theorem wordsFrom_concat (h : p c = true) (cur l : List α) :
    wordsFrom p cur (l ++ [c]) = wordsFrom p cur l := by
  induction l generalizing cur with
  | nil =>
      rw [List.nil_append, wordsFrom_break cur [] h]
      cases cur <;> rfl
  | cons x l ih =>
      rw [List.cons_append]
      cases hx : p x with
      | true => rw [wordsFrom_break _ _ hx, wordsFrom_break _ _ hx, ih]
      | false => rw [wordsFrom_other _ _ hx, wordsFrom_other _ _ hx, ih]

theorem mem_wordsFrom {cur l : List α} {w : List α} (h : w ∈ wordsFrom p cur l) {x : α}
    (hx : x ∈ w) : x ∈ cur ∨ x ∈ l ∧ p x = false := by
  induction l generalizing cur with
  | nil =>
      rw [wordsFrom] at h
      split at h
      · cases h
      · obtain rfl := List.mem_singleton.mp h
        exact Or.inl hx
  | cons c l ih =>
      cases hc : p c with
      | true =>
          rw [wordsFrom_break _ _ hc] at h
          have hrest (hw : w ∈ wordsFrom p [] l) : x ∈ cur ∨ x ∈ c :: l ∧ p x = false := by
            rcases ih hw with hnil | ⟨hmem, hp⟩
            · cases hnil
            · exact Or.inr ⟨List.mem_cons_of_mem _ hmem, hp⟩
          split at h
          · exact hrest h
          · rcases List.mem_cons.mp h with rfl | h
            · exact Or.inl hx
            · exact hrest h
      | false =>
          rw [wordsFrom_other _ _ hc] at h
          rcases ih h with hcur | ⟨hmem, hp⟩
          · rcases List.mem_append.mp hcur with hcur | hcur
            · exact Or.inl hcur
            · obtain rfl := List.mem_singleton.mp hcur
              exact Or.inr ⟨List.mem_cons_self .., hc⟩
          · exact Or.inr ⟨List.mem_cons_of_mem _ hmem, hp⟩

theorem mem_words {l w : List α} (h : w ∈ words p l) {x : α} (hx : x ∈ w) :
    x ∈ l ∧ p x = false :=
  (mem_wordsFrom h hx).resolve_left List.not_mem_nil

/-- Breaks at the beginning, of a text of which parts are left out. -/
theorem words_filter_dropWhile {q : α → Bool} (k : α → Bool) (h : ∀ c, q c = true → p c = true)
    (l : List α) : words p ((l.dropWhile q).filter k) = words p (l.filter k) := by
  induction l with
  | nil => rfl
  | cons c l ih =>
      cases hc : q c with
      | false => rw [List.dropWhile_cons_of_neg (by simp [hc])]
      | true =>
          rw [List.dropWhile_cons_of_pos hc, ih]
          cases hk : k c with
          | true =>
              rw [List.filter_cons_of_pos hk]
              exact (wordsFrom_nil_break _ (h c hc)).symm
          | false => rw [List.filter_cons_of_neg (by simp [hk])]

theorem words_filter_rdropWhile {q : α → Bool} (k : α → Bool) (h : ∀ c, q c = true → p c = true)
    (l : List α) : words p ((l.rdropWhile q).filter k) = words p (l.filter k) := by
  induction l using List.reverseRecOn with
  | nil => rfl
  | append_singleton l c ih =>
      cases hc : q c with
      | false => rw [List.rdropWhile_concat_neg _ _ _ (by simp [hc])]
      | true =>
          rw [List.rdropWhile_concat_pos _ _ _ hc, ih, List.filter_append]
          cases hk : k c with
          | true =>
              rw [List.filter_cons_of_pos hk, List.filter_nil]
              exact (wordsFrom_concat (h c hc) [] _).symm
          | false => rw [List.filter_cons_of_neg (by simp [hk]), List.filter_nil, List.append_nil]

theorem flatten_wordsFrom (cur l : List α) :
    (wordsFrom p cur l).flatten = cur ++ l.filter fun c => !p c := by
  induction l generalizing cur with
  | nil => cases cur <;> simp [wordsFrom]
  | cons c l ih =>
      cases hc : p c with
      | true =>
          rw [wordsFrom_break _ _ hc, List.filter_cons_of_neg (by simp [hc])]
          cases cur with
          | nil => exact ih []
          | cons x cur =>
              rw [if_neg (by simp), List.flatten_cons, ih, List.nil_append]
      | false =>
          rw [wordsFrom_other _ _ hc, ih, List.filter_cons_of_pos (by simp [hc]),
            List.append_assoc, List.singleton_append]

theorem wordsFrom_congr {q : α → Bool} (cur : List α) {l : List α} (h : ∀ c ∈ l, p c = q c) :
    wordsFrom p cur l = wordsFrom q cur l := by
  induction l generalizing cur with
  | nil => rfl
  | cons c l ih =>
      have hrest : ∀ c ∈ l, p c = q c := fun x hx => h x (List.mem_cons_of_mem c hx)
      rw [wordsFrom, wordsFrom, h c (List.mem_cons_self ..), ih [] hrest, ih (cur ++ [c]) hrest]

theorem words_congr {q : α → Bool} {l : List α} (h : ∀ c ∈ l, p c = q c) : words p l = words q l :=
  wordsFrom_congr [] h

theorem flatten_words (l : List α) : (words p l).flatten = l.filter fun c => !p c :=
  flatten_wordsFrom [] l

end Words

/-! ## Words joined -/

theorem intercalate_cons_of_ne_nil (r : α) (w : List α) {ws : List (List α)} (h : ws ≠ []) :
    [r].intercalate (w :: ws) = w ++ r :: [r].intercalate ws := by
  obtain ⟨v, ws, rfl⟩ := List.exists_cons_of_ne_nil h
  simp [List.intercalate]

theorem length_intercalate (r : α) (ws : List (List α)) :
    ([r].intercalate ws).length = ws.flatten.length + (ws.length - 1) := by
  induction ws with
  | nil => rfl
  | cons w ws ih =>
      by_cases h : ws = []
      · subst h
        simp [List.intercalate]
      · rw [intercalate_cons_of_ne_nil r w h, List.length_append, List.length_cons, ih,
          List.flatten_cons, List.length_append, List.length_cons]
        have hpos : 0 < ws.length := List.length_pos_of_ne_nil h
        omega

theorem mem_intercalate {r x : α} {ws : List (List α)} (h : x ∈ [r].intercalate ws) :
    x = r ∨ x ∈ ws.flatten := by
  induction ws with
  | nil => cases h
  | cons w ws ih =>
      by_cases hws : ws = []
      · subst hws
        exact Or.inr (by simpa [List.intercalate] using h)
      · rw [intercalate_cons_of_ne_nil r w hws] at h
        rw [List.flatten_cons]
        rcases List.mem_append.mp h with h | h
        · exact Or.inr (List.mem_append_left _ h)
        · rcases List.mem_cons.mp h with h | h
          · exact Or.inl h
          · exact (ih h).imp_right (List.mem_append_right w)

theorem mem_intercalate_of_flatten (r : α) {x : α} {ws : List (List α)} (h : x ∈ ws.flatten) :
    x ∈ [r].intercalate ws := by
  induction ws with
  | nil => cases h
  | cons w ws ih =>
      by_cases hws : ws = []
      · subst hws
        simpa [List.intercalate] using h
      · rw [intercalate_cons_of_ne_nil r w hws]
        rcases List.mem_append.mp (List.flatten_cons .. ▸ h) with h | h
        · exact List.mem_append_left _ h
        · exact List.mem_append_right _ (List.mem_cons_of_mem _ (ih h))

/-- What is spaced is its words, joined: by induction on the rest, where `cur`
is the word that has begun, if one has. -/
theorem intercalate_wordsFrom [DecidableEq α] {r : α} (cur : List α) {l : List α}
    (hl : l.IsChain fun a b => ¬(a = r ∧ b = r)) (hhead : cur = [] → l.head? ≠ some r)
    (hlast : l.getLast? ≠ some r) :
    [r].intercalate (wordsFrom (· == r) cur l) = cur ++ l := by
  induction l generalizing cur with
  | nil => cases cur <;> simp [wordsFrom, List.intercalate]
  | cons c l ih =>
      have htail : l.IsChain fun a b => ¬(a = r ∧ b = r) := hl.tail
      have hlast' : l.getLast? ≠ some r := by
        intro h
        rw [List.getLast?_cons, h] at hlast
        exact hlast rfl
      by_cases hc : c = r
      · subst hc
        have hcur : cur ≠ [] := fun h => hhead h rfl
        have hnext : l.head? ≠ some c := by
          intro h
          obtain ⟨l', rfl⟩ := List.head?_eq_some_iff.mp h
          exact (List.isChain_cons_cons.mp hl).1 ⟨rfl, rfl⟩
        have hne : l ≠ [] := by
          rintro rfl
          exact hlast rfl
        have hrest := ih [] htail (fun _ => hnext) hlast'
        rw [wordsFrom_break _ _ (by simp), if_neg (by simpa using hcur),
          intercalate_cons_of_ne_nil, hrest, List.nil_append]
        rintro hnil
        rw [hnil] at hrest
        exact hne hrest.symm
      · rw [wordsFrom_other _ _ (by simpa using hc), ih (cur ++ [c]) htail (by simp) hlast',
          List.append_assoc, List.singleton_append]

theorem Spaced.intercalate_words [DecidableEq α] {r : α} {l : List α} (h : Spaced r l) :
    [r].intercalate (words (· == r) l) = l :=
  intercalate_wordsFrom [] h.apart (fun _ => h.head) h.last

end Text
