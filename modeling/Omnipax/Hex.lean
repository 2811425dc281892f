import Mathlib.Data.List.Basic

/-!
# Hexadecimal text

`Buffer.from(text, 'hex')`: digits are decoded in pairs, and the first pair that
is none, or a last digit by itself, ends the buffer silently. So a text is what
is decoded of it, up to the case of its digits, and a rest that leaves no trace.
-/

namespace Omnipax.Hex

def digits : List Char :=
  ['0', '1', '2', '3', '4', '5', '6', '7', '8', '9', 'a', 'b', 'c', 'd', 'e', 'f']

def digit? (c : Char) : Option Nat := digits.findIdx? (· == c.toLower)

/-- `Buffer.from(text, 'hex')` as it is documented: it ends at the first pair that is
not two digits. (For a text with code units above 255 Node 22 looks at their low
bytes, which may be digits.) -/
def decode : List Char → List Nat
  | a :: b :: rest =>
      match digit? a, digit? b with
      | some x, some y => (16 * x + y) :: decode rest
      | _, _ => []
  | _ => []

/-- The pairs of digits that are decoded: all of them up to the first pair that is not
hexadecimal, as `Buffer.from(text, 'hex')` has it. -/
def decoded : List Char → List Char
  | a :: b :: rest =>
      if (digit? a).isSome && (digit? b).isSome then a :: b :: decoded rest else []
  | _ => []

/-- What is left of the text from the first pair that is not hexadecimal, or an odd last
digit. The bytes show nothing of it. -/
def undecoded : List Char → List Char
  | a :: b :: rest =>
      if (digit? a).isSome && (digit? b).isSome then undecoded rest else a :: b :: rest
  | rest => rest

/-- A digit in lower case, and any other character as it is. -/
def fold (c : Char) : Char := if (digit? c).isSome then c.toLower else c

/-- The same text up to the case of hexadecimal digits. -/
def Same (s t : List Char) : Prop := s.map fold = t.map fold

instance (s t : List Char) : Decidable (Same s t) := inferInstanceAs (Decidable (_ = _))

/-! ## Digits -/

theorem digit?_lt {c : Char} {x : Nat} (h : digit? c = some x) : x < 16 :=
  (List.findIdx?_eq_some_iff_getElem.mp h).1

theorem getElem?_of_digit? {c : Char} {x : Nat} (h : digit? c = some x) :
    digits[x]? = some c.toLower := by
  obtain ⟨hlt, hx, -⟩ := List.findIdx?_eq_some_iff_getElem.mp h
  rw [List.getElem?_eq_getElem hlt]
  exact congrArg some (by simpa using hx)

theorem fold_eq_iff {a b : Char} {x y : Nat} (ha : digit? a = some x) (hb : digit? b = some y) :
    fold a = fold b ↔ x = y := by
  unfold fold
  rw [ha, hb, Option.isSome_some, Option.isSome_some, if_pos rfl, if_pos rfl]
  constructor
  · intro h
    have hfind : digit? a = digit? b := by
      unfold digit?
      rw [h]
    rw [ha, hb] at hfind
    exact Option.some.inj hfind
  · rintro rfl
    exact Option.some.inj ((getElem?_of_digit? ha).symm.trans (getElem?_of_digit? hb))

theorem digit?_fold (c : Char) : digit? (fold c) = digit? c := by
  unfold fold
  cases h : digit? c with
  | none => simp [h]
  | some x =>
      have hlower : c.toLower.toLower = c.toLower := by
        have hmem : c.toLower ∈ digits := List.mem_of_getElem? (getElem?_of_digit? h)
        have hall : digits.all (fun l => l.toLower == l) = true := by decide
        exact eq_of_beq (List.all_eq_true.mp hall _ hmem)
      rw [Option.isSome_some, if_pos rfl, ← h]
      unfold digit?
      rw [hlower]

/-! ## Texts -/

theorem decoded_append_undecoded (s : List Char) : decoded s ++ undecoded s = s := by
  fun_induction decoded s with
  | case1 a b rest h ih => simp [undecoded, h, ih]
  | case2 a b rest h => simp [undecoded, h]
  | case3 s h =>
      rw [undecoded.eq_2 s h]
      rfl

theorem decoded_map_fold (s : List Char) : decoded (s.map fold) = (decoded s).map fold := by
  fun_induction decoded s with
  | case1 a b rest h ih => simp [decoded, digit?_fold, h, ih]
  | case2 a b rest h => simp [decoded, digit?_fold, h]
  | case3 s h =>
      match s with
      | [] => rfl
      | [a] => rfl
      | a :: b :: rest => exact absurd rfl (h a b rest)

theorem undecoded_map_fold (s : List Char) : undecoded (s.map fold) = (undecoded s).map fold := by
  fun_induction undecoded s with
  | case1 a b rest h ih => simp [undecoded, digit?_fold, h, ih]
  | case2 a b rest h => simp [undecoded, digit?_fold, h]
  | case3 s h =>
      match s with
      | [] => rfl
      | [a] => rfl
      | a :: b :: rest => exact absurd rfl (h a b rest)

theorem same_iff {s t : List Char} :
    Same s t ↔ Same (decoded s) (decoded t) ∧ Same (undecoded s) (undecoded t) := by
  constructor
  · intro h
    unfold Same at h ⊢
    rw [← decoded_map_fold, ← decoded_map_fold, ← undecoded_map_fold, ← undecoded_map_fold, h]
    exact ⟨rfl, rfl⟩
  · rintro ⟨hdecoded, hrest⟩
    unfold Same at hdecoded hrest ⊢
    rw [← decoded_append_undecoded s, ← decoded_append_undecoded t, List.map_append,
      List.map_append, hdecoded, hrest]

/-- A text begins with a pair of digits, or nothing of it is decoded. -/
theorem decode_cases (s : List Char) :
    (∃ a b rest x y, s = a :: b :: rest ∧ digit? a = some x ∧ digit? b = some y ∧
      decode s = (16 * x + y) :: decode rest ∧ decoded s = a :: b :: decoded rest) ∨
    decode s = [] ∧ decoded s = [] := by
  match s with
  | [] => exact Or.inr ⟨rfl, rfl⟩
  | [a] => exact Or.inr ⟨rfl, rfl⟩
  | a :: b :: rest =>
      cases ha : digit? a with
      | none => exact Or.inr (by simp [decode, decoded, ha])
      | some x =>
          cases hb : digit? b with
          | none => exact Or.inr (by simp [decode, decoded, hb])
          | some y => exact Or.inl ⟨a, b, rest, x, y, rfl, ha, hb, by simp [decode, decoded, ha, hb]⟩

/-- **Bytes**: two texts have the same bytes exactly when the pairs of digits
that are decoded are the same up to their case. -/
theorem decode_eq_iff {s t : List Char} : decode s = decode t ↔ Same (decoded s) (decoded t) := by
  induction hn : s.length using Nat.strongRecOn generalizing s t with
  | ind n ih =>
      rcases decode_cases s with ⟨a, b, rest, x, y, rfl, ha, hb, hs, hs'⟩ | ⟨hs, hs'⟩ <;>
        rcases decode_cases t with ⟨a', b', rest', x', y', rfl, ha', hb', ht, ht'⟩ | ⟨ht, ht'⟩ <;>
        rw [hs, hs', ht, ht']
      · have hrest := ih rest.length (by simp at hn; omega) (s := rest) (t := rest') rfl
        have hbyte : 16 * x + y = 16 * x' + y' ↔ x = x' ∧ y = y' := by
          have hy := digit?_lt hb
          have hy' := digit?_lt hb'
          omega
        simp only [Same, List.map_cons, List.cons.injEq, fold_eq_iff ha ha', fold_eq_iff hb hb']
          at hrest ⊢
        rw [hrest, hbyte, and_assoc]
      · simp [Same]
      · simp [Same]
      · exact iff_of_true rfl rfl

/-- The bytes tell texts apart exactly where what is decoded already does, or
the rest is the same. -/
theorem decode_eq_iff_same {s t : List Char} :
    (decode s = decode t ↔ Same s t) ↔
      (Same (decoded s) (decoded t) → Same (undecoded s) (undecoded t)) := by
  rw [decode_eq_iff]
  constructor
  · intro h hdecoded
    exact (same_iff.mp (h.mp hdecoded)).2
  · intro h
    exact ⟨fun hdecoded => same_iff.mpr ⟨hdecoded, h hdecoded⟩, fun hs => (same_iff.mp hs).1⟩

end Omnipax.Hex
