import Mathlib.Algebra.Order.Floor.Defs
import Mathlib.Data.Rat.Floor

/-!
# Numbers of JavaScript in JSON

A Number is a rational number that is a binary64 value, or an infinity; the two
zeros are not told apart. A literal stands for the nearest Number, of two the one
with the even significand. An integer is written with the fewest digits that stand
for it, so what is written is read again, however large it is.
-/

namespace Text

inductive JsNumber where
  | finite (q : ℚ)
  | infinite (negative : Bool)
deriving DecidableEq

/-! ## Rounding -/

def roundHalfEven (q : ℚ) : ℤ :=
  let f := ⌊q⌋
  if q - f < 1 / 2 then f
  else if 1 / 2 < q - f then f + 1
  else if f % 2 = 0 then f
  else f + 1

/-- The exponent of the power of two at or below a positive number. -/
def binaryExponent (q : ℚ) : ℤ :=
  let e : ℤ := Nat.log2 q.num.natAbs - Nat.log2 q.den
  if (2 : ℚ) ^ e ≤ q then e else e - 1

def roundDouble (q : ℚ) : JsNumber :=
  if q = 0 then .finite 0
  else
    let ulp : ℚ := 2 ^ (max (binaryExponent |q|) (-1022) - 52)
    let r : ℚ := roundHalfEven (q / ulp) * ulp
    if 2 ^ 1024 ≤ |r| then .infinite (decide (q < 0)) else .finite r

def JsNumber.neg : JsNumber → JsNumber
  | .finite q => .finite (-q)
  | .infinite negative => .infinite !negative

/-- An integer that is a Number. -/
structure JsInteger where
  value : ℤ
  rounds : roundDouble value.natAbs = .finite value.natAbs

/-! ## Literals -/

/-- The digits at the start of a text, and the rest. -/
def digitsOf (cs : List Char) : List Char × List Char :=
  (cs.takeWhile Char.isDigit, cs.dropWhile Char.isDigit)

def fraction : List Char → Option (List Char × List Char)
  | [] => some ([], [])
  | c :: rest =>
      if c = '.' then
        if (digitsOf rest).1 = [] then none else some (digitsOf rest)
      else some ([], c :: rest)

/-- The sign of an exponent, if it has one. -/
def exponentSign : List Char → ℤ × List Char
  | [] => (1, [])
  | c :: rest => if c = '+' then (1, rest) else if c = '-' then (-1, rest) else (1, c :: rest)

def exponent : List Char → Option (ℤ × List Char)
  | [] => some (0, [])
  | c :: rest =>
      if c = 'e' ∨ c = 'E' then
        let digits := digitsOf (exponentSign rest).2
        if digits.1 = [] then none
        else some ((exponentSign rest).1 * Nat.ofDigitChars 10 digits.1 0, digits.2)
      else some (0, c :: rest)

def unsigned (cs : List Char) : Option (JsNumber × List Char) :=
  let integer := digitsOf cs
  if integer.1 = [] ∨ integer.1.head? = some '0' ∧ integer.1 ≠ ['0'] then none
  else
    match fraction integer.2 with
    | none => none
    | some (digits, rest) =>
        match exponent rest with
        | none => none
        | some (e, rest) => some (roundDouble
            (Nat.ofDigitChars 10 (integer.1 ++ digits) 0 * (10 : ℚ) ^ (e - digits.length)), rest)

def number : List Char → Option (JsNumber × List Char)
  | [] => none
  | c :: rest =>
      if c = '-' then (unsigned rest).map fun r => (r.1.neg, r.2) else unsigned (c :: rest)

/-! ## Writing -/

/-- The significands below and above, of `n` without its last `j` digits, the nearer
one first. -/
def significands (n j : ℕ) : List ℕ :=
  let below := n / 10 ^ j
  let rest := 2 * (n % 10 ^ j)
  if rest < 10 ^ j ∨ rest = 10 ^ j ∧ below % 2 = 0 then [below, below + 1] else [below + 1, below]

def standsFor (n j s : ℕ) : Bool := s != 0 && roundDouble (s * 10 ^ j) == .finite n

/-- A significand that is short of `j` digits or fewer. -/
def shortest (n : ℕ) : ℕ → ℕ × ℕ
  | 0 => (n, 0)
  | j + 1 =>
      match (significands n (j + 1)).find? (standsFor n (j + 1)) with
      | some s => (s, j + 1)
      | none => shortest n j

def positional (s j : ℕ) : List Char := Nat.toDigits 10 s ++ List.replicate j '0'

def exponential (s j : ℕ) : List Char :=
  let digits := Nat.toDigits 10 s
  digits.take 1 ++ (if digits.length = 1 then [] else '.' :: digits.drop 1) ++
    'e' :: '+' :: Nat.toDigits 10 (digits.length + j - 1)

def naturalText (n : ℕ) : List Char :=
  let digits := shortest n (Nat.toDigits 10 n).length
  if (Nat.toDigits 10 digits.1).length + digits.2 ≤ 21 then positional digits.1 digits.2
  else exponential digits.1 digits.2

/-- `Number::toString` of an integer. -/
def integerText (n : ℤ) : List Char :=
  if n < 0 then '-' :: naturalText n.natAbs else naturalText n.natAbs

example : integerText (2 ^ 60) = "1152921504606847000".toList := by decide +kernel

/-! ## Round trip -/

/-- No number goes on with it. -/
def Delimits (rest : List Char) : Prop :=
  ∀ c ∈ rest.head?, c.isDigit = false ∧ c ≠ '.' ∧ c ≠ 'e' ∧ c ≠ 'E'

section RoundTrip

variable {ds rest : List Char} {n j s : ℕ}

theorem digitsOf_append (hds : ∀ c ∈ ds, c.isDigit = true)
    (hrest : ∀ c ∈ rest.head?, c.isDigit = false) : digitsOf (ds ++ rest) = (ds, rest) := by
  have hstop : rest.takeWhile Char.isDigit = [] ∧ rest.dropWhile Char.isDigit = rest := by
    cases rest with
    | nil => exact ⟨rfl, rfl⟩
    | cons c rest =>
        have hc := hrest c rfl
        exact ⟨by rw [List.takeWhile_cons, hc]; rfl, by rw [List.dropWhile_cons, hc]; rfl⟩
  rw [digitsOf, List.takeWhile_append_of_pos hds, List.dropWhile_append_of_pos hds, hstop.1,
    hstop.2, List.append_nil]

theorem isDigit_toDigits {c : Char} (h : c ∈ Nat.toDigits 10 n) : c.isDigit = true :=
  Nat.isDigit_of_mem_toDigits (by decide) (by decide) h

theorem head?_toDigits (h : 0 < n) : (Nat.toDigits 10 n).head? ≠ some '0' := by
  induction n using Nat.strong_induction_on with
  | _ n ih =>
      rw [Nat.toDigits_eq_if (by decide)]
      split
      · rename_i hlt
        have hall : ∀ n < 10, 0 < n → [n.digitChar].head? ≠ some '0' := by decide
        exact hall n hlt h
      · rename_i hle
        rw [List.head?_append_of_ne_nil _ Nat.toDigits_ne_nil]
        exact ih (n / 10) (by omega) (by omega)

theorem fraction_of_delimits (h : Delimits rest) : fraction rest = some ([], rest) := by
  cases rest with
  | nil => rfl
  | cons c rest => exact if_neg (h c rfl).2.1

theorem exponent_of_delimits (h : Delimits rest) : exponent rest = some (0, rest) := by
  cases rest with
  | nil => rfl
  | cons c rest =>
      refine if_neg ?_
      rintro (hc | hc)
      · exact (h c rfl).2.2.1 hc
      · exact (h c rfl).2.2.2 hc

theorem unsigned_positional (h : 0 < s) (hrest : Delimits rest) :
    unsigned (positional s j ++ rest) = some (roundDouble (s * 10 ^ j), rest) := by
  have hdigits : ∀ c ∈ positional s j, c.isDigit = true := by
    intro c hc
    rcases List.mem_append.mp hc with hc | hc
    · exact isDigit_toDigits hc
    · rw [List.eq_of_mem_replicate hc]
      rfl
  have hinteger : digitsOf (positional s j ++ rest) = (positional s j, rest) :=
    digitsOf_append hdigits fun c hc => (hrest c hc).1
  have hne : positional s j ≠ [] := by simp [positional]
  have hhead : (positional s j).head? ≠ some '0' := by
    rw [positional, List.head?_append_of_ne_nil _ Nat.toDigits_ne_nil]
    exact head?_toDigits h
  have hvalue : Nat.ofDigitChars 10 (positional s j ++ []) 0 = s * 10 ^ j := by
    rw [List.append_nil, positional, Nat.ofDigitChars_append, Nat.ofDigitChars_ten_toDigits,
      Nat.ofDigitChars_replicate_zero, Nat.mul_comm]
  rw [unsigned, hinteger]
  dsimp only
  rw [if_neg (not_or.mpr ⟨hne, fun hzero => hhead hzero.1⟩), fraction_of_delimits hrest]
  dsimp only
  rw [exponent_of_delimits hrest]
  dsimp only
  rw [hvalue]
  simp

/-- A fraction up to an exponent, which may have no digits. -/
theorem fraction_append (hds : ∀ c ∈ ds, c.isDigit = true) (tail : List Char) :
    fraction ((if ds = [] then [] else '.' :: ds) ++ 'e' :: tail) = some (ds, 'e' :: tail) := by
  by_cases hnil : ds = []
  · subst hnil
    rfl
  · have hdigits : digitsOf (ds ++ 'e' :: tail) = (ds, 'e' :: tail) :=
      digitsOf_append hds fun c hc => by
        obtain rfl := Option.some.inj hc
        rfl
    rw [if_neg hnil]
    show (if (digitsOf (ds ++ 'e' :: tail)).1 = [] then none else some (digitsOf (ds ++ 'e' :: tail)))
      = _
    rw [hdigits, if_neg hnil]

theorem exponent_append (hrest : Delimits rest) :
    exponent ('e' :: '+' :: (Nat.toDigits 10 n ++ rest)) = some ((n : ℤ), rest) := by
  have hdigits : digitsOf (Nat.toDigits 10 n ++ rest) = (Nat.toDigits 10 n, rest) :=
    digitsOf_append (fun c hc => isDigit_toDigits hc) fun c hc => (hrest c hc).1
  show (if (digitsOf (Nat.toDigits 10 n ++ rest)).1 = [] then none else
    some (1 * (Nat.ofDigitChars 10 (digitsOf (Nat.toDigits 10 n ++ rest)).1 0 : ℤ),
      (digitsOf (Nat.toDigits 10 n ++ rest)).2)) = _
  rw [hdigits, if_neg Nat.toDigits_ne_nil, Nat.ofDigitChars_ten_toDigits, Int.one_mul]

theorem unsigned_exponential (h : 0 < s) (hrest : Delimits rest) :
    unsigned (exponential s j ++ rest) = some (roundDouble (s * 10 ^ j), rest) := by
  obtain ⟨d, ds, hds⟩ := List.exists_cons_of_ne_nil (Nat.toDigits_ne_nil (b := 10) (n := s))
  have hall : ∀ c ∈ d :: ds, c.isDigit = true := fun c hc => isDigit_toDigits (hds ▸ hc)
  have hzero : d ≠ '0' := by
    have hhead := head?_toDigits h
    rw [hds] at hhead
    exact fun hd => hhead (congrArg some hd)
  have htext : exponential s j ++ rest = [d] ++ ((if ds = [] then [] else '.' :: ds) ++
      'e' :: '+' :: (Nat.toDigits 10 (ds.length + j) ++ rest)) := by
    simp [exponential, hds, List.length_eq_zero_iff]
  have hinteger : digitsOf ([d] ++ ((if ds = [] then [] else '.' :: ds) ++
      'e' :: '+' :: (Nat.toDigits 10 (ds.length + j) ++ rest))) = ([d], _) :=
    digitsOf_append (fun c hc => hall c (List.mem_singleton.mp hc ▸ List.mem_cons_self ..))
      fun c hc => by
        split at hc
        · obtain rfl := Option.some.inj hc
          rfl
        · obtain rfl := Option.some.inj hc
          rfl
  have hvalue : Nat.ofDigitChars 10 ([d] ++ ds) 0 = s := by
    rw [List.singleton_append, ← hds, Nat.ofDigitChars_ten_toDigits]
  rw [htext, unsigned, hinteger]
  dsimp only
  rw [if_neg (by simp [hzero]), fraction_append fun c hc => hall c (List.mem_cons_of_mem _ hc)]
  dsimp only
  rw [exponent_append hrest]
  dsimp only
  rw [hvalue, show ((ds.length + j : ℕ) : ℤ) - ds.length = j by omega, zpow_natCast]

theorem shortest_spec (h : 0 < n) (hn : roundDouble n = .finite n) (j : ℕ) :
    0 < (shortest n j).1 ∧
      roundDouble ((shortest n j).1 * 10 ^ (shortest n j).2) = .finite n := by
  induction j with
  | zero => exact ⟨h, by simpa [shortest] using hn⟩
  | succ j ih =>
      rw [shortest]
      split
      · rename_i s hs
        have hfits := List.find?_some hs
        rw [standsFor, Bool.and_eq_true, bne_iff_ne, beq_iff_eq] at hfits
        exact ⟨Nat.pos_of_ne_zero hfits.1, hfits.2⟩
      · exact ih

theorem unsigned_naturalText (h : 0 < n) (hn : roundDouble n = .finite n) (hrest : Delimits rest) :
    unsigned (naturalText n ++ rest) = some (.finite n, rest) := by
  obtain ⟨hpos, hround⟩ := shortest_spec h hn (Nat.toDigits 10 n).length
  rw [naturalText]
  split
  · rw [unsigned_positional hpos hrest, hround]
  · rw [unsigned_exponential hpos hrest, hround]

theorem naturalText_cons (n : ℕ) : ∃ d ds, naturalText n = d :: ds ∧ d.isDigit = true := by
  rw [naturalText]
  generalize shortest n (Nat.toDigits 10 n).length = digits
  obtain ⟨d, ds, hds⟩ := List.exists_cons_of_ne_nil (Nat.toDigits_ne_nil (b := 10) (n := digits.1))
  have hd : d.isDigit = true := isDigit_toDigits (n := digits.1) (hds ▸ List.mem_cons_self ..)
  split
  · exact ⟨d, _, by rw [positional, hds, List.cons_append], hd⟩
  · exact ⟨d, _, by rw [exponential, hds]; rfl, hd⟩

theorem number_integerText (n : JsInteger) (hn : n.value ≠ 0) (hrest : Delimits rest) :
    number (integerText n.value ++ rest) = some (.finite n.value, rest) := by
  have hread := unsigned_naturalText (Int.natAbs_pos.mpr hn) n.rounds hrest
  unfold integerText
  split
  · rename_i hneg
    show (unsigned (naturalText n.value.natAbs ++ rest)).map _ = _
    have hvalue : (n.value : ℚ) = -(n.value.natAbs : ℚ) := by
      have habs : n.value = -(n.value.natAbs : ℤ) := by omega
      exact_mod_cast habs
    rw [hread, Option.map_some, JsNumber.neg, hvalue]
  · rename_i hpos
    obtain ⟨d, ds, htext, hd⟩ := naturalText_cons n.value.natAbs
    have hminus : d ≠ '-' := by rintro rfl; cases hd
    have hvalue : (n.value : ℚ) = (n.value.natAbs : ℚ) := by
      have habs : n.value = (n.value.natAbs : ℤ) := by omega
      exact (congrArg Int.cast habs).trans (Int.cast_natCast _)
    rw [htext] at hread ⊢
    rw [hvalue]
    exact (if_neg hminus).trans hread

end RoundTrip

/-! ## What is left of a text -/

section Left

variable {cs r : List Char}

/-- What is left of a text is what the reader of its start has left. -/
theorem left_of_map {α β : Type} {f : α × List Char → β × List Char}
    {x : Option (α × List Char)} {b : β} (h : x.map f = some (b, r)) (hf : ∀ p, (f p).2 = p.2) :
    ∃ a, x = some (a, r) := by
  obtain ⟨⟨a, r'⟩, hx, heq⟩ := Option.map_eq_some_iff.mp h
  obtain rfl : r' = r := (hf (a, r')).symm.trans (congrArg Prod.snd heq)
  exact ⟨a, hx⟩

theorem length_fraction {ds : List Char} (h : fraction cs = some (ds, r)) : r.length ≤ cs.length := by
  unfold fraction at h
  split at h
  · cases h
    exact Nat.le_refl 0
  · rename_i c rest
    split_ifs at h
    · cases h
      have hdrop := (List.dropWhile_sublist Char.isDigit (l := rest)).length_le
      rw [List.length_cons]
      omega
    · cases h
      exact Nat.le_refl _

theorem length_exponentSign_le (cs : List Char) : (exponentSign cs).2.length ≤ cs.length := by
  unfold exponentSign
  split
  · exact Nat.le_refl 0
  · split_ifs <;> simp

theorem length_exponent {e : ℤ} (h : exponent cs = some (e, r)) : r.length ≤ cs.length := by
  unfold exponent at h
  split at h
  · cases h
    exact Nat.le_refl 0
  · rename_i c rest
    dsimp only at h
    split_ifs at h
    · cases h
      have hsign := length_exponentSign_le rest
      have hdrop := (List.dropWhile_sublist Char.isDigit (l := (exponentSign rest).2)).length_le
      simp only [digitsOf, List.length_cons]
      omega
    · cases h
      exact Nat.le_refl _

theorem length_unsigned {v : JsNumber} (h : unsigned cs = some (v, r)) : r.length < cs.length := by
  unfold unsigned at h
  dsimp only at h
  split at h
  · cases h
  · rename_i hinteger
    have hne : cs.takeWhile Char.isDigit ≠ [] := fun hnil => hinteger (.inl hnil)
    have hsplit := congrArg List.length (List.takeWhile_append_dropWhile (p := Char.isDigit) (l := cs))
    have hpos := List.length_pos_iff.mpr hne
    rw [List.length_append] at hsplit
    split at h
    · cases h
    · rename_i ds rest hfraction
      have h₁ := length_fraction hfraction
      split at h
      · cases h
      · rename_i e rest' hexponent
        cases h
        have h₂ := length_exponent hexponent
        simp only [digitsOf] at h₁
        omega

theorem length_number {v : JsNumber} (h : number cs = some (v, r)) : r.length < cs.length := by
  unfold number at h
  split at h
  · cases h
  · split_ifs at h
    · obtain ⟨_, h⟩ := left_of_map h fun _ => rfl
      exact Nat.lt_succ_of_lt (length_unsigned h)
    · exact length_unsigned h

end Left

end Text
