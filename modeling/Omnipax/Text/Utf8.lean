import Mathlib.Data.List.Basic
import Mathlib.Tactic.Common

/-!
# Text as JavaScript has it

A string is a list of 16-bit code units, and its surrogates need not pair up. As
bytes it is UTF-8, where a surrogate by itself becomes U+FFFD. The decoder is the
one of the Encoding Standard: a byte at a time, with U+FFFD for the longest start
of a sequence that does not go on. It is defined on all bytes, and takes back what
a text is encoded as.
-/

namespace Text

abbrev JsString := List UInt16

/-! ## Code units -/

def utf16 (c : Char) : JsString :=
  if c.toNat < 0x10000 then [UInt16.ofNat c.toNat]
  else [UInt16.ofNat (0xd800 + (c.toNat - 0x10000) / 0x400),
    UInt16.ofNat (0xdc00 + (c.toNat - 0x10000) % 0x400)]

def js (s : String) : JsString := s.toList.flatMap utf16

def isHigh (u : UInt16) : Bool := 0xd800 ≤ u.toNat && u.toNat < 0xdc00

def isLow (u : UInt16) : Bool := 0xdc00 ≤ u.toNat && u.toNat < 0xe000

/-- What a string is made of: characters, and surrogates that are part of none. -/
inductive Point where
  | scalar (c : Char)
  | lone (u : UInt16)
deriving Repr, DecidableEq

def single (u : UInt16) : Point :=
  if isHigh u || isLow u then .lone u else .scalar (Char.ofNat u.toNat)

def points : JsString → List Point
  | [] => []
  | [u] => [single u]
  | u :: v :: rest =>
      if isHigh u && isLow v then
        .scalar (Char.ofNat (0x10000 + (u.toNat - 0xd800) * 0x400 + (v.toNat - 0xdc00))) ::
          points rest
      else single u :: points (v :: rest)

def Point.units : Point → JsString
  | .scalar c => utf16 c
  | .lone u => [u]

/-- The character, or the one that stands for what is none. -/
def Point.char : Point → Char
  | .scalar c => c
  | .lone _ => '\uFFFD'

/-- The characters of a string, once lone surrogates are replaced. -/
def scalars (s : JsString) : List Char := (points s).map Point.char

section Points

variable {u v : UInt16} {s : JsString}

theorem toNat_ofNat {n : Nat} (h : n.isValidChar) : (Char.ofNat n).toNat = n := by
  rw [Char.ofNat, dif_pos h]
  rfl

theorem utf16_ofNat {n : Nat} (h : n.isValidChar) (hsmall : n < 0x10000) :
    utf16 (Char.ofNat n) = [UInt16.ofNat n] := by
  rw [utf16, toNat_ofNat h, if_pos hsmall]

theorem units_single (u : UInt16) : (single u).units = [u] := by
  unfold single
  split
  · rfl
  · rename_i h
    have hu := u.toNat_lt
    simp only [isHigh, isLow, Bool.or_eq_true, Bool.and_eq_true, decide_eq_true_eq] at h
    have hvalid : u.toNat.isValidChar := by unfold Nat.isValidChar; omega
    show utf16 (Char.ofNat u.toNat) = [u]
    rw [utf16_ofNat hvalid (by omega), UInt16.ofNat_toNat]

theorem utf16_pair (hu : isHigh u = true) (hv : isLow v = true) :
    utf16 (Char.ofNat (0x10000 + (u.toNat - 0xd800) * 0x400 + (v.toNat - 0xdc00))) = [u, v] := by
  simp only [isHigh, isLow, Bool.and_eq_true, decide_eq_true_eq] at hu hv
  have hvalid : (0x10000 + (u.toNat - 0xd800) * 0x400 + (v.toNat - 0xdc00)).isValidChar := by
    unfold Nat.isValidChar
    omega
  have hhigh : 0xd800 + (0x10000 + (u.toNat - 0xd800) * 0x400 + (v.toNat - 0xdc00) - 0x10000) / 0x400
      = u.toNat := by omega
  have hlow : 0xdc00 + (0x10000 + (u.toNat - 0xd800) * 0x400 + (v.toNat - 0xdc00) - 0x10000) % 0x400
      = v.toNat := by omega
  rw [utf16, toNat_ofNat hvalid, if_neg (by omega), hhigh, hlow, UInt16.ofNat_toNat,
    UInt16.ofNat_toNat]

theorem units_points (s : JsString) : (points s).flatMap Point.units = s := by
  fun_induction points s with
  | case1 => rfl
  | case2 u => exact (List.append_nil _).trans (units_single u)
  | case3 u v rest h ih =>
      rw [Bool.and_eq_true] at h
      rw [List.flatMap_cons, ih, Point.units, utf16_pair h.1 h.2]
      rfl
  | case4 u v rest h ih =>
      rw [List.flatMap_cons, ih, units_single]
      rfl

/-- A string in which nothing is replaced is what its characters say. -/
theorem units_scalars (h : '\uFFFD' ∉ scalars s) : (scalars s).flatMap utf16 = s := by
  conv_rhs => rw [← units_points s]
  rw [scalars, List.flatMap_map]
  refine List.flatMap_congr fun p hp => ?_
  cases p with
  | scalar c => rfl
  | lone u => exact absurd (List.mem_map.mpr ⟨_, hp, rfl⟩) h

theorem scalars_inj {t : JsString} (hs : '\uFFFD' ∉ scalars s) (h : scalars t = scalars s) :
    t = s := by
  rw [← units_scalars hs, ← units_scalars (s := t) (by rwa [h]), h]

theorem scalars_of_ascii (h : ∀ u ∈ s, u.toNat < 0x80) :
    scalars s = s.map fun u => Char.ofNat u.toNat := by
  have hsingle : ∀ u : UInt16, u.toNat < 0x80 → isHigh u = false ∧
      (single u).char = Char.ofNat u.toNat := by
    intro u hu
    have hhigh : isHigh u = false := by simp [isHigh]; omega
    have hlow : isLow u = false := by simp [isLow]; omega
    exact ⟨hhigh, by rw [single, hhigh, hlow]; rfl⟩
  unfold scalars
  fun_induction points s with
  | case1 => rfl
  | case2 u => simp [hsingle u (h u (List.mem_cons_self ..))]
  | case3 u v rest hpair ih =>
      rw [(hsingle u (h u (List.mem_cons_self ..))).1] at hpair
      cases hpair
  | case4 u v rest hpair ih =>
      rw [List.map_cons, List.map_cons, ih fun w hw => h w (List.mem_cons_of_mem _ hw),
        (hsingle u (h u (List.mem_cons_self ..))).2]

theorem replacement_not_mem_of_ascii (h : ∀ u ∈ s, u.toNat < 0x80) : '\uFFFD' ∉ scalars s := by
  rw [scalars_of_ascii h]
  intro hmem
  obtain ⟨u, hu, heq⟩ := List.mem_map.mp hmem
  have hlt := h u hu
  have hvalid : u.toNat.isValidChar := by unfold Nat.isValidChar; omega
  have hnat := congrArg Char.toNat heq
  rw [toNat_ofNat hvalid] at hnat
  have : ('\uFFFD').toNat = 0xfffd := rfl
  omega

end Points

/-! ## Bytes -/

def encodeUtf8 (cs : List Char) : List UInt8 := cs.flatMap String.utf8EncodeChar

/-- What the decoder has read of a sequence: the code point so far, how many bytes
it waits for, and between which bounds the next one has to be. -/
structure Pending where
  codePoint : Nat
  needed : Nat
  lower : Nat
  upper : Nat

def Pending.none : Pending := ⟨0, 0, 0x80, 0xBF⟩

/-- The first byte of a sequence. -/
def lead (b : UInt8) : List Char × Pending :=
  let n := b.toNat
  if n ≤ 0x7F then ([Char.ofNat n], .none)
  else if 0xC2 ≤ n ∧ n ≤ 0xDF then ([], ⟨n - 0xC0, 1, 0x80, 0xBF⟩)
  else if 0xE0 ≤ n ∧ n ≤ 0xEF then
    ([], ⟨n - 0xE0, 2, if n = 0xE0 then 0xA0 else 0x80, if n = 0xED then 0x9F else 0xBF⟩)
  else if 0xF0 ≤ n ∧ n ≤ 0xF4 then
    ([], ⟨n - 0xF0, 3, if n = 0xF0 then 0x90 else 0x80, if n = 0xF4 then 0x8F else 0xBF⟩)
  else (['\uFFFD'], .none)

/-- A byte: what it completes, and what is pending then. -/
def Pending.next (p : Pending) (b : UInt8) : List Char × Pending :=
  if p.needed = 0 then lead b
  else if p.lower ≤ b.toNat ∧ b.toNat ≤ p.upper then
    let codePoint := p.codePoint * 0x40 + (b.toNat - 0x80)
    if p.needed = 1 then ([Char.ofNat codePoint], .none)
    else ([], ⟨codePoint, p.needed - 1, 0x80, 0xBF⟩)
  else ('\uFFFD' :: (lead b).1, (lead b).2)

def Pending.decode : Pending → List UInt8 → List Char
  | p, [] => if p.needed = 0 then [] else ['\uFFFD']
  | p, b :: rest => (p.next b).1 ++ (p.next b).2.decode rest

def decodeUtf8 (bytes : List UInt8) : List Char := Pending.none.decode bytes

section Decode

variable {p : Pending} {n : Nat}

theorem toNat_byte (h : n < 0x100) : (UInt8.ofNat n).toNat = n := UInt8.toNat_ofNat_of_lt' h

theorem next_more (h : n < 0x100) (hneeded : 1 < p.needed) (hlower : p.lower ≤ n)
    (hupper : n ≤ p.upper) : p.next (UInt8.ofNat n)
      = ([], ⟨p.codePoint * 0x40 + (n - 0x80), p.needed - 1, 0x80, 0xBF⟩) := by
  rw [Pending.next, toNat_byte h, if_neg (by omega), if_pos ⟨hlower, hupper⟩]
  exact if_neg (by omega)

theorem next_last (h : n < 0x100) (hneeded : p.needed = 1) (hlower : p.lower ≤ n)
    (hupper : n ≤ p.upper) :
    p.next (UInt8.ofNat n) = ([Char.ofNat (p.codePoint * 0x40 + (n - 0x80))], .none) := by
  rw [Pending.next, toNat_byte h, if_neg (by omega), if_pos ⟨hlower, hupper⟩]
  exact if_pos hneeded

theorem lead_one (h : n ≤ 0x7F) : lead (UInt8.ofNat n) = ([Char.ofNat n], .none) := by
  rw [lead, toNat_byte (by omega)]
  exact if_pos h

theorem lead_two (hlower : 0xC2 ≤ n) (hupper : n ≤ 0xDF) :
    lead (UInt8.ofNat n) = ([], ⟨n - 0xC0, 1, 0x80, 0xBF⟩) := by
  rw [lead, toNat_byte (by omega)]
  exact (if_neg (by omega)).trans (if_pos ⟨hlower, hupper⟩)

theorem lead_three (hlower : 0xE0 ≤ n) (hupper : n ≤ 0xEF) : lead (UInt8.ofNat n)
    = ([], ⟨n - 0xE0, 2, if n = 0xE0 then 0xA0 else 0x80, if n = 0xED then 0x9F else 0xBF⟩) := by
  rw [lead, toNat_byte (by omega)]
  exact (if_neg (by omega)).trans ((if_neg (by omega)).trans (if_pos ⟨hlower, hupper⟩))

theorem lead_four (hlower : 0xF0 ≤ n) (hupper : n ≤ 0xF4) : lead (UInt8.ofNat n)
    = ([], ⟨n - 0xF0, 3, if n = 0xF0 then 0x90 else 0x80, if n = 0xF4 then 0x8F else 0xBF⟩) := by
  rw [lead, toNat_byte (by omega)]
  exact (if_neg (by omega)).trans ((if_neg (by omega)).trans ((if_neg (by omega)).trans
    (if_pos ⟨hlower, hupper⟩)))

/-- The bytes of a character, one case for each number of them. -/
theorem decode_char (c : Char) (rest : List UInt8) :
    decodeUtf8 (String.utf8EncodeChar c ++ rest) = c :: decodeUtf8 rest := by
  have hvalid : c.toNat < 0xd800 ∨ 0xdfff < c.toNat ∧ c.toNat < 0x110000 := c.valid
  have hc : ∀ n, n = c.toNat → [Char.ofNat n] ++ decodeUtf8 rest = c :: decodeUtf8 rest := by
    rintro _ rfl
    rw [Char.ofNat_toNat]
    rfl
  unfold String.utf8EncodeChar
  simp only [show c.val.toNat = c.toNat from rfl]
  generalize c.toNat = v at hvalid hc ⊢
  split
  · rename_i h
    show (lead _).1 ++ (lead _).2.decode rest = _
    rw [lead_one h]
    exact hc v rfl
  · split
    · rename_i h₁ h₂
      show (lead _).1 ++ (((lead _).2.next _).1 ++ ((lead _).2.next _).2.decode rest) = _
      rw [lead_two (by omega) (by omega), next_last (by omega) rfl (by simp) (by simp; omega)]
      exact hc _ (by simp; omega)
    · split
      · rename_i h₁ h₂ h₃
        show (lead _).1 ++ (((lead _).2.next _).1 ++ ((((lead _).2.next _).2.next _).1 ++
          (((lead _).2.next _).2.next _).2.decode rest)) = _
        rw [lead_three (by omega) (by omega),
          next_more (by omega) (by simp) (by dsimp only; split <;> omega)
            (by dsimp only; split <;> omega),
          next_last (by omega) rfl (by simp) (by simp; omega)]
        exact hc _ (by simp; omega)
      · rename_i h₁ h₂ h₃
        show (lead _).1 ++ (((lead _).2.next _).1 ++ ((((lead _).2.next _).2.next _).1 ++
          (((((lead _).2.next _).2.next _).2.next _).1 ++
            ((((lead _).2.next _).2.next _).2.next _).2.decode rest))) = _
        rw [lead_four (by omega) (by omega),
          next_more (by omega) (by simp) (by dsimp only; split <;> omega)
            (by dsimp only; split <;> omega),
          next_more (by omega) (by simp) (by simp) (by simp; omega),
          next_last (by omega) rfl (by simp) (by simp; omega)]
        exact hc _ (by simp; omega)

theorem decode_encode (cs : List Char) : decodeUtf8 (encodeUtf8 cs) = cs := by
  induction cs with
  | nil => rfl
  | cons c cs ih => rw [encodeUtf8, List.flatMap_cons, decode_char, ← encodeUtf8, ih]

theorem encodeUtf8_inj {cs cs' : List Char} (h : encodeUtf8 cs = encodeUtf8 cs') : cs = cs' := by
  rw [← decode_encode cs, h, decode_encode]

/-- No sequence has a byte above `0xF7`. -/
theorem lt_of_mem_encodeUtf8 {cs : List Char} {b : UInt8} (h : b ∈ encodeUtf8 cs) :
    b.toNat < 0xF8 := by
  obtain ⟨c, -, hb⟩ := List.mem_flatMap.mp h
  unfold String.utf8EncodeChar at hb
  dsimp only at hb
  split_ifs at hb
  all_goals
    simp only [List.mem_cons, List.not_mem_nil, or_false] at hb
    rcases hb with rfl | rfl | rfl | rfl
  all_goals
    rw [toNat_byte (by omega)]
    omega

end Decode

end Text
