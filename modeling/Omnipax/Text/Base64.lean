import Omnipax.Text.Utf8

/-!
# Base64

The encoder pads. The decoder of a `Buffer` accepts the alphabet for URLs as well,
leaves out every character of neither alphabet and stops at the first `=`; what
does not make up a byte at the end is dropped. So it decodes every string, and an
encoded one to what was encoded.
-/

namespace Text.Base64

/-- The code unit for six bits. -/
def digit (n : Nat) : UInt16 :=
  UInt16.ofNat (if n < 26 then n + 65 else if n < 52 then n + 71 else if n < 62 then n - 4
    else if n = 62 then 43 else 47)

def value? (u : UInt16) : Option Nat :=
  let n := u.toNat
  if 65 ≤ n ∧ n ≤ 90 then some (n - 65)
  else if 97 ≤ n ∧ n ≤ 122 then some (n - 71)
  else if 48 ≤ n ∧ n ≤ 57 then some (n + 4)
  else if n = 43 ∨ n = 45 then some 62
  else if n = 47 ∨ n = 95 then some 63
  else none

/-- `=` -/
def pad : UInt16 := 61

def encode : List UInt8 → JsString
  | a :: b :: c :: rest =>
      digit (a.toNat / 4) :: digit (a.toNat % 4 * 16 + b.toNat / 16) ::
        digit (b.toNat % 16 * 4 + c.toNat / 64) :: digit (c.toNat % 64) :: encode rest
  | [a, b] =>
      [digit (a.toNat / 4), digit (a.toNat % 4 * 16 + b.toNat / 16), digit (b.toNat % 16 * 4), pad]
  | [a] => [digit (a.toNat / 4), digit (a.toNat % 4 * 16), pad, pad]
  | [] => []

/-- The digits up to the padding. -/
def sextets : JsString → List Nat
  | [] => []
  | u :: rest =>
      if u = pad then []
      else match value? u with
        | some v => v :: sextets rest
        | none => sextets rest

def bytes : List Nat → List UInt8
  | a :: b :: c :: d :: rest =>
      UInt8.ofNat (a * 4 + b / 16) :: UInt8.ofNat (b % 16 * 16 + c / 4) ::
        UInt8.ofNat (c % 4 * 64 + d) :: bytes rest
  | [a, b, c] => [UInt8.ofNat (a * 4 + b / 16), UInt8.ofNat (b % 16 * 16 + c / 4)]
  | [a, b] => [UInt8.ofNat (a * 4 + b / 16)]
  | _ => []

/-- `Buffer.from(s, 'base64')` as it is documented: a code unit that is no digit is
skipped. (For a string with code units above 255 Node 22 looks at their low bytes,
which may be digits.) -/
def decode (s : JsString) : List UInt8 := bytes (sextets s)

/-! ## Round trip -/

theorem digit_spec {n : Nat} (h : n < 64) : digit n ≠ pad ∧ value? (digit n) = some n := by
  have hall : ∀ n < 64, digit n ≠ pad ∧ value? (digit n) = some n := by decide
  exact hall n h

theorem sextets_digit {n : Nat} (h : n < 64) (rest : JsString) :
    sextets (digit n :: rest) = n :: sextets rest := by
  rw [sextets, if_neg (digit_spec h).1, (digit_spec h).2]

theorem ofNat_eq {n : Nat} {b : UInt8} (h : n = b.toNat) : UInt8.ofNat n = b := by
  rw [h, UInt8.ofNat_toNat]

theorem decode_encode (bs : List UInt8) : decode (encode bs) = bs := by
  unfold decode
  fun_induction encode bs with
  | case1 a b c rest ih =>
      have ha := a.toNat_lt
      have hb := b.toNat_lt
      have hc := c.toNat_lt
      rw [sextets_digit (by omega), sextets_digit (by omega), sextets_digit (by omega),
        sextets_digit (by omega), bytes, ih, ofNat_eq (b := a) (by omega), ofNat_eq (b := b) (by omega),
        ofNat_eq (b := c) (by omega)]
  | case2 a b =>
      have ha := a.toNat_lt
      have hb := b.toNat_lt
      rw [sextets_digit (by omega), sextets_digit (by omega), sextets_digit (by omega)]
      show [UInt8.ofNat _, UInt8.ofNat _] = _
      rw [ofNat_eq (b := a) (by omega), ofNat_eq (b := b) (by omega)]
  | case3 a =>
      have ha := a.toNat_lt
      rw [sextets_digit (by omega), sextets_digit (by omega)]
      show [UInt8.ofNat _] = _
      rw [ofNat_eq (b := a) (by omega)]
  | case4 => rfl

theorem mem_encode {bs : List UInt8} {u : UInt16} (h : u ∈ encode bs) :
    u = pad ∨ ∃ n < 64, u = digit n := by
  fun_induction encode bs with
  | case1 a b c rest ih =>
      have ha := a.toNat_lt
      have hb := b.toNat_lt
      have hc := c.toNat_lt
      simp only [List.mem_cons] at h
      rcases h with rfl | rfl | rfl | rfl | h
      · exact .inr ⟨_, by omega, rfl⟩
      · exact .inr ⟨_, by omega, rfl⟩
      · exact .inr ⟨_, by omega, rfl⟩
      · exact .inr ⟨_, by omega, rfl⟩
      · exact ih h
  | case2 a b =>
      have ha := a.toNat_lt
      have hb := b.toNat_lt
      simp only [List.mem_cons, List.not_mem_nil, or_false] at h
      rcases h with rfl | rfl | rfl | rfl
      · exact .inr ⟨_, by omega, rfl⟩
      · exact .inr ⟨_, by omega, rfl⟩
      · exact .inr ⟨_, by omega, rfl⟩
      · exact .inl rfl
  | case3 a =>
      have ha := a.toNat_lt
      simp only [List.mem_cons, List.not_mem_nil, or_false] at h
      rcases h with rfl | rfl | rfl | rfl
      · exact .inr ⟨_, by omega, rfl⟩
      · exact .inr ⟨_, by omega, rfl⟩
      · exact .inl rfl
      · exact .inl rfl
  | case4 => cases h

end Text.Base64
