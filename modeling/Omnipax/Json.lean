import Mathlib.Data.Rat.Defs

/-!
# JSON values as JavaScript sees them

A webhook body is `Record<string, unknown>`: the code reads fields of it
with optional chaining, tests them for truthiness and hands them to Prisma
as columns of a fixed type. `none` stands for `undefined`.
-/

namespace Omnipax

inductive Json where
  | null
  | bool (b : Bool)
  | num (n : Rat)
  | str (s : String)
  | arr (l : List Json)
  | obj (l : List (String × Json))

/-- A parsed JSON object: its members in source order. -/
abbrev JsonObject := List (String × Json)

/-- Member access on an object; of two members with one name the later
one counts. -/
def JsonObject.get? (o : JsonObject) (k : String) : Option Json :=
  o.reverse.lookup k

namespace Json

/-- `v?.k`: anything but an object has no such member. -/
def get? : Option Json → String → Option Json
  | some (.obj o), k => JsonObject.get? o k
  | _, _ => none

def truthy : Option Json → Bool
  | none => false
  | some .null => false
  | some (.bool b) => b
  | some (.num n) => n ≠ 0
  | some (.str s) => s ≠ ""
  | some (.arr _) => true
  | some (.obj _) => true

/-- The value as a string, when it is one. -/
def str? : Option Json → Option String
  | some (.str s) => some s
  | _ => none

/-- What Prisma accepts for a nullable `String` column: a string, or null
and undefined for no value. -/
def column? : Option Json → Option (Option String)
  | none => some none
  | some .null => some none
  | some (.str s) => some (some s)
  | _ => none

theorem str?_eq_some {v : Option Json} {s : String} : str? v = some s ↔ v = some (.str s) := by
  unfold str?
  split <;> simp_all

theorem truthy_str (s : String) : truthy (some (.str s)) = decide (s ≠ "") := rfl

/-! ## Stringification -/

/-- A hexadecimal digit, in lower case. -/
def hexDigit (n : Nat) : Char :=
  if n < 10 then Char.ofNat (48 + n) else Char.ofNat (87 + n)

/-- How `JSON.stringify` writes a character of a string. -/
def escapeChar (c : Char) : List Char :=
  match c.toNat with
  | 0x08 => ['\x5c', 'b']
  | 0x09 => ['\x5c', 't']
  | 0x0a => ['\x5c', 'n']
  | 0x0c => ['\x5c', 'f']
  | 0x0d => ['\x5c', 'r']
  | 0x22 => ['\x5c', '\x22']
  | 0x5c => ['\x5c', '\x5c']
  | n =>
      if n < 0x20 then ['\x5c', 'u', '0', '0', hexDigit (n / 16), hexDigit (n % 16)]
      else [c]

/-- `JSON.stringify` of a string. -/
def quote (s : String) : List Char :=
  '\x22' :: (s.toList.flatMap escapeChar ++ ['\x22'])

/-- The characters that are not written as they are. -/
def specials : List Char :=
  '\x22' :: '\x5c' :: (List.range 0x20).map Char.ofNat

theorem escapeChar_of_not_special {c : Char} (h : c ∉ specials) : escapeChar c = [c] := by
  have hn : ∀ n ∈ [0x22, 0x5c], c.toNat ≠ n := by
    rintro n hn rfl
    refine h ?_
    rw [← Char.ofNat_toNat c]
    simp only [List.mem_cons, List.not_mem_nil, or_false] at hn
    rcases hn with hn | hn <;> rw [hn] <;> decide
  have hlarge : ¬c.toNat < 0x20 := fun hlt => by
    refine h (List.mem_cons_of_mem _ (List.mem_cons_of_mem _ ?_))
    exact List.mem_map.mpr ⟨c.toNat, List.mem_range.mpr hlt, Char.ofNat_toNat c⟩
  simp only [List.mem_cons, List.not_mem_nil, or_false] at hn
  unfold escapeChar
  split <;> first | omega | (exact absurd ‹_› (hn _ (by simp))) | skip
  rw [if_neg hlarge]

/-- No two special characters are written alike, and each starts with a
backslash. -/
theorem specials_free {a : Char} (ha : a ∈ specials) : (escapeChar a).head? = some '\x5c' ∧
    1 < (escapeChar a).length ∧ ∀ b ∈ specials, escapeChar a <+: escapeChar b → a = b := by
  have hall : (specials.all fun a => (escapeChar a).head? == some '\x5c' &&
      decide (1 < (escapeChar a).length) && specials.all fun b =>
        !(escapeChar a).isPrefixOf (escapeChar b) || a == b) = true := by
    decide +kernel
  have ha := List.all_eq_true.mp hall a ha
  simp only [Bool.and_eq_true, beq_iff_eq, decide_eq_true_eq] at ha
  obtain ⟨⟨hhead, hlen⟩, hfree⟩ := ha
  refine ⟨hhead, hlen, fun b hb hab => ?_⟩
  have hb := List.all_eq_true.mp hfree b hb
  rw [List.isPrefixOf_iff_prefix.mpr hab] at hb
  exact beq_iff_eq.mp hb

theorem escapeChar_head? (c : Char) : (escapeChar c).head? ≠ some '\x22' := by
  by_cases hc : c ∈ specials
  · rw [(specials_free hc).1]
    decide
  · rw [escapeChar_of_not_special hc, List.head?_cons]
    intro h
    obtain rfl := Option.some.inj h
    exact hc (by decide)

/-- What a character is written as is no proper start of another one. -/
theorem escapeChar_start_inj {a b : Char} (h : escapeChar a <+: escapeChar b) : a = b := by
  by_cases ha : a ∈ specials
  · obtain ⟨-, hlen, hinj⟩ := specials_free ha
    by_cases hb : b ∈ specials
    · exact hinj b hb h
    · have hle := h.length_le
      rw [escapeChar_of_not_special hb, List.length_singleton] at hle
      omega
  · rw [escapeChar_of_not_special ha] at h
    by_cases hb : b ∈ specials
    · obtain ⟨rest, hrest⟩ := h
      have hhead := (specials_free hb).1
      rw [← hrest] at hhead
      obtain rfl := Option.some.inj hhead
      exact absurd (by decide) ha
    · rw [escapeChar_of_not_special hb] at h
      obtain ⟨rest, hrest⟩ := h
      exact (List.cons.inj hrest).1

theorem flatMap_escapeChar_inj {l m rest rest' : List Char}
    (h : l.flatMap escapeChar ++ '\x22' :: rest = m.flatMap escapeChar ++ '\x22' :: rest') :
    l = m ∧ rest = rest' := by
  have hend : ∀ (c : Char) (l t t' : List Char),
      '\x22' :: t ≠ (c :: l).flatMap escapeChar ++ '\x22' :: t' := by
    intro c l t t' h
    have hhead := congrArg List.head? h
    rw [List.flatMap_cons, List.append_assoc, List.head?_cons, List.head?_append] at hhead
    cases hc : (escapeChar c).head? with
    | none =>
        rw [List.head?_eq_none_iff] at hc
        have hne := escapeChar_start_inj (a := c) (b := '\x22') (hc ▸ List.nil_prefix)
        rw [hne] at hc
        exact absurd hc (by decide)
    | some d =>
        rw [hc, Option.some_or, Option.some_inj] at hhead
        exact escapeChar_head? c (hhead ▸ hc)
  induction l generalizing m with
  | nil =>
      cases m with
      | nil => exact ⟨rfl, (List.cons.inj h).2⟩
      | cons c m => exact absurd h (hend c m rest rest')
  | cons a l ih =>
      cases m with
      | nil => exact absurd h.symm (hend a l rest' rest)
      | cons b m =>
          rw [List.flatMap_cons, List.flatMap_cons, List.append_assoc, List.append_assoc] at h
          have hab : a = b := by
            rcases List.prefix_or_prefix_of_prefix (List.prefix_append _ _)
              (h ▸ List.prefix_append _ _) with hp | hp
            · exact (escapeChar_start_inj hp).symm
            · exact escapeChar_start_inj hp
          subst hab
          obtain ⟨rfl, hrest⟩ := ih (List.append_cancel_left h)
          exact ⟨rfl, hrest⟩

theorem quote_append_inj {s t : String} {rest rest' : List Char}
    (h : quote s ++ rest = quote t ++ rest') : s = t ∧ rest = rest' := by
  simp only [quote, List.cons_append, List.append_assoc, List.nil_append, List.cons.injEq,
    true_and] at h
  obtain ⟨hs, hrest⟩ := flatMap_escapeChar_inj h
  exact ⟨String.toList_inj.mp hs, hrest⟩

end Json

end Omnipax
