import Omnipax.Hex
import Omnipax.Json
import Omnipax.Text.Number
import Omnipax.Text.Utf8

/-!
# JSON text

What `JSON.stringify` makes of a string, and `JSON.parse`. A string is written
with its lone surrogates escaped, so the text is one of characters whatever the
string; it is read with its escapes, so a text may stand for any string.

The reader descends as deep as the text goes, and has two steps for each of its
characters. More make no difference (`parse_fuel`).
-/

namespace Text

inductive JsValue where
  | null
  | bool (b : Bool)
  | num (n : JsNumber)
  | str (s : JsString)
  | arr (l : List JsValue)
  | obj (l : List (JsString × JsValue))

namespace JsValue

/-- The member of an object. Of two members with one name the later one counts;
what is no object has none. -/
def member? : JsValue → JsString → Option JsValue
  | .obj l, k => l.reverse.lookup k
  | _, _ => none

def truthy : Option JsValue → Bool
  | none => false
  | some .null => false
  | some (.bool b) => b
  | some (.num n) => n != .finite 0
  | some (.str s) => s != []
  | some (.arr _) => true
  | some (.obj _) => true

end JsValue

namespace JsonText

open Omnipax.Json (escapeChar hexDigit)

/-! ## Writing -/

def hex4 (u : UInt16) : List Char :=
  [hexDigit (u.toNat / 4096), hexDigit (u.toNat / 256 % 16), hexDigit (u.toNat / 16 % 16),
    hexDigit (u.toNat % 16)]

def escape : Point → List Char
  | .scalar c => escapeChar c
  | .lone u => '\x5c' :: 'u' :: hex4 u

def quote (s : JsString) : List Char := '\x22' :: ((points s).flatMap escape ++ ['\x22'])

/-- The members of an object, with the texts of their values. -/
def memberTexts : List (JsString × List Char) → List Char
  | [] => []
  | [(k, t)] => quote k ++ ':' :: t
  | (k, t) :: m :: l => quote k ++ ':' :: (t ++ ',' :: memberTexts (m :: l))

def object (l : List (JsString × List Char)) : List Char := '\x7b' :: (memberTexts l ++ ['\x7d'])

/-! ## Reading -/

def isSpace (c : Char) : Bool := c == ' ' || c == '\t' || c == '\n' || c == '\r'

def skip (cs : List Char) : List Char := cs.dropWhile isSpace

/-- A code unit of four hexadecimal digits. -/
def unit? (a b c d : Char) : Option UInt16 :=
  match Omnipax.Hex.digit? a, Omnipax.Hex.digit? b, Omnipax.Hex.digit? c, Omnipax.Hex.digit? d with
  | some a, some b, some c, some d => some (UInt16.ofNat (4096 * a + 256 * b + 16 * c + d))
  | _, _, _, _ => none

/-- What a backslash and a character stand for. -/
def escaped? (c : Char) : Option UInt16 :=
  if c = '\x22' then some 0x22 else if c = '\x5c' then some 0x5c else if c = '/' then some 0x2f
  else if c = 'b' then some 0x08 else if c = 'f' then some 0x0c else if c = 'n' then some 0x0a
  else if c = 'r' then some 0x0d else if c = 't' then some 0x09 else none

/-- The rest of a string, after its opening quote. -/
def string : List Char → Option (JsString × List Char)
  | [] => none
  | c :: rest =>
      if c = '\x22' then some ([], rest)
      else if c = '\x5c' then
        match rest with
        | [] => none
        | e :: rest =>
            if e = 'u' then
              match rest with
              | a :: b :: c :: d :: rest =>
                  match unit? a b c d with
                  | some u => (string rest).map fun r => (u :: r.1, r.2)
                  | none => none
              | _ => none
            else
              match escaped? e with
              | some u => (string rest).map fun r => (u :: r.1, r.2)
              | none => none
      else if c.toNat < 0x20 then none
      else (string rest).map fun r => (utf16 c ++ r.1, r.2)

/-- A name at the start of a text. -/
def literal (name : List Char) (v : JsValue) (cs : List Char) : Option (JsValue × List Char) :=
  if name <+: cs then some (v, cs.drop name.length) else none

mutual

def value : Nat → List Char → Option (JsValue × List Char)
  | 0, _ => none
  | _ + 1, [] => none
  | n + 1, c :: rest =>
      if c = '\x7b' then
        if (skip rest).head? = some '\x7d' then some (.obj [], (skip rest).tail)
        else (members n (skip rest)).map fun r => (.obj r.1, r.2)
      else if c = '[' then
        if (skip rest).head? = some ']' then some (.arr [], (skip rest).tail)
        else (elements n (skip rest)).map fun r => (.arr r.1, r.2)
      else if c = '\x22' then (string rest).map fun r => (.str r.1, r.2)
      else if c = 't' then literal "true".toList (.bool true) (c :: rest)
      else if c = 'f' then literal "false".toList (.bool false) (c :: rest)
      else if c = 'n' then literal "null".toList .null (c :: rest)
      else (number (c :: rest)).map fun r => (.num r.1, r.2)

/-- The members of an object, at least one, and its closing brace. -/
def members : Nat → List Char → Option (List (JsString × JsValue) × List Char)
  | 0, _ => none
  | _ + 1, [] => none
  | n + 1, c :: rest =>
      if c ≠ '\x22' then none
      else
        match string rest with
        | none => none
        | some (k, rest) =>
            if (skip rest).head? ≠ some ':' then none
            else
              match value n (skip (skip rest).tail) with
              | none => none
              | some (v, rest) =>
                  if (skip rest).head? = some ',' then
                    (members n (skip (skip rest).tail)).map fun r => ((k, v) :: r.1, r.2)
                  else if (skip rest).head? = some '\x7d' then some ([(k, v)], (skip rest).tail)
                  else none

def elements : Nat → List Char → Option (List JsValue × List Char)
  | 0, _ => none
  | n + 1, cs =>
      match value n cs with
      | none => none
      | some (v, rest) =>
          if (skip rest).head? = some ',' then
            (elements n (skip (skip rest).tail)).map fun r => (v :: r.1, r.2)
          else if (skip rest).head? = some ']' then some ([v], (skip rest).tail)
          else none

end

/-- `JSON.parse`, unless it throws. -/
def parse (text : List Char) : Option JsValue :=
  match value (2 * text.length + 1) (skip text) with
  | some (v, rest) => if skip rest = [] then some v else none
  | none => none

/-! ## Strings -/

section Strings

variable {rest : List Char}

theorem digit?_hexDigit {n : Nat} (h : n < 16) : Omnipax.Hex.digit? (hexDigit n) = some n := by
  have hall : ∀ n < 16, Omnipax.Hex.digit? (hexDigit n) = some n := by decide
  exact hall n h

theorem unit?_hex4 (u : UInt16) : unit? (hexDigit (u.toNat / 4096)) (hexDigit (u.toNat / 256 % 16))
    (hexDigit (u.toNat / 16 % 16)) (hexDigit (u.toNat % 16)) = some u := by
  have hu := u.toNat_lt
  rw [unit?, digit?_hexDigit (by omega), digit?_hexDigit (by omega), digit?_hexDigit (by omega),
    digit?_hexDigit (by omega)]
  have hvalue : 4096 * (u.toNat / 4096) + 256 * (u.toNat / 256 % 16) + 16 * (u.toNat / 16 % 16) +
      u.toNat % 16 = u.toNat := by omega
  show some (UInt16.ofNat _) = some u
  rw [hvalue, UInt16.ofNat_toNat]

theorem string_end (rest : List Char) : string ('\x22' :: rest) = some ([], rest) := by
  rw [string.eq_def]
  exact if_pos rfl

theorem string_unit (u : UInt16) (rest : List Char) : string ('\x5c' :: 'u' :: (hex4 u ++ rest))
    = (string rest).map fun r => (u :: r.1, r.2) := by
  rw [string.eq_def]
  dsimp only
  rw [if_neg (by decide), if_pos rfl, if_pos rfl]
  dsimp only [hex4, List.cons_append, List.nil_append]
  rw [unit?_hex4]

theorem string_escaped {e : Char} {u : UInt16} (hu : e ≠ 'u') (he : escaped? e = some u)
    (rest : List Char) :
    string ('\x5c' :: e :: rest) = (string rest).map fun r => (u :: r.1, r.2) := by
  rw [string.eq_def]
  dsimp only
  rw [if_neg (by decide), if_pos rfl, if_neg hu, he]

theorem string_escapeChar (c : Char) (rest : List Char) : string (escapeChar c ++ rest)
    = (string rest).map fun r => (utf16 c ++ r.1, r.2) := by
  have hsmall : ∀ {n : Nat}, c.toNat = n → n < 0x10000 → utf16 c = [UInt16.ofNat n] := by
    rintro _ rfl hlt
    exact if_pos hlt
  unfold escapeChar
  split
  · rw [hsmall ‹_› (by decide)]
    exact string_escaped (by decide) rfl rest
  · rw [hsmall ‹_› (by decide)]
    exact string_escaped (by decide) rfl rest
  · rw [hsmall ‹_› (by decide)]
    exact string_escaped (by decide) rfl rest
  · rw [hsmall ‹_› (by decide)]
    exact string_escaped (by decide) rfl rest
  · rw [hsmall ‹_› (by decide)]
    exact string_escaped (by decide) rfl rest
  · rw [hsmall ‹_› (by decide)]
    exact string_escaped (by decide) rfl rest
  · rw [hsmall ‹_› (by decide)]
    exact string_escaped (by decide) rfl rest
  · rename_i h₁ h₂ h₃ h₄ h₅ h₆ h₇
    split
    · rename_i hlt
      have hunit : hex4 (UInt16.ofNat c.toNat)
          = ['0', '0', hexDigit (c.toNat / 16), hexDigit (c.toNat % 16)] := by
        rw [hex4, UInt16.toNat_ofNat_of_lt' (Nat.lt_trans hlt (by decide)),
          show c.toNat / 4096 = 0 by omega, show c.toNat / 256 % 16 = 0 by omega,
          show c.toNat / 16 % 16 = c.toNat / 16 by omega]
        rfl
      have hread := string_unit (UInt16.ofNat c.toNat) rest
      rw [hunit] at hread
      rw [hsmall rfl (Nat.lt_trans hlt (by decide))]
      exact hread
    · rename_i hge
      have hquote : c ≠ '\x22' := by rintro rfl; exact h₆ rfl
      have hbackslash : c ≠ '\x5c' := by rintro rfl; exact h₇ rfl
      rw [List.singleton_append, string.eq_def]
      dsimp only
      rw [if_neg hquote, if_neg hbackslash, if_neg hge]

theorem string_escape (p : Point) (rest : List Char) : string (escape p ++ rest)
    = (string rest).map fun r => (p.units ++ r.1, r.2) := by
  cases p with
  | scalar c => exact string_escapeChar c rest
  | lone u => exact string_unit u rest

theorem string_escapes (ps : List Point) (rest : List Char) :
    string (ps.flatMap escape ++ '\x22' :: rest) = some (ps.flatMap Point.units, rest) := by
  induction ps with
  | nil => exact string_end rest
  | cons p ps ih =>
      rw [List.flatMap_cons, List.append_assoc, string_escape, ih]
      rfl

theorem string_quote (s : JsString) (rest : List Char) :
    string ((points s).flatMap escape ++ '\x22' :: rest) = some (s, rest) := by
  rw [string_escapes, units_points]

end Strings

/-! ## Values -/

/-- The text is read as the value, whatever follows that is no part of it. -/
structure Reads (t : List Char) (v : JsValue) : Prop where
  head : ∃ c ∈ t.head?, isSpace c = false
  read : ∀ n rest, Delimits rest → value (n + 1) (t ++ rest) = some (v, rest)

section Values

variable {t rest : List Char} {v : JsValue} {n : Nat}

theorem skip_cons {c : Char} (h : isSpace c = false) (cs : List Char) :
    skip (c :: cs) = c :: cs := by
  rw [skip, List.dropWhile_cons, h]
  rfl

theorem Reads.skip_append (h : Reads t v) (rest : List Char) : skip (t ++ rest) = t ++ rest := by
  obtain ⟨c, hc, hspace⟩ := h.head
  cases t with
  | nil => cases hc
  | cons d ds =>
      obtain rfl := Option.some.inj hc
      exact skip_cons hspace _

theorem reads_quote (s : JsString) : Reads (quote s) (.str s) where
  head := ⟨_, rfl, rfl⟩
  read n rest _ := by
    have hread := string_quote s rest
    have htext : quote s ++ rest = '\x22' :: ((points s).flatMap escape ++ '\x22' :: rest) := by
      simp [quote]
    rw [htext, value, if_neg (by decide), if_neg (by decide), if_pos rfl, hread]
    rfl

theorem integerText_cons (n : ℤ) :
    ∃ c cs, integerText n = c :: cs ∧ (c = '-' ∨ c.isDigit = true) := by
  obtain ⟨d, ds, htext, hd⟩ := naturalText_cons n.natAbs
  unfold integerText
  split
  · exact ⟨_, _, rfl, .inl rfl⟩
  · exact ⟨d, ds, htext, .inr hd⟩

theorem reads_integerText (n : JsInteger) (hn : n.value ≠ 0) :
    Reads (integerText n.value) (.num (.finite n.value)) := by
  obtain ⟨c, cs, htext, hc⟩ := integerText_cons n.value
  have hother : ∀ d : Char, d ≠ '-' → d.isDigit = false → c ≠ d := by
    rintro d hminus hdigit rfl
    rcases hc with hc | hc
    · exact hminus hc
    · rw [hdigit] at hc
      cases hc
  refine ⟨⟨c, by rw [htext]; rfl, ?_⟩, fun m rest hrest => ?_⟩
  · simp [isSpace, hother]
  · have hread := number_integerText n hn hrest
    rw [htext, List.cons_append] at hread ⊢
    rw [value, if_neg (hother _ (by decide) (by decide)), if_neg (hother _ (by decide) (by decide)),
      if_neg (hother _ (by decide) (by decide)), if_neg (hother _ (by decide) (by decide)),
      if_neg (hother _ (by decide) (by decide)), if_neg (hother _ (by decide) (by decide)), hread]
    rfl

theorem members_quote {k : JsString} (h : Reads t v) {d : Char} (hd : Delimits (d :: rest))
    (hspace : isSpace d = false) : members (n + 2) (quote k ++ ':' :: (t ++ d :: rest))
      = if d = ',' then (members (n + 1) (skip rest)).map fun r => ((k, v) :: r.1, r.2)
        else if d = '\x7d' then some ([(k, v)], rest) else none := by
  have htext : quote k ++ ':' :: (t ++ d :: rest)
      = '\x22' :: ((points k).flatMap escape ++ '\x22' :: ':' :: (t ++ d :: rest)) := by
    simp [quote]
  rw [htext, members, if_neg (by decide), string_quote]
  dsimp only
  rw [skip_cons (by decide), List.head?_cons, if_neg (by decide), List.tail_cons,
    h.skip_append, h.read n _ hd]
  dsimp only
  rw [skip_cons hspace, List.head?_cons, List.tail_cons]
  simp only [Option.some.injEq]

theorem delimits_cons {c : Char} (h : c.isDigit = false ∧ c ≠ '.' ∧ c ≠ 'e' ∧ c ≠ 'E')
    (rest : List Char) : Delimits (c :: rest) := by
  rintro d hd
  obtain rfl := Option.some.inj hd
  exact h

theorem memberTexts_cons (m : JsString × List Char) (l : List (JsString × List Char)) :
    ∃ cs, memberTexts (m :: l) = '\x22' :: cs := by
  cases l with
  | nil => exact ⟨_, rfl⟩
  | cons m' l => exact ⟨_, rfl⟩

theorem members_memberTexts {m : JsString × List Char × JsValue}
    {l : List (JsString × List Char × JsValue)} (h : ∀ m' ∈ m :: l, Reads m'.2.1 m'.2.2)
    (hn : l.length < n) (rest : List Char) :
    members (n + 1) (memberTexts ((m :: l).map fun m => (m.1, m.2.1)) ++ '\x7d' :: rest)
      = some ((m :: l).map fun m => (m.1, m.2.2), rest) := by
  obtain ⟨n, rfl⟩ : ∃ n', n = n' + 1 := ⟨n - 1, by omega⟩
  have hm := h m (List.mem_cons_self ..)
  induction l generalizing m n with
  | nil =>
      have htext : memberTexts ([m].map fun m => (m.1, m.2.1)) ++ '\x7d' :: rest
          = quote m.1 ++ ':' :: (m.2.1 ++ '\x7d' :: rest) := by simp [memberTexts]
      rw [htext, members_quote hm (delimits_cons (by decide) _) (by decide), if_neg (by decide),
        if_pos rfl]
      rfl
  | cons m' l ih =>
      have htext : memberTexts ((m :: m' :: l).map fun m => (m.1, m.2.1)) ++ '\x7d' :: rest
          = quote m.1 ++ ':' :: (m.2.1 ++ ',' ::
            (memberTexts ((m' :: l).map fun m => (m.1, m.2.1)) ++ '\x7d' :: rest)) := by
        simp [memberTexts]
      obtain ⟨cs, hcs⟩ := memberTexts_cons (m'.1, m'.2.1) (l.map fun m => (m.1, m.2.1))
      have hskip : skip (memberTexts ((m' :: l).map fun m => (m.1, m.2.1)) ++ '\x7d' :: rest)
          = memberTexts ((m' :: l).map fun m => (m.1, m.2.1)) ++ '\x7d' :: rest := by
        rw [List.map_cons, hcs]
        exact skip_cons (by decide) _
      have hl : l.length < n := by
        rw [List.length_cons] at hn
        omega
      obtain ⟨n, rfl⟩ : ∃ n', n = n' + 1 := ⟨n - 1, by omega⟩
      have hrest := ih (fun x hx => h x (List.mem_cons_of_mem _ hx)) n (by omega)
        (h m' (List.mem_cons_of_mem _ (List.mem_cons_self ..)))
      rw [htext, members_quote hm (delimits_cons (by decide) _) (by decide), if_pos rfl, hskip,
        hrest]
      rfl

theorem length_memberTexts (l : List (JsString × List Char)) : l.length ≤ (memberTexts l).length := by
  fun_induction memberTexts l with
  | case1 => exact Nat.le_refl 0
  | case2 k t => simp [quote]
  | case3 k t m l ih =>
      simp only [List.length_cons, List.length_append] at ih ⊢
      omega

/-- An object is read as it was, if its members are. -/
theorem parse_object {m : JsString × List Char × JsValue}
    {l : List (JsString × List Char × JsValue)} (h : ∀ m' ∈ m :: l, Reads m'.2.1 m'.2.2) :
    parse (object ((m :: l).map fun m => (m.1, m.2.1)))
      = some (.obj ((m :: l).map fun m => (m.1, m.2.2))) := by
  have hlength := length_memberTexts ((m :: l).map fun m => (m.1, m.2.1))
  rw [List.length_map, List.length_cons] at hlength
  obtain ⟨cs, hcs⟩ := memberTexts_cons (m.1, m.2.1) (l.map fun m => (m.1, m.2.1))
  have hskip : skip (memberTexts ((m :: l).map fun m => (m.1, m.2.1)) ++ ['\x7d'])
      = memberTexts ((m :: l).map fun m => (m.1, m.2.1)) ++ ['\x7d'] := by
    rw [List.map_cons, hcs]
    exact skip_cons (by decide) _
  have hhead : (memberTexts ((m :: l).map fun m => (m.1, m.2.1)) ++ ['\x7d']).head?
      ≠ some '\x7d' := by
    rw [List.map_cons, hcs, List.cons_append, List.head?_cons]
    decide
  have hfuel : ∃ n, 2 * (object ((m :: l).map fun m => (m.1, m.2.1))).length = n + 1 ∧
      l.length < n := by
    refine ⟨2 * (memberTexts ((m :: l).map fun m => (m.1, m.2.1))).length + 3, ?_, by omega⟩
    simp only [object, List.length_cons, List.length_append, List.length_nil]
    omega
  obtain ⟨n, hfuel, hn⟩ := hfuel
  have hread := members_memberTexts h hn []
  have hvalue : value (2 * (object ((m :: l).map fun m => (m.1, m.2.1))).length + 1)
      (object ((m :: l).map fun m => (m.1, m.2.1)))
      = some (.obj ((m :: l).map fun m => (m.1, m.2.2)), []) := by
    rw [hfuel, object, value, if_pos rfl, hskip, if_neg hhead, hread]
    rfl
  rw [parse, object, skip_cons (by decide), ← object, hvalue]
  exact if_pos rfl

end Values

/-! ## Steps -/

section Steps

variable {cs r : List Char} {n : Nat}

theorem length_skip_le (cs : List Char) : (skip cs).length ≤ cs.length :=
  (List.dropWhile_sublist _).length_le

theorem length_tail_skip_le (cs : List Char) : (skip cs).tail.length ≤ cs.length := by
  have hskip := length_skip_le cs
  rw [List.length_tail]
  omega

theorem length_next_le (cs : List Char) : (skip (skip cs).tail).length ≤ cs.length :=
  (length_skip_le _).trans (length_tail_skip_le cs)

theorem length_string {s : JsString} (h : string cs = some (s, r)) : r.length < cs.length := by
  fun_induction string cs generalizing s r with
  | case2 rest =>
      cases h
      exact Nat.lt_succ_self _
  | case4 | case7 | case10 =>
      rename_i ih
      obtain ⟨_, hrest⟩ := left_of_map h fun _ => rfl
      have hlt := ih hrest
      simp only [List.length_cons]
      omega
  | _ => cases h

theorem length_literal {name : List Char} {v v' : JsValue} (hname : name ≠ [])
    (h : literal name v cs = some (v', r)) : r.length < cs.length := by
  unfold literal at h
  split at h
  · rename_i hprefix
    cases h
    have hlength := hprefix.length_le
    have hpos := List.length_pos_iff.mpr hname
    rw [List.length_drop]
    omega
  · cases h

theorem length_value (n : Nat) :
    (∀ {cs v r}, value n cs = some (v, r) → r.length < cs.length) ∧
    (∀ {cs l r}, members n cs = some (l, r) → r.length < cs.length) ∧
    ∀ {cs l r}, elements n cs = some (l, r) → r.length < cs.length := by
  induction n with
  | zero =>
      refine ⟨fun h => ?_, fun h => ?_, fun h => ?_⟩
      · rw [value] at h
        cases h
      · rw [members] at h
        cases h
      · rw [elements] at h
        cases h
  | succ n ih =>
      obtain ⟨ihv, ihm, ihe⟩ := ih
      refine ⟨fun {cs v r} h => ?_, fun {cs l r} h => ?_, fun {cs l r} h => ?_⟩
      · cases cs with
        | nil => rw [value] at h; cases h
        | cons c rest =>
            have hskip := length_skip_le rest
            rw [value] at h
            simp only [List.length_cons]
            split_ifs at h
            · cases h
              rw [List.length_tail]
              omega
            · obtain ⟨_, h⟩ := left_of_map h fun _ => rfl
              have hlt := ihm h
              omega
            · cases h
              rw [List.length_tail]
              omega
            · obtain ⟨_, h⟩ := left_of_map h fun _ => rfl
              have hlt := ihe h
              omega
            · obtain ⟨_, h⟩ := left_of_map h fun _ => rfl
              have hlt := length_string h
              omega
            · exact length_literal (by decide) h
            · exact length_literal (by decide) h
            · exact length_literal (by decide) h
            · obtain ⟨_, h⟩ := left_of_map h fun _ => rfl
              exact length_number h
      · cases cs with
        | nil => rw [members] at h; cases h
        | cons c rest =>
            rw [members] at h
            split at h
            · cases h
            · split at h
              · cases h
              · rename_i k rest₁ hkey
                split at h
                · cases h
                · split at h
                  · cases h
                  · rename_i v rest₂ hvalue
                    have h₁ := length_string hkey
                    have h₂ := Nat.lt_of_lt_of_le (ihv hvalue) (length_next_le rest₁)
                    have h₃ := length_next_le rest₂
                    have h₄ : (skip rest₂).tail.length ≤ rest₂.length := length_tail_skip_le rest₂
                    simp only [List.length_cons]
                    split_ifs at h
                    · obtain ⟨_, h⟩ := left_of_map h fun _ => rfl
                      have hlt := ihm h
                      omega
                    · cases h
                      omega
      · rw [elements] at h
        split at h
        · cases h
        · rename_i v rest₂ hvalue
          have h₂ := ihv hvalue
          have h₃ := length_next_le rest₂
          have h₄ := length_tail_skip_le rest₂
          split_ifs at h
          · obtain ⟨_, h⟩ := left_of_map h fun _ => rfl
            have hlt := ihe h
            omega
          · cases h
            omega

theorem fuel_succ (n : Nat) :
    (∀ {cs}, 2 * cs.length < n → value (n + 1) cs = value n cs) ∧
    (∀ {cs}, 2 * cs.length < n → members (n + 1) cs = members n cs) ∧
    ∀ {cs}, 2 * cs.length + 1 < n → elements (n + 1) cs = elements n cs := by
  induction n with
  | zero => exact ⟨fun h => absurd h (Nat.not_lt_zero _), fun h => absurd h (Nat.not_lt_zero _),
      fun h => absurd h (Nat.not_lt_zero _)⟩
  | succ n ih =>
      obtain ⟨ihv, ihm, ihe⟩ := ih
      refine ⟨fun {cs} h => ?_, fun {cs} h => ?_, fun {cs} h => ?_⟩
      · cases cs with
        | nil => rw [value, value]
        | cons c rest =>
            have hrest := length_skip_le rest
            rw [List.length_cons] at h
            rw [value, value, ihm (by omega), ihe (by omega)]
      · cases cs with
        | nil => rw [members, members]
        | cons c rest =>
            rw [List.length_cons] at h
            rw [members, members]
            refine ite_congr rfl (fun _ => rfl) fun _ => ?_
            cases hkey : string rest with
            | none => rfl
            | some key =>
                have h₁ := length_string hkey
                have h₂ := length_next_le key.2
                dsimp only
                refine ite_congr rfl (fun _ => rfl) fun _ => ?_
                rw [ihv (by omega)]
                cases hvalue : value n (skip (skip key.2).tail) with
                | none => rfl
                | some v =>
                    have h₃ := (length_value n).1 hvalue
                    have h₄ := length_next_le v.2
                    dsimp only
                    rw [ihm (by omega)]
      · rw [elements, elements, ihv (by omega)]
        cases hvalue : value n cs with
        | none => rfl
        | some v =>
            have h₁ := (length_value n).1 hvalue
            have h₂ := length_next_le v.2
            dsimp only
            rw [ihe (by omega)]

/-- **More steps than there are change nothing.** -/
theorem parse_fuel (text : List Char) {n : Nat} (h : 2 * text.length < n) :
    value n (skip text) = value (2 * text.length + 1) (skip text) := by
  obtain ⟨m, rfl⟩ : ∃ m, n = 2 * text.length + 1 + m := ⟨n - (2 * text.length + 1), by omega⟩
  have hskip := length_skip_le text
  induction m with
  | zero => rfl
  | succ m ih => exact ((fuel_succ (2 * text.length + 1 + m)).1 (by omega)).trans (ih (by omega))

end Steps

end JsonText

end Text
