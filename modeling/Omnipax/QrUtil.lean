import Omnipax.Text.Base64
import Omnipax.Text.JsonText

/-!
# Signed QR tokens

`version.base64(payload).signature`, signed with HMAC-SHA256, which is any
function to 64 hexadecimal digits here. `validateToken` takes every string: it is
valid when the signature is the one of its middle part, and that part decodes to
JSON with the three fields. Decoding is lenient throughout, so a signed part need
not be one that `generateSignedToken` writes.
-/

namespace Omnipax.QrUtil

open Text

abbrev Digest := {digits : List (Fin 16) // digits.length = 64}

/-- `digest('hex')` -/
def Digest.hex (d : Digest) : JsString :=
  d.val.map fun n => UInt16.ofNat (if n.val < 10 then n.val + 48 else n.val + 87)

structure QRPayload where
  t : JsString
  s : JsString
  exp : JsInteger

def QRPayload.toObject (p : QRPayload) : JsValue :=
  .obj [(js "t", .str p.t), (js "s", .str p.s), (js "exp", .num (.finite p.exp.value))]

/-- `JSON.stringify(payload)` -/
def stringify (p : QRPayload) : List Char :=
  JsonText.object [(js "t", JsonText.quote p.t), (js "s", JsonText.quote p.s),
    (js "exp", integerText p.exp.value)]

/-- `.` -/
def dot : UInt16 := 46

section Tokens

variable (createHmac : JsString → JsString → Digest)

def generateSignedToken (payload : QRPayload) (secret : JsString) : JsString :=
  let base64Payload := Base64.encode (encodeUtf8 (stringify payload))
  let signature := (createHmac secret base64Payload).hex
  js "v1." ++ base64Payload ++ js "." ++ signature

/-- The payload of a token whose version, signature and required fields are as they should
be. Any failure on the way makes it invalid, and none is thrown. -/
def validateToken (token secret : JsString) : Option JsValue :=
  if token = [] then none
  else
    match token.splitOn dot with
    | [version, base64Payload, incomingSignature] =>
        if version ≠ js "v1" then none
        else
          let expectedBuffer := encodeUtf8 (scalars (createHmac secret base64Payload).hex)
          let incomingBuffer := encodeUtf8 (scalars incomingSignature)
          if expectedBuffer.length ≠ incomingBuffer.length then none
          else if expectedBuffer ≠ incomingBuffer then none
          else
            match JsonText.parse (decodeUtf8 (Base64.decode base64Payload)) with
            | none => none
            | some payload =>
                -- of `null` a field cannot be asked for: this is caught, and not valid either
                if !JsValue.truthy (payload.member? (js "t")) ||
                    !JsValue.truthy (payload.member? (js "s")) ||
                    !JsValue.truthy (payload.member? (js "exp")) then none
                else some payload
    | _ => none

end Tokens

/-- What a part of a token carries: it decodes to JSON, of whatever kind, whose fields `t`,
`s` and `exp` are truthy. This is all that the code checks of a payload. -/
structure Carries (b : JsString) (payload : JsValue) : Prop where
  parsed : JsonText.parse (decodeUtf8 (Base64.decode b)) = some payload
  t : JsValue.truthy (payload.member? (js "t")) = true
  s : JsValue.truthy (payload.member? (js "s")) = true
  exp : JsValue.truthy (payload.member? (js "exp")) = true

/-! ## The parts of a token -/

section Split

variable {α : Type} [DecidableEq α] {d : α} {l a b c : List α}

theorem not_mem_of_mem_splitOn {part : List α} (h : part ∈ l.splitOn d) : d ∉ part := by
  induction l generalizing part with
  | nil =>
      rw [List.splitOn_nil, List.mem_singleton] at h
      rw [h]
      exact List.not_mem_nil
  | cons x l ih =>
      rw [List.splitOn_cons_eq_if_modifyHead] at h
      obtain ⟨first, parts, hparts⟩ := List.exists_cons_of_ne_nil (List.splitOn_ne_nil d l)
      rw [hparts] at h ih
      split at h
      · rcases List.mem_cons.mp h with rfl | h
        · exact List.not_mem_nil
        · exact ih h
      · rename_i hx
        rw [List.modifyHead_cons] at h
        rcases List.mem_cons.mp h with rfl | h
        · rw [List.mem_cons, not_or]
          exact ⟨fun hd => hx (beq_iff_eq.mpr hd.symm), ih (List.mem_cons_self ..)⟩
        · exact ih (List.mem_cons_of_mem _ h)

theorem splitOn_eq_three :
    l.splitOn d = [a, b, c] ↔ l = a ++ d :: (b ++ d :: c) ∧ d ∉ a ∧ d ∉ b ∧ d ∉ c := by
  constructor
  · intro h
    have hmem : ∀ part ∈ [a, b, c], d ∉ part := fun part hpart =>
      not_mem_of_mem_splitOn (h ▸ hpart)
    refine ⟨?_, hmem a (by simp), hmem b (by simp), hmem c (by simp)⟩
    have hjoin : [d].intercalate (l.splitOn d) = l := List.intercalate_splitOn d
    rw [← hjoin, h]
    simp
  · rintro ⟨rfl, ha, hb, hc⟩
    rw [List.splitOn_append_cons_self_of_not_mem ha, List.splitOn_append_cons_self_of_not_mem hb,
      List.splitOn_eq_singleton hc]

end Split

/-! ## Signatures -/

section Signatures

theorem lt_of_mem_hex {d : Digest} {u : UInt16} (h : u ∈ d.hex) : u.toNat < 0x80 ∧ u ≠ dot := by
  obtain ⟨n, -, rfl⟩ := List.mem_map.mp h
  have hall : ∀ n : Fin 16, (UInt16.ofNat (if n.val < 10 then n.val + 48 else n.val + 87)).toNat < 0x80
      ∧ UInt16.ofNat (if n.val < 10 then n.val + 48 else n.val + 87) ≠ dot := by decide
  exact hall n

theorem eq_hex_iff {d : Digest} {signature : JsString} :
    encodeUtf8 (scalars d.hex) = encodeUtf8 (scalars signature) ↔ signature = d.hex := by
  have hascii : ∀ u ∈ d.hex, u.toNat < 0x80 := fun u hu => (lt_of_mem_hex hu).1
  constructor
  · exact fun h => scalars_inj (replacement_not_mem_of_ascii hascii) (encodeUtf8_inj h).symm
  · rintro rfl
    rfl

end Signatures

/-! ## Validation -/

section Validation

variable {createHmac : JsString → JsString → Digest} {k w b : JsString} {payload : JsValue}

theorem carries_iff : Carries b payload ↔ ∃ payload',
    JsonText.parse (decodeUtf8 (Base64.decode b)) = some payload' ∧
    (if !JsValue.truthy (payload'.member? (js "t")) || !JsValue.truthy (payload'.member? (js "s")) ||
      !JsValue.truthy (payload'.member? (js "exp")) then none else some payload') = some payload := by
  constructor
  · rintro ⟨hparsed, ht, hs, hexp⟩
    exact ⟨payload, hparsed, by rw [ht, hs, hexp]; rfl⟩
  · rintro ⟨payload', hparsed, hfields⟩
    split at hfields
    · cases hfields
    · rename_i hall
      obtain rfl := Option.some.inj hfields
      simp only [Bool.or_eq_true, Bool.not_eq_true', not_or, Bool.not_eq_false] at hall
      exact ⟨hparsed, hall.1.1, hall.1.2, hall.2⟩

theorem validateToken_of_splitOn (hsplit : w.splitOn dot = [js "v1", b, (createHmac k b).hex]) :
    validateToken createHmac w k = some payload ↔ Carries b payload := by
  have hne : w ≠ [] := by
    rintro rfl
    rw [List.splitOn_nil] at hsplit
    cases hsplit
  rw [validateToken, if_neg hne, hsplit, carries_iff]
  dsimp only
  rw [if_neg (by simp), if_neg (by simp), if_neg (by simp)]
  cases JsonText.parse (decodeUtf8 (Base64.decode b)) with
  | none => simp
  | some payload' => simp

theorem splitOn_token (hb : dot ∉ b) :
    (js "v1." ++ b ++ js "." ++ (createHmac k b).hex).splitOn dot
      = [js "v1", b, (createHmac k b).hex] := by
  refine splitOn_eq_three.mpr ⟨?_, by decide, hb, fun h => (lt_of_mem_hex h).2 rfl⟩
  rw [show js "v1." = js "v1" ++ [dot] from rfl, show js "." = [dot] from rfl]
  simp

/-- A valid token has three parts, the first is the version, and the last the
signature of the second. -/
theorem splitOn_of_valid (h : validateToken createHmac w k = some payload) :
    ∃ b, w.splitOn dot = [js "v1", b, (createHmac k b).hex] := by
  unfold validateToken at h
  split at h
  · cases h
  · split at h
    · rename_i version b signature hsplit
      dsimp only at h
      split at h
      · cases h
      · rename_i hversion
        split at h
        · cases h
        · split at h
          · cases h
          · rename_i hsignature
            obtain rfl := eq_hex_iff.mp (not_not.mp hsignature)
            exact ⟨b, by rw [hsplit, not_not.mp hversion]⟩
    · cases h

/-- **What a token has to be.** -/
theorem validateToken_eq_some_iff : validateToken createHmac w k = some payload ↔
    ∃ b, dot ∉ b ∧ w = js "v1." ++ b ++ js "." ++ (createHmac k b).hex ∧ Carries b payload := by
  constructor
  · intro h
    obtain ⟨b, hsplit⟩ := splitOn_of_valid h
    obtain ⟨hw, -, hb, -⟩ := splitOn_eq_three.mp hsplit
    refine ⟨b, hb, ?_, (validateToken_of_splitOn hsplit).mp h⟩
    rw [hw, show js "v1." = js "v1" ++ [dot] from rfl, show js "." = [dot] from rfl]
    simp
  · rintro ⟨b, hb, rfl, hcarries⟩
    exact (validateToken_of_splitOn (splitOn_token hb)).mpr hcarries

/-! ## Round trip -/

theorem dot_not_mem_encode (bytes : List UInt8) : dot ∉ Base64.encode bytes := by
  intro h
  have hall : ∀ n < 64, dot ≠ Base64.digit n := by decide
  rcases Base64.mem_encode h with h | ⟨n, hn, h⟩
  · exact absurd h (by decide)
  · exact hall n hn h

theorem parse_stringify {p : QRPayload} (hexp : p.exp.value ≠ 0) :
    JsonText.parse (stringify p) = some p.toObject := by
  refine JsonText.parse_object
    (m := (js "t", JsonText.quote p.t, .str p.t))
    (l := [(js "s", JsonText.quote p.s, .str p.s),
      (js "exp", integerText p.exp.value, .num (.finite p.exp.value))]) ?_
  simp only [List.forall_mem_cons]
  exact ⟨JsonText.reads_quote p.t, JsonText.reads_quote p.s,
    JsonText.reads_integerText p.exp hexp, fun _ h => nomatch h⟩

theorem toObject_members (p : QRPayload) : p.toObject.member? (js "t") = some (.str p.t) ∧
    p.toObject.member? (js "s") = some (.str p.s) ∧
    p.toObject.member? (js "exp") = some (.num (.finite p.exp.value)) := by
  have hkeys : (js "t" == js "exp") = false ∧ (js "t" == js "s") = false ∧
      (js "s" == js "exp") = false := by decide
  obtain ⟨h₁, h₂, h₃⟩ := hkeys
  simp [QRPayload.toObject, JsValue.member?, List.lookup_cons, h₁, h₂, h₃]

theorem carries_stringify {p : QRPayload} (ht : p.t ≠ []) (hs : p.s ≠ [])
    (hexp : p.exp.value ≠ 0) :
    Carries (Base64.encode (encodeUtf8 (stringify p))) p.toObject where
  parsed := by rw [Base64.decode_encode, decode_encode, parse_stringify hexp]
  t := (congrArg JsValue.truthy (toObject_members p).1).trans (bne_iff_ne.mpr ht)
  s := (congrArg JsValue.truthy (toObject_members p).2.1).trans (bne_iff_ne.mpr hs)
  exp := (congrArg JsValue.truthy (toObject_members p).2.2).trans (bne_iff_ne.mpr (by simpa using hexp))

/-- **A token is valid exactly if its middle part is signed and carries the fields,
and one that has been generated is.** -/
theorem token_exact (createHmac : JsString → JsString → Digest) (k : JsString) :
    (∀ p : QRPayload, p.t ≠ [] → p.s ≠ [] → p.exp.value ≠ 0 →
      validateToken createHmac (generateSignedToken createHmac p k) k = some p.toObject) ∧
    ∀ w, (validateToken createHmac w k).isSome ↔ ∃ b, dot ∉ b ∧
      w = js "v1." ++ b ++ js "." ++ (createHmac k b).hex ∧ ∃ payload, Carries b payload := by
  refine ⟨fun p ht hs hexp => validateToken_eq_some_iff.mpr
    ⟨_, dot_not_mem_encode _, rfl, carries_stringify ht hs hexp⟩, fun w => ?_⟩
  rw [Option.isSome_iff_exists]
  constructor
  · rintro ⟨payload, h⟩
    obtain ⟨b, hb, hw, hcarries⟩ := validateToken_eq_some_iff.mp h
    exact ⟨b, hb, hw, payload, hcarries⟩
  · rintro ⟨b, hb, hw, payload, hcarries⟩
    exact ⟨payload, validateToken_eq_some_iff.mpr ⟨b, hb, hw, hcarries⟩⟩

end Validation

namespace Sample

def createHmac (_ _ : JsString) : Digest := ⟨List.replicate 64 0, List.length_replicate⟩

def payload : QRPayload where
  t := js "t1"
  s := js "s1"
  exp := ⟨1700000000, by decide +kernel⟩

/-- JSON whose `t` is the byte `0xFF`. -/
def malformed : JsString := js "eyJ0Ijoi/yIsInMiOiJiIiwiZXhwIjoxfQ=="

end Sample

theorem token_exact_sample : validateToken Sample.createHmac
    (generateSignedToken Sample.createHmac Sample.payload (js "key")) (js "key")
      = some Sample.payload.toObject :=
  (token_exact Sample.createHmac (js "key")).1 Sample.payload (by decide) (by decide) (by decide)

/-- What is not UTF-8 is accepted too. -/
theorem not_token_exact_malformed :
    ¬ ∀ (createHmac : JsString → JsString → Digest) (k : JsString),
      (∀ p : QRPayload, p.t ≠ [] → p.s ≠ [] → p.exp.value ≠ 0 →
        validateToken createHmac (generateSignedToken createHmac p k) k = some p.toObject) ∧
      ∀ w, (validateToken createHmac w k).isSome ↔ ∃ b, dot ∉ b ∧
        w = js "v1." ++ b ++ js "." ++ (createHmac k b).hex ∧ ∃ text payload,
          Base64.decode b = encodeUtf8 text ∧ JsonText.parse text = some payload ∧
          JsValue.truthy (payload.member? (js "t")) = true ∧
          JsValue.truthy (payload.member? (js "s")) = true ∧
          JsValue.truthy (payload.member? (js "exp")) = true := by
  intro h
  obtain ⟨b, -, hw, text, -, hdecoded, -⟩ := ((h Sample.createHmac (js "key")).2
    (js "v1." ++ Sample.malformed ++ js "." ++ (Sample.createHmac (js "key") []).hex)).mp
      (by decide +kernel)
  -- the signature has one length, so the middle parts are the same
  obtain ⟨hstart, -⟩ := List.append_inj' hw rfl
  obtain rfl : Sample.malformed = b := by simpa using hstart
  have hmem : (0xFF : UInt8) ∈ Base64.decode Sample.malformed := by decide +kernel
  rw [hdecoded] at hmem
  exact absurd (lt_of_mem_encodeUtf8 hmem) (by decide)

end Omnipax.QrUtil
