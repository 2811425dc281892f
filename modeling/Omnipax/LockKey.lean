import Mathlib.Data.List.Infix

/-!
# Lock keys and the `KEYS` glob

A seat lock lives under the Redis key `seat-lock:<slug>:<event>:<seat>`,
built by concatenating strings that a request may choose freely. The
colon is therefore no reliable separator: two different requests may
address one key, and the glob of `getLocksForEvent` may match keys of
other event strings. The lemmas here say when it is reliable, namely when
the slug and the ids on *one* side contain no colon - as tenant slugs and
generated ids do.
-/

namespace Omnipax

/-! ## Glob patterns

`globMatch` follows Redis' `stringmatchlen` on characters. -/

/-- The character class after `[`: whether `c` is a member, and the pattern
after the closing bracket. -/
def globClass (c : Char) : List Char → Bool × List Char
  | [] => (false, [])
  | ']' :: p => (false, p)
  | '\\' :: x :: p => ((globClass c p).1 || x == c, (globClass c p).2)
  | a :: '-' :: b :: p =>
      ((globClass c p).1 || (a ≤ c && c ≤ b) || (b ≤ c && c ≤ a), (globClass c p).2)
  | x :: p => ((globClass c p).1 || x == c, (globClass c p).2)

/-- Fuelled core of `globMatch`: every round consumes at least one pattern
character, so the pattern's length is fuel enough. -/
def globMatchGo : Nat → List Char → List Char → Bool
  | 0, p, s => p.isEmpty && s.isEmpty
  | _ + 1, [], s => s.isEmpty
  | n + 1, '*' :: p, s => s.tails.any (globMatchGo n p)
  | n + 1, '?' :: p, _ :: s => globMatchGo n p s
  | n + 1, '[' :: '^' :: p, c :: s =>
      !(globClass c p).1 && globMatchGo n (globClass c p).2 s
  | n + 1, '[' :: p, c :: s => (globClass c p).1 && globMatchGo n (globClass c p).2 s
  | n + 1, '\\' :: x :: p, c :: s => x == c && globMatchGo n p s
  | n + 1, x :: p, c :: s => x == c && globMatchGo n p s
  | _ + 1, _ :: _, [] => false

def globMatch (pattern s : String) : Bool :=
  globMatchGo pattern.toList.length pattern.toList s.toList

/-- A character that stands for itself in a pattern. -/
def globLiteral (c : Char) : Bool :=
  c != '*' && c != '?' && c != '[' && c != '\\'

theorem globMatchGo_star (n : Nat) (s : List Char) : globMatchGo (n + 1) ['*'] s = true := by
  simp only [globMatchGo, List.any_eq_true]
  refine ⟨[], (List.mem_tails _ _).mpr List.nil_suffix, ?_⟩
  cases n <;> rfl

theorem globMatchGo_literal {x : Char} (hx : globLiteral x = true) (n : Nat)
    (p : List Char) (c : Char) (s : List Char) :
    globMatchGo (n + 1) (x :: p) (c :: s) = (x == c && globMatchGo n p s) := by
  simp only [globLiteral, Bool.and_eq_true, bne_iff_ne] at hx
  obtain ⟨⟨⟨h1, h2⟩, h3⟩, h4⟩ := hx
  rw [globMatchGo]
  all_goals simp_all

theorem globMatchGo_literal_nil {x : Char} (hx : globLiteral x = true) (n : Nat)
    (p : List Char) : globMatchGo (n + 1) (x :: p) [] = false := by
  simp only [globLiteral, Bool.and_eq_true, bne_iff_ne] at hx
  obtain ⟨⟨⟨h1, h2⟩, h3⟩, h4⟩ := hx
  rw [globMatchGo]
  all_goals simp_all

/-- A literal pattern followed by `*` matches exactly the strings it is a
prefix of. -/
theorem globMatchGo_iff {p : List Char} (hp : ∀ x ∈ p, globLiteral x = true)
    (s : List Char) :
    globMatchGo (p ++ ['*']).length (p ++ ['*']) s = true ↔ p <+: s := by
  induction p generalizing s with
  | nil =>
      simp only [List.nil_append, List.length_singleton, List.nil_prefix, iff_true]
      exact globMatchGo_star 0 s
  | cons x p ih =>
      have hx := hp x (List.mem_cons_self ..)
      have hp' : ∀ y ∈ p, globLiteral y = true := fun y hy => hp y (List.mem_cons_of_mem _ hy)
      cases s with
      | nil => simp [globMatchGo_literal_nil hx]
      | cons c s =>
          rw [List.cons_append, List.length_cons, globMatchGo_literal hx,
            Bool.and_eq_true, beq_iff_eq, ih hp', List.cons_prefix_cons]

theorem globMatch_iff {p : String} (hp : ∀ x ∈ p.toList, globLiteral x = true)
    (s : String) : globMatch (p ++ "*") s = true ↔ p.toList <+: s.toList := by
  have h : (p ++ "*").toList = p.toList ++ ['*'] := by
    rw [String.toList_append]
    rfl
  rw [globMatch, h]
  exact globMatchGo_iff hp _

/-! ## Splitting at a colon -/

def NoColon (s : String) : Prop := ':' ∉ s.toList

instance : DecidablePred NoColon := fun _ => inferInstanceAs (Decidable (_ ∉ _))

theorem append_sep_inj {α : Type} {x : α} {a a' b b' : List α} (ha : x ∉ a)
    (ha' : x ∉ a') (h : a ++ x :: b = a' ++ x :: b') : a = a' ∧ b = b' := by
  induction a generalizing a' with
  | nil =>
      cases a' with
      | nil => exact ⟨rfl, (List.cons.inj h).2⟩
      | cons y ys =>
          obtain ⟨rfl, -⟩ := List.cons.inj h
          exact absurd (List.mem_cons_self ..) ha'
  | cons y ys ih =>
      cases a' with
      | nil =>
          obtain ⟨rfl, -⟩ := List.cons.inj h
          exact absurd (List.mem_cons_self ..) ha
      | cons z zs =>
          obtain ⟨rfl, h'⟩ := List.cons.inj h
          obtain ⟨rfl, rfl⟩ := ih (fun hm => ha (List.mem_cons_of_mem _ hm))
            (fun hm => ha' (List.mem_cons_of_mem _ hm)) h'
          exact ⟨rfl, rfl⟩

/-- The only separator of the left side is the only one of the right. -/
theorem append_sep_unique {α : Type} {x : α} {a a' b b' : List α} (ha : x ∉ a)
    (hb : x ∉ b) (h : a ++ x :: b = a' ++ x :: b') : a' = a ∧ b' = b := by
  by_cases ha' : x ∈ a'
  · -- a second separator would sit in `a` or in `b`
    obtain ⟨u, v, rfl⟩ := List.append_of_mem ha'
    induction a generalizing u with
    | nil =>
        cases u with
        | nil => simp_all
        | cons y ys => simp_all
    | cons y ys ih =>
        cases u with
        | nil => simp_all
        | cons z zs =>
            simp only [List.cons_append, List.cons.injEq] at h
            have := ih (fun hm => ha (List.mem_cons_of_mem _ hm)) zs h.2
              (List.mem_append_right _ (List.mem_cons_self ..))
            simp_all
  · obtain ⟨h1, h2⟩ := append_sep_inj ha ha' h
    exact ⟨h1.symm, h2.symm⟩

/-! ## The keys of seat locks -/

/-- `SeatLocksService.getLockKey`. -/
def getLockKey (tenantSlug eventId seatId : String) : String :=
  "seat-lock:" ++ tenantSlug ++ ":" ++ eventId ++ ":" ++ seatId

theorem getLockKey_toList (t e s : String) :
    (getLockKey t e s).toList =
      "seat-lock:".toList ++ (t.toList ++ ':' :: (e.toList ++ ':' :: s.toList)) := by
  simp [getLockKey, String.toList_append]

/-- The key of a colon-free slug, event id and seat id belongs to no other
triple with a colon-free slug. -/
theorem getLockKey_inj {t e s t' e' s' : String} (ht : NoColon t) (he : NoColon e)
    (hs : NoColon s) (ht' : NoColon t') (h : getLockKey t' e' s' = getLockKey t e s) :
    t' = t ∧ e' = e ∧ s' = s := by
  have hl := congrArg String.toList h
  rw [getLockKey_toList, getLockKey_toList] at hl
  obtain ⟨h1, h2⟩ := append_sep_inj ht' ht (List.append_cancel_left hl)
  obtain ⟨h3, h4⟩ := append_sep_unique he hs h2.symm
  exact ⟨String.toList_inj.mp h1, String.toList_inj.mp h3, String.toList_inj.mp h4⟩

/-! ## The keys `getLocksForEvent` finds -/

/-- The part of the pattern before the star. -/
def locksPrefix (tenantSlug eventId : String) : String :=
  "seat-lock:" ++ tenantSlug ++ ":" ++ eventId ++ ":"

/-- The event string `e'` starts like the event id `e` followed by a colon. -/
def Shadows (e e' : String) : Prop := ∃ r : String, e' = e ++ ":" ++ r

theorem shadows_iff {e e' : String} : Shadows e e' ↔ (e ++ ":").toList <+: e'.toList := by
  constructor
  · rintro ⟨r, rfl⟩
    exact ⟨r.toList, (String.toList_append ..).symm⟩
  · rintro ⟨l, hl⟩
    refine ⟨String.ofList l, String.toList_inj.mp ?_⟩
    rw [String.toList_append, ← hl, String.toList_ofList]

instance (e e' : String) : Decidable (Shadows e e') :=
  decidable_of_iff' _ shadows_iff

theorem not_shadows_self {e : String} : ¬Shadows e e := by
  rintro ⟨r, hr⟩
  have hlen := congrArg (fun s => s.toList.length) hr
  simp only [String.toList_append, List.length_append] at hlen
  have hcolon : ":".toList.length = 1 := rfl
  omega

theorem locksPrefix_toList (t e : String) :
    (locksPrefix t e).toList =
      "seat-lock:".toList ++ (t.toList ++ ':' :: (e.toList ++ [':'])) := by
  simp [locksPrefix, String.toList_append]

/-- A key matches the prefix of a colon-free slug and event id exactly when
it was built for this slug and either for this very event or for an event
string that shadows it. -/
theorem prefix_getLockKey_iff {t e t' e' s' : String} (ht : NoColon t) (he : NoColon e)
    (ht' : NoColon t') :
    (locksPrefix t e).toList <+: (getLockKey t' e' s').toList ↔
      t' = t ∧ (e' = e ∨ Shadows e e') := by
  rw [locksPrefix_toList, getLockKey_toList]
  constructor
  · rintro ⟨r, hr⟩
    have h1 : t.toList ++ ':' :: (e.toList ++ ':' :: r)
        = t'.toList ++ ':' :: (e'.toList ++ ':' :: s'.toList) := by
      have h0 : "seat-lock:".toList ++ (t.toList ++ ':' :: (e.toList ++ ':' :: r))
          = "seat-lock:".toList
            ++ (t'.toList ++ ':' :: (e'.toList ++ ':' :: s'.toList)) := by
        rw [← hr]
        simp [List.append_assoc]
      exact List.append_cancel_left h0
    obtain ⟨htt, h2⟩ := append_sep_inj ht ht' h1
    refine ⟨(String.toList_inj.mp htt).symm, ?_⟩
    by_cases he' : ':' ∈ e'.toList
    · obtain ⟨u, v, hu, huv⟩ : ∃ u v, ':' ∉ u ∧ e'.toList = u ++ ':' :: v :=
        List.eq_append_cons_of_mem he' |>.imp fun _ h => h.imp fun _ h => ⟨h.2, h.1⟩
      rw [huv, List.append_assoc, List.cons_append] at h2
      obtain ⟨h3, -⟩ := append_sep_inj he hu h2
      refine Or.inr ⟨String.ofList v, String.toList_inj.mp ?_⟩
      rw [huv, ← h3, String.toList_append, String.toList_append, String.toList_ofList]
      simp
    · exact Or.inl (String.toList_inj.mp (append_sep_inj he he' h2).1).symm
  · rintro ⟨rfl, rfl | ⟨r, rfl⟩⟩
    · exact ⟨s'.toList, by simp [List.append_assoc]⟩
    · exact ⟨r.toList ++ ':' :: s'.toList, by
        simp [String.toList_append, List.append_assoc]⟩

end Omnipax
