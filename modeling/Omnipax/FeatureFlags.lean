import Omnipax.Conc.Alone
import Omnipax.Conc.Undisturbed

/-!
# Feature flags

`setFlag` looks for the row of a key and a tenant, and updates it or creates
one. The unique index on key and tenant has nothing to say of global flags, of
which the tenant is null: two calls that have found none create two rows, and
from then on a call that writes and one that reads take one of them each.
-/

namespace Omnipax.FeatureFlags

open Conc Database Prog

/-! ## The table -/

structure FeatureFlag where
  id : String
  key : String
  enabled : Bool
  tenantId : Option String
deriving Repr, DecidableEq

/-- The row is that of the key and the tenant, or the global one of the key. -/
def FeatureFlag.has (key : String) (tenantId : Option String) (f : FeatureFlag) : Bool :=
  f.key == key && f.tenantId == tenantId

inductive FeatureStmt where
  | findUnique (key tenantId : String)
  | findFirst (key : String) (tenantId : Option String)
  | update (id : String) (enabled : Bool)
  | create (key : String) (enabled : Bool) (tenantId : Option String)
deriving Repr, DecidableEq

abbrev FeatureStmt.Ret : FeatureStmt → Type
  | .findUnique .. => Option FeatureFlag
  | .findFirst .. => Option FeatureFlag
  | .update .. => FeatureFlag
  | .create .. => FeatureFlag

inductive FeatureError where
  | prisma (code : String)
  | unavailable
deriving Repr, DecidableEq

/-- Whether a request or its answer is lost, which of the rows that match comes
first, and the identifier of a new one. -/
structure FeatureOracle where
  loss : Option Loss := none
  first : Nat := 0
  cuid : String := ""
deriving Repr, DecidableEq

inductive FeatureWrite where
  | update (id : String) (enabled : Bool)
  | create (row : FeatureFlag)
deriving Repr, DecidableEq

abbrev FeatureData := List FeatureFlag

def FeatureWrite.apply : FeatureWrite → FeatureData → FeatureData
  | .update id enabled, d => d.map fun f => if f.id = id then { f with enabled } else f
  | .create row, d => d ++ [row]

/-- The primary key, and the unique index, in which a null is not like another. -/
def collides (row f : FeatureFlag) : Bool :=
  f.id == row.id || f.has row.key row.tenantId && row.tenantId.isSome

def FeatureStmt.exec (o : FeatureOracle) (d : FeatureData) :
    (q : FeatureStmt) → Except FeatureError q.Ret × List FeatureWrite
  | .findUnique key tenantId => (.ok (d.find? (·.has key (some tenantId))), [])
  | .findFirst key tenantId =>
      let rows := d.filter (·.has key tenantId)
      (.ok rows[o.first % rows.length]?, [])
  | .update id enabled =>
      match d.find? (·.id == id) with
      | none => (.error (.prisma "P2025"), [])
      | some f => (.ok { f with enabled }, [.update id enabled])
  | .create key enabled tenantId =>
      let row : FeatureFlag := ⟨o.cuid, key, enabled, tenantId⟩
      if d.any (collides row) then (.error (.prisma "P2002"), []) else (.ok row, [.create row])

def featureDb : Database FeatureStmt FeatureData FeatureWrite String FeatureOracle FeatureError where
  Ans := FeatureStmt.Ret
  exec q o d := q.exec o d
  apply := FeatureWrite.apply
  keys _ := []
  loss := FeatureOracle.loss
  inProcess _ := false
  gone := .unavailable

/-! ## The service -/

abbrev FeatureM := Prog featureDb.sig FeatureError

def ask (q : FeatureStmt) : FeatureM q.Ret := featureDb.query id none q

def globalFlag (key : String) : FeatureM Bool := do
  let globalFlag ← ask (.findFirst key none)
  return (globalFlag.map (·.enabled)).getD false

def isEnabled (key : String) (tenantId : Option String) : FeatureM Bool :=
  match tenantId with
  | none => globalFlag key
  | some tenantId =>
      if tenantId = "" then globalFlag key
      else do
        match ← ask (.findUnique key tenantId) with
        | some tenantFlag => return tenantFlag.enabled
        | none => globalFlag key

def setFlag (key : String) (enabled : Bool) (tenantId : Option String) : FeatureM FeatureFlag := do
  match ← ask (.findFirst key tenantId) with
  | some existing => ask (.update existing.id enabled)
  | none => ask (.create key enabled tenantId)

/-! ## The system -/

inductive FeatureOp where
  | isEnabled (key : String) (tenantId : Option String)
  | setFlag (key : String) (enabled : Bool) (tenantId : Option String)
deriving Repr, DecidableEq

inductive FeatureReply where
  | isEnabled (enabled : Bool)
  | setFlag (flag : FeatureFlag)
deriving Repr, DecidableEq

def FeatureOp.body : FeatureOp → FeatureM FeatureReply
  | .isEnabled key tenantId => FeatureReply.isEnabled <$> FeatureFlags.isEnabled key tenantId
  | .setFlag key enabled tenantId => FeatureReply.setFlag <$> FeatureFlags.setFlag key enabled tenantId

abbrev FeatureStore := Store FeatureData FeatureWrite
abbrev FeatureSnap := Snap featureDb.sig FeatureStore FeatureOracle FeatureOp
abbrev FeatureEvent := Conc.Event featureDb.sig FeatureStore FeatureOracle FeatureOp
abbrev FeatureLabel := Label FeatureOracle (DbEnv Empty) FeatureOp
abbrev FeatureOutline := Outline featureDb.sig FeatureStore FeatureOracle FeatureOp

abbrev features : System featureDb.sig FeatureStore FeatureOracle (DbEnv Empty) FeatureError
    FeatureReply FeatureOp :=
  featureDb.system (fun e _ => e.elim) FeatureOp.body

/-! ## Rows and values -/

/-- What the index is meant for: one row for each key and tenant. The index lets two global
rows of one key through, since their tenant is null. -/
structure OneRow (d : FeatureData) : Prop where
  ids : (d.map (·.id)).Nodup
  scopes : (d.map fun f => (f.key, f.tenantId)).Nodup

def value? (key : String) (tenantId : Option String) (d : FeatureData) : Option Bool :=
  (d.find? (·.has key tenantId)).map (·.enabled)

section Rows

variable {d : FeatureData} {key key' id : String} {tenantId tenantId' : Option String}
  {enabled : Bool} {f row : FeatureFlag}

theorem has_iff : f.has key tenantId = true ↔ f.key = key ∧ f.tenantId = tenantId := by
  rw [FeatureFlag.has, Bool.and_eq_true, beq_iff_eq, beq_iff_eq]

theorem OneRow.eq_of_has (h : OneRow d) (hf : f ∈ d) (hrow : row ∈ d)
    (hf' : f.has key tenantId = true) (hrow' : row.has key tenantId = true) : f = row := by
  obtain ⟨rfl, rfl⟩ := has_iff.mp hf'
  obtain ⟨hkey, htenant⟩ := has_iff.mp hrow'
  exact List.inj_on_of_nodup_map h.scopes hf hrow (by rw [hkey, htenant])

theorem OneRow.eq_of_id (h : OneRow d) (hf : f ∈ d) (hrow : row ∈ d) (hid : f.id = row.id) :
    f = row := List.inj_on_of_nodup_map h.ids hf hrow hid

theorem OneRow.first (h : OneRow d) (n : Nat) :
    (d.filter (·.has key tenantId))[n % (d.filter (·.has key tenantId)).length]?
      = d.find? (·.has key tenantId) := by
  cases hfind : d.find? (·.has key tenantId) with
  | none =>
      rw [List.filter_eq_nil_iff.mpr (by simpa using hfind)]
      rfl
  | some f =>
      have hf : f ∈ d.filter (·.has key tenantId) :=
        List.mem_filter.mpr ⟨List.mem_of_find?_eq_some hfind, List.find?_some hfind⟩
      have hall : ∀ g ∈ d.filter (·.has key tenantId), g = f := fun g hg =>
        h.eq_of_has (List.mem_filter.mp hg).1 (List.mem_filter.mp hf).1 (List.mem_filter.mp hg).2
          (List.mem_filter.mp hf).2
      have hnodup : (d.filter (·.has key tenantId)).Nodup := (List.Nodup.of_map _ h.ids).filter _
      generalize d.filter (·.has key tenantId) = rows at hf hall hnodup
      cases rows with
      | nil => cases hf
      | cons g rows =>
          obtain rfl := hall g (List.mem_cons_self ..)
          cases rows with
          | nil => simp [Nat.mod_one]
          | cons g' rows =>
              obtain rfl := hall g' (by simp)
              simp at hnodup

theorem value?_update (h : OneRow d) (hrow : row ∈ d) (hid : row.id = id)
    (key : String) (tenantId : Option String) (enabled : Bool) :
    value? key tenantId (FeatureWrite.apply (.update id enabled) d)
      = if row.has key tenantId then some enabled else value? key tenantId d := by
  subst hid
  have hmap : (d.map fun f => if f.id = row.id then { f with enabled } else f).find?
        (·.has key tenantId)
      = (d.find? (·.has key tenantId)).map fun f => if f.id = row.id then { f with enabled } else f := by
    rw [List.find?_map]
    refine congrArg (fun p => (d.find? p).map _) (funext fun f => ?_)
    rw [Function.comp_apply]
    split <;> rfl
  rw [value?, FeatureWrite.apply, hmap, value?, Option.map_map]
  cases hfind : d.find? (·.has key tenantId) with
  | none =>
      have hnot : row.has key tenantId = false := by
        simpa using List.find?_eq_none.mp hfind row hrow
      rw [hnot]
      rfl
  | some f =>
      have hf := List.find?_some hfind
      have hmem := List.mem_of_find?_eq_some hfind
      by_cases hsame : f.id = row.id
      · obtain rfl := h.eq_of_id hmem hrow hsame
        rw [if_pos hf]
        simp
      · have hnot : ¬row.has key tenantId = true := fun hhas =>
          hsame (congrArg FeatureFlag.id (h.eq_of_has hmem hrow hf hhas))
        rw [if_neg hnot]
        simp [hsame]

theorem value?_create (key : String) (tenantId : Option String) (row : FeatureFlag) :
    value? key tenantId (FeatureWrite.apply (.create row) d)
      = (value? key tenantId d).or (if row.has key tenantId then some row.enabled else none) := by
  rw [value?, FeatureWrite.apply, List.find?_append, value?]
  cases hfind : d.find? (·.has key tenantId) with
  | some f => rfl
  | none =>
      cases hhas : row.has key tenantId with
      | true => simp [hhas]
      | false => simp [hhas]

theorem OneRow.update (h : OneRow d) (id : String) (enabled : Bool) :
    OneRow (FeatureWrite.apply (.update id enabled) d) := by
  have hmap {β : Type} (g : FeatureFlag → β) (hg : ∀ f : FeatureFlag, g { f with enabled } = g f) :
      (FeatureWrite.apply (.update id enabled) d).map g = d.map g := by
    rw [FeatureWrite.apply, List.map_map]
    refine List.map_congr_left fun f _ => ?_
    rw [Function.comp_apply]
    split
    · exact hg f
    · rfl
  exact ⟨by rw [hmap _ fun _ => rfl]; exact h.ids, by rw [hmap _ fun _ => rfl]; exact h.scopes⟩

theorem OneRow.create (h : OneRow d) (hid : ∀ f ∈ d, f.id ≠ row.id)
    (hscope : ∀ f ∈ d, f.has row.key row.tenantId = false) :
    OneRow (FeatureWrite.apply (.create row) d) := by
  constructor
  · rw [FeatureWrite.apply, List.map_append]
    refine h.ids.append (List.nodup_singleton _) fun id hmem hnew => ?_
    obtain ⟨f, hf, rfl⟩ := List.mem_map.mp hmem
    exact hid f hf (List.mem_singleton.mp hnew)
  · rw [FeatureWrite.apply, List.map_append]
    refine h.scopes.append (List.nodup_singleton _) fun scope hmem hnew => ?_
    obtain ⟨f, hf, rfl⟩ := List.mem_map.mp hmem
    have hboth := Prod.mk.inj (List.mem_singleton.mp hnew)
    cases (hscope f hf).symm.trans (has_iff.mpr hboth)

end Rows

/-! ## What a command writes -/

/-- Some other call has made a global row since this one has found none. -/
def duplicates (d : FeatureData) : TxCmd FeatureStmt → Bool
  | .stmt _ (.create key _ none) => d.any (·.has key none)
  | _ => false

/-- A call creates a global flag only where there is none of its key. The unique index says
nothing of these rows, as their tenant is null. -/
def alone : Discipline featureDb.sig FeatureStore FeatureOracle FeatureOp where
  starts _ := True
  allows _ _ c _ s := duplicates s.world.data c = false

instance : DecidablePred alone.starts := fun _ => isTrue trivial

instance (i : Nat) (op : FeatureOp) (c : TxCmd FeatureStmt) (o : FeatureOracle) :
    DecidablePred (alone.allows i op c o) := fun _ => instDecidableEqBool _ _

section Effects

variable {key : String} {tenantId : Option String} {op : FeatureOp} {q : FeatureStmt}
  {o : FeatureOracle} {d : FeatureData}

/-- A statement writes at most one row, and a new one is like no other. -/
theorem exec_writes (q : FeatureStmt) (o : FeatureOracle) (d : FeatureData) :
    (featureDb.exec q o d).2 = [] ∨
      (∃ id enabled, q = .update id enabled ∧ (featureDb.exec q o d).2 = [.update id enabled]) ∨
      ∃ key enabled tenantId, q = .create key enabled tenantId ∧
        (featureDb.exec q o d).2 = [.create ⟨o.cuid, key, enabled, tenantId⟩] ∧
        ∀ f ∈ d, collides ⟨o.cuid, key, enabled, tenantId⟩ f = false := by
  change (q.exec o d).2 = [] ∨ (∃ id enabled, _ ∧ (q.exec o d).2 = _) ∨
    ∃ key enabled tenantId, _ ∧ (q.exec o d).2 = _ ∧ _
  cases q with
  | findUnique key tenantId => exact Or.inl rfl
  | findFirst key tenantId => exact Or.inl rfl
  | update id enabled =>
      simp only [FeatureStmt.exec]
      split
      · exact Or.inl rfl
      · exact Or.inr (Or.inl ⟨id, enabled, rfl, rfl⟩)
  | create key enabled tenantId =>
      simp only [FeatureStmt.exec]
      split
      · exact Or.inl rfl
      · rename_i hnot
        refine Or.inr (Or.inr ⟨key, enabled, tenantId, rfl, rfl, fun f hf => ?_⟩)
        exact Bool.eq_false_iff.mpr fun h => hnot (List.any_eq_true.mpr ⟨f, hf, h⟩)

theorem exec_update {id : String} {enabled : Bool} {f : FeatureFlag}
    (h : (featureDb.exec (.update id enabled) o d).1 = .ok f) :
    (featureDb.exec (.update id enabled) o d).2 = [.update id enabled] := by
  change (FeatureStmt.exec o d _).1 = _ at h
  change (FeatureStmt.exec o d _).2 = _
  simp only [FeatureStmt.exec] at h ⊢
  split at h
  · cases h
  · rfl

theorem exec_create {enabled : Bool} {f : FeatureFlag}
    (h : (featureDb.exec (.create key enabled tenantId) o d).1 = .ok f) :
    (featureDb.exec (.create key enabled tenantId) o d).2
        = [.create ⟨o.cuid, key, enabled, tenantId⟩] ∧
      ∀ f ∈ d, collides ⟨o.cuid, key, enabled, tenantId⟩ f = false := by
  rcases exec_writes (.create key enabled tenantId) o d with
    hws | ⟨_, _, hq, -⟩ | ⟨key', enabled', tenantId', hq, hws, hnew⟩
  · change (FeatureStmt.exec o d _).1 = _ at h
    change (FeatureStmt.exec o d _).2 = _ at hws
    simp only [FeatureStmt.exec] at h hws
    split at h
    · cases h
    · rename_i hnot
      rw [if_neg hnot] at hws
      cases hws
  · cases hq
  · cases hq
    exact ⟨hws, hnew⟩

theorem data_step (q : FeatureStmt) (o : FeatureOracle) (s : FeatureStore) :
    (featureDb.step (.stmt none q) o s).2.data = s.data ∨
      (featureDb.step (.stmt none q) o s).2.data
        = featureDb.applyAll (featureDb.exec q o s.data).2 s.data := by
  rcases step_data featureDb (.stmt none q) o s with hd | ⟨q', hq, -, hd⟩ | ⟨ss, hc, -⟩
  · exact Or.inl hd
  · cases hq
    exact Or.inr hd
  · cases hc

/-- A row that is new to the indexes, and to the call that creates it. -/
theorem fresh_row {row : FeatureFlag} (hnew : ∀ f ∈ d, collides row f = false)
    (hdup : duplicates d (.stmt none (.create row.key row.enabled row.tenantId)) = false) :
    (∀ f ∈ d, f.id ≠ row.id) ∧ ∀ f ∈ d, f.has row.key row.tenantId = false := by
  refine ⟨fun f hf hid => ?_, fun f hf => ?_⟩
  · have h := hnew f hf
    rw [collides, hid, beq_self_eq_true, Bool.true_or] at h
    cases h
  · have h := hnew f hf
    rw [collides, Bool.or_eq_false_iff] at h
    cases htenant : row.tenantId with
    | some tenantId =>
        rw [htenant, Option.isSome_some, Bool.and_true] at h
        exact h.2
    | none =>
        rw [htenant] at hdup
        exact Bool.eq_false_iff.mpr fun hhas =>
          (Bool.eq_false_iff.mp hdup) (List.any_eq_true.mpr ⟨f, hf, hhas⟩)

/-- The identifier is that of the row of the key and the tenant. -/
def Identifies (id key : String) (tenantId : Option String) (d : FeatureData) : Prop :=
  ∃ row ∈ d, row.id = id ∧ row.has key tenantId = true

/-- The statement writes for the call's own key and tenant. -/
def About (op : FeatureOp) (d : FeatureData) : FeatureStmt → Prop
  | .update id _ => ∃ key enabled tenantId, op = .setFlag key enabled tenantId ∧
      Identifies id key tenantId d
  | .create key enabled tenantId => op = .setFlag key enabled tenantId
  | _ => True

/-- The call sets the flag of the key and the tenant. -/
def FeatureOp.sets (key : String) (tenantId : Option String) : FeatureOp → Bool
  | .setFlag key' _ tenantId' => key' == key && tenantId' == tenantId
  | .isEnabled .. => false

theorem sets_iff : op.sets key tenantId = true ↔ ∃ enabled, op = .setFlag key enabled tenantId := by
  cases op with
  | isEnabled key' tenantId' => simp [FeatureOp.sets]
  | setFlag key' enabled tenantId' =>
      rw [FeatureOp.sets, Bool.and_eq_true, beq_iff_eq, beq_iff_eq]
      simp

theorem OneRow.step (h : OneRow d) (hdup : duplicates d (.stmt none q) = false) :
    OneRow (featureDb.applyAll (featureDb.exec q o d).2 d) := by
  rcases exec_writes q o d with hws | ⟨id, enabled, -, hws⟩ | ⟨key, enabled, tenantId, rfl, hws, hnew⟩ <;>
    rw [hws]
  · exact h
  · exact h.update id enabled
  · obtain ⟨hid, hscope⟩ := fresh_row hnew hdup
    exact h.create hid hscope

theorem value?_step (h : OneRow d) (habout : About op d q) (hop : op.sets key tenantId = false) :
    value? key tenantId (featureDb.applyAll (featureDb.exec q o d).2 d) = value? key tenantId d := by
  rcases exec_writes q o d with hws | ⟨id, enabled, rfl, hws⟩ | ⟨key', enabled, tenantId', rfl, hws, hnew⟩ <;>
    rw [hws]
  · rfl
  · obtain ⟨key', enabled', tenantId', rfl, row, hrow, hid, hhas⟩ := habout
    have hnot : ¬row.has key tenantId = true := fun hhas' => by
      obtain ⟨rfl, rfl⟩ := has_iff.mp hhas
      obtain ⟨rfl, rfl⟩ := has_iff.mp hhas'
      exact Bool.eq_false_iff.mp hop (sets_iff.mpr ⟨enabled', rfl⟩)
    exact (value?_update h hrow hid key tenantId enabled).trans (if_neg hnot)
  · obtain rfl : op = .setFlag key' enabled tenantId' := habout
    have hnot : ¬FeatureFlag.has key tenantId ⟨o.cuid, key', enabled, tenantId'⟩ = true := fun hhas => by
      obtain ⟨rfl, rfl⟩ := has_iff.mp hhas
      exact Bool.eq_false_iff.mp hop (sets_iff.mpr ⟨enabled, rfl⟩)
    refine (value?_create key tenantId _).trans ?_
    rw [if_neg hnot, Option.or_none]

end Effects

/-! ## The last write -/

/-- What other calls have done for the key and the tenant, they did before the
first command of call `i`. -/
def Undisturbed (i : Nat) (key : String) (tenantId : Option String) : List FeatureEvent → Prop
  | [] => True
  | e :: h => Undisturbed i key tenantId h ∧
      (e.tid ≠ i → e.op.sets key tenantId = true → ∀ e' ∈ h, e'.tid ≠ i)

instance decUndisturbed (i : Nat) (key : String) (tenantId : Option String) :
    DecidablePred (Undisturbed i key tenantId)
  | [] => isTrue trivial
  | _ :: h =>
      have := decUndisturbed i key tenantId h
      inferInstanceAs (Decidable (_ ∧ (_ → _ → ∀ e' ∈ h, e'.tid ≠ i)))

/-- Call `i` has begun, and if nothing disturbs it the flag is as it says. -/
def Latest (i : Nat) (key : String) (tenantId : Option String) (enabled : Bool)
    (s : FeatureSnap) : Prop :=
  (∃ e ∈ s.hist, e.tid = i) ∧
    (Undisturbed i key tenantId s.hist → value? key tenantId s.world.data = some enabled)

def flagOutline : FeatureOutline where
  toDiscipline := alone
  inv s := OneRow s.world.data
  pre _ op c s := ∃ q, c = .stmt none q ∧ About op s.world.data q

def FeatureOp.promise (i : Nat) : FeatureOp → FeatureReply → FeatureSnap → Prop
  | .setFlag key enabled tenantId, _, s => Latest i key tenantId enabled s
  | .isEnabled .., _, _ => True

section Runs

variable {i : Nat} {op : FeatureOp} {key id : String} {tenantId : Option String} {enabled : Bool}
  {s : FeatureSnap}

theorem flagOutline_exec (h : flagOutline.inv s) (i : Nat) (op : FeatureOp) (c : TxCmd FeatureStmt)
    (o : FeatureOracle) (hpre : flagOutline.pre i op c s) (hallows : flagOutline.allows i op c o s) :
    flagOutline.inv (s.exec features i op c o) := by
  obtain ⟨q, rfl, -⟩ := hpre
  show OneRow (featureDb.step (.stmt none q) o s.world).2.data
  rcases data_step q o s.world with hd | hd <;> rw [hd]
  · exact h
  · exact OneRow.step h hallows

theorem stable_latest : Stable features flagOutline i (Latest i key tenantId enabled) := by
  intro s s' h ⟨hmine, hvalue⟩
  cases h with
  | env e _ =>
      cases e with
      | data e => exact e.elim
      | abort tx => exact ⟨hmine, hvalue⟩
  | @other j op c o hj _ hinv hpre hallows =>
      obtain ⟨q, rfl, habout⟩ := hpre
      obtain ⟨e, he, htid⟩ := hmine
      refine ⟨⟨e, List.mem_cons_of_mem _ he, htid⟩, fun hun => ?_⟩
      have hop : op.sets key tenantId = false :=
        Bool.eq_false_iff.mpr fun hsets => hun.2 hj hsets e he htid
      rw [← hvalue hun.1]
      show value? key tenantId (featureDb.step (.stmt none q) o s.world).2.data = _
      rcases data_step q o s.world with hd | hd <;> rw [hd]
      exact value?_step hinv habout hop

/-- The row that a call has found stays that of its key and tenant. -/
theorem persistent_identifies :
    Persistent features fun s => Identifies id key tenantId s.world.data := by
  refine persistent_world (P := fun w : FeatureStore => Identifies id key tenantId w.data)
    (fun w hw c o => ?_) fun w hw e => ?_
  · refine data_of_forall (fun wr d ⟨row, hrow, hid, hhas⟩ => ?_) c o hw
    cases wr with
    | create new => exact ⟨row, List.mem_append_left _ hrow, hid, hhas⟩
    | update id' enabled =>
        refine ⟨_, List.mem_map_of_mem hrow, ?_⟩
        split
        · exact ⟨hid, hhas⟩
        · exact ⟨hid, hhas⟩
  · cases e with
    | data e => exact e.elim
    | abort tx => exact hw

/-- Where the last statement has left the flag as it says. -/
theorem wp_latest {c : TxCmd FeatureStmt} {o : FeatureOracle} {f : FeatureFlag}
    (h : value? key tenantId (s.exec features i op c o).world.data = some enabled) :
    (Prog.ret f : FeatureM FeatureFlag).wp features flagOutline i op
      (fun _ => Latest i key tenantId enabled) (fun _ _ => True) (s.exec features i op c o) := by
  have hlatest : Latest i key tenantId enabled (s.exec features i op c o) :=
    ⟨⟨_, List.mem_cons_self .., rfl⟩, fun _ => h⟩
  exact wp_ret stable_latest hlatest fun _ _ h => h

theorem wp_setFlag (i : Nat) (key : String) (enabled : Bool) (tenantId : Option String)
    (s : FeatureSnap) :
    (setFlag key enabled tenantId).wp features flagOutline i (.setFlag key enabled tenantId)
      (fun _ => Latest i key tenantId enabled) (fun _ _ => True) s := by
  refine wp_query (H := fun _ => True) persistent_true.stable trivial persistent_true
    (fun _ _ => trivial) (fun s _ _ => ⟨_, rfl, trivial⟩) fun s o existing hinv _ _ ha _ => ?_
  obtain ⟨hexec, hdata⟩ := query_ok ha
  obtain rfl : s.world.data.find? (·.has key tenantId) = existing :=
    (OneRow.first hinv o.first).symm.trans (Except.ok.inj hexec)
  cases hfind : s.world.data.find? (·.has key tenantId) with
  | some row =>
      have hrow : Identifies row.id key tenantId s.world.data :=
        ⟨row, List.mem_of_find?_eq_some hfind, rfl, List.find?_some hfind⟩
      dsimp only
      rw [ask, ← bind_ret (featureDb.query _ _ _)]
      refine wp_query persistent_identifies.stable (persistent_identifies.exec hrow ..)
        persistent_true (fun _ _ => trivial) (fun s _ hs => ⟨_, rfl, _, _, _, rfl, hs⟩)
        fun s o f hinv hs _ ha _ => wp_latest ?_
      obtain ⟨hexec, hdata⟩ := query_ok ha
      obtain ⟨row', hrow', hid, hhas⟩ := hs
      rw [Snap.exec_world, show (features).exec = featureDb.step from rfl, hdata]
      show value? key tenantId (featureDb.applyAll (featureDb.exec _ o s.world.data).2 s.world.data) = _
      rw [exec_update hexec]
      exact (value?_update hinv hrow' hid key tenantId enabled).trans (if_pos hhas)
  | none =>
      dsimp only
      rw [ask, ← bind_ret (featureDb.query _ _ _)]
      refine wp_query (H := fun _ => True) persistent_true.stable trivial persistent_true
        (fun _ _ => trivial) (fun s _ _ => ⟨_, rfl, rfl⟩)
        fun s o f hinv _ hallows ha _ => wp_latest ?_
      obtain ⟨hexec, hdata⟩ := query_ok ha
      obtain ⟨hws, hnew⟩ := exec_create hexec
      have hnone : value? key tenantId s.world.data = none := by
        rw [value?, Option.map_eq_none_iff, List.find?_eq_none]
        exact fun f hf => Bool.eq_false_iff.mp ((fresh_row hnew hallows).2 f hf)
      rw [Snap.exec_world, show (features).exec = featureDb.step from rfl, hdata]
      show value? key tenantId (featureDb.applyAll (featureDb.exec _ o s.world.data).2 s.world.data) = _
      rw [hws]
      refine (value?_create key tenantId _).trans ?_
      have hhas : FeatureFlag.has key tenantId ⟨o.cuid, key, enabled, tenantId⟩ = true :=
        has_iff.mpr ⟨rfl, rfl⟩
      rw [hnone, if_pos hhas]
      rfl

def Looks (c : TxCmd FeatureStmt) : Prop := ∃ q, c = .stmt none q ∧ ∀ op d, About op d q

theorem all_ask {q : FeatureStmt} (h : ∀ op d, About op d q) : (ask q).All Looks :=
  ⟨⟨q, rfl, h⟩, fun r => by cases r <;> trivial⟩

theorem all_globalFlag (key : String) : (globalFlag key).All Looks :=
  (all_ask (q := .findFirst key none) fun _ _ => trivial).bind fun _ => trivial

theorem all_isEnabled (key : String) (tenantId : Option String) :
    (FeatureFlags.isEnabled key tenantId).All Looks := by
  unfold FeatureFlags.isEnabled
  split
  · exact all_globalFlag key
  · split
    · exact all_globalFlag key
    · refine (all_ask (q := .findUnique key _) fun _ _ => trivial).bind fun flag => ?_
      cases flag with
      | some flag => trivial
      | none => exact all_globalFlag key

theorem flagOutline_valid : Outline.Valid features flagOutline fun i op => op.promise i where
  inv_exec h i op c o _ hpre hallows := flagOutline_exec h i op c o hpre hallows
  inv_env h e := by
    cases e with
    | data e => exact e.elim
    | abort tx => exact h
  body i op s _ _ _ := by
    cases op with
    | setFlag key enabled tenantId => exact wp_map _ (wp_setFlag i key enabled tenantId s)
    | isEnabled key tenantId =>
        refine wp_map _ (fine_of_all (all_isEnabled key tenantId) fun c hc s _ => ?_)
        obtain ⟨q, hq, habout⟩ := hc
        exact ⟨q, hq, habout _ _⟩

/-- What `isEnabled` answers of a flag that is set. -/
theorem isEnabled_result {w : FeatureStore} (h : OneRow w.data)
    (hvalue : value? key tenantId w.data = some enabled) (htenant : tenantId ≠ some "")
    {os : Nat → FeatureOracle} (hos : ∀ n, (os n).loss = none) :
    ((FeatureFlags.isEnabled key tenantId).run featureDb.machine os 0 w).result = .ok enabled := by
  obtain ⟨flag, hfind, rfl⟩ := Option.map_eq_some_iff.mp hvalue
  cases tenantId with
  | none =>
      have hexec : featureDb.exec (.findFirst key none) (os 0) w.data = (.ok (some flag), []) :=
        congrArg (fun a => (Except.ok a, [])) ((h.first (os 0).first).trans hfind)
      exact congrArg Outcome.result (run_query (hos 0) hexec)
  | some tenantId =>
      have hne : ¬tenantId = "" := fun h => htenant (congrArg some h)
      have hexec : featureDb.exec (.findUnique key tenantId) (os 0) w.data = (.ok (some flag), []) :=
        congrArg (fun a => (Except.ok a, [])) hfind
      rw [FeatureFlags.isEnabled, if_neg hne]
      exact congrArg Outcome.result (run_query (hos 0) hexec)

/-- **Feature flags**: where a global flag is created only when there is none of
its key, no key and tenant have two rows, and `isEnabled` answers what the last
call has set, if no other call for the flag was under way with it. -/
theorem lastWrite_run {d : FeatureData} (hd : OneRow d) {ls : List FeatureLabel}
    (hls : alone.admitsRun features (Config.idle (.idle d)) ls) :
    let cfg := (Config.idle (.idle d)).run features ls
    OneRow cfg.world.data ∧
      ∀ (i : Nat) (key : String) (enabled : Bool) (tenantId : Option String) (reply : FeatureReply),
        cfg.threads[i]? = some ⟨.setFlag key enabled tenantId, .ret reply⟩ →
        Undisturbed i key tenantId cfg.hist → tenantId ≠ some "" →
        ∀ os : Nat → FeatureOracle, (∀ n, (os n).loss = none) →
          ((isEnabled key tenantId).run featureDb.machine os 0 cfg.world).result = .ok enabled := by
  intro cfg
  have hidle : flagOutline.inv (⟨.idle d, []⟩ : FeatureSnap) := hd
  have hgood := Outline.sound flagOutline_valid (Outline.Good.idle hidle) hls
  refine ⟨hgood.inv, fun i key enabled tenantId reply hth hun htenant os hos => ?_⟩
  have hlatest : Latest i key tenantId enabled cfg.toSnap := hgood.result hth
  exact isEnabled_result hgood.inv (hlatest.2 hun) htenant hos

end Runs

namespace Sample

/-- One call sets a global flag, and another then takes it back. -/
def twice : List FeatureLabel :=
  [.spawn (.setFlag "beta" true none), .step 0 {}, .step 0 { cuid := "f1" },
    .spawn (.setFlag "beta" false none), .step 1 {}, .step 1 {}]

/-- Both look for the flag before either has created it. -/
def together : List FeatureLabel :=
  [.spawn (.setFlag "beta" true none), .spawn (.setFlag "beta" false none), .step 0 {}, .step 1 {},
    .step 0 { cuid := "f1" }, .step 1 { cuid := "f2" }]

end Sample

theorem oneRow_nil : OneRow [] := ⟨List.nodup_nil, List.nodup_nil⟩

theorem lastWrite_twice : ((isEnabled "beta" none).run featureDb.machine (fun _ => {}) 0
    ((Config.idle (.idle [])).run features Sample.twice).world).result = .ok false := by
  have hls : alone.admitsRun features (Config.idle (.idle [])) Sample.twice := by decide +kernel
  exact (lastWrite_run oneRow_nil hls).2 1 "beta" false none (.setFlag ⟨"f1", "beta", false, none⟩)
    rfl (by decide +kernel) nofun _ fun _ => rfl

/-- Two global rows of one key. -/
theorem not_oneRow_together : ¬ ∀ (d : FeatureData), OneRow d → ∀ ls : List FeatureLabel,
    OneRow ((Config.idle (.idle d)).run features ls).world.data := by
  intro h
  have hscopes := (h [] oneRow_nil Sample.together).scopes
  revert hscopes
  decide +kernel

/-! ## One call after another

The condition is one on calls that overlap: a call that nothing interrupts has just
looked for the row it creates. -/

section Visits

variable {i : Nat} {op : FeatureOp} {s : FeatureSnap}

theorem not_waits (c : TxCmd FeatureStmt) (o : FeatureOracle) (w : FeatureStore) :
    featureDb.waits c o w = false := by
  cases c with
  | stmt tx q => simp [waits, blocked, featureDb]
  | _ => rfl

theorem meets_setFlag (key : String) (enabled : Bool) (tenantId : Option String) :
    Meets FeatureOp.body alone i op (setFlag key enabled tenantId) s := by
  refine meets_query (F := fun _ _ => True) trivial (fun _ _ _ _ => rfl)
    fun s o existing _ _ hexec hdata => ?_
  cases existing with
  | some row => exact fine_last fun s _ => ⟨nofun, fun _ _ => rfl⟩
  | none =>
      have hnone : ∀ f ∈ s.world.data, ¬f.has key tenantId = true := by
        intro f hf hhas
        have hmem : f ∈ s.world.data.filter (·.has key tenantId) := List.mem_filter.mpr ⟨hf, hhas⟩
        have hpos : 0 < (s.world.data.filter (·.has key tenantId)).length :=
          List.length_pos_of_mem hmem
        have hrow := Except.ok.inj (Prod.mk.inj hexec).1
        exact absurd (Nat.mod_lt o.first hpos) (Nat.not_lt.mpr (List.getElem?_eq_none_iff.mp hrow))
      dsimp only
      rw [ask, ← bind_ret (featureDb.query _ _ _)]
      refine meets_query (F := fun d _ => ∀ f ∈ d, ¬f.has key tenantId = true) ?_
        (fun s o hs _ => ?_) fun _ _ _ _ _ _ _ => fine_ret
      · rw [hdata]
        exact hnone
      · change duplicates s.world.data (.stmt none (.create key enabled tenantId)) = false
        cases tenantId with
        | some tenantId => rfl
        | none => exact List.any_eq_false.mpr hs

/-- Calls that nothing interrupts create a global flag only where there is none. -/
theorem alone_visits (d : FeatureData) (xs : List (Visit FeatureOracle (DbEnv Empty) FeatureOp)) :
    alone.admitsRun features (Config.idle (.idle d)) (visits 0 xs) := by
  have hinv : (solo alone).inv (⟨.idle d, []⟩ : FeatureSnap) :=
    ⟨⟨List.nodup_nil, nofun, nofun⟩, openers_idle _⟩
  have hready : StartsIn features (fun _ _ => True) (Config.idle (.idle d)) xs :=
    startsIn_of_forall (fun _ _ => trivial) _ _
  have hfree : (Discipline.free _ _ _ fun _ => True).admitsRun features (Config.idle (.idle d))
      (visits 0 xs) := Discipline.admitsRun_free fun _ _ => trivial
  refine admitsRun_visits hinv hfree hready (fun _ => not_waits _ _ _) (fun _ _ => trivial)
    fun i op s _ _ _ => ?_
  cases op with
  | setFlag key enabled tenantId => exact wp_map _ (meets_setFlag key enabled tenantId)
  | isEnabled key tenantId =>
      refine wp_map _ (fine_of_all (all_isEnabled key tenantId) fun c hc s _ => ?_)
      obtain ⟨q, rfl, habout⟩ := hc
      refine ⟨nofun, fun o _ => ?_⟩
      cases q with
      | create key enabled tenantId => cases habout (.isEnabled "" none) []
      | _ => rfl

end Visits

end Omnipax.FeatureFlags
