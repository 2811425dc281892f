import Omnipax.Administration
import Omnipax.Conc.Alone

/-!
# The platform fee of a tenant

`updateMonetization` tests the cap of the fields a request carries, and leaves
the other fields of the tenant as they are: which of the accepted requests
keep the fee within its cap depends on what is stored (`feeCapped_serial`).

The audit row of a change is computed from a read before the transaction.
While every transaction commits over the fee that was stored when its call has
read the tenant, the audit rows of a tenant are a chain from its first fee to
the stored one (`auditChain_run`).
-/

namespace Omnipax.Admin

open Conc Database Prog Payments

/-! ## Fees -/

structure Fee where
  type : PlatformFeeType
  value : Money
deriving Repr, DecidableEq

def Tenant.fee (t : Tenant) : Fee := ⟨t.platformFeeType, t.platformFeeValue⟩

def AdminData.fee? (d : AdminData) (id : String) : Option Fee := (d.tenant? id).map Tenant.fee

/-- The fee a request asks for where another one is stored. -/
def UpdateMonetizationDto.fee (dto : UpdateMonetizationDto) (stored : Fee) : Fee where
  type := dto.type.getD stored.type
  value := (dto.value.given.map (·.toMoney)).getD stored.value

def MonetizationAudit.fee? (type : PlatformFeeType) (percentage flatFee : Option Money) :
    Option Fee :=
  match type with
  | .PERCENTAGE => percentage.map (⟨.PERCENTAGE, ·⟩)
  | .FLAT => flatFee.map (⟨.FLAT, ·⟩)

/-- The old type with the column that goes with it, and the new one. -/
def MonetizationAudit.old? (row : MonetizationAudit) : Option Fee :=
  row.oldFeeType.bind fun type => fee? type row.oldPercentage row.oldFlatFee

def MonetizationAudit.new? (row : MonetizationAudit) : Option Fee :=
  fee? row.newFeeType row.newPercentage row.newFlatFee

section Fees

variable {tenant : Tenant} {dto : UpdateMonetizationDto} {id tenantId userId : String}
  {d : AdminData} {u : FeeUpdate}

theorem auditRow_old : (auditRow tenant dto tenantId userId).old? = some tenant.fee := by
  unfold auditRow MonetizationAudit.old? Tenant.fee
  cases tenant.platformFeeType <;> rfl

theorem auditRow_new :
    (auditRow tenant dto tenantId userId).new? = some (dto.fee tenant.fee) := by
  unfold auditRow MonetizationAudit.new? UpdateMonetizationDto.fee Tenant.fee
  dsimp only
  cases dto.type.getD tenant.platformFeeType <;> rfl

theorem feeUpdate?_eq_some (h : feeUpdate? dto.enabled dto.type dto.value = some u) :
    u = ⟨dto.enabled.given, dto.type.given, dto.value.given.map (·.toMoney)⟩ ∧
      dto.type ≠ .null ∧ dto.value ≠ .null := by
  unfold feeUpdate? at h
  split at h
  · cases h
  · cases h
  · cases h
  · rename_i htype hvalue
    exact ⟨(Option.some.inj h).symm, htype, hvalue⟩

/-- What is set in the row of the tenant is what the request asks for. -/
theorem fee_update (h : feeUpdate? dto.enabled dto.type dto.value = some u) :
    (u.apply tenant).fee = dto.fee tenant.fee := by
  obtain ⟨rfl, -, -⟩ := feeUpdate?_eq_some h
  unfold FeeUpdate.apply UpdateMonetizationDto.fee Tenant.fee
  cases dto.type <;> rfl

theorem tenant?_update (d : AdminData) (u : FeeUpdate) (tenantId id : String) :
    (adminDb.apply (.tenantUpdate tenantId u) d).tenant? id
      = (d.tenant? id).map fun t => if t.id = tenantId then u.apply t else t := by
  unfold AdminData.tenant?
  show (d.tenants.map _).find? _ = _
  rw [List.find?_map]
  congr 2
  funext t
  simp only [Function.comp_apply]
  split <;> rfl

theorem id_of_tenant? (h : d.tenant? id = some tenant) : tenant.id = id := by
  simpa using List.find?_some h

/-- The writes of an update: none, when there is nothing to set. -/
def updateWrites (tenantId : String) (u : FeeUpdate) : List AdminWrite :=
  if u = ⟨none, none, none⟩ then [] else [.tenantUpdate tenantId u]

theorem fee?_updateWrites (h : feeUpdate? dto.enabled dto.type dto.value = some u) :
    (adminDb.applyAll (updateWrites tenantId u) d).fee? id
      = if id = tenantId then (d.fee? id).map dto.fee else d.fee? id := by
  have hsame : u = ⟨none, none, none⟩ → ∀ f : Fee, dto.fee f = f := by
    intro hu f
    have hfee := @fee_update ⟨"", "", "", true, true, f.type, f.value⟩ dto u h
    rw [hu] at hfee
    exact hfee.symm
  unfold updateWrites AdminData.fee?
  split
  · rename_i hu
    rw [show dto.fee = fun f => f from funext (hsame hu), Option.map_id']
    exact (ite_self _).symm
  · show (AdminData.tenant? (adminDb.apply _ d) id).map _ = _
    rw [tenant?_update, Option.map_map]
    cases htenant : d.tenant? id with
    | none => split <;> rfl
    | some tenant =>
        obtain rfl := id_of_tenant? htenant
        split
        · rename_i hid
          simp [hid, fee_update h]
        · rename_i hid
          simp [hid]

end Fees

/-! ## One call -/

section Call

variable {s : AdminStore} {tenantId userId : String} {dto : UpdateMonetizationDto}

/-- A request whose own fields are within the caps. -/
def UpdateMonetizationDto.allowed (dto : UpdateMonetizationDto) : Prop :=
  (dto.type == .value .PERCENTAGE && exceeds dto.value 20) = false ∧
    (dto.type == .value .FLAT && exceeds dto.value 1000) = false

/-- What an accepted request leaves: its fee for its tenant, and nothing
else is open afterwards that was not before. -/
def Accepted (dto : UpdateMonetizationDto) (tenantId : String) (s s' : AdminStore) : Prop :=
  dto.allowed ∧ dto.type ≠ .null ∧ dto.value ≠ .null ∧ s'.sessions = s.sessions ∧
    s.data.fee? tenantId ≠ none ∧
    ∀ id, s'.data.fee? id
      = if id = tenantId then (s.data.fee? id).map dto.fee else s.data.fee? id

theorem fee?_audit (row : MonetizationAudit) (d : AdminData) (id : String) :
    (adminDb.apply (.monetizationAudit row) d).fee? id = d.fee? id := rfl

theorem exec_monetizationAuditCreate {row : MonetizationAudit} {o : AdminOracle} {d : AdminData}
    {a : Unit} {ws : List AdminWrite}
    (h : adminDb.exec (.monetizationAuditCreate row) o d = (.ok a, ws)) :
    ws = [.monetizationAudit row] := by
  change AdminStmt.exec o d (.monetizationAuditCreate row) = _ at h
  simp only [AdminStmt.exec] at h
  split at h
  · exact (Prod.ext_iff.mp h).2.symm
  · cases (Prod.ext_iff.mp h).1

theorem exec_tenantUpdate {enabled : Field Bool} {type : Field PlatformFeeType}
    {value : Field FeeValue} {o : AdminOracle} {d : AdminData} {a : Tenant} {ws : List AdminWrite}
    (h : adminDb.exec (.tenantUpdate tenantId enabled type value) o d = (.ok a, ws)) :
    ∃ u, feeUpdate? enabled type value = some u ∧ ws = updateWrites tenantId u := by
  change AdminStmt.exec o d (.tenantUpdate tenantId enabled type value) = _ at h
  simp only [AdminStmt.exec] at h
  split at h
  · cases (Prod.ext_iff.mp h).1
  · rename_i u hu
    refine ⟨u, hu, ?_⟩
    unfold updateWrites
    split at h
    · cases (Prod.ext_iff.mp h).1
    · split at h
      · rename_i hnone
        rw [if_pos hnone]
        exact (Prod.ext_iff.mp h).2.symm
      · rename_i hnone
        rw [if_neg hnone]
        exact (Prod.ext_iff.mp h).2.symm

theorem wlp_updateMonetization (hs : s.Numbered) :
    (updateMonetization tenantId dto userId).wlp adminDb.machine
      (fun _ s' => Accepted dto tenantId s s') (fun _ _ => True) s := by
  refine wlp_query_sure (a := s.data.tenant? tenantId) (fun _ => rfl) ?_ fun _ _ => trivial
  cases htenant : s.data.tenant? tenantId with
  | none => trivial
  | some tenant =>
      dsimp only
      cases hpercentage : dto.type == .value .PERCENTAGE && exceeds dto.value 20 with
      | true => trivial
      | false =>
          rw [throwIf_false, ret_bind]
          cases hflat : dto.type == .value .FLAT && exceeds dto.value 1000 with
          | true => trivial
          | false =>
              rw [throwIf_false, ret_bind]
              refine wlp_transaction_alone (fun _ _ => trivial) ?_
              have hlacks : ({ s with next := s.next + 1 } : AdminStore).Lacks s.next := hs.lacks
              refine wlp_stmt hlacks (fun o a ws h => ?_) fun _ _ _ => trivial
              obtain rfl := exec_monetizationAuditCreate h
              rw [← bind_ret (ask _ _)]
              refine wlp_stmt hlacks (fun o a ws h => ?_) fun _ _ _ => trivial
              obtain ⟨u, hu, rfl⟩ := exec_tenantUpdate h
              obtain ⟨-, htype, hvalue⟩ := feeUpdate?_eq_some hu
              refine ⟨_, _, hlacks, rfl, ⟨hpercentage, hflat⟩, htype, hvalue, rfl, ?_, fun id => ?_⟩
              · simp [AdminData.fee?, htenant]
              · exact fee?_updateWrites hu

end Call

/-! ## The caps -/

/-- The cap of each kind of fee. -/
def PlatformFeeType.cap : PlatformFeeType → Rat
  | .PERCENTAGE => 20
  | .FLAT => 1000

def Fee.withinCap (f : Fee) : Prop := f.value.toDecimal ≤ f.type.cap

instance (f : Fee) : Decidable f.withinCap := inferInstanceAs (Decidable (_ ≤ _))

/-- The fee of the tenant is within the cap, as long as there is such a tenant. -/
def Capped (id : String) (s : AdminStore) : Prop := ∀ f ∈ s.data.fee? id, f.withinCap

/-- Where this fee is stored, a request for a percentage that leaves the value
out finds at most 20, and one that changes the value of a percentage without
naming the type changes it to at most 20 (as it is stored). -/
def UpdateMonetizationDto.keepsCap (dto : UpdateMonetizationDto) (stored : Fee) : Prop :=
  (dto.type = .value .PERCENTAGE → dto.value = .absent → stored.value.toDecimal ≤ 20) ∧
    (dto.type = .absent → stored.type = .PERCENTAGE →
      ∀ v, dto.value = .value v → v.toMoney.toDecimal ≤ 20)

section Caps

variable {dto : UpdateMonetizationDto} {stored : Fee}

theorem toMoney_le {v : FeeValue} {n : Int} (h : v.value ≤ n) : v.toMoney.toDecimal ≤ n := by
  have hfloor : ⌊v.value * 100 + 1 / 2⌋ ≤ n * 100 := by
    refine Int.lt_add_one_iff.mp (Int.floor_lt.mpr ?_)
    push_cast
    linarith
  have hcast : ((⌊v.value * 100 + 1 / 2⌋ : Int) : Rat) ≤ n * 100 := by exact_mod_cast hfloor
  unfold FeeValue.toMoney Money.toDecimal
  dsimp only
  linarith

theorem value_le_of_not_exceeds {v : FeeValue} {cap : Rat} (hcap : 0 ≤ cap)
    (h : exceeds (.value v) cap = false) : v.value ≤ cap := by
  simp only [exceeds, Bool.and_eq_false_iff, decide_eq_false_iff_not, not_not, not_lt] at h
  rcases h with h | h
  · rwa [h]
  · exact h

/-- **Step**: an accepted request keeps the fee within its cap exactly when it
is one that `keepsCap` admits. -/
theorem withinCap_fee (hallowed : dto.allowed) (htype : dto.type ≠ .null)
    (hvalue : dto.value ≠ .null) (hstored : stored.withinCap) :
    (dto.fee stored).withinCap ↔ dto.keepsCap stored := by
  have hmax : ∀ v : FeeValue, v.toMoney.toDecimal ≤ 1000 :=
    fun v => by exact_mod_cast toMoney_le (n := 1000) (by exact_mod_cast v.le_max)
  obtain ⟨hpercentage, -⟩ := hallowed
  obtain ⟨enabled, type, value⟩ := dto
  obtain ⟨storedType, storedValue⟩ := stored
  unfold Fee.withinCap at hstored ⊢
  cases type with
  | null => exact absurd rfl htype
  | absent =>
      cases value with
      | null => exact absurd rfl hvalue
      | absent => simpa [UpdateMonetizationDto.fee, UpdateMonetizationDto.keepsCap, Field.getD,
          Field.given] using hstored
      | value v =>
          cases storedType with
          | PERCENTAGE => simp [UpdateMonetizationDto.fee, UpdateMonetizationDto.keepsCap,
              Field.getD, Field.given, PlatformFeeType.cap]
          | FLAT => simpa [UpdateMonetizationDto.fee, UpdateMonetizationDto.keepsCap,
              Field.getD, Field.given, PlatformFeeType.cap] using hmax v
  | value type =>
      cases value with
      | null => exact absurd rfl hvalue
      | absent =>
          cases type with
          | PERCENTAGE => simp [UpdateMonetizationDto.fee, UpdateMonetizationDto.keepsCap,
              Field.getD, Field.given, PlatformFeeType.cap]
          | FLAT =>
              have hle : storedValue.toDecimal ≤ 1000 := by
                cases storedType with
                | PERCENTAGE => exact le_trans hstored (by norm_num [PlatformFeeType.cap])
                | FLAT => exact hstored
              simpa [UpdateMonetizationDto.fee, UpdateMonetizationDto.keepsCap,
                Field.getD, Field.given, PlatformFeeType.cap] using hle
      | value v =>
          cases type with
          | PERCENTAGE =>
              have hle : v.toMoney.toDecimal ≤ 20 := by
                exact_mod_cast toMoney_le (n := 20)
                  (by exact_mod_cast value_le_of_not_exceeds (by norm_num) (by simpa using hpercentage))
              simpa [UpdateMonetizationDto.fee, UpdateMonetizationDto.keepsCap,
                Field.getD, Field.given, PlatformFeeType.cap] using hle
          | FLAT => simpa [UpdateMonetizationDto.fee, UpdateMonetizationDto.keepsCap,
              Field.getD, Field.given, PlatformFeeType.cap] using hmax v

end Caps

def accepted (s : AdminStore) (x : AdminTurn) : Prop :=
  ∃ reply, (administration.outcome s x).result = .ok reply

/-- A request for the tenant keeps the fee within the cap that is stored when it is made;
requests for other tenants are not restricted. -/
def keepsCap (id : String) (s : AdminStore) (x : AdminTurn) : Prop :=
  ∀ dto userId, x.op = .updateMonetization id dto userId →
    ∀ stored ∈ s.data.fee? id, dto.keepsCap stored

section Turns

variable {s : AdminStore} {x : AdminTurn} {xs : List AdminTurn} {id tenantId userId : String}
  {dto : UpdateMonetizationDto}

theorem accepted_turn (hs : s.sessions = []) (hx : x.op = .updateMonetization tenantId dto userId)
    (hok : accepted s x) : Accepted dto tenantId s (administration.turn s x) := by
  obtain ⟨reply, hok⟩ := hok
  have henv : ((administration.env x.env s).data.fee? = s.data.fee?) ∧
      (administration.env x.env s).sessions = [] := by
    cases x.env with
    | data t => exact ⟨rfl, hs⟩
    | abort tx => exact ⟨rfl, by simp [Database.system, Store.drop, hs]⟩
  have hnumbered : (administration.env x.env s).Numbered := by
    intro ss hss
    rw [henv.2] at hss
    cases hss
  have hbody : (administration.body x.op).wlp adminDb.machine
      (fun _ s' => Accepted dto tenantId (administration.env x.env s) s') (fun _ _ => True)
      (administration.env x.env s) := by
    rw [hx]
    exact (wlp_bind _ _ _ _ _).mpr (wlp_updateMonetization hnumbered)
  obtain ⟨hallowed, htype, hvalue, hsess, hfound, hfee⟩ := hbody.result hok
  rw [henv.1] at hfound hfee
  exact ⟨hallowed, htype, hvalue, hsess.trans (henv.2.trans hs.symm), hfound, hfee⟩

/-- **Step**: where the fee is within its cap, an accepted call leaves it
within its cap exactly when its request keeps it there. -/
theorem capped_turn (hs : s.sessions = []) (hx : x.op = .updateMonetization tenantId dto userId)
    (hok : accepted s x) (hcap : Capped id s) :
    Capped id (administration.turn s x) ↔ keepsCap id s x := by
  obtain ⟨hallowed, htype, hvalue, -, -, hfee⟩ := accepted_turn hs hx hok
  unfold Capped keepsCap
  rw [hfee, hx]
  by_cases hid : id = tenantId
  · subst hid
    rw [if_pos rfl]
    constructor
    · rintro h dto' userId' ⟨⟩ stored hstored
      exact (withinCap_fee hallowed htype hvalue (hcap stored hstored)).mp
        (h _ (Option.mem_map_of_mem _ hstored))
    · intro h f hf
      obtain ⟨stored, hstored, rfl⟩ := Option.mem_map.mp hf
      exact (withinCap_fee hallowed htype hvalue (hcap stored hstored)).mpr
        (h dto userId rfl stored hstored)
  · rw [if_neg hid]
    refine ⟨fun _ dto' userId' h => ?_, fun _ => hcap⟩
    exact absurd (AdminOp.updateMonetization.inj h).1.symm hid

/-- **Caps**: along accepted calls the fee of a tenant stays within its cap
exactly when each of them keeps it there. -/
theorem feeCapped_serial (hs : s.sessions = []) (hcap : Capped id s)
    (hops : ∀ x ∈ xs, ∃ tenantId dto userId, x.op = .updateMonetization tenantId dto userId)
    (hok : Follows administration.turn accepted s xs) :
    (∀ n, Capped id ((xs.take n).foldl administration.turn s)) ↔
      Follows administration.turn (keepsCap id) s xs := by
  induction xs generalizing s with
  | nil => simpa [Follows] using hcap
  | cons x xs ih =>
      obtain ⟨tenantId, dto, userId, hx⟩ := hops x (List.mem_cons_self ..)
      have hturn := accepted_turn hs hx hok.1
      have hcapped : Capped id (administration.turn s x) ↔ keepsCap id s x :=
        capped_turn hs hx hok.1 hcap
      have hrest := fun hcap' => ih (s := administration.turn s x) (hturn.2.2.2.1.trans hs) hcap'
        (fun x' hx' => hops x' (List.mem_cons_of_mem _ hx')) hok.2
      constructor
      · intro h
        have hcap' : Capped id (administration.turn s x) := h 1
        exact ⟨hcapped.mp hcap', (hrest hcap').mp fun n => h (n + 1)⟩
      · rintro ⟨hkeeps, hfollows⟩ n
        have hcap' := hcapped.mpr hkeeps
        cases n with
        | zero => exact hcap
        | succ n => exact (hrest hcap').mpr hfollows n

end Turns

namespace Sample

def tenant (fee : Fee) : Tenant :=
  ⟨"t1", "cinema", "Cinema", true, true, fee.type, fee.value⟩

def platform (fee : Fee) : AdminStore := .idle { tenants := [tenant fee] }

def flat : Fee := ⟨.FLAT, ⟨50000⟩⟩

def value (n : Nat) (h : n ≤ 1000) : FeeValue := ⟨n, by positivity, by exact_mod_cast h⟩

/-- A request that names the type only. -/
def toPercentage : UpdateMonetizationDto := ⟨.absent, .value .PERCENTAGE, .absent⟩

def five : UpdateMonetizationDto := ⟨.absent, .value .PERCENTAGE, .value (value 5 (by decide))⟩

def update (dto : UpdateMonetizationDto) : AdminOp := .updateMonetization "t1" dto "u1"

def turn (dto : UpdateMonetizationDto) : AdminTurn := ⟨.data 0, update dto, fun _ => {}⟩

theorem capped_flat : Capped "t1" (platform flat) := by
  rintro f ⟨⟩
  norm_num [Fee.withinCap, Tenant.fee, tenant, flat, Money.toDecimal, PlatformFeeType.cap]

theorem accepted_five : accepted (platform flat) (turn five) :=
  ⟨.updateMonetization (tenant ⟨.PERCENTAGE, ⟨500⟩⟩), by decide +kernel⟩

theorem accepted_toPercentage : accepted (platform flat) (turn toPercentage) :=
  ⟨.updateMonetization (tenant ⟨.PERCENTAGE, ⟨50000⟩⟩), by decide +kernel⟩

end Sample

/-- A flat fee becomes a percentage with a value of its own. -/
theorem feeCapped_serial_five :
    (∀ n, Capped "t1" (([Sample.turn Sample.five].take n).foldl administration.turn
      (Sample.platform Sample.flat))) ↔
      Follows administration.turn (keepsCap "t1") (Sample.platform Sample.flat)
        [Sample.turn Sample.five] :=
  feeCapped_serial rfl Sample.capped_flat
    (by simp only [List.mem_singleton, forall_eq]; exact ⟨_, _, _, rfl⟩) ⟨Sample.accepted_five, trivial⟩

/-- A flat fee of 500 becomes a percentage of 500. -/
theorem not_feeCapped_serial :
    ¬ ∀ (s : AdminStore) (id : String) (xs : List AdminTurn), s.sessions = [] → Capped id s →
      (∀ x ∈ xs, ∃ tenantId dto userId, x.op = .updateMonetization tenantId dto userId) →
      Follows administration.turn accepted s xs → Capped id (xs.foldl administration.turn s) := by
  intro h
  have hcap := h (Sample.platform Sample.flat) "t1" [Sample.turn Sample.toPercentage] rfl
    Sample.capped_flat (by simp only [List.mem_singleton, forall_eq]; exact ⟨_, _, _, rfl⟩)
    ⟨Sample.accepted_toPercentage, trivial⟩
  have hfee := hcap ⟨.PERCENTAGE, ⟨50000⟩⟩ (by decide +kernel)
  norm_num [Fee.withinCap, Money.toDecimal, PlatformFeeType.cap] at hfee

/-! ## The audit -/

/-- The rows lead from one fee to the other, each from the fee the one before
it leads to. -/
def Links : Fee → List MonetizationAudit → Fee → Prop
  | f, [], g => f = g
  | f, row :: rows, g => row.old? = some f ∧ ∃ f', row.new? = some f' ∧ Links f' rows g

theorem Links.append {f g g' : Fee} {rows : List MonetizationAudit} {row : MonetizationAudit}
    (h : Links f rows g) (hold : row.old? = some g) (hnew : row.new? = some g') :
    Links f (rows ++ [row]) g' := by
  induction rows generalizing f with
  | nil =>
      obtain rfl : f = g := h
      exact ⟨hold, g', hnew, rfl⟩
  | cons r rows ih =>
      obtain ⟨hr, f', hf', hrest⟩ := h
      exact ⟨hr, f', hf', ih hrest⟩

/-- The audit rows that have been added since `d₀` lead, for each tenant of
then, from its fee of then to its fee of now. -/
def AuditChain (d₀ d : AdminData) : Prop :=
  ∃ new, d.monetizationAudits = d₀.monetizationAudits ++ new ∧
    ∀ id, ∀ f ∈ d₀.fee? id, ∃ g ∈ d.fee? id, Links f (new.filter (·.tenantId == id)) g

theorem auditChain_refl (d : AdminData) : AuditChain d d :=
  ⟨[], (List.append_nil _).symm, fun _ f hf => ⟨f, hf, rfl⟩⟩

/-- The tenant that `updateMonetization` reads before its transaction. -/
def readsTenant? : TxCmd AdminStmt → Option String
  | .stmt none (.tenantFindUnique id) => some id
  | _ => none

def AdminOp.isUpdate : AdminOp → Bool
  | .updateMonetization .. => true
  | .reviewApplication .. => false

/-- PostgreSQL, and calls of `updateMonetization` only. -/
def updates : Discipline adminDb.sig AdminStore AdminOracle AdminOp where
  starts op := op.isUpdate = true
  allows _ _ c o s := adminDb.waits c o s.world = false

/-- A transaction commits while the fee stored for the tenant is the one that was
stored when its call read the tenant. -/
def updatesFresh : Discipline adminDb.sig AdminStore AdminOracle AdminOp where
  starts op := op.isUpdate = true
  allows i _ c o s := adminDb.waits c o s.world = false ∧
    match c with
    | .commit _ => ∀ e ∈ s.hist, e.tid = i → ∀ id ∈ readsTenant? e.cmd,
        s.world.data.fee? id = e.before.data.fee? id
    | _ => True

section Decidable

instance : DecidablePred updates.starts :=
  fun op => inferInstanceAs (Decidable (op.isUpdate = true))

instance (i : Nat) (op : AdminOp) (c : TxCmd AdminStmt) (o : AdminOracle) :
    DecidablePred (updates.allows i op c o) := fun s =>
  inferInstanceAs (Decidable (adminDb.waits c o s.world = false))

instance : DecidablePred updatesFresh.starts :=
  fun op => inferInstanceAs (Decidable (op.isUpdate = true))

instance (i : Nat) (op : AdminOp) (c : TxCmd AdminStmt) (o : AdminOracle) :
    DecidablePred (updatesFresh.allows i op c o) := fun s =>
  match c with
  | .commit _ => inferInstanceAs (Decidable (_ ∧ ∀ e ∈ s.hist, e.tid = i →
      ∀ id ∈ readsTenant? e.cmd, s.world.data.fee? id = e.before.data.fee? id))
  | .begin => inferInstanceAs (Decidable (_ ∧ True))
  | .stmt _ _ => inferInstanceAs (Decidable (_ ∧ True))
  | .rollback _ => inferInstanceAs (Decidable (_ ∧ True))

end Decidable

/-- What the transaction of a call that has read `tenant` has written when it is
about to commit. -/
def Recorded (tenant : Tenant) (tenantId : String) (ws : List AdminWrite) : Prop :=
  ∃ dto userId u, feeUpdate? dto.enabled dto.type dto.value = some u ∧
    ws = .monetizationAudit (auditRow tenant dto tenantId userId) :: updateWrites tenantId u

/-- The command has found this row of the tenant. -/
def FindsTenant (tenant : Tenant) (tenantId : String) (e : AdminEvent) : Prop :=
  readsTenant? e.cmd = some tenantId ∧ e.before.data.tenant? tenantId = some tenant

theorem audits_updateWrites (tenantId : String) (u : FeeUpdate) (d : AdminData) :
    (adminDb.applyAll (updateWrites tenantId u) d).monetizationAudits = d.monetizationAudits := by
  unfold updateWrites
  split <;> rfl

theorem AuditChain.commit {d₀ d : AdminData} {tenant : Tenant} {tenantId : String}
    {ws : List AdminWrite} (h : AuditChain d₀ d) (hws : Recorded tenant tenantId ws)
    (hstored : d.fee? tenantId = some tenant.fee) : AuditChain d₀ (adminDb.applyAll ws d) := by
  obtain ⟨dto, userId, u, hu, rfl⟩ := hws
  obtain ⟨new, hnew, hlinks⟩ := h
  refine ⟨new ++ [auditRow tenant dto tenantId userId], ?_, fun id f hf => ?_⟩
  · rw [applyAll_cons, audits_updateWrites, ← List.append_assoc, ← hnew]
    rfl
  · obtain ⟨g, hg, hlink⟩ := hlinks id f hf
    rw [applyAll_cons, fee?_updateWrites hu, fee?_audit, List.filter_append]
    by_cases hid : id = tenantId
    · subst hid
      obtain rfl : tenant.fee = g := Option.some.inj (hstored.symm.trans hg)
      rw [if_pos rfl, hstored]
      refine ⟨_, rfl, ?_⟩
      simpa [auditRow] using hlink.append auditRow_old auditRow_new
    · rw [if_neg hid]
      refine ⟨g, hg, ?_⟩
      rw [List.filter_cons_of_neg (by simpa [auditRow] using Ne.symm hid)]
      simpa using hlink

section Outline

variable (d₀ : AdminData)

structure Audited (s : AdminSnap) : Prop where
  store : adminDb.StoreOk s.world
  openers : Openers s
  chain : AuditChain d₀ s.world.data

/-- A call writes in its transaction only, and commits a row with its update, both
of the tenant it has read. -/
def AuditPre (i : Nat) (c : TxCmd AdminStmt) (s : AdminSnap) : Prop :=
  Own i c s ∧
    match c with
    | .stmt none q => ∀ o d, (adminDb.exec q o d).2 = []
    | .commit tx => ∃ tenant tenantId, Seen i (FindsTenant tenant tenantId) s ∧
        ∀ ss, s.world.session? tx = some ss → ss.failed = false → Recorded tenant tenantId ss.writes
    | _ => True

def auditOutline : AdminOutline where
  toDiscipline := updatesFresh
  inv := Audited d₀
  pre i _ c s := AuditPre i c s

theorem tracks_audit : Tracks (auditOutline d₀) where
  store h := h.store
  openers h := h.openers
  own h := h.1
  waits h := h.1

end Outline

section Run

variable {d₀ : AdminData} {i tx : Nat} {op : AdminOp} {s : AdminSnap}

/-- **Step**: the audit stays a chain. -/
theorem audited_exec (h : Audited d₀ s) {c : TxCmd AdminStmt} {o : AdminOracle}
    (hpre : AuditPre i c s) (hallows : updatesFresh.allows i op c o s) :
    Audited d₀ (s.exec administration i op c o) where
  store := storeOk_step h.store hallows.1
  openers := openers_exec h.openers i op c o
  chain := by
    show AuditChain d₀ (adminDb.step c o s.world).2.data
    have heffect := step_effect adminDb c o s.world
    generalize (adminDb.step c o s.world).2.data = d at heffect
    generalize (adminDb.step c o s.world).2.sessions = l at heffect
    cases heffect with
    | none => exact h.chain
    | start _ => exact h.chain
    | autocommit hc _ =>
        subst hc
        have hwants : adminDb.wants none _ o s.world = [] := hpre.2 o s.world.data
        rw [hwants]
        exact h.chain
    | drop _ _ => exact h.chain
    | fail _ _ => exact h.chain
    | write _ _ _ _ => exact h.chain
    | @commit ss hc hss hgo _ =>
        subst hc
        obtain ⟨tenant, tenantId, ⟨e, he, htid, hread, hfound⟩, hrecorded⟩ := hpre.2
        refine h.chain.commit (hrecorded ss hss hgo) ?_
        rw [hallows.2 e he htid tenantId hread, AdminData.fee?, hfound]
        rfl

theorem auditPre_stmt {q : AdminStmt} (h : Opened i tx s) : AuditPre i (.stmt (some tx) q) s :=
  ⟨h.own rfl, trivial⟩

theorem wp_recordUpdate {tenant : Tenant} {dto : UpdateMonetizationDto} {tenantId userId : String}
    (hin : InTx i tx (Wrote (· = [])) s) (hseen : Seen i (FindsTenant tenant tenantId) s) :
    (ask (some tx) (.monetizationAuditCreate (auditRow tenant dto tenantId userId)) >>= fun _ =>
      ask (some tx) (.tenantUpdate tenantId dto.enabled dto.type dto.value)).wp administration
      (auditOutline d₀) i op (fun _ s => InTx i tx (Wrote (Recorded tenant tenantId)) s ∧
        Seen i (FindsTenant tenant tenantId) s)
      (fun _ s => Opened i tx s ∧ Seen i (FindsTenant tenant tenantId) s) s := by
  have hstable : ∀ F, Stable administration (auditOutline d₀) i (InTx i tx (Wrote F)) :=
    Wrote.stable (tracks_audit d₀)
  have hpersists := seen_persistent (M := administration) i (FindsTenant tenant tenantId)
  refine wp_stmt hpersists (hstable _) hin hseen (fun s _ h => auditPre_stmt h.1)
    fun s o _ _ hin hseen _ hok => ?_
  have hrow : InTx i tx (Wrote (· = [.monetizationAudit (auditRow tenant dto tenantId userId)]))
      (s.exec administration i op (.stmt (some tx)
        (.monetizationAuditCreate (auditRow tenant dto tenantId userId))) o) :=
    hin.wrote hok fun ws ws' hws hexec => by
      rw [hws, exec_monetizationAuditCreate hexec, List.nil_append]
  rw [← bind_ret (ask _ _)]
  refine wp_stmt hpersists (hstable _) hrow (hpersists.exec hseen ..) (fun s _ h => auditPre_stmt h.1)
    fun s o _ _ hin hseen _ hok => ?_
  refine wp_ret ((hstable _).and hpersists.stable)
    ⟨hin.wrote hok fun ws ws' hws hexec => ?_, hpersists.exec hseen ..⟩ fun _ _ h => h
  obtain ⟨u, hu, hwrites⟩ := exec_tenantUpdate hexec
  rw [hws, hwrites]
  exact ⟨dto, userId, u, hu, rfl⟩

theorem wp_updateMonetization (tenantId : String) (dto : UpdateMonetizationDto) (userId : String) :
    (updateMonetization tenantId dto userId).wp administration (auditOutline d₀) i op
      (fun _ _ => True) (fun _ _ => True) s := by
  refine fine_query (fun _ _ => ⟨nofun, fun _ _ => rfl⟩) fun s o tenant? _ hok _ => ?_
  cases tenant? with
  | none => exact fun _ _ _ => trivial
  | some tenant =>
      have hseen : Seen i (FindsTenant tenant tenantId)
          (s.exec administration i op (.stmt none (.tenantFindUnique tenantId)) o) :=
        seen_exec ⟨rfl, Except.ok.inj (query_ok hok).1⟩
      have hpersists := seen_persistent (M := administration) i (FindsTenant tenant tenantId)
      dsimp only
      cases dto.type == .value .PERCENTAGE && exceeds dto.value 20 with
      | true => exact fun _ _ _ => trivial
      | false =>
          rw [throwIf_false, ret_bind]
          cases dto.type == .value .FLAT && exceeds dto.value 1000 with
          | true => exact fun _ _ _ => trivial
          | false =>
              rw [throwIf_false, ret_bind]
              refine (wp_transaction (G := Seen i (FindsTenant tenant tenantId))
                (B := fun tx _ s => InTx i tx (Wrote (Recorded tenant tenantId)) s ∧
                  Seen i (FindsTenant tenant tenantId) s) (tracks_audit d₀) hseen
                hpersists (fun _ _ _ => ⟨nofun, trivial⟩)
                (fun _ _ _ h => ⟨h.own rfl, trivial⟩)
                (fun _ _ _ _ h => ⟨h.1.1.own rfl, _, _, h.2, fun ss hss _ => (h.1.2 ss hss).1⟩)
                (fun tx _ => (Wrote.stable (tracks_audit d₀) _).and hpersists.stable)
                (fun _ _ _ h => h.2) (fun s tx _ hseen hin => wp_recordUpdate hin hseen)
                fun _ _ _ _ _ _ _ _ _ => fun _ _ _ => trivial).mono (fun _ _ _ h => h)
                fun _ _ _ _ => trivial

theorem auditOutline_valid (d₀ : AdminData) :
    Outline.Valid administration (auditOutline d₀) fun _ _ _ _ => True where
  inv_exec hinv _ _ _ _ _ hpre hallows := audited_exec hinv hpre hallows
  inv_env h e := by
    refine ⟨?_, openers_env h.openers e, by cases e <;> exact h.chain⟩
    rw [Snap.env_world]
    exact storeOk_env h.store e
  body := by
    intro i op s hop hinv _
    cases op with
    | updateMonetization tenantId dto userId =>
        exact wp_map _ (wp_updateMonetization tenantId dto userId)
    | reviewApplication => cases hop

end Run

/-- **Audit**: along every run of `updatesFresh`, the audit rows of a tenant
are a chain from the fee it had to the fee it has. -/
theorem auditChain_run (d : AdminData) {ls : List AdminLabel}
    (hls : updatesFresh.admitsRun administration (Config.idle (.idle d)) ls) :
    AuditChain d ((Config.idle (.idle d)).run administration ls).world.data := by
  have hidle : Audited d (⟨.idle d, []⟩ : AdminSnap) :=
    ⟨⟨List.nodup_nil, fun _ h => (nomatch h), fun _ h => (nomatch h)⟩, openers_idle _,
      auditChain_refl d⟩
  exact (Outline.sound (auditOutline_valid d) (Outline.Good.idle hidle) hls).inv.chain

namespace Sample

def seven : UpdateMonetizationDto := ⟨.absent, .absent, .value (value 7 (by decide))⟩

def ten : Fee := ⟨.PERCENTAGE, ⟨1000⟩⟩

def calls (i n : Nat) : List AdminLabel := List.replicate n (.step i {})

/-- Two requests, one after the other. -/
def inTurn : List AdminLabel :=
  [.spawn (update five), .spawn (update seven)] ++ calls 0 5 ++ calls 1 5

/-- Both have read the fee before one of them changes it. -/
def overlapping : List AdminLabel :=
  [.spawn (update five), .spawn (update seven)] ++ calls 0 1 ++ calls 1 1 ++ calls 0 4 ++ calls 1 4

def data : AdminData := { tenants := [tenant ten] }

end Sample

theorem auditChain_inTurn :
    AuditChain Sample.data
      ((Config.idle (.idle Sample.data)).run administration Sample.inTurn).world.data :=
  auditChain_run Sample.data (by decide +kernel)

/-- Two overlapping requests both record a change from the first fee. -/
theorem not_auditChain_overlapping :
    ¬ ∀ (d : AdminData) (ls : List AdminLabel),
      updates.admitsRun administration (Config.idle (.idle d)) ls →
      AuditChain d ((Config.idle (.idle d)).run administration ls).world.data := by
  intro h
  obtain ⟨new, hnew, hlinks⟩ := h Sample.data Sample.overlapping (by decide +kernel)
  obtain ⟨g, -, hlink⟩ := hlinks "t1" Sample.ten (by decide +kernel)
  have hrows : new = [auditRow (Sample.tenant Sample.ten) Sample.five "t1" "u1",
      auditRow (Sample.tenant Sample.ten) Sample.seven "t1" "u1"] := by
    rw [← List.nil_append new]
    exact hnew.symm.trans (by decide +kernel)
  rw [hrows] at hlink
  obtain ⟨-, f, hf, hold, -⟩ := hlink
  rw [auditRow_new] at hf
  rw [auditRow_old] at hold
  obtain rfl := Option.some.inj hf
  revert hold
  decide +kernel

end Omnipax.Admin
