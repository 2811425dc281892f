import Omnipax.Conc.Serial
import Omnipax.Payments
import Omnipax.Slug

/-!
# The administration of tenants

Two services write the tenants: `AdminService` changes the platform fee of
one and keeps an audit of these changes, and `TheaterOnboardingService` takes
and reviews the applications from which tenants and their first users come. Both
read a row and test it, and only then open the transaction that writes.

A DTO field may be left out or `null`: `??` treats the two alike, a column
that is not nullable does not.
-/

namespace Omnipax.Admin

open Conc Database Payments

/-! ## Rows -/

inductive PlatformFeeType where
  | PERCENTAGE
  | FLAT
deriving Repr, DecidableEq

structure Tenant where
  id : String
  slug : String
  name : String
  isActive : Bool
  platformFeeEnabled : Bool
  platformFeeType : PlatformFeeType
  platformFeeValue : Money
deriving Repr, DecidableEq

structure MonetizationAudit where
  tenantId : String
  oldFeeType : Option PlatformFeeType
  oldPercentage : Option Money
  oldFlatFee : Option Money
  newFeeType : PlatformFeeType
  newPercentage : Option Money
  newFlatFee : Option Money
  changedByUserId : String
deriving Repr, DecidableEq

inductive Role where
  | SUPER_ADMIN
  | TENANT_ADMIN
  | THEATER_MANAGER
  | STAFF
  | USER
  | ADMIN
  | SCANNER_DEVICE
deriving Repr, DecidableEq

structure User where
  id : String
  email : String
  password : String
  name : Option String
  role : Role
  tenantId : Option String
  theaterId : Option String
  forcePasswordReset : Bool
deriving Repr, DecidableEq

structure Theater where
  id : String
  name : String
  address : String
  city : String
  tenantId : Option String
deriving Repr, DecidableEq

inductive ApplicationStatus where
  | PENDING
  | APPROVED
  | REJECTED
deriving Repr, DecidableEq

structure TheaterApplication where
  id : String
  theaterName : String
  theaterSlug : String
  ownerName : String
  email : String
  phone : String
  address : String
  city : String
  state : String
  gstNumber : Option String
  status : ApplicationStatus
  reviewNotes : Option String
  reviewedById : Option String
  reviewedAt : Option Time
deriving Repr, DecidableEq

/-- A request to become a tenant. -/
structure CreateTheaterApplicationDto where
  theaterName : String
  ownerName : String
  email : String
  phone : String
  address : String
  city : String
  state : String
  gstNumber : Option String
  /-- `@IsNotEmpty()` -/
  nonempty : ∀ text ∈ [theaterName, ownerName, email, phone, address, city, state], text ≠ ""

/-- What an applicant is answered. -/
structure AppliedReply where
  theaterName : String
  status : ApplicationStatus
  createdAt : Time
deriving Repr, DecidableEq

/-- A field of a DTO that is optional. A body may leave it out or give `null`: an update
keeps the column in the one case and clears it, where it may be cleared, in the other. -/
inductive Field (α : Type) where
  | absent
  | null
  | value (a : α)
deriving Repr, DecidableEq

namespace Field

variable {α : Type}

/-- `a ?? b` -/
def getD : Field α → α → α
  | .value a, _ => a
  | _, b => b

def given : Field α → Option α
  | .value a => some a
  | _ => none

/-- What an update makes of a column that may be `null`. -/
def set : Field α → Option α → Option α
  | .absent, old => old
  | .null, _ => none
  | .value a, _ => some a

end Field

inductive AuditMetadata where
  | approved (applicationId tenantId : String)
  | rejected (applicationId : String) (reviewNotes : Field String)
deriving Repr, DecidableEq

structure AuditLog where
  userId : String
  action : String
  metadata : AuditMetadata
deriving Repr, DecidableEq

/-- The committed tables of tenants, users, theaters and applications with their audits, and
the time. The unique indexes of these tables are checked by the statements, so no field
speaks of them. -/
structure AdminData where
  clock : Time := 0
  tenants : List Tenant := []
  monetizationAudits : List MonetizationAudit := []
  users : List User := []
  theaters : List Theater := []
  theaterApplications : List TheaterApplication := []
  auditLogs : List AuditLog := []
deriving DecidableEq

namespace AdminData

def tenant? (d : AdminData) (id : String) : Option Tenant := d.tenants.find? (·.id == id)

def application? (d : AdminData) (id : String) : Option TheaterApplication :=
  d.theaterApplications.find? (·.id == id)

end AdminData

/-! ## Amounts of a request -/

/-- `@IsNumber() @Min(0) @Max(1000)` -/
structure FeeValue where
  value : Rat
  nonneg : 0 ≤ value
  le_max : value ≤ 1000
deriving DecidableEq

/-- A number that is stored in a `DECIMAL(10,2)` column: rounded half up. -/
def FeeValue.toMoney (v : FeeValue) : Money := ⟨⌊v.value * 100 + 1 / 2⌋⟩

structure UpdateMonetizationDto where
  enabled : Field Bool
  type : Field PlatformFeeType
  value : Field FeeValue
deriving DecidableEq

inductive ReviewAction where
  | APPROVE
  | REJECT
deriving Repr, DecidableEq

/-! ## Statements -/

inductive AdminStmt where
  | dateNow
  /-- `crypto.randomBytes(8).toString('hex')` -/
  | randomBytesHex
  | bcryptHash (text : String)
  | tenantFindUnique (id : String)
  | tenantFindBySlug (slug : String)
  | userFindByEmail (email : String)
  | applicationFindUnique (id : String)
  /-- Where the email matches and the status is PENDING. -/
  | applicationFindPending (email : String)
  | applicationCreate (dto : CreateTheaterApplicationDto) (theaterSlug : String)
  | monetizationAuditCreate (row : MonetizationAudit)
  | tenantUpdate (id : String) (platformFeeEnabled : Field Bool)
      (platformFeeType : Field PlatformFeeType) (platformFeeValue : Field FeeValue)
  | tenantCreate (name slug : String) (platformFeeType : PlatformFeeType)
      (platformFeeValue : Money)
  | theaterCreate (name address city tenantId : String)
  | userCreate (email password name : String) (role : Role) (tenantId theaterId : String)
  | applicationUpdate (id : String) (status : ApplicationStatus) (reviewNotes : Field String)
      (reviewedById : String) (reviewedAt : Time)
  | auditLogCreate (row : AuditLog)

abbrev AdminStmt.Ret : AdminStmt → Type
  | .dateNow => Time
  | .randomBytesHex => String
  | .bcryptHash _ => String
  | .tenantFindUnique _ => Option Tenant
  | .tenantFindBySlug _ => Option Tenant
  | .userFindByEmail _ => Option User
  | .applicationFindUnique _ => Option TheaterApplication
  | .applicationFindPending _ => Option TheaterApplication
  | .applicationCreate .. => AppliedReply
  | .monetizationAuditCreate _ => Unit
  | .tenantUpdate .. => Tenant
  | .tenantCreate .. => Tenant
  | .theaterCreate .. => Theater
  | .userCreate .. => Unit
  | .applicationUpdate .. => TheaterApplication
  | .auditLogCreate _ => Unit

/-- The fields of a tenant that are set. -/
structure FeeUpdate where
  enabled : Option Bool
  type : Option PlatformFeeType
  value : Option Money
deriving Repr, DecidableEq

def FeeUpdate.apply (u : FeeUpdate) (t : Tenant) : Tenant :=
  { t with
    platformFeeEnabled := u.enabled.getD t.platformFeeEnabled
    platformFeeType := u.type.getD t.platformFeeType
    platformFeeValue := u.value.getD t.platformFeeValue }

/-- The decision on an application, by whom and when. -/
structure Review where
  status : ApplicationStatus
  reviewNotes : Field String
  reviewedById : String
  reviewedAt : Time
deriving Repr, DecidableEq

def Review.apply (r : Review) (a : TheaterApplication) : TheaterApplication :=
  { a with
    status := r.status
    reviewNotes := r.reviewNotes.set a.reviewNotes
    reviewedById := some r.reviewedById
    reviewedAt := some r.reviewedAt }

inductive AdminWrite where
  | monetizationAudit (row : MonetizationAudit)
  | tenantUpdate (id : String) (update : FeeUpdate)
  | tenant (row : Tenant)
  | theater (row : Theater)
  | user (row : User)
  | newApplication (row : TheaterApplication)
  /-- `was` is the row that is updated. -/
  | application (was : TheaterApplication) (review : Review)
  | auditLog (row : AuditLog)

/-- Rows, and values of the unique indexes. -/
inductive AdminKey where
  | tenant (id : String)
  | tenantSlug (slug : String)
  | theater (id : String)
  | user (id : String)
  | userEmail (email : String)
  | application (id : String)
  | applicationEmail (email : String) (status : ApplicationStatus)
deriving Repr, DecidableEq

def AdminWrite.keys : AdminWrite → List AdminKey
  | .monetizationAudit _ => []
  | .tenantUpdate id _ => [.tenant id]
  | .tenant row => [.tenant row.id, .tenantSlug row.slug]
  | .theater row => [.theater row.id]
  | .user row => [.user row.id, .userEmail row.email]
  | .newApplication row => [.application row.id, .applicationEmail row.email row.status]
  | .application was review =>
      [.application was.id, .applicationEmail was.email was.status,
        .applicationEmail was.email review.status]
  | .auditLog _ => []

def AdminWrite.apply : AdminWrite → AdminData → AdminData
  | .monetizationAudit row, d => { d with monetizationAudits := d.monetizationAudits ++ [row] }
  | .tenantUpdate id u, d =>
      { d with tenants := d.tenants.map fun t => if t.id = id then u.apply t else t }
  | .tenant row, d => { d with tenants := d.tenants ++ [row] }
  | .theater row, d => { d with theaters := d.theaters ++ [row] }
  | .user row, d => { d with users := d.users ++ [row] }
  | .newApplication row, d => { d with theaterApplications := d.theaterApplications ++ [row] }
  | .application was r, d =>
      { d with theaterApplications :=
          d.theaterApplications.map fun a => if a.id = was.id then r.apply a else a }
  | .auditLog row, d => { d with auditLogs := d.auditLogs ++ [row] }

/-- What is not known before a step: whether its request or its answer is
lost, and the text that is generated in it. -/
structure AdminOracle where
  loss : Option Loss := none
  text : String := ""
deriving Repr, DecidableEq

/-- The data of an `update`: a field that is left out is not set, and no
column of a tenant takes `null`. -/
def feeUpdate? : Field Bool → Field PlatformFeeType → Field FeeValue → Option FeeUpdate
  | .null, _, _ => none
  | _, .null, _ => none
  | _, _, .null => none
  | enabled, type, value =>
      some { enabled := enabled.given, type := type.given, value := value.given.map (·.toMoney) }

def AdminStmt.exec (o : AdminOracle) (d : AdminData) :
    (q : AdminStmt) → Except StepError q.Ret × List AdminWrite
  | .dateNow => (.ok d.clock, [])
  | .randomBytesHex => (.ok o.text, [])
  | .bcryptHash _ => (.ok o.text, [])
  | .tenantFindUnique id => (.ok (d.tenant? id), [])
  | .tenantFindBySlug slug => (.ok (d.tenants.find? (·.slug == slug)), [])
  | .userFindByEmail email => (.ok (d.users.find? (·.email == email)), [])
  | .applicationFindUnique id => (.ok (d.application? id), [])
  | .applicationFindPending email =>
      (.ok (d.theaterApplications.find? fun a => a.email == email && a.status == .PENDING), [])
  | .applicationCreate dto theaterSlug =>
      let row : TheaterApplication :=
        { id := o.text, theaterName := dto.theaterName, theaterSlug, ownerName := dto.ownerName,
          email := dto.email, phone := dto.phone, address := dto.address, city := dto.city,
          state := dto.state, gstNumber := dto.gstNumber, status := .PENDING, reviewNotes := none,
          reviewedById := none, reviewedAt := none }
      if d.theaterApplications.any fun a =>
          a.id == row.id || a.email == row.email && a.status == row.status
      then (.error (.prisma "P2002"), [])
      else (.ok ⟨row.theaterName, row.status, d.clock⟩, [.newApplication row])
  | .monetizationAuditCreate row =>
      if d.tenants.any (·.id == row.tenantId) then (.ok (), [.monetizationAudit row])
      else (.error (.prisma "P2003"), [])
  | .tenantUpdate id enabled type value =>
      match feeUpdate? enabled type value with
      | none => (.error .prismaValidation, [])
      | some u =>
          match d.tenant? id with
          | none => (.error (.prisma "P2025"), [])
          | some t =>
              if u = ⟨none, none, none⟩ then (.ok t, []) else (.ok (u.apply t), [.tenantUpdate id u])
  | .tenantCreate name slug feeType feeValue =>
      let row : Tenant := { id := o.text, slug, name, isActive := true, platformFeeEnabled := true,
                            platformFeeType := feeType, platformFeeValue := feeValue }
      if d.tenants.any fun t => t.id == o.text || t.slug == slug then (.error (.prisma "P2002"), [])
      else (.ok row, [.tenant row])
  | .theaterCreate name address city tenantId =>
      let row : Theater := { id := o.text, name, address, city, tenantId := some tenantId }
      if d.theaters.any (·.id == o.text) then (.error (.prisma "P2002"), [])
      else if d.tenants.any (·.id == tenantId) then (.ok row, [.theater row])
      else (.error (.prisma "P2003"), [])
  | .userCreate email password name role tenantId theaterId =>
      let row : User := { id := o.text, email, password, name := some name, role,
                          tenantId := some tenantId, theaterId := some theaterId,
                          forcePasswordReset := true }
      if d.users.any fun u => u.id == o.text || u.email == email then (.error (.prisma "P2002"), [])
      else if d.tenants.any (·.id == tenantId) && d.theaters.any (·.id == theaterId) then
        (.ok (), [.user row])
      else (.error (.prisma "P2003"), [])
  | .applicationUpdate id status reviewNotes reviewedById reviewedAt =>
      match d.application? id with
      | none => (.error (.prisma "P2025"), [])
      | some a =>
          if d.theaterApplications.any fun b => b.id != id && b.email == a.email && b.status == status
          then (.error (.prisma "P2002"), [])
          else if d.users.any (·.id == reviewedById) then
            let r : Review := { status, reviewNotes, reviewedById, reviewedAt }
            (.ok (r.apply a), [.application a r])
          else (.error (.prisma "P2003"), [])
  | .auditLogCreate row =>
      if d.users.any (·.id == row.userId) then (.ok (), [.auditLog row])
      else (.error (.prisma "P2003"), [])

def AdminStmt.inProcess : AdminStmt → Bool
  | .dateNow => true
  | .randomBytesHex => true
  | .bcryptHash _ => true
  | _ => false

def adminDb : Database AdminStmt AdminData AdminWrite AdminKey AdminOracle StepError where
  Ans := AdminStmt.Ret
  exec q o d := q.exec o d
  apply := AdminWrite.apply
  keys := AdminWrite.keys
  loss := AdminOracle.loss
  inProcess := AdminStmt.inProcess
  gone := .unavailable

/-! ## The services -/

inductive AdminExn where
  | notFound (message : String)
  | badRequest (message : String)
  | conflict (message : String)
  | step (e : StepError)
deriving Repr, DecidableEq

abbrev AdminM := Prog adminDb.sig AdminExn

/-- `await` of a statement, by itself or in a transaction. -/
def ask (tx : Option Nat) (q : AdminStmt) : AdminM q.Ret := adminDb.query AdminExn.step tx q

section Monetization

/-- A value that counts as true, and is above the cap. -/
def exceeds (value : Field FeeValue) (cap : Rat) : Bool :=
  match value with
  | .value v => v.value ≠ 0 && v.value > cap
  | _ => false

/-- `dto.value ?? tenant.platformFeeValue`, as it is stored. -/
def newValue (tenant : Tenant) (dto : UpdateMonetizationDto) : Money :=
  (dto.value.given.map (·.toMoney)).getD tenant.platformFeeValue

/-- What an audit row says of a change from the fee that has been read. -/
def auditRow (tenant : Tenant) (dto : UpdateMonetizationDto) (tenantId changedByUserId : String) :
    MonetizationAudit where
  tenantId
  oldFeeType := some tenant.platformFeeType
  oldPercentage := if tenant.platformFeeType = .PERCENTAGE then some tenant.platformFeeValue else none
  oldFlatFee := if tenant.platformFeeType = .FLAT then some tenant.platformFeeValue else none
  newFeeType := dto.type.getD tenant.platformFeeType
  newPercentage := if dto.type.getD tenant.platformFeeType = .PERCENTAGE then
    some (newValue tenant dto) else none
  newFlatFee := if dto.type.getD tenant.platformFeeType = .FLAT then
    some (newValue tenant dto) else none
  changedByUserId

/-- `AdminService.updateMonetization` -/
def updateMonetization (tenantId : String) (dto : UpdateMonetizationDto)
    (changedByUserId : String) : AdminM Tenant := do
  match ← ask none (.tenantFindUnique tenantId) with
  | none => throw (.notFound "Tenant not found")
  | some tenant => do
      Prog.throwIf (dto.type == .value .PERCENTAGE && exceeds dto.value 20)
        (.badRequest "Percentage fee cannot exceed 20%")
      Prog.throwIf (dto.type == .value .FLAT && exceeds dto.value 1000)
        (.badRequest "Flat fee cannot exceed ₹1000")
      adminDb.transaction AdminExn.step fun tx => do
        ask (some tx) (.monetizationAuditCreate (auditRow tenant dto tenantId changedByUserId))
        ask (some tx) (.tenantUpdate tenantId dto.enabled dto.type dto.value)

end Monetization

section Onboarding

/-- `TheaterOnboardingService.apply` -/
def apply (U : CaseMapping) (dto : CreateTheaterApplicationDto) : AdminM AppliedReply := do
  let theaterSlug := slugify U dto.theaterName
  let existingTenant ← ask none (.tenantFindBySlug theaterSlug)
  Prog.throwIf existingTenant.isSome (.conflict "Theater name is already taken")
  let existingUser ← ask none (.userFindByEmail dto.email)
  Prog.throwIf existingUser.isSome (.conflict "Email is already registered")
  let existingPending ← ask none (.applicationFindPending dto.email)
  Prog.throwIf existingPending.isSome
    (.conflict "An application with this email is already pending review")
  ask none (.applicationCreate dto theaterSlug)

inductive ReviewReply where
  | approved (email tempPassword tenantId : String)
  | rejected (application : TheaterApplication)
deriving Repr, DecidableEq

variable (application : TheaterApplication) (reviewerId : String) (reviewNotes : Field String)

/-- The body of the transaction of an approval. -/
def approveIn (tempPassword hashedPassword : String) (tx : Nat) : AdminM ReviewReply := do
  let slugCheck ← ask (some tx) (.tenantFindBySlug application.theaterSlug)
  Prog.throwIf slugCheck.isSome (.conflict "Theater slug became unavailable")
  let emailCheck ← ask (some tx) (.userFindByEmail application.email)
  Prog.throwIf emailCheck.isSome (.conflict "User email became unavailable")
  let tenant ← ask (some tx)
    (.tenantCreate application.theaterName application.theaterSlug .PERCENTAGE ⟨200⟩)
  ask (some tx) (.monetizationAuditCreate
    { tenantId := tenant.id, oldFeeType := none, oldPercentage := none, oldFlatFee := none,
      newFeeType := .PERCENTAGE, newPercentage := some ⟨200⟩, newFlatFee := none,
      changedByUserId := reviewerId })
  let theater ← ask (some tx)
    (.theaterCreate application.theaterName application.address application.city tenant.id)
  ask (some tx) (.userCreate application.email hashedPassword application.ownerName .TENANT_ADMIN
    tenant.id theater.id)
  let reviewedAt ← ask (some tx) .dateNow
  let _ ← ask (some tx)
    (.applicationUpdate application.id .APPROVED reviewNotes reviewerId reviewedAt)
  ask (some tx) (.auditLogCreate
    ⟨reviewerId, "APPROVE_THEATER_APPLICATION", .approved application.id tenant.id⟩)
  return .approved application.email tempPassword tenant.id

def approveApplication : AdminM ReviewReply := do
  let tempPassword ← ask none .randomBytesHex
  let hashedPassword ← ask none (.bcryptHash tempPassword)
  adminDb.transaction AdminExn.step
    (approveIn application reviewerId reviewNotes tempPassword hashedPassword)

def rejectApplication (applicationId reviewerId : String) (reviewNotes : Field String) :
    AdminM ReviewReply :=
  adminDb.transaction AdminExn.step fun tx => do
    let reviewedAt ← ask (some tx) .dateNow
    let updatedApp ← ask (some tx)
      (.applicationUpdate applicationId .REJECTED reviewNotes reviewerId reviewedAt)
    ask (some tx) (.auditLogCreate
      ⟨reviewerId, "REJECT_THEATER_APPLICATION", .rejected applicationId reviewNotes⟩)
    return .rejected updatedApp

/-- `TheaterOnboardingService.reviewApplication` -/
def reviewApplication (applicationId reviewerId : String) (action : ReviewAction)
    (reviewNotes : Field String) : AdminM ReviewReply := do
  match ← ask none (.applicationFindUnique applicationId) with
  | none => throw (.notFound "Application not found")
  | some application => do
      Prog.throwIf (application.status != .PENDING)
        (.badRequest "Application has already been reviewed")
      match action with
      | .APPROVE => approveApplication application reviewerId reviewNotes
      | .REJECT => rejectApplication applicationId reviewerId reviewNotes

end Onboarding

/-! ## The system -/

inductive AdminOp where
  | updateMonetization (tenantId : String) (dto : UpdateMonetizationDto) (changedByUserId : String)
  | reviewApplication (applicationId reviewerId : String) (action : ReviewAction)
      (reviewNotes : Field String)

inductive AdminReply where
  | updateMonetization (tenant : Tenant)
  | reviewApplication (reply : ReviewReply)
deriving DecidableEq

def AdminOp.body : AdminOp → AdminM AdminReply
  | .updateMonetization tenantId dto userId =>
      AdminReply.updateMonetization <$> Admin.updateMonetization tenantId dto userId
  | .reviewApplication applicationId reviewerId action reviewNotes =>
      AdminReply.reviewApplication <$>
        Admin.reviewApplication applicationId reviewerId action reviewNotes

abbrev AdminStore := Store AdminData AdminWrite
abbrev AdminSystem :=
  System adminDb.sig AdminStore AdminOracle (DbEnv Nat) AdminExn AdminReply AdminOp
abbrev AdminSnap := Snap adminDb.sig AdminStore AdminOracle AdminOp
abbrev AdminEvent := Conc.Event adminDb.sig AdminStore AdminOracle AdminOp
abbrev AdminConfig := Config adminDb.sig AdminStore AdminOracle AdminExn AdminReply AdminOp
abbrev AdminLabel := Label AdminOracle (DbEnv Nat) AdminOp
abbrev AdminOutline := Outline adminDb.sig AdminStore AdminOracle AdminOp
abbrev AdminTurn := Turn AdminOracle (DbEnv Nat) AdminOp

/-- Any number of calls, while time goes on and transactions may be given up. -/
abbrev administration : AdminSystem :=
  adminDb.system (fun (t : Nat) d => { d with clock := d.clock + t }) AdminOp.body

end Omnipax.Admin
