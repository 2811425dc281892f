import Omnipax.Conc.Transcript
import Omnipax.Payments
import Omnipax.SlugForm

/-!
# Accounts, tenants and events

What the booking core takes for granted is created here: the accounts of users, the
tenants, and the events with their seats. A service looks whether a name is taken
and creates the row; that there is one row of a name in the end is left to the
unique indexes. Rows are never changed and never deleted.
-/

namespace Omnipax.Directory

open Conc Database
open Payments (stringOr)

/-! ## Rows -/

structure User where
  id : String
  email : String
  name : String
  passwordHash : String
deriving Repr, DecidableEq

structure TenantRow extends Tenant where
  name : String
  createdAt : Time
deriving Repr, DecidableEq

structure EventRow extends Omnipax.Event where
  totalSeats : Nat
  createdAt : Time
deriving Repr, DecidableEq

structure DirectoryData where
  users : List User
  tenants : List TenantRow
  events : List EventRow
  seats : List Seat
  clock : Time
deriving DecidableEq

/-- The identifiers that are generated. -/
structure Cuid where
  text : String
  ok : isCuid text = true := by decide

/-! ## Statements -/

/-- An event and the numbers of its seats. -/
structure EventCreate where
  tenantId : String
  name : String
  startsAt : Time
  totalSeats : Nat
  seatNumbers : List Int
deriving DecidableEq

def EventCreate.row (c : EventCreate) (id : String) (createdAt : Time) : EventRow :=
  { id, tenantId := c.tenantId, name := c.name, startsAt := c.startsAt, totalSeats := c.totalSeats,
    createdAt }

def EventCreate.seats (c : EventCreate) (eventId : String) (cuid : Nat → Cuid) : List Seat :=
  c.seatNumbers.zipIdx.map fun n =>
    { id := (cuid (n.2 + 1)).text, eventId, seatNumber := n.1 }

/-- What is selected of an event. -/
structure EventView where
  id : String
  name : String
  startsAt : Time
  totalSeats : Nat
  createdAt : Time
deriving Repr, DecidableEq

def EventRow.view (e : EventRow) : EventView :=
  { id := e.id, name := e.name, startsAt := e.startsAt, totalSeats := e.totalSeats,
    createdAt := e.createdAt }

inductive DirectoryStmt where
  | dateNow
  /-- The salt of `bcrypt.hash`. -/
  | genSalt
  | userFindUnique (email : String)
  | userCreate (email name passwordHash : String)
  | tenantFindUnique (slug : String)
  | tenantCreate (slug name : String)
  | eventCreate (data : EventCreate)
  | eventFindMany (tenantId : String)
deriving DecidableEq

abbrev DirectoryStmt.Ret : DirectoryStmt → Type
  | .dateNow => Time
  | .genSalt => String
  | .userFindUnique _ => Option User
  | .userCreate .. => User
  | .tenantFindUnique _ => Option TenantRow
  | .tenantCreate .. => TenantRow
  | .eventCreate _ => EventView
  | .eventFindMany _ => List EventView

inductive DirectoryWrite where
  | user (row : User)
  | tenant (row : TenantRow)
  | event (row : EventRow) (seats : List Seat)

inductive DirectoryKey where
  | user (id : String)
  | email (email : String)
  | tenant (id : String)
  | slug (slug : String)
  | event (id : String)
  | seat (id : String)
deriving DecidableEq

def DirectoryWrite.keys : DirectoryWrite → List DirectoryKey
  | .user row => [.user row.id, .email row.email]
  | .tenant row => [.tenant row.id, .slug row.slug]
  | .event row seats => .event row.id :: seats.map fun s => .seat s.id

def DirectoryWrite.apply : DirectoryWrite → DirectoryData → DirectoryData
  | .user row, d => { d with users := d.users ++ [row] }
  | .tenant row, d => { d with tenants := d.tenants ++ [row] }
  | .event row seats, d => { d with events := d.events ++ [row], seats := d.seats ++ seats }

/-- Whether a request or its answer is lost, the identifiers of new rows, a salt, and
the order rows come in. -/
structure DirectoryOracle where
  loss : Option Loss := none
  cuid : Nat → Cuid := fun _ => ⟨"", rfl⟩
  salt : String := ""
  order : List Nat := []

def DirectoryStmt.exec (o : DirectoryOracle) (d : DirectoryData) :
    (q : DirectoryStmt) → Except StepError q.Ret × List DirectoryWrite
  | .dateNow => (.ok d.clock, [])
  | .genSalt => (.ok o.salt, [])
  | .userFindUnique email => (.ok (d.users.find? (·.email == email)), [])
  | .userCreate email name passwordHash =>
      let row : User := { id := (o.cuid 0).text, email, name, passwordHash }
      if row.id ∈ d.users.map (·.id) ∨ row.email ∈ d.users.map (·.email) then
        (.error (.prisma "P2002"), [])
      else (.ok row, [.user row])
  | .tenantFindUnique slug => (.ok (d.tenants.find? (·.slug == slug)), [])
  | .tenantCreate slug name =>
      let row : TenantRow := { id := (o.cuid 0).text, slug, name, createdAt := d.clock }
      if row.id ∈ d.tenants.map (·.id) ∨ row.slug ∈ d.tenants.map (·.slug) then
        (.error (.prisma "P2002"), [])
      else (.ok row, [.tenant row])
  | .eventCreate data =>
      let row := data.row (o.cuid 0).text d.clock
      let seats := data.seats row.id o.cuid
      if !(int4 data.totalSeats && data.seatNumbers.all int4) then (.error (.prisma "P2020"), [])
      else if row.id ∈ d.events.map (·.id) ∨ ¬((d.seats ++ seats).map (·.id)).Nodup ∨
          ¬((d.seats ++ seats).map fun s => (s.eventId, s.seatNumber)).Nodup then
        (.error (.prisma "P2002"), [])
      else if data.tenantId ∉ d.tenants.map (·.id) then (.error (.prisma "P2003"), [])
      else (.ok row.view, [.event row seats])
  | .eventFindMany tenantId =>
      (.ok (((shuffle o.order (d.events.filter (·.tenantId == tenantId))).mergeSort
        fun a b => a.startsAt ≤ b.startsAt).map (·.view)), [])

def DirectoryStmt.inProcess : DirectoryStmt → Bool
  | .dateNow => true
  | .genSalt => true
  | _ => false

def directoryDb : Database DirectoryStmt DirectoryData DirectoryWrite DirectoryKey DirectoryOracle
    StepError where
  Ans := DirectoryStmt.Ret
  exec q o d := q.exec o d
  apply := DirectoryWrite.apply
  keys := DirectoryWrite.keys
  loss := DirectoryOracle.loss
  inProcess := DirectoryStmt.inProcess
  gone := .unavailable

/-! ## The services -/

structure UserClaims where
  sub : String
  email : String
deriving Repr, DecidableEq

/-- `toLowerCase`, `bcrypt`, the signature of the tokens, and `new Date`. -/
structure DirectoryPlatform extends CaseMapping where
  /-- The hash of a password with a salt. -/
  bcryptHash : String → String → String
  bcryptCompare : String → String → Bool
  /-- `JwtService.signAsync`: the claims, and when it is issued. -/
  signAsync : UserClaims → Time → String
  /-- Nothing for an invalid date. -/
  newDate : String → Option Time

inductive DirectoryExn where
  | conflict (message : String)
  | unauthorized (message : String)
  | step (e : StepError)
deriving Repr, DecidableEq

abbrev DirectoryM := Prog directoryDb.sig DirectoryExn

def ask (q : DirectoryStmt) : DirectoryM q.Ret := directoryDb.query DirectoryExn.step none q

structure RegisterDto where
  email : String
  name : String
  password : String
deriving Repr, DecidableEq

structure LoginDto where
  email : String
  password : String
deriving Repr, DecidableEq

structure CreateTenantDto where
  slug : String
  name : Option String
  slug_ok : slugOk slug = true := by decide
deriving DecidableEq

structure CreateEventDto where
  name : String
  startsAt : String
  totalSeats : Nat
  seatStartNumber : Option Int
deriving Repr, DecidableEq

structure UserView where
  id : String
  email : String
  name : String
deriving Repr, DecidableEq

structure AuthSession where
  user : UserView
  accessToken : String
deriving Repr, DecidableEq

def User.view (u : User) : UserView := { id := u.id, email := u.email, name := u.name }

/-- What `register` and `login` answer. -/
def signIn (P : DirectoryPlatform) (user : User) : DirectoryM AuthSession := do
  let issuedAt ← ask .dateNow
  return { user := user.view, accessToken := P.signAsync ⟨user.id, user.email⟩ issuedAt }

/-- `AuthService.register` -/
def register (P : DirectoryPlatform) (dto : RegisterDto) : DirectoryM AuthSession := do
  match ← ask (.userFindUnique (P.toLowerCase dto.email)) with
  | some _ => throw (.conflict "Email already registered")
  | none => do
      let salt ← ask .genSalt
      let user ← ask (.userCreate (P.toLowerCase dto.email) dto.name
        (P.bcryptHash salt dto.password))
      signIn P user

/-- `AuthService.login` -/
def login (P : DirectoryPlatform) (dto : LoginDto) : DirectoryM AuthSession := do
  match ← ask (.userFindUnique (P.toLowerCase dto.email)) with
  | none => throw (.unauthorized "Invalid credentials")
  | some user =>
      if !P.bcryptCompare dto.password user.passwordHash then
        throw (.unauthorized "Invalid credentials")
      else signIn P user

/-- `TenantsService.create` -/
def createTenant (P : DirectoryPlatform) (dto : CreateTenantDto) : DirectoryM TenantRow := do
  let slug := P.toLowerCase dto.slug
  match ← ask (.tenantFindUnique slug) with
  | some _ => throw (.conflict "Tenant slug already exists")
  | none => ask (.tenantCreate slug (stringOr dto.name slug))

/-- `TenantsService.getBySlug` -/
def getBySlug (slug : String) : DirectoryM (Option TenantRow) := ask (.tenantFindUnique slug)

/-- `EventsService.createEvent` -/
def createEvent (P : DirectoryPlatform) (tenantId : String) (dto : CreateEventDto) :
    DirectoryM EventView :=
  match P.newDate dto.startsAt with
  | none => throw (.conflict "Invalid startsAt date")
  | some startsAt =>
      let seatStartNumber := dto.seatStartNumber.getD 1
      ask (.eventCreate
        { tenantId, name := dto.name, startsAt, totalSeats := dto.totalSeats,
          seatNumbers := (List.range dto.totalSeats).map
            fun index : Nat => seatStartNumber + index })

/-- `EventsService.listEvents` -/
def listEvents (tenantId : String) : DirectoryM (List EventView) := ask (.eventFindMany tenantId)

/-! ## The system -/

inductive DirectoryOp where
  | register (dto : RegisterDto)
  | login (dto : LoginDto)
  | createTenant (dto : CreateTenantDto)
  | getBySlug (slug : String)
  | createEvent (tenantId : String) (dto : CreateEventDto)
  | listEvents (tenantId : String)
deriving DecidableEq

inductive DirectoryReply where
  | session (session : AuthSession)
  | tenant (row : TenantRow)
  | found (row : Option TenantRow)
  | event (event : EventView)
  | events (events : List EventView)
deriving DecidableEq

def DirectoryOp.call (P : DirectoryPlatform) : DirectoryOp → DirectoryM DirectoryReply
  | .register dto => .session <$> Directory.register P dto
  | .login dto => .session <$> Directory.login P dto
  | .createTenant dto => .tenant <$> Directory.createTenant P dto
  | .getBySlug slug => .found <$> Directory.getBySlug slug
  | .createEvent tenantId dto => .event <$> Directory.createEvent P tenantId dto
  | .listEvents tenantId => .events <$> Directory.listEvents tenantId

/-- The answer to a request, an exception included. -/
abbrev Answer := Except DirectoryExn DirectoryReply

def DirectoryOp.body (P : DirectoryPlatform) (op : DirectoryOp) : DirectoryM Answer :=
  (op.call P).attempt

abbrev DirectoryStore := Store DirectoryData DirectoryWrite
abbrev DirectorySnap := Snap directoryDb.sig DirectoryStore DirectoryOracle DirectoryOp
abbrev DirectoryEvent := Conc.Event directoryDb.sig DirectoryStore DirectoryOracle DirectoryOp
abbrev DirectoryConfig :=
  Config directoryDb.sig DirectoryStore DirectoryOracle DirectoryExn Answer DirectoryOp
abbrev DirectoryLabel := Label DirectoryOracle (DbEnv Nat) DirectoryOp
abbrev DirectoryOutline := Outline directoryDb.sig DirectoryStore DirectoryOracle DirectoryOp

def tick (t : Nat) (d : DirectoryData) : DirectoryData := { d with clock := d.clock + t }

/-- Any number of calls, while time goes on. -/
abbrev directory (P : DirectoryPlatform) :
    System directoryDb.sig DirectoryStore DirectoryOracle (DbEnv Nat) DirectoryExn Answer
      DirectoryOp :=
  directoryDb.system tick (DirectoryOp.body P)

def Answered (cfg : DirectoryConfig) (i : Nat) (op : DirectoryOp) (reply : Answer) : Prop :=
  cfg.threads[i]? = some ⟨op, .ret reply⟩

/-! ## What a statement does -/

/-- What a statement makes of the tables. -/
inductive Created (q : DirectoryStmt) (d : DirectoryData) : DirectoryData → Prop where
  | same : Created q d d
  | user {row : User} : q = .userCreate row.email row.name row.passwordHash →
      row.email ∉ d.users.map (·.email) → Created q d { d with users := d.users ++ [row] }
  | tenant {row : TenantRow} : q = .tenantCreate row.slug row.name →
      row.id ∉ d.tenants.map (·.id) → row.slug ∉ d.tenants.map (·.slug) →
      Created q d { d with tenants := d.tenants ++ [row] }
  | event {c : EventCreate} {cuid : Nat → Cuid} : q = .eventCreate c →
      (cuid 0).text ∉ d.events.map (·.id) →
      ((d.seats ++ c.seats (cuid 0).text cuid).map (·.id)).Nodup →
      c.tenantId ∈ d.tenants.map (·.id) →
      Created q d { d with
        events := d.events ++ [c.row (cuid 0).text d.clock]
        seats := d.seats ++ c.seats (cuid 0).text cuid }

theorem created_exec (q : DirectoryStmt) (o : DirectoryOracle) (d : DirectoryData) :
    Created q d (directoryDb.applyAll (q.exec o d).2 d) := by
  cases q with
  | userCreate email name passwordHash =>
      simp only [DirectoryStmt.exec]
      split
      · exact .same
      · rename_i hnew
        obtain ⟨-, hemail⟩ := not_or.mp hnew
        refine .user ?_ hemail
        rfl
  | tenantCreate slug name =>
      simp only [DirectoryStmt.exec]
      split
      · exact .same
      · rename_i hnew
        obtain ⟨hid, hslug⟩ := not_or.mp hnew
        refine .tenant ?_ hid hslug
        rfl
  | eventCreate c =>
      simp only [DirectoryStmt.exec]
      split
      · exact .same
      · split
        · exact .same
        · rename_i hnew
          obtain ⟨hid, hseats⟩ := not_or.mp hnew
          split
          · exact .same
          · rename_i htenant
            exact .event rfl hid (not_not.mp (not_or.mp hseats).1) (not_not.mp htenant)
  | _ => exact .same

/-! ## What the calls ask for -/

theorem toLowerCase_slug (U : CaseMapping) {slug : String} (h : slugOk slug = true) :
    U.toLowerCase slug = slug := by
  have hchars := isSlugChar_of_isSlug (isSlug_of_slugOk h)
  rw [U.ascii slug fun c hc => toNat_of_isSlugChar (hchars c hc)]
  refine String.toList_inj.mp (String.toList_ofList.trans ?_)
  exact (List.map_congr_left fun c hc => (isSlugChar_spec (hchars c hc)).1).trans (List.map_id _)

/-- The numbers of the seats of an event. -/
def numbers (start : Int) (totalSeats : Nat) : List Int :=
  (List.range totalSeats).map fun index : Nat => start + index

def DirectoryStmt.Fit : DirectoryStmt → Prop
  | .tenantCreate slug _ => slugOk slug = true
  | .eventCreate c => ∃ start, c.seatNumbers = numbers start c.totalSeats
  | _ => True

def Fit (c : TxCmd DirectoryStmt) : Prop := ∃ q : DirectoryStmt, c = .stmt none q ∧ q.Fit

theorem all_ask {α : Type} {q : DirectoryStmt} {f : q.Ret → DirectoryM α} (hq : q.Fit)
    (h : ∀ a, (f a).All Fit) : (ask q >>= f).All Fit :=
  Prog.All.bind ⟨⟨q, rfl, hq⟩, fun r => by cases r <;> trivial⟩ h

theorem all_asked {q : DirectoryStmt} (hq : q.Fit) : (ask q).All Fit := by
  rw [← Prog.bind_ret (ask q)]
  exact all_ask hq fun _ => trivial

theorem all_call (P : DirectoryPlatform) (op : DirectoryOp) : (op.call P).All Fit := by
  have hsign (user : User) : (signIn P user).All Fit :=
    all_ask trivial fun _ => trivial
  cases op with
  | register dto =>
      refine Prog.All.bind (all_ask trivial fun found => ?_) fun _ => trivial
      cases found with
      | none => exact all_ask trivial fun _ => all_ask trivial fun user => hsign user
      | some _ => trivial
  | login dto =>
      refine Prog.All.bind (all_ask trivial fun found => ?_) fun _ => trivial
      cases found with
      | none => trivial
      | some user =>
          dsimp only
          split
          · trivial
          · exact hsign user
  | createTenant dto =>
      refine Prog.All.bind (all_ask trivial fun found => ?_) fun _ => trivial
      cases found with
      | none =>
          refine all_asked ?_
          show slugOk (P.toLowerCase dto.slug) = true
          rw [toLowerCase_slug P.toCaseMapping dto.slug_ok]
          exact dto.slug_ok
      | some _ => trivial
  | getBySlug slug => exact Prog.All.bind (all_asked trivial) fun _ => trivial
  | createEvent tenantId dto =>
      refine Prog.All.bind ?_ fun _ => trivial
      unfold createEvent
      split
      · trivial
      · exact all_asked ⟨_, rfl⟩
  | listEvents tenantId => exact Prog.All.bind (all_asked trivial) fun _ => trivial

theorem created_step (q : DirectoryStmt) (o : DirectoryOracle) (w : DirectoryStore) :
    Created q w.data (directoryDb.step (.stmt none q) o w).2.data := by
  rcases step_data directoryDb (.stmt none q) o w with hd | ⟨q', hq, -, hd⟩ | ⟨ss, hcommit, -⟩
  · rw [hd]
    exact .same
  · rw [hd]
    obtain rfl : q = q' := (TxCmd.stmt.inj hq).2
    exact created_exec q o w.data
  · cases hcommit

end Omnipax.Directory
