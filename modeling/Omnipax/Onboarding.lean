import Omnipax.Administration
import Omnipax.Conc.Undisturbed

/-!
# An application is reviewed once

`reviewApplication` finds an application PENDING, and later decides it in a
transaction that does not look at its status again. Two approvals exclude each
other by the indexes of what they create; a rejection and another review do
not. When every decision reaches an application that is still PENDING, at most
one review of it succeeds, and its tenant and its first user have been created
exactly when it is APPROVED.

The update of the application locks its row, so from then on it stays PENDING
in the committed data until the decision is committed (`Decision`).
-/

namespace Omnipax.Admin

open Conc Database Prog

/-! ## What is observed -/

/-- The application is there and waits for its review. -/
def pending (id : String) (d : AdminData) : Bool :=
  (d.application? id).any (·.status == .PENDING)

def tenantsNamed (slug : String) (d : AdminData) : Nat := d.tenants.countP (·.slug == slug)

def adminsNamed (email : String) (d : AdminData) : Nat :=
  d.users.countP fun u => u.email == email && u.role == .TENANT_ADMIN

/-- What a review needs of an application: it never changes. -/
def profile? (id : String) (d : AdminData) : Option (String × String) :=
  (d.application? id).map fun a => (a.theaterSlug, a.email)

namespace AdminWrite

def addsTenant (slug : String) : AdminWrite → Bool
  | .tenant row => row.slug == slug
  | _ => false

def addsAdmin (email : String) : AdminWrite → Bool
  | .user row => row.email == email && row.role == .TENANT_ADMIN
  | _ => false

/-- The writes that make up a decision, or the application itself. -/
def decides : AdminWrite → Bool
  | .tenant _ => true
  | .user _ => true
  | .newApplication _ => true
  | .application .. => true
  | _ => false

end AdminWrite

section Writes

variable {d : AdminData} {w : AdminWrite} {ws : List AdminWrite} {id slug email : String}

theorem tenantsNamed_applyAll :
    tenantsNamed slug (adminDb.applyAll ws d)
      = tenantsNamed slug d + ws.countP (·.addsTenant slug) := by
  induction ws generalizing d with
  | nil => rfl
  | cons w ws ih =>
      rw [applyAll_cons, ih, List.countP_cons]
      have hstep : tenantsNamed slug (adminDb.apply w d)
          = tenantsNamed slug d + if w.addsTenant slug = true then 1 else 0 := by
        unfold tenantsNamed
        cases w with
        | tenant row =>
            show (d.tenants ++ [row]).countP _ = _
            rw [List.countP_append, List.countP_singleton]
            rfl
        | tenantUpdate tenantId u =>
            show (d.tenants.map _).countP _ = _
            rw [List.countP_map]
            refine List.countP_congr fun t _ => ?_
            simp only [Function.comp_apply]
            split <;> rfl
        | _ => rfl
      omega

theorem adminsNamed_applyAll :
    adminsNamed email (adminDb.applyAll ws d)
      = adminsNamed email d + ws.countP (·.addsAdmin email) := by
  induction ws generalizing d with
  | nil => rfl
  | cons w ws ih =>
      rw [applyAll_cons, ih, List.countP_cons]
      have hstep : adminsNamed email (adminDb.apply w d)
          = adminsNamed email d + if w.addsAdmin email = true then 1 else 0 := by
        unfold adminsNamed
        cases w with
        | user row =>
            show (d.users ++ [row]).countP _ = _
            rw [List.countP_append, List.countP_singleton]
            rfl
        | _ => rfl
      omega

theorem id_of_application? {a : TheaterApplication} (h : d.application? id = some a) : a.id = id := by
  simpa using List.find?_some h

theorem application?_update (was : TheaterApplication) (r : Review) :
    (adminDb.apply (.application was r) d).application? id
      = (d.application? id).map fun a => if a.id = was.id then r.apply a else a := by
  unfold AdminData.application?
  show (d.theaterApplications.map _).find? _ = _
  rw [List.find?_map]
  congr 2
  funext a
  simp only [Function.comp_apply]
  split <;> rfl

theorem application?_new (row : TheaterApplication) :
    (adminDb.apply (.newApplication row) d).application? id
      = (d.application? id).or (if row.id = id then some row else none) := by
  show (d.theaterApplications ++ [row]).find? _ = _
  rw [List.find?_append, List.find?_singleton]
  simp [AdminData.application?]

/-- A write that does not lock the application leaves it as it is. -/
theorem application?_apply (hw : AdminKey.application id ∉ w.keys) :
    (adminDb.apply w d).application? id = d.application? id := by
  cases w with
  | application was r =>
      rw [application?_update]
      cases h : d.application? id with
      | none => rfl
      | some a =>
          obtain rfl := id_of_application? h
          have hne : a.id ≠ was.id := fun heq => hw (by simp [AdminWrite.keys, heq])
          simp [hne]
  | newApplication row =>
      have hne : row.id ≠ id := fun heq => hw (by simp [AdminWrite.keys, heq])
      rw [application?_new, if_neg hne, Option.or_none]
  | _ => rfl

theorem profile?_apply {p : String × String} (w : AdminWrite) (h : profile? id d = some p) :
    profile? id (adminDb.apply w d) = some p := by
  rw [← h]
  unfold profile? at h ⊢
  cases w with
  | newApplication row =>
      rw [application?_new]
      cases ha : d.application? id with
      | none =>
          rw [ha] at h
          cases h
      | some a => rfl
  | application was r =>
      rw [application?_update, Option.map_map]
      congr 1
      funext a
      simp only [Function.comp_apply]
      split <;> rfl
  | _ => rfl

theorem application?_applyAll :
    (adminDb.applyAll ws d).application? id
      = (adminDb.applyAll (ws.filter (·.decides)) d).application? id := by
  have hcongr : ∀ {ws : List AdminWrite} {d d' : AdminData}, d.application? id = d'.application? id →
      (adminDb.applyAll ws d).application? id = (adminDb.applyAll ws d').application? id := by
    intro ws
    induction ws with
    | nil => exact fun h => h
    | cons w ws ih =>
        intro d d' h
        refine ih ?_
        cases w with
        | application was r => rw [application?_update, application?_update, h]
        | newApplication row => rw [application?_new, application?_new, h]
        | _ => exact h
  induction ws generalizing d with
  | nil => rfl
  | cons w ws ih =>
      cases hw : w.decides with
      | true => rw [List.filter_cons_of_pos hw, applyAll_cons, applyAll_cons, ih]
      | false =>
          rw [List.filter_cons_of_neg (by simp [hw]), applyAll_cons, ih]
          refine hcongr ?_
          cases w <;> first | rfl | cases hw

theorem countP_decides {p : AdminWrite → Bool} (hp : ∀ w, p w = true → w.decides = true) :
    ws.countP p = (ws.filter (·.decides)).countP p := by
  rw [List.countP_filter]
  exact List.countP_congr fun w _ => by simpa using hp w

end Writes

/-! ## Decisions -/

/-- What a review writes of a decision on the row it updates. -/
inductive Verdict (was : TheaterApplication) : List AdminWrite → Prop where
  | rejected (r : Review) : r.status = .REJECTED → Verdict was [.application was r]
  | approved (t : Tenant) (u : User) (r : Review) : t.slug = was.theaterSlug → u.email = was.email →
      u.role = .TENANT_ADMIN → r.status = .APPROVED →
      Verdict was [.tenant t, .user u, .application was r]

/-- A transaction has decided an application, which is still PENDING in the
committed data. -/
def Decision (id : String) (ws : List AdminWrite) (d : AdminData) : Prop :=
  ∃ was, d.application? id = some was ∧ was.status = .PENDING ∧
    Verdict was (ws.filter (·.decides))

section Decision

variable {id : String} {ws : List AdminWrite} {d : AdminData} {w : AdminWrite}

theorem Verdict.mem {was : TheaterApplication} {ws : List AdminWrite} (h : Verdict was ws) :
    ∃ r, .application was r ∈ ws ∧ r.status ≠ .PENDING := by
  cases h with
  | rejected r hr => exact ⟨r, by simp, by simp [hr]⟩
  | approved t u r _ _ _ hr => exact ⟨r, by simp, by simp [hr]⟩

theorem Decision.holds (h : Decision id ws d) {ss : Session AdminWrite} (hss : ss.writes = ws) :
    adminDb.holds ss (.application id) := by
  obtain ⟨was, hwas, -, hverdict⟩ := h
  obtain rfl := id_of_application? hwas
  obtain ⟨r, hr, -⟩ := hverdict.mem
  rw [← hss] at hr
  exact ⟨_, (List.mem_filter.mp hr).1, List.mem_cons_self ..⟩

theorem Decision.apply (h : Decision id ws d) (hw : AdminKey.application id ∉ w.keys) :
    Decision id ws (adminDb.apply w d) := by
  obtain ⟨was, hwas, h⟩ := h
  exact ⟨was, (application?_apply hw).trans hwas, h⟩

theorem application?_commit {was : TheaterApplication} {r : Review} {L : List AdminWrite}
    {id : String} (hws : ws.filter (·.decides) = L ++ [.application was r])
    (hL : ∀ w ∈ L, ∀ i, AdminKey.application i ∉ w.keys) :
    (adminDb.applyAll ws d).application? id
      = (d.application? id).map fun a => if a.id = was.id then r.apply a else a := by
  rw [application?_applyAll, hws, applyAll_append]
  show (adminDb.apply _ _).application? id = _
  rw [application?_update]
  congr 1
  exact applyAll_of_forall (I := fun d' : AdminData => d'.application? id = d.application? id)
    (fun w hw _ hd' => (application?_apply (hL w hw id)).trans hd') rfl

/-- What the commit of a decision makes of its application, and of no other. -/
structure Effective (id : String) (was : TheaterApplication) (d d' : AdminData) : Prop where
  before : d.application? id = some was
  waiting : was.status = .PENDING
  others : ∀ id', id' ≠ id → d'.application? id' = d.application? id'
  decided : ∃ r : Review, d'.application? id = some (r.apply was) ∧
    ((r.status = .REJECTED ∧ (∀ slug, tenantsNamed slug d' = tenantsNamed slug d) ∧
        ∀ email, adminsNamed email d' = adminsNamed email d) ∨
      (r.status = .APPROVED ∧ tenantsNamed was.theaterSlug d' = tenantsNamed was.theaterSlug d + 1 ∧
        adminsNamed was.email d' = adminsNamed was.email d + 1))

theorem Decision.effective (h : Decision id ws d) :
    ∃ was, Effective id was d (adminDb.applyAll ws d) := by
  obtain ⟨was, hwas, hpending, hverdict⟩ := h
  have hid := id_of_application? hwas
  have hslug : ∀ w slug, AdminWrite.addsTenant slug w = true → w.decides = true := by
    intro w slug h
    cases w <;> first | rfl | cases h
  have hemail : ∀ w email, AdminWrite.addsAdmin email w = true → w.decides = true := by
    intro w email h
    cases w <;> first | rfl | cases h
  have hothers : ∀ {L : List AdminWrite} {r : Review}, ws.filter (·.decides) = L ++ [.application was r] →
      (∀ w ∈ L, ∀ i, AdminKey.application i ∉ w.keys) →
      (∀ id', id' ≠ id → (adminDb.applyAll ws d).application? id' = d.application? id') ∧
        (adminDb.applyAll ws d).application? id = some (r.apply was) := by
    intro L r hws hL
    refine ⟨fun id' hne => ?_, ?_⟩ <;> rw [application?_commit hws hL]
    · cases ha : d.application? id' with
      | none => rfl
      | some a =>
          have hne' : a.id ≠ was.id := fun heq => hne ((id_of_application? ha).symm.trans (heq.trans hid))
          simp [hne']
    · simp [hwas]
  generalize hrel : ws.filter (·.decides) = rel at hverdict
  cases hverdict with
  | rejected r hr =>
      obtain ⟨hother, hown⟩ := hothers (L := []) hrel (by simp)
      refine ⟨was, hwas, hpending, hother, r, hown, Or.inl ⟨hr, fun slug => ?_, fun email => ?_⟩⟩
      · rw [tenantsNamed_applyAll, countP_decides fun w => hslug w slug, hrel]
        rfl
      · rw [adminsNamed_applyAll, countP_decides fun w => hemail w email, hrel]
        rfl
  | approved t u r ht hu hrole hr =>
      obtain ⟨hother, hown⟩ := hothers (L := [.tenant t, .user u]) hrel
        (by simp [AdminWrite.keys])
      refine ⟨was, hwas, hpending, hother, r, hown, Or.inr ⟨hr, ?_, ?_⟩⟩
      · rw [tenantsNamed_applyAll, countP_decides fun w => hslug w was.theaterSlug, hrel]
        simp [AdminWrite.addsTenant, ht]
      · rw [adminsNamed_applyAll, countP_decides fun w => hemail w was.email, hrel]
        simp [AdminWrite.addsAdmin, hu, hrole]

end Decision

/-! ## The outline -/

def AdminOp.reviews? : AdminOp → Option String
  | .reviewApplication applicationId .. => some applicationId
  | .updateMonetization .. => none

/-- PostgreSQL, and calls of `reviewApplication` only. -/
def reviews : Discipline adminDb.sig AdminStore AdminOracle AdminOp where
  starts op := op.reviews?.isSome = true
  allows _ _ c o s := adminDb.waits c o s.world = false

def decides? : TxCmd AdminStmt → Option String
  | .stmt _ (.applicationUpdate id ..) => some id
  | _ => none

/-- A decision reaches an application that is still PENDING. The check comes before the
transaction, and the update goes by id alone. -/
def reviewsPending : Discipline adminDb.sig AdminStore AdminOracle AdminOp where
  starts op := op.reviews?.isSome = true
  allows _ _ c o s := adminDb.waits c o s.world = false ∧
    ∀ id ∈ decides? c, ∀ a ∈ s.world.data.application? id, a.status = .PENDING

instance : DecidablePred reviews.starts :=
  fun op => inferInstanceAs (Decidable (op.reviews?.isSome = true))

instance (i : Nat) (op : AdminOp) (c : TxCmd AdminStmt) (o : AdminOracle) :
    DecidablePred (reviews.allows i op c o) := fun s =>
  inferInstanceAs (Decidable (adminDb.waits c o s.world = false))

instance : DecidablePred reviewsPending.starts :=
  fun op => inferInstanceAs (Decidable (op.reviews?.isSome = true))

instance (i : Nat) (op : AdminOp) (c : TxCmd AdminStmt) (o : AdminOracle) :
    DecidablePred (reviewsPending.allows i op c o) := fun s =>
  inferInstanceAs (Decidable (adminDb.waits c o s.world = false ∧
    ∀ id ∈ decides? c, ∀ a ∈ s.world.data.application? id, a.status = .PENDING))

section Outline

variable (id : String)

/-- The event is the end of the wait for a review. -/
def decidesApplication (e : AdminEvent) : Bool :=
  pending id e.before.data && !pending id (e.after administration).data

def decidedBy (i : Nat) (s : AdminSnap) : Nat :=
  s.hist.countP fun e => e.tid == i && decidesApplication id e

def createsTenant (slug : String) (e : AdminEvent) : Prop :=
  tenantsNamed slug e.before.data < tenantsNamed slug (e.after administration).data

def createsAdmin (email : String) (e : AdminEvent) : Prop :=
  adminsNamed email e.before.data < adminsNamed email (e.after administration).data

/-- Reviews of the application have created its tenant and its first user when
it is APPROVED, and neither of them otherwise. -/
def Onboarded (hist : List AdminEvent) (a : TheaterApplication) : Prop :=
  (a.status = .APPROVED → ∃ e ∈ hist, e.op.reviews? = some id ∧
    createsTenant a.theaterSlug e ∧ createsAdmin a.email e) ∧
  (a.status ≠ .APPROVED → ∀ e ∈ hist, e.op.reviews? = some id →
    ¬createsTenant a.theaterSlug e ∧ ¬createsAdmin a.email e)

structure Reviewed (d₀ : AdminData) (s : AdminSnap) : Prop where
  store : adminDb.StoreOk s.world
  openers : Openers s
  once : s.hist.countP (decidesApplication id) ≤ (!pending id s.world.data).toNat
  onboarded : ∀ a₀ ∈ d₀.application? id, a₀.status ≠ .APPROVED →
    ∃ a ∈ s.world.data.application? id, Onboarded id s.hist a

/-- A call writes in its transaction only, and commits a decision on the
application it reviews. -/
def ReviewPre (i : Nat) (op : AdminOp) (c : TxCmd AdminStmt) (s : AdminSnap) : Prop :=
  Own i c s ∧
    match c with
    | .stmt none q => ∀ o d, (adminDb.exec q o d).2 = []
    | .commit tx => ∀ ss, s.world.session? tx = some ss → ss.failed = false →
        ∃ id, op.reviews? = some id ∧ Decision id ss.writes s.world.data
    | _ => True

def reviewOutline (d₀ : AdminData) : AdminOutline where
  toDiscipline := reviewsPending
  inv := Reviewed id d₀
  pre := ReviewPre

theorem tracks_review (d₀ : AdminData) : Tracks (reviewOutline id d₀) where
  store h := h.store
  openers h := h.openers
  own h := h.1
  waits h := h.1

end Outline

section Step

variable {id : String} {d₀ : AdminData} {i : Nat} {op : AdminOp} {s : AdminSnap}
  {c : TxCmd AdminStmt} {o : AdminOracle}

/-- What a command of a review makes of the committed data. -/
theorem review_step (hpre : ReviewPre i op c s) :
    (adminDb.step c o s.world).2.data = s.world.data ∨
      ∃ id was, op.reviews? = some id ∧
        Effective id was s.world.data (adminDb.step c o s.world).2.data := by
  have heffect := step_effect adminDb c o s.world
  generalize (adminDb.step c o s.world).2.data = d at heffect ⊢
  generalize (adminDb.step c o s.world).2.sessions = l at heffect
  cases heffect with
  | none => exact Or.inl rfl
  | start _ => exact Or.inl rfl
  | autocommit hc _ =>
      subst hc
      have hwants : adminDb.wants none _ o s.world = [] := hpre.2 o s.world.data
      rw [hwants]
      exact Or.inl rfl
  | drop _ _ => exact Or.inl rfl
  | fail _ _ => exact Or.inl rfl
  | write _ _ _ _ => exact Or.inl rfl
  | @commit ss hc hss hgo _ =>
      subst hc
      obtain ⟨id, hop, hdecision⟩ := hpre.2 ss hss hgo
      obtain ⟨was, heffective⟩ := hdecision.effective
      exact Or.inr ⟨id, was, hop, heffective⟩

theorem Effective.decides {was : TheaterApplication} {d d' : AdminData}
    (h : Effective id was d d') : pending id d = true ∧ pending id d' = false := by
  obtain ⟨r, hr, hstatus⟩ := h.decided
  have hne : r.status ≠ .PENDING := by
    rcases hstatus with ⟨hstatus, -⟩ | ⟨hstatus, -⟩ <;> simp [hstatus]
  simp [pending, h.before, h.waiting, hr, Review.apply, hne]

theorem onboarded_exec {a : TheaterApplication} (h : Onboarded id s.hist a)
    (ha : s.world.data.application? id = some a) (hpre : ReviewPre i op c s) :
    ∃ a' ∈ (adminDb.step c o s.world).2.data.application? id,
      Onboarded id (⟨i, op, c, o, s.world⟩ :: s.hist) a' := by
  have hafter : (Event.after administration ⟨i, op, c, o, s.world⟩ : AdminStore)
      = (adminDb.step c o s.world).2 := rfl
  rcases review_step (o := o) hpre with hsame | ⟨id', was, hop, heffective⟩
  · -- a step that changes nothing creates nothing
    refine ⟨a, by rw [hsame]; exact ha, fun hstatus => ?_, fun hstatus e he hid => ?_⟩
    · obtain ⟨e, he, hcreates⟩ := h.1 hstatus
      exact ⟨e, List.mem_cons_of_mem _ he, hcreates⟩
    · rcases List.mem_cons.mp he with rfl | he
      · simp [createsTenant, createsAdmin, hafter, hsame]
      · exact h.2 hstatus e he hid
  · by_cases hid : id' = id
    · subst hid
      obtain rfl := Option.some.inj (ha.symm.trans heffective.before)
      obtain ⟨r, hr, hrejected | happroved⟩ := heffective.decided
      · obtain ⟨hstatus, htenants, hadmins⟩ := hrejected
        refine ⟨r.apply a, hr, fun happroved => ?_, fun _ e he hid => ?_⟩
        · simp [Review.apply, hstatus] at happroved
        · rcases List.mem_cons.mp he with rfl | he
          · simp [createsTenant, createsAdmin, hafter, htenants, hadmins]
          · exact h.2 (by simp [heffective.waiting]) e he hid
      · obtain ⟨hstatus, htenants, hadmins⟩ := happroved
        refine ⟨r.apply a, hr, fun _ => ⟨_, List.mem_cons_self .., hop, ?_, ?_⟩, fun hne => ?_⟩
        · show tenantsNamed a.theaterSlug s.world.data < tenantsNamed a.theaterSlug _
          rw [hafter, htenants]
          omega
        · show adminsNamed a.email s.world.data < adminsNamed a.email _
          rw [hafter, hadmins]
          omega
        · exact absurd hstatus hne
    · -- a decision on another application
      refine ⟨a, by rw [heffective.others id (Ne.symm hid)]; exact ha, fun hstatus => ?_,
        fun hstatus e he hreviews => ?_⟩
      · obtain ⟨e, he, hcreates⟩ := h.1 hstatus
        exact ⟨e, List.mem_cons_of_mem _ he, hcreates⟩
      · rcases List.mem_cons.mp he with rfl | he
        · exact absurd (Option.some.inj (hop.symm.trans hreviews)) hid
        · exact h.2 hstatus e he hreviews

theorem once_exec (h : s.hist.countP (decidesApplication id) ≤ (!pending id s.world.data).toNat)
    (hpre : ReviewPre i op c s) :
    (s.exec administration i op c o).hist.countP (decidesApplication id)
      ≤ (!pending id (s.exec administration i op c o).world.data).toNat := by
  have hevent : decidesApplication id ⟨i, op, c, o, s.world⟩
      = (pending id s.world.data && !pending id (adminDb.step c o s.world).2.data) := rfl
  rw [Snap.exec_hist, List.countP_cons, hevent]
  show _ ≤ (!pending id (adminDb.step c o s.world).2.data).toNat
  have hstep : pending id (adminDb.step c o s.world).2.data = pending id s.world.data ∨
      pending id s.world.data = true ∧ pending id (adminDb.step c o s.world).2.data = false := by
    rcases review_step (o := o) hpre with hsame | ⟨id', was, -, heffective⟩
    · exact Or.inl (by rw [hsame])
    · by_cases hid : id' = id
      · subst hid
        exact Or.inr heffective.decides
      · refine Or.inl ?_
        unfold pending
        rw [heffective.others id (Ne.symm hid)]
  rcases hstep with hsame | ⟨hbefore, hafter⟩
  · rw [hsame]
    simpa using h
  · rw [hbefore] at h ⊢
    rw [hafter]
    simpa using h

/-- **Step**: an application is decided once, and onboarded with its approval. -/
theorem reviewed_exec (h : Reviewed id d₀ s) (hpre : ReviewPre i op c s)
    (hallows : reviewsPending.allows i op c o s) :
    Reviewed id d₀ (s.exec administration i op c o) where
  store := storeOk_step h.store hallows.1
  openers := openers_exec h.openers i op c o
  once := once_exec h.once hpre
  onboarded a₀ ha₀ hne := by
    obtain ⟨a, ha, honboarded⟩ := h.onboarded a₀ ha₀ hne
    exact onboarded_exec honboarded ha hpre

end Step

/-! ## The calls -/

section Calls

variable {id reviewed slug email : String} {d₀ : AdminData} {i tx : Nat} {op : AdminOp}
  {s : AdminSnap} {α : Type} {Q : α → AdminSnap → Prop} {L : List AdminWrite}

/-- What a call knows of the application it has read. -/
def Read (reviewed slug email : String) (s : AdminSnap) : Prop :=
  profile? reviewed s.world.data = some (slug, email)

theorem Read.persistent (reviewed slug email : String) :
    Persistent administration (Read reviewed slug email) where
  exec h _ _ c o :=
    data_of_forall (I := fun d => profile? reviewed d = some (slug, email))
      (fun w d h => profile?_apply w h) c o h
  env h e := by
    cases e <;> exact h

theorem decidedBy_persistent (id : String) (i : Nat) :
    Persistent administration fun s => 1 ≤ decidedBy id i s where
  exec h j op c o := by
    rw [decidedBy, Snap.exec_hist, List.countP_cons]
    exact Nat.le_add_right_of_le h
  env h _ := h

/-- The transaction has written this of a decision so far. -/
abbrev Deciding (i tx : Nat) (L : List AdminWrite) : AdminSnap → Prop :=
  InTx i tx (Wrote fun ws => ws.filter (·.decides) = L)

abbrev Decided (i tx : Nat) (reviewed : String) : AdminSnap → Prop :=
  InTx i tx fun ss d => ss.failed = false ∧ Decision reviewed ss.writes d

theorem Deciding.stable (id : String) (d₀ : AdminData) (i tx : Nat) (L : List AdminWrite) :
    Stable administration (reviewOutline id d₀) i (Deciding i tx L) :=
  Wrote.stable (tracks_review id d₀) _

theorem Decided.stable (id : String) (d₀ : AdminData) (i tx : Nat) (reviewed : String) :
    Stable administration (reviewOutline id d₀) i (Decided i tx reviewed) :=
  InTx.stable (tracks_review id d₀)
    (fun _ _ _ hk h => ⟨h.1, h.2.apply fun hmem => hk _ hmem (h.2.holds rfl)⟩) fun _ _ _ h => h

/-- A statement whose writes for the decision are of a kind. -/
theorem wp_adds {q : AdminStmt} {f : q.Ret → AdminM α} {C : q.Ret → List AdminWrite → Prop}
    (hq : ∀ o d a ws, adminDb.exec q o d = (.ok a, ws) → C a (ws.filter (·.decides)))
    (hin : Deciding i tx L s) (hs : Read reviewed slug email s)
    (hok : ∀ s a L', C a L' → Deciding i tx (L ++ L') s → Read reviewed slug email s →
      (f a).wp administration (reviewOutline id d₀) i op Q
        (fun _ s => Opened i tx s ∧ Read reviewed slug email s) s) :
    (ask (some tx) q >>= f).wp administration (reviewOutline id d₀) i op Q
      (fun _ s => Opened i tx s ∧ Read reviewed slug email s) s := by
  refine wp_stmt (Read.persistent reviewed slug email) (Deciding.stable id d₀ i tx L) hin hs
    (fun _ _ h => ⟨h.1.own rfl, trivial⟩) fun s o a _ hin hs _ ha => ?_
  obtain ⟨ss, hss, -, hexec, -⟩ := stmt_ok ha
  refine hok _ a _ (hq _ _ _ _ (Prod.ext hexec rfl)) (hin.stmt ha fun ss' hss' hgo hL _ => ?_)
    ((Read.persistent reviewed slug email).exec hs ..)
  obtain rfl := Option.some.inj (hss.symm.trans hss')
  exact ⟨(List.filter_append ..).trans (by rw [hL.1]), hgo⟩

def AdminStmt.decides : AdminStmt → Bool
  | .tenantCreate .. => true
  | .userCreate .. => true
  | .applicationCreate .. => true
  | .applicationUpdate .. => true
  | _ => false

theorem filter_exec {q : AdminStmt} (hq : q.decides = false) (o : AdminOracle) (d : AdminData) :
    (adminDb.exec q o d).2.filter (·.decides) = [] := by
  show (AdminStmt.exec o d q).2.filter _ = []
  cases q with
  | tenantCreate => cases hq
  | userCreate => cases hq
  | applicationUpdate => cases hq
  | applicationCreate => cases hq
  | monetizationAuditCreate row =>
      simp only [AdminStmt.exec]
      split <;> rfl
  | tenantUpdate tenantId enabled type value =>
      simp only [AdminStmt.exec]
      split
      · rfl
      · split
        · rfl
        · split <;> rfl
  | theaterCreate name address city tenantId =>
      simp only [AdminStmt.exec]
      split
      · rfl
      · split <;> rfl
  | auditLogCreate row =>
      simp only [AdminStmt.exec]
      split <;> rfl
  | _ => rfl

theorem wp_quiet {q : AdminStmt} {f : q.Ret → AdminM α} (hq : q.decides = false)
    (hin : Deciding i tx L s) (hs : Read reviewed slug email s)
    (hok : ∀ s a, Deciding i tx L s → Read reviewed slug email s →
      (f a).wp administration (reviewOutline id d₀) i op Q
        (fun _ s => Opened i tx s ∧ Read reviewed slug email s) s) :
    (ask (some tx) q >>= f).wp administration (reviewOutline id d₀) i op Q
      (fun _ s => Opened i tx s ∧ Read reviewed slug email s) s := by
  refine wp_adds (C := fun _ L' => L' = []) (fun o d a ws h => ?_) hin hs
    fun s a L' hL' hin hs => hok s a ?_ hs
  · have hws : (adminDb.exec q o d).2 = ws := by rw [h]
    rw [← hws]
    exact filter_exec hq o d
  · rwa [hL', List.append_nil] at hin

theorem exec_tenantCreate {name : String} {type : PlatformFeeType} {value : Payments.Money}
    {o : AdminOracle} {d : AdminData} {a : Tenant} {ws : List AdminWrite}
    (h : adminDb.exec (.tenantCreate name slug type value) o d = (.ok a, ws)) :
    ∃ t, ws = [.tenant t] ∧ t.slug = slug := by
  change AdminStmt.exec o d (.tenantCreate name slug type value) = _ at h
  simp only [AdminStmt.exec] at h
  split at h
  · cases (Prod.ext_iff.mp h).1
  · exact ⟨_, (Prod.ext_iff.mp h).2.symm, rfl⟩

theorem exec_userCreate {password name tenantId theaterId : String} {role : Role}
    {o : AdminOracle} {d : AdminData} {a : Unit} {ws : List AdminWrite}
    (h : adminDb.exec (.userCreate email password name role tenantId theaterId) o d = (.ok a, ws)) :
    ∃ u, ws = [.user u] ∧ u.email = email ∧ u.role = role := by
  change AdminStmt.exec o d (.userCreate email password name role tenantId theaterId) = _ at h
  simp only [AdminStmt.exec] at h
  split at h
  · cases (Prod.ext_iff.mp h).1
  · split at h
    · exact ⟨_, (Prod.ext_iff.mp h).2.symm, rfl, rfl⟩
    · cases (Prod.ext_iff.mp h).1

theorem exec_applicationUpdate {status : ApplicationStatus} {notes : Field String} {by_ : String}
    {at_ : Time} {o : AdminOracle} {d : AdminData} {a : TheaterApplication} {ws : List AdminWrite}
    (h : adminDb.exec (.applicationUpdate id status notes by_ at_) o d = (.ok a, ws)) :
    ∃ was r, d.application? id = some was ∧ r.status = status ∧ ws = [.application was r] := by
  change AdminStmt.exec o d (.applicationUpdate id status notes by_ at_) = _ at h
  simp only [AdminStmt.exec] at h
  split at h
  · cases (Prod.ext_iff.mp h).1
  · rename_i was hwas
    split at h
    · cases (Prod.ext_iff.mp h).1
    · split at h
      · exact ⟨was, _, hwas, rfl, (Prod.ext_iff.mp h).2.symm⟩
      · cases (Prod.ext_iff.mp h).1

/-- The decision: it finds the application PENDING in the committed data. -/
theorem wp_decide {status : ApplicationStatus} {notes : Field String} {by_ : String} {at_ : Time}
    {f : TheaterApplication → AdminM α} (hL : ∀ w ∈ L, ∀ i, AdminKey.application i ∉ w.keys)
    (hverdict : ∀ was r, was.theaterSlug = slug → was.email = email → r.status = status →
      Verdict was (L ++ [.application was r]))
    (hin : Deciding i tx L s) (hs : Read reviewed slug email s)
    (hok : ∀ s a, Decided i tx reviewed s → Read reviewed slug email s →
      (f a).wp administration (reviewOutline id d₀) i op Q
        (fun _ s => Opened i tx s ∧ Read reviewed slug email s) s) :
    (ask (some tx) (.applicationUpdate reviewed status notes by_ at_) >>= f).wp administration
      (reviewOutline id d₀) i op Q (fun _ s => Opened i tx s ∧ Read reviewed slug email s) s := by
  refine wp_stmt (Read.persistent reviewed slug email) (Deciding.stable id d₀ i tx L) hin hs
    (fun _ _ h => ⟨h.1.own rfl, trivial⟩) fun s o a _ hin hs hallows ha => ?_
  refine hok _ a (hin.stmt ha fun ss hss hgo hws hexec => ?_)
    ((Read.persistent reviewed slug email).exec hs ..)
  obtain ⟨was, r, hwas, hr, hwrites⟩ := exec_applicationUpdate (Prod.ext hexec rfl)
  have hcommitted : s.world.data.application? reviewed = some was := by
    rw [← hwas, application?_applyAll, hws.1]
    exact (applyAll_of_forall
      (I := fun d : AdminData => d.application? reviewed = s.world.data.application? reviewed)
      (fun w hw _ hd => (application?_apply (hL w hw reviewed)).trans hd) rfl).symm
  have hprofile : was.theaterSlug = slug ∧ was.email = email := by
    unfold Read profile? at hs
    rw [hcommitted] at hs
    exact Prod.ext_iff.mp (Option.some.inj hs)
  refine ⟨hgo, was, hcommitted, hallows.2 reviewed rfl was hcommitted, ?_⟩
  have hrel : ∀ ws, ws = [AdminWrite.application was r] →
      (ss.writes ++ ws).filter (·.decides) = L ++ [.application was r] := by
    rintro _ rfl
    rw [List.filter_append, hws.1]
    rfl
  exact (hrel _ hwrites).symm ▸ hverdict was r hprofile.1 hprofile.2 hr

theorem wp_logDecision {row : AuditLog} {reply : ReviewReply} (hin : Decided i tx reviewed s)
    (hs : Read reviewed slug email s) :
    (ask (some tx) (.auditLogCreate row) >>= fun _ => .ret reply).wp administration
      (reviewOutline id d₀) i op (fun _ s => Decided i tx reviewed s ∧ Read reviewed slug email s)
      (fun _ s => Opened i tx s ∧ Read reviewed slug email s) s := by
  have hR := Read.persistent reviewed slug email
  refine wp_stmt hR (Decided.stable id d₀ i tx reviewed) hin hs
    (fun _ _ h => ⟨h.1.own rfl, trivial⟩) fun s o _ _ hin hs _ hok => ?_
  refine wp_ret ((Decided.stable id d₀ i tx reviewed).and hR.stable)
    ⟨hin.stmt hok fun ss _ hgo ⟨_, was, hwas, hpending, hverdict⟩ _ => ?_, hR.exec hs ..⟩
    fun _ _ h => h
  refine ⟨hgo, was, hwas, hpending, ?_⟩
  rwa [List.filter_append, filter_exec rfl, List.append_nil]

theorem wp_approveIn {application : TheaterApplication} {reviewerId password hash : String}
    {notes : Field String}
    (hs : Read application.id application.theaterSlug application.email s)
    (hin : Deciding i tx [] s) :
    (approveIn application reviewerId notes password hash tx).wp administration
      (reviewOutline id d₀) i op
      (fun _ s => Decided i tx application.id s ∧
        Read application.id application.theaterSlug application.email s)
      (fun _ s => Opened i tx s ∧
        Read application.id application.theaterSlug application.email s) s := by
  have hthrow : ∀ {s : AdminSnap} {L : List AdminWrite} (e : AdminExn), Deciding i tx L s →
      Read application.id application.theaterSlug application.email s →
      (Prog.err e : AdminM ReviewReply).wp administration (reviewOutline id d₀) i op
        (fun _ s => Decided i tx application.id s ∧
          Read application.id application.theaterSlug application.email s)
        (fun _ s => Opened i tx s ∧
          Read application.id application.theaterSlug application.email s) s :=
    fun e hin hs s' hs' _ =>
      ((Opened.persistent i tx).and (Read.persistent _ _ _)).stable.star hs' ⟨hin.1, hs⟩
  refine wp_quiet rfl hin hs fun s slugCheck hin hs => ?_
  cases slugCheck.isSome with
  | true => exact hthrow _ hin hs
  | false =>
      rw [throwIf_false, ret_bind]
      refine wp_quiet rfl hin hs fun s emailCheck hin hs => ?_
      cases emailCheck.isSome with
      | true => exact hthrow _ hin hs
      | false =>
          rw [throwIf_false, ret_bind]
          refine wp_adds (C := fun _ L' => ∃ t : Tenant, L' = [.tenant t] ∧
            t.slug = application.theaterSlug) (fun o d a ws h => ?_) hin hs
            fun s tenant L' ⟨t, hL', ht⟩ hin hs => ?_
          · obtain ⟨t, rfl, ht⟩ := exec_tenantCreate h
            exact ⟨t, rfl, ht⟩
          · subst hL'
            refine wp_quiet rfl hin hs fun s _ hin hs => ?_
            refine wp_quiet rfl hin hs fun s theater hin hs => ?_
            refine wp_adds (C := fun _ L' => ∃ u : User, L' = [.user u] ∧
              u.email = application.email ∧ u.role = .TENANT_ADMIN) (fun o d a ws h => ?_) hin hs
              fun s _ L' ⟨u, hL', hu, hrole⟩ hin hs => ?_
            · obtain ⟨u, rfl, hu⟩ := exec_userCreate h
              exact ⟨u, rfl, hu⟩
            · subst hL'
              refine wp_quiet rfl hin hs fun s reviewedAt hin hs => ?_
              refine wp_decide (by simp [AdminWrite.keys]) (fun was r hslug hemail hr => ?_) hin hs
                fun s _ hin hs => wp_logDecision hin hs
              exact .approved t u r (ht.trans hslug.symm) (hu.trans hemail.symm) hrole hr

/-- A review has decided what it returns for. -/
def ReviewedBy (id reviewed : String) (i : Nat) (s : AdminSnap) : Prop :=
  reviewed = id → 1 ≤ decidedBy id i s

theorem wp_decision (hop : op.reviews? = some reviewed) (hs : Read reviewed slug email s)
    {p : Nat → AdminM ReviewReply}
    (hp : ∀ s tx, Read reviewed slug email s → Deciding i tx [] s →
      (p tx).wp administration (reviewOutline id d₀) i op
        (fun _ s => Decided i tx reviewed s ∧ Read reviewed slug email s)
        (fun _ s => Opened i tx s ∧ Read reviewed slug email s) s) :
    (adminDb.transaction AdminExn.step p).wp administration (reviewOutline id d₀) i op
      (fun _ => ReviewedBy id reviewed i) (fun _ => Read reviewed slug email) s := by
  have hR := Read.persistent reviewed slug email
  refine wp_transaction (B := fun tx _ s => Decided i tx reviewed s ∧ Read reviewed slug email s)
    (tracks_review id d₀) hs hR (fun _ _ _ => ⟨nofun, trivial⟩)
    (fun _ _ _ h => ⟨h.own rfl, trivial⟩)
    (fun _ _ _ _ h => ⟨h.1.1.own rfl, fun ss hss _ => ⟨reviewed, hop, (h.1.2 ss hss).2⟩⟩)
    (fun tx _ => (Decided.stable id d₀ i tx reviewed).and hR.stable) (fun _ _ _ h => h.2)
    (fun s tx _ hs hin => hp s tx hs (hin.mono fun ss _ h => ⟨by rw [h.1]; rfl, h.2⟩)) ?_
  intro s tx reply o _ hB _ hcommit _
  obtain ⟨ss, hss, hdata⟩ := commit_ok hcommit
  obtain ⟨hgo, hdecision⟩ := hB.1.2 ss hss
  obtain ⟨was, heffective⟩ := hdecision.effective
  by_cases hid : reviewed = id
  · subst hid
    refine wp_ret (decidedBy_persistent reviewed i).stable ?_ fun _ _ h _ => h
    obtain ⟨hbefore, hafter⟩ := heffective.decides
    have hstep : (adminDb.step (.commit tx) o s.world).2.data
        = adminDb.applyAll ss.writes s.world.data := congrArg Store.data (hdata hgo)
    have hevent : decidesApplication reviewed ⟨i, op, .commit tx, o, s.world⟩ = true := by
      show (pending reviewed s.world.data &&
        !pending reviewed (adminDb.step (.commit tx) o s.world).2.data) = true
      rw [hstep, hbefore, hafter]
      rfl
    rw [decidedBy, Snap.exec_hist, List.countP_cons]
    simp [hevent]
  · exact fun _ _ _ h => absurd h hid

theorem wp_rejectApplication {reviewerId : String} {notes : Field String}
    (hop : op.reviews? = some reviewed) (hs : Read reviewed slug email s) :
    (rejectApplication reviewed reviewerId notes).wp administration (reviewOutline id d₀) i op
      (fun _ => ReviewedBy id reviewed i) (fun _ => Read reviewed slug email) s := by
  refine wp_decision hop hs fun s tx hs hin => ?_
  refine wp_quiet rfl hin hs fun s reviewedAt hin hs => ?_
  exact wp_decide (by simp) (fun was r _ _ hr => .rejected r hr) hin hs
    fun s _ hin hs => wp_logDecision hin hs

theorem wp_lookup {q : AdminStmt} {f : q.Ret → AdminM α} {G : AdminSnap → Prop}
    (hq : ∀ o d, (adminDb.exec q o d).2 = []) (hG : Persistent administration G) (hs : G s)
    (hok : ∀ s o a, G s → (adminDb.step (.stmt none q) o s.world).1 = .ok a →
      G (s.exec administration i op (.stmt none q) o) →
      (f a).wp administration (reviewOutline id d₀) i op Q (fun _ => G)
        (s.exec administration i op (.stmt none q) o)) :
    (ask none q >>= f).wp administration (reviewOutline id d₀) i op Q (fun _ => G) s :=
  wp_query hG.stable hs hG (fun _ h => h) (fun _ _ _ => ⟨nofun, hq⟩)
    fun s o a _ hs _ ha _ => hok s o a hs ha (hG.exec hs ..)

theorem wp_approveApplication {application : TheaterApplication} {reviewerId : String}
    {notes : Field String} (hop : op.reviews? = some application.id)
    (hs : Read application.id application.theaterSlug application.email s) :
    (approveApplication application reviewerId notes).wp administration (reviewOutline id d₀) i op
      (fun _ => ReviewedBy id application.id i)
      (fun _ => Read application.id application.theaterSlug application.email) s := by
  have hR := Read.persistent application.id application.theaterSlug application.email
  refine wp_lookup (fun _ _ => rfl) hR hs fun s o password _ _ hs => ?_
  refine wp_lookup (fun _ _ => rfl) hR hs fun s o hash _ _ hs => ?_
  exact wp_decision hop hs fun s tx hs hin => wp_approveIn hs hin

theorem wp_reviewApplication {reviewerId : String} {action : ReviewAction} {notes : Field String}
    (hop : op.reviews? = some reviewed) :
    (reviewApplication reviewed reviewerId action notes).wp administration (reviewOutline id d₀) i op
      (fun _ => ReviewedBy id reviewed i) (fun _ _ => True) s := by
  refine wp_lookup (fun _ _ => rfl) persistent_true trivial fun s o application? _ hread _ => ?_
  cases application? with
  | none => exact fun _ _ _ => trivial
  | some application =>
      have hfind : s.world.data.application? reviewed = some application :=
        Except.ok.inj (query_ok hread).1
      obtain rfl := id_of_application? hfind
      have hs : Read application.id application.theaterSlug application.email
          (s.exec administration i op (.stmt none (.applicationFindUnique application.id)) o) :=
        (Read.persistent ..).exec (by simp [Read, profile?, hfind]) ..
      dsimp only
      cases application.status != .PENDING with
      | true => exact fun _ _ _ => trivial
      | false =>
          rw [throwIf_false, ret_bind]
          cases action with
          | APPROVE => exact (wp_approveApplication hop hs).mono (fun _ _ _ h => h) fun _ _ _ _ => trivial
          | REJECT => exact (wp_rejectApplication hop hs).mono (fun _ _ _ h => h) fun _ _ _ _ => trivial

theorem reviewOutline_valid (id : String) (d₀ : AdminData) :
    Outline.Valid administration (reviewOutline id d₀)
      fun i op _ s => ∀ reviewed, op.reviews? = some reviewed → ReviewedBy id reviewed i s where
  inv_exec hinv _ _ _ _ _ hpre hallows := reviewed_exec hinv hpre hallows
  inv_env h e := by
    refine ⟨?_, openers_env h.openers e, by cases e <;> exact h.once,
      by cases e <;> exact h.onboarded⟩
    rw [Snap.env_world]
    exact storeOk_env h.store e
  body := by
    intro i op s hop hinv _
    cases op with
    | updateMonetization => cases hop
    | reviewApplication reviewed reviewerId action notes =>
        refine wp_map _ ((wp_reviewApplication rfl).mono (fun _ s _ h => ?_) fun _ _ _ h => h)
        rintro _ ⟨⟩
        exact h

end Calls

/-! ## Runs -/

/-- The application whose review has succeeded. -/
def reviewDone (th : Thread adminDb.sig AdminExn AdminReply AdminOp) : List String :=
  match th.prog with
  | .ret _ => th.op.reviews?.toList
  | _ => []

/-- How many reviews of an application have succeeded. -/
def successes (cfg : AdminConfig) (id : String) : Nat :=
  (cfg.threads.flatMap reviewDone).countP (· == id)

/-- At most one review of each application succeeds, and the applications that
were not APPROVED at first are onboarded as their status says. -/
def ReviewedOnce (d : AdminData) (cfg : AdminConfig) : Prop :=
  ∀ id, successes cfg id ≤ 1 ∧
    ∀ a₀ ∈ d.application? id, a₀.status ≠ .APPROVED →
      ∃ a ∈ cfg.world.data.application? id, Onboarded id cfg.hist a

/-- **Reviews**: along every run of `reviewsPending`, each application is
reviewed once. -/
theorem reviewedOnce_run (d : AdminData) {ls : List AdminLabel}
    (hls : reviewsPending.admitsRun administration (Config.idle (.idle d)) ls) :
    ReviewedOnce d ((Config.idle (.idle d)).run administration ls) := by
  intro id
  have hidle : Reviewed id d (⟨.idle d, []⟩ : AdminSnap) :=
    ⟨⟨List.nodup_nil, fun _ h => (nomatch h), fun _ h => (nomatch h)⟩, openers_idle _,
      Nat.zero_le _, fun a ha hne => ⟨a, ha, fun h => absurd h hne, fun _ _ he => by cases he⟩⟩
  have hgood := Outline.sound (reviewOutline_valid id d) (Outline.Good.idle hidle) hls
  refine ⟨?_, hgood.inv.onboarded⟩
  have hbacked : successes ((Config.idle (.idle d)).run administration ls) id
      ≤ ((Config.idle (.idle d)).run administration ls).hist.countP (decidesApplication id) := by
    refine countP_flatMap_le fun i th hth => ?_
    obtain ⟨op, prog⟩ := th
    cases prog with
    | err e => exact Nat.zero_le _
    | call c k => exact Nat.zero_le _
    | ret r =>
        have hresult := hgood.result hth
        show op.reviews?.toList.countP _ ≤ _
        cases hop : op.reviews? with
        | none => exact Nat.zero_le _
        | some reviewed =>
            by_cases hid : reviewed = id
            · exact Nat.le_trans (by simp [hid]) (hresult reviewed hop hid)
            · simp [hid]
  refine Nat.le_trans hbacked (Nat.le_trans hgood.inv.once ?_)
  cases pending id ((Config.idle (.idle d)).run administration ls).world.data <;> decide

namespace Sample

def reviewer : User := ⟨"u1", "root@example.com", "hash", some "Root", .SUPER_ADMIN, none, none, false⟩

def application : TheaterApplication :=
  ⟨"a1", "Rex", "rex", "Ada", "ada@example.com", "1", "Main Street 1", "Pune", "MH", none, .PENDING,
    none, none, none⟩

def applied : AdminData := { users := [reviewer], theaterApplications := [application] }

def approval : AdminOp := .reviewApplication "a1" "u1" .APPROVE .absent

def rejection : AdminOp := .reviewApplication "a1" "u1" .REJECT .absent

def reviewSteps (i n : Nat) (text : String) : List AdminLabel :=
  List.replicate n (.step i { text })

/-- The rejection comes after the approval, and is refused. -/
def rejectAfterwards : List AdminLabel :=
  [.spawn approval, .spawn rejection] ++ reviewSteps 0 15 "x1" ++ reviewSteps 1 6 "x2"

/-- Both have found the application PENDING. -/
def rejectInBetween : List AdminLabel :=
  [.spawn approval, .spawn rejection] ++ reviewSteps 1 1 "x2" ++ reviewSteps 0 15 "x1" ++
    reviewSteps 1 5 "x2"

end Sample

theorem reviewedOnce_rejectAfterwards :
    ReviewedOnce Sample.applied
      ((Config.idle (.idle Sample.applied)).run administration Sample.rejectAfterwards) :=
  reviewedOnce_run Sample.applied (by decide +kernel)

/-- An approval and a rejection that overlap both succeed. -/
theorem not_reviewedOnce_rejectInBetween :
    ¬ ∀ (d : AdminData) (ls : List AdminLabel),
      reviews.admitsRun administration (Config.idle (.idle d)) ls →
      ReviewedOnce d ((Config.idle (.idle d)).run administration ls) := by
  intro h
  have hrun := (h Sample.applied Sample.rejectInBetween (by decide +kernel) "a1").1
  revert hrun
  decide +kernel

/-! ## One review after another

Reviews that nothing interrupts meet the condition: between the look at the status
and the decision nobody else decides. -/

section Visits

variable {i tx : Nat} {op : AdminOp} {s : AdminSnap} {application : TheaterApplication}
  {applicationId reviewerId : String} {reviewNotes : Field String}

/-- The application, if there is one, is PENDING. -/
def Undecided (id : String) (d : AdminData) : Prop := ∀ a ∈ d.application? id, a.status = .PENDING

/-- A statement of the transaction that decides this application, if any. -/
abbrev DecidesOnly (id : String) (tx : Nat) (c : TxCmd AdminStmt) : Prop :=
  ∃ q, c = .stmt (some tx) q ∧ ∀ id' ∈ decides? (.stmt (some tx) q), id' = id

theorem decidesOnly_ask {id : String} {q : AdminStmt}
    (h : ∀ id' ∈ decides? (.stmt (some tx) q), id' = id) :
    (ask (some tx) q).All (DecidesOnly id tx) :=
  ⟨⟨q, rfl, h⟩, fun r => by cases r <;> trivial⟩

theorem decidesOnly_other {id : String} {q : AdminStmt} (h : decides? (.stmt (some tx) q) = none) :
    (ask (some tx) q).All (DecidesOnly id tx) :=
  decidesOnly_ask (by rw [h]; nofun)

theorem decidesOnly_update {status : ApplicationStatus} {reviewedAt : Time} :
    (ask (some tx) (.applicationUpdate applicationId status reviewNotes reviewerId reviewedAt)).All
      (DecidesOnly applicationId tx) :=
  decidesOnly_ask fun _ hid => (Option.some.inj hid).symm

theorem decidesOnly_approveIn (tempPassword hashedPassword : String) :
    (approveIn application reviewerId reviewNotes tempPassword hashedPassword tx).All
      (DecidesOnly application.id tx) := by
  refine (decidesOnly_other rfl).bind fun _ => (all_throwIf _ _ _).bind fun _ => ?_
  refine (decidesOnly_other rfl).bind fun _ => (all_throwIf _ _ _).bind fun _ => ?_
  refine (decidesOnly_other rfl).bind fun tenant => (decidesOnly_other rfl).bind fun _ => ?_
  refine (decidesOnly_other rfl).bind fun theater => (decidesOnly_other rfl).bind fun _ => ?_
  refine (decidesOnly_other rfl).bind fun reviewedAt => ?_
  exact decidesOnly_update.bind fun _ => (decidesOnly_other rfl).bind fun _ => trivial

theorem meets_decision {p : Nat → AdminM ReviewReply}
    (hp : ∀ tx, (p tx).All (DecidesOnly application.id tx))
    (hs : Undecided application.id s.world.data) :
    Meets AdminOp.body reviewsPending i op (adminDb.transaction AdminExn.step p) s := by
  refine meets_transaction (B := fun _ _ _ => True)
    (G := Undecided application.id) hs
    (fun s c o hstmt _ hwaits => ⟨hwaits, ?_⟩) (fun s tx _ h => ?_)
    fun s tx _ o _ hwaits => ⟨hwaits, nofun⟩
  · cases c with
    | stmt t q => exact absurd rfl (hstmt t q)
    | _ => nofun
  · refine meetsIn_of_all (G := Undecided application.id)
      (hp tx) h.own.1 h.data fun q s o hq hG hwaits => ⟨hwaits, fun id hid a ha => ?_⟩
    obtain rfl := hq id hid
    exact hG a ha

theorem meets_reviewApplication (action : ReviewAction) :
    Meets AdminOp.body reviewsPending i op
      (Admin.reviewApplication applicationId reviewerId action reviewNotes) s := by
  refine meets_query (F := fun _ _ => True) trivial (fun _ _ _ hwaits => ⟨hwaits, nofun⟩)
    fun s o found _ _ hexec hdata => ?_
  obtain rfl : s.world.data.application? applicationId = found := Except.ok.inj (Prod.mk.inj hexec).1
  cases hfind : s.world.data.application? applicationId with
  | none => exact fine_err
  | some application =>
      by_cases hstatus : application.status = .PENDING
      · -- so it stays until the call has decided
        obtain rfl : application.id = applicationId := by
          simpa using List.find?_some hfind
        have hpending : Undecided application.id s.world.data := by
          intro a ha
          obtain rfl := Option.some.inj (hfind.symm.trans ha)
          exact hstatus
        simp only [hstatus, bne_self_eq_false]
        cases action with
        | REJECT =>
            refine meets_decision (fun tx => ?_) (by rw [hdata]; exact hpending)
            exact (decidesOnly_other rfl).bind fun reviewedAt =>
              decidesOnly_update.bind fun _ => (decidesOnly_other rfl).bind fun _ => trivial
        | APPROVE =>
            refine meets_query (F := fun d _ => Undecided application.id d)
              (by rw [hdata]; exact hpending) (fun _ _ _ hwaits => ⟨hwaits, nofun⟩)
              fun s o tempPassword _ hs _ hdata => ?_
            refine meets_query (F := fun d _ => Undecided application.id d)
              (by rw [hdata]; exact hs) (fun _ _ _ hwaits => ⟨hwaits, nofun⟩)
              fun s o hashedPassword _ hs _ hdata => ?_
            exact meets_decision (fun tx => decidesOnly_approveIn _ _) (by rw [hdata]; exact hs)
      · have hne : (application.status != .PENDING) = true := bne_iff_ne.mpr hstatus
        simp only [hne]
        exact fine_err

/-- Reviews that nothing interrupts decide an application that is still PENDING. -/
theorem reviewsPending_visits (d : AdminData) {xs : List (Visit AdminOracle (DbEnv Nat) AdminOp)}
    (h : reviews.admitsRun administration (Config.idle (.idle d)) (visits 0 xs)) :
    reviewsPending.admitsRun administration (Config.idle (.idle d)) (visits 0 xs) := by
  have hinv : (solo reviewsPending).inv (⟨.idle d, []⟩ : AdminSnap) :=
    ⟨⟨List.nodup_nil, nofun, nofun⟩, openers_idle _⟩
  have hready : StartsIn administration (fun _ _ => True) (Config.idle (.idle d)) xs :=
    startsIn_of_forall (fun _ _ => trivial) _ _
  refine admitsRun_visits hinv h hready (fun h => h) (fun _ h => h) fun i op s hop _ _ => ?_
  cases op with
  | reviewApplication applicationId reviewerId action reviewNotes =>
      exact wp_map _ (meets_reviewApplication action)
  | updateMonetization => cases hop

end Visits

end Omnipax.Admin
