import Omnipax.Conc.Alone
import Omnipax.Onboarding

/-!
# Applications that can be rejected

A decision is refused when another application of the same email has the new
status already: the unique index on email and status is there for the PENDING
ones, but it is on all of them. `apply` lets an applicant try again after a
rejection, and of two rejections the second fails.
-/

namespace Omnipax.Admin

open Conc Database Prog

/-! ## The calls -/

inductive OnboardingOp where
  | apply (dto : CreateTheaterApplicationDto)
  | reviewApplication (applicationId reviewerId : String) (action : ReviewAction)
      (reviewNotes : Field String)

inductive OnboardingReply where
  | apply (reply : AppliedReply)
  | reviewApplication (reply : ReviewReply)
deriving DecidableEq

def OnboardingOp.body (U : CaseMapping) : OnboardingOp → AdminM OnboardingReply
  | .apply dto => OnboardingReply.apply <$> Admin.apply U dto
  | .reviewApplication applicationId reviewerId action reviewNotes =>
      OnboardingReply.reviewApplication <$>
        Admin.reviewApplication applicationId reviewerId action reviewNotes

abbrev OnboardingTurn := Turn AdminOracle (DbEnv Nat) OnboardingOp

def onboarding (U : CaseMapping) :
    System adminDb.sig AdminStore AdminOracle (DbEnv Nat) AdminExn OnboardingReply OnboardingOp :=
  adminDb.system (fun (t : Nat) d => { d with clock := d.clock + t }) (OnboardingOp.body U)

/-! ## Rejections -/

/-- A rejection of which no request and no answer is lost succeeds, and leaves
the application REJECTED. -/
def Rejects (s : AdminStore) (applicationId reviewerId : String) (reviewNotes : Field String) :
    Prop :=
  ∀ os : Nat → AdminOracle, (∀ n, (os n).loss = none) → ∃ reply n s',
    (Admin.reviewApplication applicationId reviewerId .REJECT reviewNotes).run adminDb.machine os 0 s
      = ⟨.ok (.rejected reply), n, s'⟩ ∧
    ∃ a ∈ s'.data.application? applicationId, a.status = .REJECTED

/-- What the tables must allow for a rejection to go through: the reviewer is a user, and no
other application of the email is REJECTED already, since email and status are unique
together. -/
structure Rejectable (d : AdminData) (a : TheaterApplication) (reviewerId : String) : Prop where
  reviewer : d.users.any (·.id == reviewerId) = true
  first : ∀ b ∈ d.theaterApplications, b.id ≠ a.id → b.email = a.email → b.status ≠ .REJECTED

section Rejections

variable {s : AdminStore} {d : AdminData} {a : TheaterApplication} {id reviewerId : String}
  {reviewNotes : Field String} {os : Nat → AdminOracle} {o : AdminOracle} {n : Nat} {t : Time}

theorem exec_reject (ha : d.application? id = some a) (h : Rejectable d a reviewerId) :
    adminDb.exec (.applicationUpdate id .REJECTED reviewNotes reviewerId t) o d
      = (.ok (Review.apply ⟨.REJECTED, reviewNotes, reviewerId, t⟩ a),
          [.application a ⟨.REJECTED, reviewNotes, reviewerId, t⟩]) := by
  obtain rfl := id_of_application? ha
  have hfree : ¬(d.theaterApplications.any fun b =>
      b.id != a.id && b.email == a.email && b.status == .REJECTED) = true := by
    intro hany
    obtain ⟨b, hb, hsame⟩ := List.any_eq_true.mp hany
    simp only [Bool.and_eq_true, bne_iff_ne, beq_iff_eq] at hsame
    exact h.first b hb hsame.1.1 hsame.1.2 hsame.2
  show AdminStmt.exec o d (.applicationUpdate ..) = _
  simp only [AdminStmt.exec, ha]
  rw [if_neg hfree, if_pos h.reviewer]
  rfl

theorem exec_reject_error (reviewNotes : Field String) (ha : d.application? id = some a)
    (h : ¬Rejectable d a reviewerId) :
    ∃ e, (adminDb.exec (.applicationUpdate id .REJECTED reviewNotes reviewerId t) o d).1
      = .error e := by
  obtain rfl := id_of_application? ha
  show ∃ e, (AdminStmt.exec o d (.applicationUpdate ..)).1 = .error e
  simp only [AdminStmt.exec, ha]
  split
  · exact ⟨_, rfl⟩
  · rename_i hfree
    split
    · rename_i hreviewer
      refine absurd ⟨hreviewer, fun b hb hne hemail hstatus => hfree ?_⟩ h
      exact List.any_eq_true.mpr ⟨b, hb, by simp [hne, hemail, hstatus]⟩
    · exact ⟨_, rfl⟩

theorem run_review (hos : ∀ n, (os n).loss = none) (ha : s.data.application? id = some a)
    (hpending : a.status = .PENDING) :
    (Admin.reviewApplication id reviewerId .REJECT reviewNotes).run adminDb.machine os n s
      = (rejectApplication id reviewerId reviewNotes).run adminDb.machine os (n + 1) s := by
  have hexec : adminDb.exec (.applicationFindUnique id) (os n) s.data = (.ok (some a), []) :=
    congrArg (fun r => (Except.ok r, [])) ha
  refine (run_query (hos n) hexec).trans ?_
  dsimp only
  rw [hpending]
  rfl

theorem run_reject (hs : s.Numbered) (hos : ∀ n, (os n).loss = none)
    (ha : s.data.application? id = some a) (h : Rejectable s.data a reviewerId) :
    (rejectApplication id reviewerId reviewNotes).run adminDb.machine os n s
      = ⟨.ok (.rejected (Review.apply ⟨.REJECTED, reviewNotes, reviewerId, s.data.clock⟩ a)), n + 5,
          { s with
            next := s.next + 1
            data := adminDb.applyAll
              [.application a ⟨.REJECTED, reviewNotes, reviewerId, s.data.clock⟩,
                .auditLog ⟨reviewerId, "REJECT_THEATER_APPLICATION", .rejected id reviewNotes⟩]
              s.data }⟩ := by
  have hlacks : Store.Lacks ({ s with next := s.next + 1 } : AdminStore) s.next := hs.lacks
  have hnow : adminDb.exec .dateNow (os (n + 1)) (adminDb.applyAll [] s.data)
      = (.ok s.data.clock, []) := rfl
  have hupdate : adminDb.exec (.applicationUpdate id .REJECTED reviewNotes reviewerId s.data.clock)
        (os (n + 2)) (adminDb.applyAll [] s.data) = _ := exec_reject ha h
  have haudit : adminDb.exec (.auditLogCreate
        ⟨reviewerId, "REJECT_THEATER_APPLICATION", .rejected id reviewNotes⟩) (os (n + 3))
        (adminDb.applyAll [.application a ⟨.REJECTED, reviewNotes, reviewerId, s.data.clock⟩] s.data)
      = (.ok (), [.auditLog
          ⟨reviewerId, "REJECT_THEATER_APPLICATION", .rejected id reviewNotes⟩]) :=
    if_pos h.reviewer
  refine run_transaction (hos _) hlacks ?_ (hos _)
  refine (run_stmt hlacks (hos _) hnow).trans ?_
  refine (run_stmt hlacks (hos _) hupdate).trans ?_
  exact run_stmt hlacks (hos _) haudit

theorem run_reject_error (hs : s.Numbered) (hos : ∀ n, (os n).loss = none)
    (ha : s.data.application? id = some a) (h : ¬Rejectable s.data a reviewerId) :
    ∃ e, ((rejectApplication id reviewerId reviewNotes).run adminDb.machine os n s).result
      = .error e := by
  have hlacks : Store.Lacks ({ s with next := s.next + 1 } : AdminStore) s.next := hs.lacks
  have hnow : adminDb.exec .dateNow (os (n + 1)) (adminDb.applyAll [] s.data)
      = (.ok s.data.clock, []) := rfl
  obtain ⟨e, he⟩ := exec_reject_error (o := os (n + 2)) (t := s.data.clock) reviewNotes ha h
  have hupdate : (adminDb.exec (.applicationUpdate id .REJECTED reviewNotes reviewerId s.data.clock)
      (os (n + 2)) (adminDb.applyAll [] s.data)).1 = .error e := he
  refine ⟨.step e, run_transaction_error (hos _) ?_⟩
  refine (congrArg Outcome.result (run_stmt hlacks (hos _) hnow)).trans ?_
  exact congrArg Outcome.result (run_stmt_error hlacks (hos _) hupdate)

theorem rejects_iff (hs : s.Numbered) (ha : s.data.application? id = some a)
    (hpending : a.status = .PENDING) :
    Rejects s id reviewerId reviewNotes ↔ Rejectable s.data a reviewerId := by
  constructor
  · intro hrejects
    by_contra hnot
    have hos : ∀ n, ((fun _ => {} : Nat → AdminOracle) n).loss = none := fun _ => rfl
    obtain ⟨reply, n, s', hrun, -⟩ := hrejects _ hos
    rw [run_review hos ha hpending] at hrun
    obtain ⟨e, he⟩ := run_reject_error hs hos ha hnot
    cases (congrArg Outcome.result hrun).symm.trans he
  · intro h os hos
    obtain rfl := id_of_application? ha
    refine ⟨_, _, _, (run_review hos ha hpending).trans (run_reject hs hos ha h), ?_⟩
    refine ⟨Review.apply ⟨.REJECTED, reviewNotes, reviewerId, s.data.clock⟩ a, ?_, rfl⟩
    refine (application?_update a ⟨.REJECTED, reviewNotes, reviewerId, s.data.clock⟩).trans ?_
    rw [ha, Option.map_some, if_pos rfl]

end Rejections

/-! ## Runs -/

/-- **Rejections**: after every sequence of applications and reviews, a PENDING
application is rejected exactly when no other one of its email is. -/
theorem rejects_run (U : CaseMapping) (d : AdminData) (xs : List OnboardingTurn)
    {a : TheaterApplication} {id : String} (reviewerId : String) (reviewNotes : Field String)
    (ha : (xs.foldl (onboarding U).turn (.idle d)).data.application? id = some a)
    (hpending : a.status = .PENDING) :
    Rejects (xs.foldl (onboarding U).turn (.idle d)) id reviewerId reviewNotes ↔
      Rejectable (xs.foldl (onboarding U).turn (.idle d)).data a reviewerId := by
  refine rejects_iff ?_ ha hpending
  suffices hturns : ∀ s : AdminStore, s.Numbered → (xs.foldl (onboarding U).turn s).Numbered from
    hturns _ (Store.numbered_idle d)
  clear ha
  induction xs with
  | nil => exact fun s hs => hs
  | cons x xs ih =>
      refine fun s hs => ih _ ?_
      have henv : Store.Numbered ((onboarding U).env x.env s) := by
        cases x.env with
        | data t => exact hs
        | abort tx => exact fun ss hss => hs ss (List.mem_filter.mp hss).1
      have hrun : Store.Numbered ((OnboardingOp.body U x.op).run adminDb.machine x.oracles 0
          ((onboarding U).env x.env s)).state := numbered_run henv
      exact hrun

namespace Sample

/-- The reviewer is the only user. -/
def unapplied : AdminData := { users := [reviewer] }

def adaApplies (id : String) : OnboardingTurn :=
  ⟨.data 1, .apply ⟨"Rex", "Ada", "ada@example.com", "1", "Main Street 1", "Pune", "MH", none,
    by decide⟩, fun _ => { text := id }⟩

def adaRejected (id : String) : OnboardingTurn :=
  ⟨.data 1, .reviewApplication id "u1" .REJECT .absent, fun _ => {}⟩

def appliedAgain : List OnboardingTurn := [adaApplies "a1", adaRejected "a1", adaApplies "a2"]

def pendingAgain : TheaterApplication :=
  ⟨"a2", "Rex", "rex", "Ada", "ada@example.com", "1", "Main Street 1", "Pune", "MH", none, .PENDING,
    none, none, none⟩

end Sample

theorem rejects_applied :
    Rejects ([Sample.adaApplies "a1"].foldl (onboarding Sample.asciiCase).turn
        (.idle Sample.unapplied)) "a1" "u1" .absent ↔
      Rejectable ([Sample.adaApplies "a1"].foldl (onboarding Sample.asciiCase).turn
        (.idle Sample.unapplied)).data Sample.application "u1" :=
  rejects_run Sample.asciiCase Sample.unapplied [Sample.adaApplies "a1"] "u1" .absent
    (by decide +kernel) rfl

/-- The second application of an email cannot be rejected. -/
theorem not_rejects_appliedAgain :
    ¬ ∀ (U : CaseMapping) (d : AdminData) (xs : List OnboardingTurn) (a : TheaterApplication)
        (id reviewerId : String) (reviewNotes : Field String),
      (xs.foldl (onboarding U).turn (.idle d)).data.application? id = some a →
      a.status = .PENDING → d.users.any (·.id == reviewerId) = true →
      Rejects (xs.foldl (onboarding U).turn (.idle d)) id reviewerId reviewNotes := by
  intro h
  obtain ⟨reply, n, s', hrun, -⟩ := h Sample.asciiCase Sample.unapplied Sample.appliedAgain
    Sample.pendingAgain "a2" "u1" .absent (by decide +kernel) rfl (by decide) (fun _ => {})
    fun _ => rfl
  have hrefused : ((Admin.reviewApplication "a2" "u1" .REJECT .absent).run adminDb.machine
      (fun _ => {}) 0 (Sample.appliedAgain.foldl (onboarding Sample.asciiCase).turn
        (.idle Sample.unapplied))).result.toBool = false := by decide +kernel
  rw [hrun] at hrefused
  cases hrefused

end Omnipax.Admin
