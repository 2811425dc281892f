import Omnipax.Applications
import Omnipax.SlugForm

/-!
# Slugs of tenants

A tenant that is created by itself has a slug of at least three characters, all
of `a-z0-9-`. One that comes from an application has the slug of its name, which
nothing checks: it may be short, empty, or have a `_`.
-/

namespace Omnipax

open Text

/-- The name in lower case has no `_`, and three characters of words, with one
between each two words. -/
def SlugName (U : CaseMapping) (name : String) : Prop :=
  '_' ∉ (U.toLowerCase name).toList ∧
    3 ≤ (slugWords U name).flatten.length + ((slugWords U name).length - 1)

section Names

variable (U : CaseMapping) (name : String)

theorem underscore_mem_slugify :
    '_' ∈ (slugify U name).toList ↔ '_' ∈ (U.toLowerCase name).toList := by
  have hflatten : '_' ∈ (slugWords U name).flatten ↔ '_' ∈ (U.toLowerCase name).toList := by
    refine ⟨fun h => (mem_slugWords U name h).1, fun h => ?_⟩
    rw [slugWords, flatten_words]
    exact List.mem_filter.mpr ⟨List.mem_filter.mpr ⟨h, by decide⟩, by decide⟩
  rw [slugify_eq, ← hflatten]
  refine ⟨fun h => (mem_intercalate h).resolve_left (by decide), mem_intercalate_of_flatten '-'⟩

theorem length_slugify : (slugify U name).length
    = (slugWords U name).flatten.length + ((slugWords U name).length - 1) := by
  rw [← String.length_toList, slugify_eq, length_intercalate]

theorem slugOk_slugify : slugOk (slugify U name) = true ↔ SlugName U name := by
  rw [slugOk, Bool.and_eq_true, decide_eq_true_eq, length_slugify, and_comm]
  refine and_congr_left' ?_
  rw [← underscore_mem_slugify, List.all_eq_true]
  constructor
  · intro hall hmem
    exact absurd (hall '_' hmem) (by decide)
  · intro hnot c hc
    have hchar := isSlugChar_of_mem U name hc
    have hne : (c == '_') = false := beq_eq_false_iff_ne.mpr fun h => hnot (h ▸ hc)
    rwa [isSlugChar, hne, Bool.or_false] at hchar

end Names

namespace Admin

open Conc Database Prog

/-! ## Slugs come from names -/

abbrev OnboardingSnap := Snap adminDb.sig AdminStore AdminOracle OnboardingOp
abbrev OnboardingLabel := Label AdminOracle (DbEnv Nat) OnboardingOp
abbrev OnboardingOutline := Outline adminDb.sig AdminStore AdminOracle OnboardingOp

section Named

variable (U : CaseMapping) (d₀ : AdminData)

/-- The slug of the application is what `slugify` makes of its name. -/
def Slugged (a : TheaterApplication) : Prop := a.theaterSlug = slugify U a.theaterName

/-- A statement that stores a name and a slug stores the slug of the name. -/
def SlugStmt : AdminStmt → Prop
  | .tenantCreate name slug _ _ => slug = slugify U name
  | .applicationCreate dto slug => slug = slugify U dto.theaterName
  | .tenantUpdate .. => False
  | _ => True

def SlugWrite : AdminWrite → Prop
  | .tenant row => row.slug = slugify U row.name
  | .newApplication row => Slugged U row
  | .tenantUpdate .. => False
  | _ => True

structure SlugData (d : AdminData) : Prop where
  applications : ∀ a ∈ d.theaterApplications, Slugged U a
  tenants : ∀ t ∈ d.tenants, t ∈ d₀.tenants ∨ t.slug = slugify U t.name

end Named

section Runs

variable {U : CaseMapping} {d₀ d : AdminData} {q : AdminStmt} {w : AdminWrite}

theorem slugWrite_exec (hq : SlugStmt U q) (o : AdminOracle) (d : AdminData) :
    ∀ w ∈ (adminDb.exec q o d).2, SlugWrite U w := by
  show ∀ w ∈ (AdminStmt.exec o d q).2, SlugWrite U w
  have hnil : ∀ w ∈ ([] : List AdminWrite), SlugWrite U w :=
    fun _ h => absurd h List.not_mem_nil
  cases q with
  | tenantUpdate => exact hq.elim
  | applicationCreate dto slug =>
      simp only [AdminStmt.exec]
      split
      · exact hnil
      · intro w hw
        obtain rfl := List.mem_singleton.mp hw
        exact hq
  | tenantCreate name slug type value =>
      simp only [AdminStmt.exec]
      split
      · exact hnil
      · intro w hw
        obtain rfl := List.mem_singleton.mp hw
        exact hq
  | monetizationAuditCreate row =>
      simp only [AdminStmt.exec]
      split
      · exact List.forall_mem_singleton.mpr trivial
      · exact hnil
  | theaterCreate name address city tenantId =>
      simp only [AdminStmt.exec]
      split
      · exact hnil
      · split
        · exact List.forall_mem_singleton.mpr trivial
        · exact hnil
  | userCreate email password name role tenantId theaterId =>
      simp only [AdminStmt.exec]
      split
      · exact hnil
      · split
        · exact List.forall_mem_singleton.mpr trivial
        · exact hnil
  | applicationUpdate id status notes by_ at_ =>
      simp only [AdminStmt.exec]
      split
      · exact hnil
      · split
        · exact hnil
        · split
          · exact List.forall_mem_singleton.mpr trivial
          · exact hnil
  | auditLogCreate row =>
      simp only [AdminStmt.exec]
      split
      · exact List.forall_mem_singleton.mpr trivial
      · exact hnil
  | _ => exact hnil

theorem SlugData.apply (hw : SlugWrite U w) (h : SlugData U d₀ d) : SlugData U d₀ (w.apply d) := by
  obtain ⟨happs, htenants⟩ := h
  cases w with
  | tenantUpdate => exact hw.elim
  | tenant row =>
      refine ⟨happs, fun t ht => ?_⟩
      rcases List.mem_append.mp ht with ht | ht
      · exact htenants t ht
      · obtain rfl := List.mem_singleton.mp ht
        exact Or.inr hw
  | newApplication row =>
      refine ⟨fun a ha => ?_, htenants⟩
      rcases List.mem_append.mp ha with ha | ha
      · exact happs a ha
      · obtain rfl := List.mem_singleton.mp ha
        exact hw
  | application was r =>
      refine ⟨fun a ha => ?_, htenants⟩
      obtain ⟨b, hb, rfl⟩ := List.mem_map.mp ha
      split
      · exact happs b hb
      · exact happs b hb
  | _ => exact ⟨happs, htenants⟩

/-- Nothing else is stored, by whatever calls. -/
def slugOutline (U : CaseMapping) (d₀ : AdminData) : OnboardingOutline where
  toDiscipline := Discipline.free adminDb.sig AdminStore AdminOracle fun _ => True
  inv s := WritesIn (SlugWrite U) s.world ∧ SlugData U d₀ s.world.data
  pre _ _ c _ := Stmts (SlugStmt U) c

theorem slugOutline_exec {s : OnboardingSnap} (h : (slugOutline U d₀).inv s) (i : Nat)
    (op : OnboardingOp) {c : TxCmd AdminStmt} (hc : Stmts (SlugStmt U) c) (o : AdminOracle) :
    (slugOutline U d₀).inv (s.exec (onboarding U) i op c o) := by
  obtain ⟨hwrites, ws, hws, hdata⟩ := writesIn_step (c := c) (o := o) h.1 (by
    rintro t q rfl w hmem
    obtain ⟨d, hd⟩ := mem_wants hmem
    exact slugWrite_exec hc o d w hd)
  refine ⟨hwrites, ?_⟩
  show SlugData U d₀ (adminDb.step c o s.world).2.data
  rw [hdata]
  exact applyAll_of_forall (fun w hw d hd => hd.apply (hws w hw)) h.2

section Calls

variable {i : Nat} {op : OnboardingOp} {s : OnboardingSnap} {α : Type}

/-- The commands of the program store slugs of names only. -/
abbrev KeepsSlugs (U : CaseMapping) (d₀ : AdminData) (i : Nat) (op : OnboardingOp) (p : AdminM α)
    (s : OnboardingSnap) : Prop :=
  Fine (fun (t : Nat) d => { d with clock := d.clock + t }) (OnboardingOp.body U) (slugOutline U d₀)
    i op p s

theorem all_rejectApplication (id reviewerId : String) (notes : Field String) :
    (rejectApplication id reviewerId notes).All (Stmts (SlugStmt U)) := by
  refine all_transaction fun tx => ?_
  refine (all_query trivial).bind fun _ => ?_
  refine (all_query trivial).bind fun _ => ?_
  exact (all_query trivial).bind fun _ => trivial

theorem all_approveApplication {a : TheaterApplication} (ha : Slugged U a) (reviewerId : String)
    (notes : Field String) :
    (approveApplication a reviewerId notes).All (Stmts (SlugStmt U)) := by
  refine (all_query trivial).bind fun _ => (all_query trivial).bind fun _ => ?_
  refine all_transaction fun tx => ?_
  refine (all_query trivial).bind fun _ => ?_
  refine (all_throwIf _ _ _).bind fun _ => ?_
  refine (all_query trivial).bind fun _ => ?_
  refine (all_throwIf _ _ _).bind fun _ => ?_
  refine (all_query (show SlugStmt U (.tenantCreate a.theaterName a.theaterSlug _ _) from ha)).bind fun _ => ?_
  refine (all_query trivial).bind fun _ => ?_
  refine (all_query trivial).bind fun _ => ?_
  refine (all_query trivial).bind fun _ => ?_
  refine (all_query trivial).bind fun _ => ?_
  refine (all_query trivial).bind fun _ => ?_
  exact (all_query trivial).bind fun _ => trivial

theorem all_apply (dto : CreateTheaterApplicationDto) :
    (Admin.apply U dto).All (Stmts (SlugStmt U)) := by
  refine (all_query trivial).bind fun _ => ?_
  refine (all_throwIf _ _ _).bind fun _ => ?_
  refine (all_query trivial).bind fun _ => ?_
  refine (all_throwIf _ _ _).bind fun _ => ?_
  refine (all_query trivial).bind fun _ => ?_
  refine (all_throwIf _ _ _).bind fun _ => ?_
  exact all_query rfl

theorem keepsSlugs_of_all {p : AdminM α} (hp : p.All (Stmts (SlugStmt U))) :
    KeepsSlugs U d₀ i op p s :=
  fine_of_all hp fun _ hc _ _ => hc

theorem keepsSlugs_reviewApplication (id reviewerId : String) (action : ReviewAction)
    (notes : Field String) :
    KeepsSlugs U d₀ i op (Admin.reviewApplication id reviewerId action notes) s := by
  refine fine_query (fun _ _ => trivial) fun s o a? hinv ha _ => ?_
  have hread : s.world.data.application? id = a? := Except.ok.inj (query_ok ha).1
  cases a? with
  | none => exact fine_err
  | some a =>
      have hslug : Slugged U a := hinv.2.applications a (List.mem_of_find?_eq_some hread)
      refine keepsSlugs_of_all ((all_throwIf _ _ _).bind fun _ => ?_)
      cases action with
      | APPROVE => exact all_approveApplication hslug reviewerId notes
      | REJECT => exact all_rejectApplication id reviewerId notes

end Calls

theorem slugOutline_valid (U : CaseMapping) (d₀ : AdminData) :
    Outline.Valid (onboarding U) (slugOutline U d₀) fun _ _ _ _ => True where
  inv_exec h i op _ o _ hpre _ := slugOutline_exec h i op hpre o
  inv_env h e := by
    cases e with
    | data t => exact ⟨h.1, h.2.applications, h.2.tenants⟩
    | abort tx => exact ⟨fun ss hss => h.1 ss (List.mem_filter.mp hss).1, h.2⟩
  body i op s _ hinv _ := by
    cases op with
    | apply dto => exact wp_map _ (keepsSlugs_of_all (all_apply dto))
    | reviewApplication id reviewerId action notes =>
        exact wp_map _ (keepsSlugs_reviewApplication id reviewerId action notes)

/-- **Onboarding**: in every run of applications and reviews, a new tenant has
a slug that is fit for a tenant exactly when its name has words enough and no
`_`. -/
theorem slugOk_run (U : CaseMapping) {d : AdminData}
    (hd : ∀ a ∈ d.theaterApplications, Slugged U a) (ls : List OnboardingLabel) :
    ∀ t ∈ ((Config.idle (.idle d)).run (onboarding U) ls).world.data.tenants,
      t ∈ d.tenants ∨ (slugOk t.slug = true ↔ SlugName U t.name) := by
  intro t ht
  have hidle : (slugOutline U d).inv (⟨.idle d, []⟩ : OnboardingSnap) :=
    ⟨fun _ h => (nomatch h), hd, fun t ht => Or.inl ht⟩
  have hls : (slugOutline U d).admitsRun (onboarding U) (Config.idle (.idle d)) ls :=
    Discipline.admitsRun_free fun _ _ => trivial
  have hgood := Outline.sound (slugOutline_valid U d) (Outline.Good.idle hidle) hls
  refine (hgood.inv.2.tenants t ht).imp_right fun hslug => ?_
  rw [hslug]
  exact slugOk_slugify U t.name

end Runs

namespace Sample

/-- Ada applies for a theater with this name, and is approved. -/
def adaOnboarded (name : String) (h : name ≠ "") : List OnboardingLabel :=
  .spawn (.apply ⟨name, "Ada", "ada@example.com", "1", "Main Street 1", "Pune", "MH", none, by
    simpa using h⟩) :: List.replicate 4 (.step 0 { text := "a1" }) ++
  .spawn (.reviewApplication "a1" "u1" .APPROVE .absent) ::
    List.replicate 15 (.step 1 { text := "x1" })

def ix : Tenant := ⟨"x1", "ix", "IX", true, true, .PERCENTAGE, ⟨200⟩⟩

def rex : Tenant := ⟨"x1", "rex", "Rex", true, true, .PERCENTAGE, ⟨200⟩⟩

end Sample

theorem slugOk_rex :
    slugOk Sample.rex.slug = true ↔ SlugName Sample.asciiCase Sample.rex.name := by
  have hrex : ((Config.idle (.idle Sample.unapplied)).run (onboarding Sample.asciiCase)
      (Sample.adaOnboarded "Rex" (by decide))).world.data.tenants = [Sample.rex] := by decide +kernel
  have hslug := slugOk_run Sample.asciiCase (d := Sample.unapplied)
    (fun _ h => absurd h List.not_mem_nil) (Sample.adaOnboarded "Rex" (by decide)) Sample.rex
    (by rw [hrex]; exact List.mem_singleton_self _)
  exact hslug.resolve_left List.not_mem_nil

/-- A tenant whose slug has two letters. -/
theorem not_slugOk_ix :
    ¬ ∀ (U : CaseMapping) (d : AdminData), (∀ a ∈ d.theaterApplications, Slugged U a) →
      ∀ ls : List OnboardingLabel,
        ∀ t ∈ ((Config.idle (.idle d)).run (onboarding U) ls).world.data.tenants,
          t ∈ d.tenants ∨ slugOk t.slug = true := by
  intro h
  have hix : ((Config.idle (.idle Sample.unapplied)).run (onboarding Sample.asciiCase)
      (Sample.adaOnboarded "IX" (by decide))).world.data.tenants = [Sample.ix] := by decide +kernel
  have hslug := h Sample.asciiCase Sample.unapplied (fun _ h => absurd h List.not_mem_nil)
    (Sample.adaOnboarded "IX" (by decide)) Sample.ix (by rw [hix]; exact List.mem_singleton_self _)
  revert hslug
  decide +kernel

end Admin

end Omnipax
