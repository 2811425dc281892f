import Omnipax.Payments

/-!
# The tenant extension

`createTenantExtension` rewrites the arguments of thirteen operations of the
database client and hands them on. The client itself is not in the repository:
`Documented` states what an operation that resolves has returned, updated and
deleted, and a client that throws has done none of it.

Arguments are taken as they read on the database at hand. A `where` is the
filter on `tenantId`, if it has one, and the conjunction of its other keys;
`orderBy`, `cursor`, `skip`, `take` and `distinct` pick among the rows that
match; `include` and `select` reach further rows of the model through
relations, and so do the nested writes of `data`.
-/

namespace Omnipax.TenantExtension

open Payments (truthy?)

variable {C R : Type}

/-! ## Rows and arguments -/

/-- A row of some model of the schema: its id, its tenant, and all its other columns. A
model without that column has no tenant in any row. -/
structure Row (C : Type) where
  id : String
  tenantId : Option String
  columns : C
deriving DecidableEq

structure Where (C : Type) where
  tenantId : Option (Option String → Bool)
  others : Row C → Bool

/-- `{ ...where, tenantId }`. -/
def Where.withTenant (w : Where C) (tenantId : String) : Where C :=
  { w with tenantId := some (· == some tenantId) }

def Where.holds (w : Where C) (r : Row C) : Bool :=
  w.tenantId.all (· r.tenantId) && w.others r

/-- `orderBy`, `cursor`, `skip`, `take` and `distinct`: they choose among the rows that
match and add none. -/
structure Selection (C : Type) where
  pick : List (Row C) → List (Row C)
  picks : ∀ {rows : List (Row C)} {r : Row C}, r ∈ pick rows → r ∈ rows

/-- Rows of the model that nested writes update and delete, as they were. -/
structure Nested (C : Type) where
  updated : List (Row C)
  deleted : List (Row C)

structure CreateData (C : Type) where
  id : String
  tenantId : Option (Option String)
  columns : C
  nested : Row C → Nested C

/-- `{ ...data, tenantId }` of a `create`. -/
def CreateData.withTenant (d : CreateData C) (tenantId : String) : CreateData C :=
  { d with tenantId := some (some tenantId) }

def CreateData.row (d : CreateData C) : Row C := ⟨d.id, d.tenantId.getD none, d.columns⟩

/-- The changes of an `updateMany`, which takes no nested writes. -/
structure Changes (C : Type) where
  tenantId : Option (Option String)
  others : Row C → Row C

structure UpdateData (C : Type) extends Changes C where
  nested : Row C → Nested C

/-- `{ ...data, tenantId }` of an update. -/
def UpdateData.withTenant (d : UpdateData C) (tenantId : String) : UpdateData C :=
  { d with tenantId := some (some tenantId) }

def Changes.apply (d : Changes C) (r : Row C) : Row C :=
  { d.others r with tenantId := d.tenantId.getD r.tenantId }

/-- Arguments of `findMany` and `findFirst`. -/
structure FindArgs (C : Type) where
  where_ : Where C
  selection : Selection C
  related : Row C → List (Row C)

/-- Arguments of `findUnique` and `delete`. -/
structure UniqueArgs (C : Type) where
  where_ : Where C
  related : Row C → List (Row C)

structure CreateArgs (C : Type) where
  data : CreateData C
  related : Row C → List (Row C)

/-- The `data` of a `createMany` is an array or one object. -/
inductive OneOrMany (α : Type) where
  | one (a : α)
  | many (l : List α)

def OneOrMany.map {α β : Type} (f : α → β) : OneOrMany α → OneOrMany β
  | .one a => .one (f a)
  | .many l => .many (l.map f)

structure CreateManyArgs (C : Type) where
  data : OneOrMany (CreateData C)

structure UpdateArgs (C : Type) where
  where_ : Where C
  data : UpdateData C
  related : Row C → List (Row C)

structure UpdateManyArgs (C : Type) where
  where_ : Where C
  data : Changes C

structure UpsertArgs (C : Type) where
  where_ : Where C
  create : CreateData C
  update : UpdateData C
  related : Row C → List (Row C)

structure DeleteManyArgs (C : Type) where
  where_ : Where C

/-- Arguments of `aggregate`, `count` and `groupBy`. -/
structure FigureArgs (C : Type) where
  where_ : Where C
  selection : Selection C

inductive Operation (C : Type) where
  | findMany (args : FindArgs C)
  | findFirst (args : FindArgs C)
  | findUnique (args : UniqueArgs C)
  | create (args : CreateArgs C)
  | createMany (args : CreateManyArgs C)
  | update (args : UpdateArgs C)
  | updateMany (args : UpdateManyArgs C)
  | upsert (args : UpsertArgs C)
  | delete (args : UniqueArgs C)
  | deleteMany (args : DeleteManyArgs C)
  | aggregate (args : FigureArgs C)
  | count (args : FigureArgs C)
  | groupBy (args : FigureArgs C)

/-! ## The extension -/

/-- Models that are GLOBAL and must never get a `tenantId` injected. -/
def GLOBAL_MODELS : List String :=
  ["Tenant", "AuditLog", "FeatureFlag", "RazorpayWebhookEvent", "SystemEventLog",
    "PaymentEvent", "TheaterApplication"]

/-- The shape of every handler that rewrites its arguments. -/
def scoping {α : Type} (tenantId : Option String) (rewrite : α → String → α) (model : String)
    (args : α) (query : α → R) : R :=
  match truthy? tenantId with
  | none => query args
  | some tenantId =>
      if model ∈ GLOBAL_MODELS then query args else query (rewrite args tenantId)

section Handlers

variable (tenantId : Option String) (model : String)

def findMany : FindArgs C → (FindArgs C → R) → R :=
  scoping tenantId (fun a t => { a with where_ := a.where_.withTenant t }) model

def findFirst : FindArgs C → (FindArgs C → R) → R :=
  scoping tenantId (fun a t => { a with where_ := a.where_.withTenant t }) model

/-- Nothing is rewritten: the tenant is left to "findFirst in middleware". -/
def findUnique (args : UniqueArgs C) (query : UniqueArgs C → R) : R := query args

def create : CreateArgs C → (CreateArgs C → R) → R :=
  scoping tenantId (fun a t => { a with data := a.data.withTenant t }) model

def createMany : CreateManyArgs C → (CreateManyArgs C → R) → R :=
  scoping tenantId (fun a t => { a with data := a.data.map (·.withTenant t) }) model

def update : UpdateArgs C → (UpdateArgs C → R) → R :=
  scoping tenantId (fun a t => { a with where_ := a.where_.withTenant t }) model

def updateMany : UpdateManyArgs C → (UpdateManyArgs C → R) → R :=
  scoping tenantId (fun a t => { a with where_ := a.where_.withTenant t }) model

/-- `create` and `update` get the tenant; the `where` stays the caller's. -/
def upsert : UpsertArgs C → (UpsertArgs C → R) → R :=
  scoping tenantId
    (fun a t => { a with create := a.create.withTenant t, update := a.update.withTenant t }) model

def delete : UniqueArgs C → (UniqueArgs C → R) → R :=
  scoping tenantId (fun a t => { a with where_ := a.where_.withTenant t }) model

def deleteMany : DeleteManyArgs C → (DeleteManyArgs C → R) → R :=
  scoping tenantId (fun a t => { a with where_ := a.where_.withTenant t }) model

def aggregate : FigureArgs C → (FigureArgs C → R) → R :=
  scoping tenantId (fun a t => { a with where_ := a.where_.withTenant t }) model

def count : FigureArgs C → (FigureArgs C → R) → R :=
  scoping tenantId (fun a t => { a with where_ := a.where_.withTenant t }) model

def groupBy : FigureArgs C → (FigureArgs C → R) → R :=
  scoping tenantId (fun a t => { a with where_ := a.where_.withTenant t }) model

def createTenantExtension (query : Operation C → R) : Operation C → R
  | .findMany args => findMany tenantId model args fun a => query (.findMany a)
  | .findFirst args => findFirst tenantId model args fun a => query (.findFirst a)
  | .findUnique args => findUnique args fun a => query (.findUnique a)
  | .create args => create tenantId model args fun a => query (.create a)
  | .createMany args => createMany tenantId model args fun a => query (.createMany a)
  | .update args => update tenantId model args fun a => query (.update a)
  | .updateMany args => updateMany tenantId model args fun a => query (.updateMany a)
  | .upsert args => upsert tenantId model args fun a => query (.upsert a)
  | .delete args => delete tenantId model args fun a => query (.delete a)
  | .deleteMany args => deleteMany tenantId model args fun a => query (.deleteMany a)
  | .aggregate args => aggregate tenantId model args fun a => query (.aggregate a)
  | .count args => count tenantId model args fun a => query (.count a)
  | .groupBy args => groupBy tenantId model args fun a => query (.groupBy a)

end Handlers

/-! ## The client -/

/-- The rows of the model an operation returns, and the rows it updates and deletes, as they
were. A figure counts as returning the rows it is computed from. -/
structure Outcome (C : Type) where
  returned : List (Row C)
  updated : List (Row C)
  deleted : List (Row C)

def matching (table : List (Row C)) (w : Where C) : List (Row C) := table.filter w.holds

def found (related : Row C → List (Row C)) (rows : List (Row C)) : Outcome C :=
  ⟨rows ++ rows.flatMap related, [], []⟩

def created (data : CreateData C) (related : Row C → List (Row C)) : Outcome C :=
  ⟨data.row :: related data.row, (data.nested data.row).updated, (data.nested data.row).deleted⟩

def rewritten (data : UpdateData C) (related : Row C → List (Row C)) (r : Row C) : Outcome C :=
  ⟨data.apply r :: related (data.apply r), r :: (data.nested r).updated, (data.nested r).deleted⟩

/-- What an operation that resolves has done to the table of the model. `none`: it cannot
resolve, as there is no row to update or delete. -/
def resolved (table : List (Row C)) : Operation C → Option (Outcome C)
  | .findMany a => some (found a.related (a.selection.pick (matching table a.where_)))
  | .findFirst a =>
      some (found a.related (a.selection.pick (matching table a.where_)).head?.toList)
  | .findUnique a => some (found a.related (matching table a.where_).head?.toList)
  | .create a => some (created a.data a.related)
  | .createMany _ => some ⟨[], [], []⟩
  | .update a => (matching table a.where_).head?.map (rewritten a.data a.related)
  | .updateMany a => some ⟨[], matching table a.where_, []⟩
  | .upsert a =>
      match (matching table a.where_).head? with
      | some r => some (rewritten a.update a.related r)
      | none => some (created a.create a.related)
  | .delete a => (matching table a.where_).head?.map fun r => ⟨r :: a.related r, [], [r]⟩
  | .deleteMany a => some ⟨[], [], matching table a.where_⟩
  | .aggregate a => some ⟨a.selection.pick (matching table a.where_), [], []⟩
  | .count a => some ⟨a.selection.pick (matching table a.where_), [], []⟩
  | .groupBy a => some ⟨a.selection.pick (matching table a.where_), [], []⟩

/-- A client that may throw at any call, and does what is documented when it resolves. -/
def Documented (table : List (Row C)) (query : Operation C → Option (Outcome C)) : Prop :=
  ∀ op out, query op = some out → resolved table op = some out

theorem documented_resolved (table : List (Row C)) : Documented table (resolved table) :=
  fun _ _ h => h

/-! ## Isolation -/

/-- The rows all belong to the tenant. -/
def Within (t : String) (rows : List (Row C)) : Prop := ∀ r ∈ rows, r.tenantId = some t

def Isolated (t : String) (out : Outcome C) : Prop :=
  Within t out.returned ∧ Within t out.updated ∧ Within t out.deleted

/-- The rows that match the caller's `where` among those of the tenant; the empty string is
no tenant to the extension, and the caller's own filter stands. -/
def reach (t : String) (w : Where C) (table : List (Row C)) : List (Row C) :=
  table.filter fun r =>
    (if t = "" then w.tenantId.all (· r.tenantId) else r.tenantId == some t) && w.others r

/-- The relation part of an update of `r` stays within the tenant. -/
def UpdateData.Stays (t : String) (d : UpdateData C) (related : Row C → List (Row C))
    (r : Row C) : Prop :=
  Within t (related (d.apply r)) ∧ Within t (d.nested r).updated ∧ Within t (d.nested r).deleted

/-- The relation part of a creation stays within the tenant. -/
def CreateData.Stays (t : String) (d : CreateData C) (related : Row C → List (Row C)) : Prop :=
  (t = "" → d.tenantId = some (some t)) ∧ Within t (related (d.withTenant t).row) ∧
    Within t (d.nested (d.withTenant t).row).updated ∧
      Within t (d.nested (d.withTenant t).row).deleted

/-- The calls whose arguments keep to the tenant `t` on their own. -/
def Confined (t : String) (table : List (Row C)) : Operation C → Prop
  | .findMany a =>
      ∀ r ∈ a.selection.pick (reach t a.where_ table),
        (t = "" → r.tenantId = some t) ∧ Within t (a.related r)
  | .findFirst a =>
      ∀ r ∈ (a.selection.pick (reach t a.where_ table)).head?,
        (t = "" → r.tenantId = some t) ∧ Within t (a.related r)
  | .findUnique a =>
      ∀ r ∈ (matching table a.where_).head?, r.tenantId = some t ∧ Within t (a.related r)
  | .create a => a.data.Stays t a.related
  | .createMany _ => True
  | .update a =>
      ∀ r ∈ (reach t a.where_ table).head?, (t = "" → r.tenantId = some t) ∧
        (∀ x ∈ a.data.tenantId, x = some t) ∧ a.data.Stays t a.related r
  | .updateMany a => t = "" → Within t (reach t a.where_ table)
  | .upsert a =>
      match (matching table a.where_).head? with
      | some r => r.tenantId = some t ∧ (t = "" → ∀ x ∈ a.update.tenantId, x = some t) ∧
          (a.update.withTenant t).Stays t a.related r
      | none => a.create.Stays t a.related
  | .delete a =>
      ∀ r ∈ (reach t a.where_ table).head?,
        (t = "" → r.tenantId = some t) ∧ Within t (a.related r)
  | .deleteMany a => t = "" → Within t (reach t a.where_ table)
  | .aggregate a => t = "" → Within t (a.selection.pick (reach t a.where_ table))
  | .count a => t = "" → Within t (a.selection.pick (reach t a.where_ table))
  | .groupBy a => t = "" → Within t (a.selection.pick (reach t a.where_ table))

/-! ## Which rows a rewritten call reaches -/

theorem scoping_tenant {α : Type} {t : String} (ht : t ≠ "") {model : String}
    (hmodel : model ∉ GLOBAL_MODELS) (rewrite : α → String → α) (args : α) (query : α → R) :
    scoping (some t) rewrite model args query = query (rewrite args t) := by
  have htruthy : truthy? (some t) = some t := by simp [truthy?, ht]
  rw [scoping, htruthy]
  exact if_neg hmodel

/-- What a call under the tenant `t` hands to the client. -/
def Operation.withTenant (t : String) : Operation C → Operation C
  | .findMany a => .findMany { a with where_ := a.where_.withTenant t }
  | .findFirst a => .findFirst { a with where_ := a.where_.withTenant t }
  | .findUnique a => .findUnique a
  | .create a => .create { a with data := a.data.withTenant t }
  | .createMany a => .createMany { a with data := a.data.map (·.withTenant t) }
  | .update a => .update { a with where_ := a.where_.withTenant t }
  | .updateMany a => .updateMany { a with where_ := a.where_.withTenant t }
  | .upsert a =>
      .upsert { a with create := a.create.withTenant t, update := a.update.withTenant t }
  | .delete a => .delete { a with where_ := a.where_.withTenant t }
  | .deleteMany a => .deleteMany { a with where_ := a.where_.withTenant t }
  | .aggregate a => .aggregate { a with where_ := a.where_.withTenant t }
  | .count a => .count { a with where_ := a.where_.withTenant t }
  | .groupBy a => .groupBy { a with where_ := a.where_.withTenant t }

theorem extension_tenant {t : String} (ht : t ≠ "") {model : String}
    (hmodel : model ∉ GLOBAL_MODELS) (query : Operation C → R) (op : Operation C) :
    createTenantExtension (some t) model query op = query (op.withTenant t) := by
  cases op <;>
    simp only [createTenantExtension, findMany, findFirst, findUnique, create, createMany, update,
      updateMany, upsert, delete, deleteMany, aggregate, count, groupBy,
      scoping_tenant ht hmodel, Operation.withTenant]

/-- The empty string is falsy: the call is handed on as it is. -/
theorem extension_empty (model : String) (query : Operation C → R) (op : Operation C) :
    createTenantExtension (some "") model query op = query op := by
  cases op <;> rfl

theorem matching_withTenant {t : String} (ht : t ≠ "") (table : List (Row C)) (w : Where C) :
    matching table (w.withTenant t) = reach t w table := by
  refine List.filter_congr fun r _ => ?_
  rw [if_neg ht]
  rfl

theorem reach_empty (table : List (Row C)) (w : Where C) : reach "" w table = matching table w := by
  refine List.filter_congr fun r _ => ?_
  rw [if_pos rfl]
  rfl

theorem tenantId_of_mem_reach {t : String} (ht : t ≠ "") {table : List (Row C)} {w : Where C}
    {r : Row C} (h : r ∈ reach t w table) : r.tenantId = some t := by
  simp only [reach, if_neg ht, List.mem_filter, Bool.and_eq_true, beq_iff_eq] at h
  exact h.2.1

theorem within_reach {t : String} (ht : t ≠ "") (w : Where C) (table : List (Row C)) :
    Within t (reach t w table) := fun _ hr => tenantId_of_mem_reach ht hr

theorem within_pick {t : String} {rows : List (Row C)} (h : Within t rows) (s : Selection C) :
    Within t (s.pick rows) := fun r hr => h r (s.picks hr)

theorem within_cons {t : String} {r : Row C} {rows : List (Row C)} :
    Within t (r :: rows) ↔ r.tenantId = some t ∧ Within t rows := List.forall_mem_cons

theorem isolated_returned {t : String} {rows : List (Row C)} :
    Isolated t ⟨rows, [], []⟩ ↔ Within t rows := by
  simp [Isolated, Within]

theorem isolated_updated {t : String} {rows : List (Row C)} :
    Isolated t ⟨[], rows, []⟩ ↔ Within t rows := by
  simp [Isolated, Within]

theorem isolated_deleted {t : String} {rows : List (Row C)} :
    Isolated t ⟨[], [], rows⟩ ↔ Within t rows := by
  simp [Isolated, Within]

theorem isolated_found {t : String} {related : Row C → List (Row C)} {rows : List (Row C)} :
    Isolated t (found related rows) ↔
      ∀ r ∈ rows, r.tenantId = some t ∧ Within t (related r) := by
  rw [found, isolated_returned]
  constructor
  · intro h r hr
    refine ⟨h r (List.mem_append_left _ hr), fun s hs => ?_⟩
    exact h s (List.mem_append_right _ (List.mem_flatMap.mpr ⟨r, hr, hs⟩))
  · intro h r hr
    rcases List.mem_append.mp hr with hr | hr
    · exact (h r hr).1
    · obtain ⟨r', hr', hrel⟩ := List.mem_flatMap.mp hr
      exact (h r' hr').2 r hrel

theorem isolated_found? {t : String} {related : Row C → List (Row C)} {row : Option (Row C)} :
    Isolated t (found related row.toList) ↔
      ∀ r ∈ row, r.tenantId = some t ∧ Within t (related r) := by
  rw [isolated_found]
  simp only [Option.mem_toList, Option.mem_def]

theorem isolated_created {t : String} {d : CreateData C} {related : Row C → List (Row C)} :
    Isolated t (created d related) ↔
      d.tenantId = some (some t) ∧ Within t (related d.row) ∧
        Within t (d.nested d.row).updated ∧ Within t (d.nested d.row).deleted := by
  have hrow : d.row.tenantId = some t ↔ d.tenantId = some (some t) := by
    cases h : d.tenantId <;> simp [CreateData.row, h]
  rw [created, Isolated, within_cons, hrow, and_assoc]

theorem isolated_rewritten {t : String} {d : UpdateData C} {related : Row C → List (Row C)}
    {r : Row C} :
    Isolated t (rewritten d related r) ↔
      r.tenantId = some t ∧ (∀ x ∈ d.tenantId, x = some t) ∧ d.Stays t related r := by
  rw [rewritten, Isolated, within_cons, within_cons, UpdateData.Stays]
  constructor
  · rintro ⟨⟨happ, hrel⟩, ⟨hr, hup⟩, hdel⟩
    refine ⟨hr, fun x hx => ?_, hrel, hup, hdel⟩
    have hx' : d.tenantId = some x := hx
    simpa [Changes.apply, hx'] using happ
  · rintro ⟨hr, hx, hrel, hup, hdel⟩
    refine ⟨⟨?_, hrel⟩, ⟨hr, hup⟩, hdel⟩
    cases h : d.tenantId with
    | none => simpa [Changes.apply, h] using hr
    | some x => simpa [Changes.apply, h] using hx x h

/-- An update that sets the tenant a row has leaves it as the same update without it. -/
theorem stays_withTenant {t : String} {d : UpdateData C} {related : Row C → List (Row C)}
    {r : Row C} (hr : r.tenantId = some t) (hx : ∀ x ∈ d.tenantId, x = some t) :
    (d.withTenant t).Stays t related r ↔ d.Stays t related r := by
  have happ : (d.withTenant t).apply r = d.apply r := by
    cases h : d.tenantId with
    | none => simp [Changes.apply, UpdateData.withTenant, h, hr]
    | some x => simp [Changes.apply, UpdateData.withTenant, h, hx x h]
  rw [UpdateData.Stays, UpdateData.Stays, happ]
  rfl

theorem stays_created {t : String} {d : CreateData C} (hd : d.tenantId = some (some t)) :
    d.withTenant t = d := by
  rw [CreateData.withTenant, ← hd]

/-! ## The calls that keep to the tenant -/

theorem resolves_some {o : Outcome C} {p : Outcome C → Prop} : (∀ out ∈ some o, p out) ↔ p o := by
  simp

theorem mem_head? {t : String} (ht : t ≠ "") {w : Where C} {table : List (Row C)} {r : Row C}
    (h : r ∈ (reach t w table).head?) : r.tenantId = some t :=
  tenantId_of_mem_reach ht (List.mem_of_mem_head? h)

theorem isolated_tenant {t : String} (ht : t ≠ "") (table : List (Row C)) (op : Operation C) :
    (∀ out ∈ resolved table (op.withTenant t), Isolated t out) ↔ Confined t table op := by
  cases op with
  | findMany a =>
      rw [Operation.withTenant, resolved, resolves_some, isolated_found, matching_withTenant ht]
      refine forall₂_congr fun r hr => and_congr_left' ?_
      exact iff_of_true (tenantId_of_mem_reach ht (a.selection.picks hr)) fun h => absurd h ht
  | findFirst a =>
      rw [Operation.withTenant, resolved, resolves_some, isolated_found?, matching_withTenant ht]
      refine forall₂_congr fun r hr => and_congr_left' ?_
      exact iff_of_true (tenantId_of_mem_reach ht (a.selection.picks (List.mem_of_mem_head? hr)))
        fun h => absurd h ht
  | findUnique a => rw [Operation.withTenant, resolved, resolves_some, isolated_found?]; rfl
  | create a =>
      rw [Operation.withTenant, resolved, resolves_some, isolated_created]
      exact and_congr_left' (iff_of_true rfl fun h => absurd h ht)
  | createMany a =>
      rw [Operation.withTenant, resolved, resolves_some, isolated_returned]
      exact iff_of_true (fun _ h => nomatch h) trivial
  | update a =>
      rw [Operation.withTenant, resolved, Option.forall_mem_map, matching_withTenant ht]
      refine forall₂_congr fun r hr => ?_
      rw [isolated_rewritten]
      exact and_congr_left' (iff_of_true (mem_head? ht hr) fun h => absurd h ht)
  | updateMany a =>
      rw [Operation.withTenant, resolved, resolves_some, isolated_updated, matching_withTenant ht]
      exact iff_of_true (within_reach ht _ _) fun h => absurd h ht
  | upsert a =>
      rw [Operation.withTenant, resolved, Confined]
      dsimp only
      cases (matching table a.where_).head? with
      | some r =>
          dsimp only
          rw [resolves_some, isolated_rewritten]
          refine and_congr_right' (and_congr_left' ?_)
          refine iff_of_true (fun x hx => ?_) fun h => absurd h ht
          exact (Option.some.inj hx).symm
      | none =>
          dsimp only
          rw [resolves_some, isolated_created]
          exact and_congr_left' (iff_of_true rfl fun h => absurd h ht)
  | delete a =>
      rw [Operation.withTenant, resolved, Option.forall_mem_map, matching_withTenant ht]
      refine forall₂_congr fun r hr => ?_
      have hr' := mem_head? ht hr
      simp [Isolated, Within, hr', ht]
  | deleteMany a =>
      rw [Operation.withTenant, resolved, resolves_some, isolated_deleted, matching_withTenant ht]
      exact iff_of_true (within_reach ht _ _) fun h => absurd h ht
  | aggregate a | count a | groupBy a =>
      rw [Operation.withTenant, resolved, resolves_some, isolated_returned, matching_withTenant ht]
      exact iff_of_true (within_pick (within_reach ht _ _) _) fun h => absurd h ht

theorem isolated_empty (table : List (Row C)) (op : Operation C) :
    (∀ out ∈ resolved table op, Isolated "" out) ↔ Confined "" table op := by
  have hif {p : Prop} : (("" : String) = "" → p) ↔ p := forall_prop_of_true rfl
  cases op with
  | findMany a =>
      rw [resolved, resolves_some, isolated_found, Confined]
      simp only [true_imp_iff, reach_empty]
  | findFirst a =>
      rw [resolved, resolves_some, isolated_found?, Confined]
      simp only [true_imp_iff, reach_empty]
  | findUnique a => rw [resolved, resolves_some, isolated_found?]; rfl
  | create a =>
      rw [resolved, resolves_some, isolated_created, Confined, CreateData.Stays, hif]
      refine and_congr_right fun hd => ?_
      rw [stays_created hd]
  | createMany a =>
      rw [resolved, resolves_some, isolated_returned]
      exact iff_of_true (fun _ h => nomatch h) trivial
  | update a =>
      rw [resolved, Option.forall_mem_map, Confined]
      simp only [isolated_rewritten, true_imp_iff, reach_empty]
  | updateMany a =>
      rw [resolved, resolves_some, isolated_updated, Confined, hif, reach_empty]
  | upsert a =>
      rw [resolved, Confined]
      cases (matching table a.where_).head? with
      | some r =>
          dsimp only
          rw [resolves_some, isolated_rewritten, hif]
          refine and_congr_right fun hr => and_congr_right fun hx => ?_
          rw [stays_withTenant hr hx]
      | none =>
          dsimp only
          rw [resolves_some, isolated_created, CreateData.Stays, hif]
          refine and_congr_right fun hd => ?_
          rw [stays_created hd]
  | delete a =>
      rw [resolved, Option.forall_mem_map, Confined, reach_empty]
      refine forall₂_congr fun r hr => ?_
      rw [Isolated, within_cons, within_cons, hif]
      simp [Within, and_comm]
  | deleteMany a =>
      rw [resolved, resolves_some, isolated_deleted, Confined, hif, reach_empty]
  | aggregate a | count a | groupBy a =>
      rw [resolved, resolves_some, isolated_returned, Confined, hif, reach_empty]

/-- The operations through the extension that return, update and delete rows of the tenant
only, whatever the client does at calls that throw. -/
theorem createTenantExtension_isolates_iff {model : String} (hmodel : model ∉ GLOBAL_MODELS)
    (t : String) (table : List (Row C)) (op : Operation C) :
    (∀ query, Documented table query →
      ∀ out ∈ createTenantExtension (some t) model query op, Isolated t out) ↔
      Confined t table op := by
  by_cases ht : t = ""
  · subst ht
    rw [← isolated_empty]
    refine ⟨fun h => h _ (documented_resolved table), fun h query hquery out hout => ?_⟩
    rw [extension_empty] at hout
    exact h out (hquery _ _ hout)
  · rw [← isolated_tenant ht]
    constructor
    · intro h out hout
      refine h _ (documented_resolved table) out ?_
      rwa [extension_tenant ht hmodel]
    · intro h query hquery out hout
      rw [extension_tenant ht hmodel] at hout
      exact h out (hquery _ _ hout)

/-! ## Two tenants -/

namespace Sample

def b1 : Row Unit := ⟨"b1", some "t1", ()⟩

def b2 : Row Unit := ⟨"b2", some "t2", ()⟩

def bookings : List (Row Unit) := [b1, b2]

/-- `findMany()`. -/
def all : Operation Unit :=
  .findMany ⟨⟨none, fun _ => true⟩, ⟨id, fun h => h⟩, fun _ => []⟩

/-- `findUnique({ where: { id: 'b2' } })`. -/
def second : Operation Unit :=
  .findUnique ⟨⟨none, fun r => r.id == "b2"⟩, fun _ => []⟩

end Sample

/-- `findMany` under `t1` returns the booking of `t1` and no other. -/
theorem createTenantExtension_isolates_findMany :
    (createTenantExtension (some "t1") "Booking" (resolved Sample.bookings) Sample.all).map
        (·.returned) = some [Sample.b1] ∧
      ∀ out ∈ createTenantExtension (some "t1") "Booking" (resolved Sample.bookings) Sample.all,
        Isolated "t1" out := by
  have hmodel : "Booking" ∉ GLOBAL_MODELS := by decide
  refine ⟨by decide, ?_⟩
  refine (createTenantExtension_isolates_iff hmodel "t1" Sample.bookings Sample.all).mpr
    (fun r _ => ⟨fun h => absurd h (by decide), fun s hs => ?_⟩) _ (documented_resolved _)
  cases hs

/-- `findUnique` under `t1` returns the booking of `t2`. -/
theorem createTenantExtension_not_isolating :
    ¬ ∀ (model : String), model ∉ GLOBAL_MODELS → ∀ (t : String) (table : List (Row Unit))
      (op : Operation Unit) (query : Operation Unit → Option (Outcome Unit)),
      Documented table query →
        ∀ out ∈ createTenantExtension (some t) model query op, Isolated t out := by
  intro h
  have hout := h "Booking" (by decide) "t1" Sample.bookings Sample.second _
    (documented_resolved _) _ rfl
  have hb2 : Sample.b2.tenantId = some "t1" := hout.1 Sample.b2 (by decide)
  exact absurd hb2 (by decide)

end Omnipax.TenantExtension
