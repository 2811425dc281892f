import Omnipax.Directory

/-!
# Tables with a unique key

A service looks whether a key is taken, and creates the row only then. Between the two
another call may have taken the key: that a key is in the table once, and was put there
by one call, is what the unique index of the table sees to. What a call can rely on is
stated here for any table rows are added to under new keys only.
-/

namespace Omnipax.Directory

open Conc Database Prog

section Tables

variable {β : Type} {T : DirectoryData → List β} {k : β → String} {P : DirectoryPlatform}
  {i : Nat} {op : DirectoryOp} {s : DirectorySnap} {row : β}

/-- Rows are added to the table, each under a new key, and never changed. -/
structure Keyed (T : DirectoryData → List β) (k : β → String) : Prop where
  created : ∀ {q : DirectoryStmt} {d d' : DirectoryData}, Created q d d' →
    T d' = T d ∨ ∃ row, T d' = T d ++ [row] ∧ k row ∉ (T d).map k
  applied : ∀ (w : DirectoryWrite) (d : DirectoryData), T d <+: T (directoryDb.apply w d)
  ticked : ∀ (t : Nat) (d : DirectoryData), T (tick t d) = T d

/-- The event has appended the row to the table and done nothing else to it. -/
def Adds (T : DirectoryData → List β) (e : DirectoryEvent) (row : β) : Prop :=
  T (directoryDb.step e.cmd e.oracle e.before).2.data = T e.before.data ++ [row]

/-- The invariant of a table with a unique column: no key comes twice, rows are never taken
away, and whatever key has been added was new and was added by one call alone. -/
structure Registered (T : DirectoryData → List β) (k : β → String) (s : DirectorySnap) : Prop where
  nodup : ((T s.world.data).map k).Nodup
  earlier : ∀ e ∈ s.hist, T e.before.data <+: T s.world.data
  added : ∀ e ∈ s.hist, ∀ row, Adds T e row →
    k row ∉ (T e.before.data).map k ∧ row ∈ T s.world.data
  once : ∀ e ∈ s.hist, ∀ e' ∈ s.hist, ∀ row row', Adds T e row → Adds T e' row' →
    k row = k row' → e.tid = e'.tid

theorem Keyed.rows_persistent (hT : Keyed T k) (l : List β) :
    Persistent (directory P) fun s => l <+: T s.world.data where
  exec {s} h i op c o := by
    show l <+: T (directoryDb.step c o s.world).2.data
    exact data_of_forall (I := fun d : DirectoryData => l <+: T d)
      (fun w d hd => hd.trans (hT.applied w d)) c o h
  env {s} h e := by
    cases e with
    | data t =>
        show l <+: T (tick t s.world.data)
        rwa [hT.ticked]
    | abort tx => exact h

theorem Keyed.row_persistent (hT : Keyed T k) (row : β) :
    Persistent (directory P) fun s => row ∈ T s.world.data where
  exec {s} h i op c o := by
    have hkept := (hT.rows_persistent (P := P) (T s.world.data)).exec (List.prefix_refl _) i op c o
    exact hkept.subset h
  env {s} h e := by
    have hkept := (hT.rows_persistent (P := P) (T s.world.data)).env (List.prefix_refl _) e
    exact hkept.subset h

theorem Registered.found (h : Registered T k s) {e : DirectoryEvent} (he : e ∈ s.hist) :
    ((T e.before.data).map k).Nodup :=
  h.nodup.sublist ((h.earlier e he).sublist.map k)

theorem Registered.exec (hT : Keyed T k) (h : Registered T k s) {c : TxCmd DirectoryStmt}
    (hc : Fit c) (o : DirectoryOracle) : Registered T k (s.exec (directory P) i op c o) := by
  obtain ⟨q, rfl, -⟩ := hc
  have hstep := hT.created (created_step q o s.world)
  have hkeep : T s.world.data <+: T (s.exec (directory P) i op (.stmt none q) o).world.data :=
    (hT.rows_persistent _).exec (List.prefix_refl _) ..
  have hnew : ∀ row, Adds T ⟨i, op, .stmt none q, o, s.world⟩ row →
      k row ∉ (T s.world.data).map k ∧
        row ∈ T (s.exec (directory P) i op (.stmt none q) o).world.data := by
    intro row hrow
    have hadd : T (directoryDb.step (.stmt none q) o s.world).2.data = T s.world.data ++ [row] :=
      hrow
    refine ⟨?_, ?_⟩
    · rcases hstep with hsame | ⟨row', hadd', hkey⟩
      · rw [hsame] at hadd
        simp at hadd
      · obtain rfl := List.singleton_inj.mp (List.append_cancel_left (hadd.symm.trans hadd'))
        exact hkey
    · rw [Snap.exec_world, show (directory P).exec = directoryDb.step from rfl, hadd]
      exact List.mem_append_right _ (List.mem_singleton_self _)
  have hold : ∀ e ∈ s.hist, ∀ row, Adds T e row → k row ∈ (T s.world.data).map k :=
    fun e he row hrow => List.mem_map_of_mem (h.added e he row hrow).2
  refine ⟨?_, fun e he => ?_, fun e he row hrow => ?_,
    fun e he e' he' row row' hrow hrow' hkey => ?_⟩
  · show ((T (directoryDb.step (.stmt none q) o s.world).2.data).map k).Nodup
    rcases hstep with hsame | ⟨row, hadd, hkey⟩
    · rw [hsame]
      exact h.nodup
    · rw [hadd, List.map_append]
      exact h.nodup.append (List.nodup_singleton _) (List.disjoint_singleton.mpr hkey)
  · rcases List.mem_cons.mp he with rfl | he
    · exact hkeep
    · exact (h.earlier e he).trans hkeep
  · rcases List.mem_cons.mp he with rfl | he
    · exact hnew row hrow
    · exact ⟨(h.added e he row hrow).1, hkeep.subset (h.added e he row hrow).2⟩
  · rcases List.mem_cons.mp he with rfl | he <;> rcases List.mem_cons.mp he' with rfl | he'
    · rfl
    · exact absurd (hkey ▸ hold e' he' row' hrow') (hnew row hrow).1
    · exact absurd (hkey ▸ hold e he row hrow) (hnew row' hrow').1
    · exact h.once e he e' he' row row' hrow hrow' hkey

theorem Registered.env (hT : Keyed T k) (h : Registered T k s) (e : DbEnv Nat) :
    Registered T k (s.env (directory P) e) := by
  have hsame : T (s.env (directory P) e).world.data = T s.world.data := by
    cases e with
    | data t => exact hT.ticked t s.world.data
    | abort tx => rfl
  refine ⟨hsame ▸ h.nodup, fun e he => hsame ▸ h.earlier e he, fun e he row hrow => ?_, h.once⟩
  exact ⟨(h.added e he row hrow).1, hsame ▸ (h.added e he row hrow).2⟩

theorem registered_idle {d : DirectoryData} (hd : ((T d).map k).Nodup) :
    Registered T k (⟨.idle d, []⟩ : DirectorySnap) :=
  ⟨hd, fun _ h => absurd h List.not_mem_nil, fun _ h => absurd h List.not_mem_nil,
    fun _ h => absurd h List.not_mem_nil⟩

/-- What is in the table, every call finds that begins later. -/
theorem Keyed.found_later (hT : Keyed T k) {cfg : DirectoryConfig}
    (hfresh : ∀ e ∈ cfg.hist, e.tid < cfg.threads.length) (hrow : row ∈ T cfg.world.data)
    (after : List DirectoryLabel) :
    ∀ e ∈ (cfg.run (directory P) after).hist, cfg.threads.length ≤ e.tid →
      row ∈ T e.before.data := by
  intro e he hlate
  refine (Persistent.found (P := fun w : DirectoryStore => row ∈ T w.data)
    (hT.row_persistent row) hrow after e he).resolve_left fun hold => ?_
  exact absurd (hfresh e hold) (Nat.not_lt.mpr hlate)

theorem find_keyed {l : List β} (hl : (l.map k).Nodup) (hrow : row ∈ l) {key : String}
    (hkey : k row = key) : l.find? (fun row' => k row' == key) = some row := by
  cases h : l.find? (fun row' => k row' == key) with
  | none => exact absurd hkey (by simpa using List.find?_eq_none.mp h row hrow)
  | some row' =>
      have hkey' : k row' = key := eq_of_beq (List.find?_some h : _)
      rw [List.inj_on_of_nodup_map hl (List.mem_of_find?_eq_some h) hrow (hkey'.trans hkey.symm)]

end Tables

/-! ## The tables of the directory -/

theorem tenants_keyed : Keyed (·.tenants) (·.slug) where
  created h := by
    cases h with
    | same => exact Or.inl rfl
    | user _ _ => exact Or.inl rfl
    | @tenant row _ _ hslug => exact Or.inr ⟨row, rfl, hslug⟩
    | event _ _ _ _ => exact Or.inl rfl
  applied w d := by
    cases w with
    | user row => exact List.prefix_refl _
    | tenant row => exact List.prefix_append ..
    | event row seats => exact List.prefix_refl _
  ticked _ _ := rfl

theorem events_keyed : Keyed (·.events) (·.id) where
  created h := by
    cases h with
    | same => exact Or.inl rfl
    | user _ _ => exact Or.inl rfl
    | tenant _ _ _ => exact Or.inl rfl
    | @event c cuid _ hid _ _ => exact Or.inr ⟨c.row (cuid 0).text _, rfl, hid⟩
  applied w d := by
    cases w with
    | user row => exact List.prefix_refl _
    | tenant row => exact List.prefix_refl _
    | event row seats => exact List.prefix_append ..
  ticked _ _ := rfl

/-! ## Calls -/

section Calls

variable {P : DirectoryPlatform} {O : DirectoryOutline} {i : Nat} {op : DirectoryOp}
  {s : DirectorySnap} {α : Type} {Q : α → DirectorySnap → Prop}
  {E : DirectoryExn → DirectorySnap → Prop} {G : DirectorySnap → Prop} {q : DirectoryStmt}

theorem asked_ok {o : DirectoryOracle} {w : DirectoryStore} {a : q.Ret}
    (hok : (directoryDb.step (.stmt none q) o w).1 = .ok a) :
    (q.exec o w.data).1 = .ok a ∧ (directoryDb.step (.stmt none q) o w).2.data
      = directoryDb.applyAll (q.exec o w.data).2 w.data := by
  obtain ⟨hexec, hworld⟩ := query_ok hok
  exact ⟨hexec, congrArg Store.data hworld⟩

theorem wp_unobserved {Q : Answer → DirectorySnap → Prop}
    (hpre : ∀ c s, Fit c → O.pre i op c s) (hQ : ∀ reply s, Q reply s) :
    (op.body P).wp (directory P) O i op Q (fun _ _ => True) s :=
  (fine_of_all (all_call P op).attempt fun c hc s _ => hpre c s hc).mono
    (fun _ _ _ _ => hQ _ _) fun _ _ _ h => h

/-- A statement, of a call that knows `G` for good. -/
theorem wp_ask {f : q.Ret → DirectoryM α} (hpre : ∀ s, O.pre i op (.stmt none q) s)
    (hE : ∀ e, Persistent (directory P) (E e)) (hG : Persistent (directory P) G) (hs : G s)
    (hok : ∀ s o a, O.inv s → G s → (directoryDb.step (.stmt none q) o s.world).1 = .ok a →
      (f a).wp (directory P) O i op Q E (s.exec (directory P) i op (.stmt none q) o))
    (herr : ∀ s o e, G s → (directoryDb.step (.stmt none q) o s.world).1 = .error e →
      E (.step e) (s.exec (directory P) i op (.stmt none q) o)) :
    (ask q >>= f).wp (directory P) O i op Q E s := by
  refine wp_call hG.stable hs (fun s _ _ => hpre s) fun s o hinv hs _ _ => ?_
  cases h : ((directory P).exec (.stmt none q) o s.world).1 with
  | ok a => exact hok s o a hinv hs h
  | error e => exact fun s' hs' _ => (hE (.step e)).stable.star hs' (herr s o e hs h)

/-- The last statement of a call, whose answer is the call's. -/
theorem wp_asked {Q : q.Ret → DirectorySnap → Prop} (hpre : ∀ s, O.pre i op (.stmt none q) s)
    (hQ : ∀ a, Persistent (directory P) (Q a))
    (hok : ∀ (s : DirectorySnap) o a, (directoryDb.step (.stmt none q) o s.world).1 = .ok a →
      Q a (s.exec (directory P) i op (.stmt none q) o)) :
    (ask q).wp (directory P) O i op Q (fun _ _ => True) s := by
  rw [← Prog.bind_ret (ask q)]
  refine wp_ask hpre (fun _ => persistent_true) persistent_true trivial (fun s o a _ _ h => ?_)
    fun _ _ _ _ _ => trivial
  exact wp_ret (hQ a).stable (hok s o a h) fun _ _ h => h

theorem wp_throw {e : DirectoryExn} (hE : Persistent (directory P) (E e)) (h : E e s) :
    (throw e : DirectoryM α).wp (directory P) O i op Q E s :=
  fun _ hs' _ => hE.stable.star hs' h

end Calls

end Omnipax.Directory
