import Omnipax.Revenue

/-!
# Whose payment it is

A ledger row and a payment event each name a booking and a tenant. The tenant
comes from the notes of a payment, from the arguments of a call or from the
booking; whichever way, a transaction that enters such a row has looked up the
booking before it commits. Bookings never change their tenant, so what a call
has read of it once is true for good: no payment, refund or event is ever
booked on a tenant whose booking it is not.
-/

namespace Omnipax.Payments.Tenancy

open Conc Prog Database

/-! ## Claims -/

abbrev Claim := String × String

/-- The booking that a claim names is there, and it is a booking of the tenant that the
claim names. -/
def Owner (d : PayData) (m : Claim) : Prop :=
  ∃ b ∈ d.bookings.rows, b.id = m.1 ∧ b.tenantId = some m.2

instance (d : PayData) (m : Claim) : Decidable (Owner d m) :=
  inferInstanceAs (Decidable (∃ b ∈ _, _))

/-- What the ledger and the payment events say of bookings: each of their rows names one
with a tenant. -/
def claimed (d : PayData) : List Claim :=
  d.paymentLedger.map (fun e => (e.bookingId, e.tenantId)) ++
    d.paymentEvents.map fun e => (e.bookingId, e.tenantId)

def owners (d : PayData) : List (String × Option String) :=
  d.bookings.rows.map fun b => (b.id, b.tenantId)

def claim? : PayWrite → Option Claim
  | .ledger row => some (row.bookingId, row.tenantId)
  | .paymentEvent row => some (row.bookingId, row.tenantId)
  | _ => none

/-- What a statement would have recorded. -/
def claims : PayStmt → List Claim
  | .ledgerCreateMany data => data.map fun e => (e.bookingId, e.tenantId)
  | .paymentEventCreate _ bookingId _ tenantId => [(bookingId, tenantId)]
  | _ => []

section Claims

variable {w : PayWrite} {ws : List PayWrite} {d d' : PayData} {q : PayStmt} {o : PayOracle} {m : Claim}

theorem owner_iff : Owner d m ↔ (m.1, some m.2) ∈ owners d := by
  rw [owners, List.mem_map]
  exact exists_congr fun b => and_congr_right' Prod.mk_inj.symm

theorem owners_apply (w : PayWrite) (d : PayData) : owners (payDb.apply w d) = owners d := by
  cases w with
  | booking id u =>
      show (d.bookings.rows.map _).map _ = _
      rw [List.map_map]
      exact List.map_congr_left fun b _ => by
        simp only [Function.comp_apply]
        split <;> rfl
  | _ => rfl

theorem owners_applyAll (ws : List PayWrite) (d : PayData) :
    owners (payDb.applyAll ws d) = owners d :=
  applyAll_of_forall (I := fun d' => owners d' = owners d)
    (fun w _ d' hd' => (owners_apply w d').trans hd') rfl

theorem mem_claimed_apply
    (h : m ∈ claimed (payDb.apply w d)) : m ∈ claimed d ∨ claim? w = some m := by
  cases w with
  | ledger row =>
      have h : m ∈ (d.paymentLedger ++ [row]).map _ ++ _ := h
      rw [List.map_append, List.mem_append, List.mem_append, List.map_singleton, List.mem_singleton] at h
      rcases h with (h | rfl) | h
      · exact Or.inl (List.mem_append_left _ h)
      · exact Or.inr rfl
      · exact Or.inl (List.mem_append_right _ h)
  | paymentEvent row =>
      have h : m ∈ _ ++ (d.paymentEvents ++ [row]).map _ := h
      rw [List.map_append, List.mem_append, List.mem_append, List.map_singleton, List.mem_singleton] at h
      rcases h with h | h | rfl
      · exact Or.inl (List.mem_append_left _ h)
      · exact Or.inl (List.mem_append_right _ h)
      · exact Or.inr rfl
  | paymentEventProcessed id =>
      have hsame : ((payDb.apply (.paymentEventProcessed id) d).paymentEvents.map fun e =>
          (e.bookingId, e.tenantId)) = d.paymentEvents.map fun e => (e.bookingId, e.tenantId) := by
        show (d.paymentEvents.map _).map _ = _
        rw [List.map_map]
        exact List.map_congr_left fun e _ => by
          simp only [Function.comp_apply]
          split <;> rfl
      rw [claimed, hsame] at h
      exact Or.inl h
  | _ => exact Or.inl h

theorem mem_claimed_applyAll (h : m ∈ claimed (payDb.applyAll ws d)) :
    m ∈ claimed d ∨ ∃ w ∈ ws, claim? w = some m := by
  induction ws generalizing d with
  | nil => exact Or.inl h
  | cons w ws ih =>
      rw [applyAll_cons] at h
      rcases ih h with h | ⟨w', hw', hm⟩
      · exact (mem_claimed_apply h).imp_right fun hm => ⟨w, List.mem_cons_self .., hm⟩
      · exact Or.inr ⟨w', List.mem_cons_of_mem _ hw', hm⟩

theorem claim_exec (hw : w ∈ (payDb.exec q o d).2) (hm : claim? w = some m) : m ∈ claims q := by
  have hwrites := writes_exec hw
  cases w with
  | ledger row =>
      cases q with
      | ledgerCreateMany data =>
          obtain rfl := Option.some.inj hm
          exact List.mem_map_of_mem hwrites
      | _ => cases hwrites
  | paymentEvent row =>
      cases q with
      | paymentEventCreate razorpayEventId bookingId eventType tenantId =>
          change PayWrite.paymentEvent row ∈ (PayStmt.exec o d _).2 at hw
          simp only [PayStmt.exec] at hw
          split at hw
          · cases hw
          · cases List.mem_singleton.mp hw
            exact List.mem_singleton.mpr (Option.some.inj hm).symm
      | _ => cases hwrites
  | _ => cases hm

theorem claims_of_not_records (hq : q.records = false) : claims q = [] := by
  cases q <;> first | rfl | cases hq

theorem mem_rowsRead {a : q.Ret} (h : (payDb.exec q o d).1 = .ok a) {b : Booking}
    (hb : b ∈ q.rowsRead a) : b ∈ d.bookings.rows := by
  have hfind : ∀ {p : Booking → Bool}, (d.bookings.rows.find? p).toList ⊆ d.bookings.rows :=
    fun hb => List.mem_of_find?_eq_some (Option.mem_toList.mp hb)
  cases q with
  | bookingFindUnique id =>
      obtain rfl := Except.ok.inj h
      exact hfind hb
  | bookingFindByOrder id =>
      obtain rfl := Except.ok.inj h
      exact hfind hb
  | bookingFindByPayment id =>
      obtain rfl := Except.ok.inj h
      exact hfind hb
  | bookingFindWithSeats id =>
      obtain rfl := Except.ok.inj h
      obtain ⟨found, hfound, rfl⟩ := List.mem_map.mp hb
      obtain ⟨b', hb', rfl⟩ := Option.map_eq_some_iff.mp (Option.mem_toList.mp hfound)
      exact List.mem_of_find?_eq_some hb'
  | bookingFindExpired now =>
      obtain rfl := Except.ok.inj h
      exact (List.mem_filter.mp ((shuffle_perm o.order _).subset hb)).1
  | bookingFindStale cutoff | bookingFindPendingRefunds | bookingFindAutoExpiry now
  | bookingFindStalePending cutoff =>
      obtain rfl := Except.ok.inj h
      exact (mem_oldest hb).1
  | _ => cases hb

end Claims

/-! ## What a call has read -/

/-- The booking is in an answer. -/
def Seen (b : Booking) (t : Transcript payDb.sig) : Prop :=
  ∃ (tx : Option Nat) (q : PayStmt) (r : q.Ret),
    (⟨.stmt tx q, .ok r⟩ : (c : TxCmd PayStmt) × payDb.Resp c) ∈ t ∧ b ∈ q.rowsRead r

/-- A booking that has been read bears the claim out. -/
def Known (t : Transcript payDb.sig) (m : Claim) : Prop :=
  ∃ b, Seen b t ∧ b.id = m.1 ∧ b.tenantId = some m.2

/-- What has been read stays read. -/
def Later (t t' : Transcript payDb.sig) : Prop := ∀ b, Seen b t → Seen b t'

/-- The call knows of all it has recorded, but for `M`. -/
def Clear (M : List Claim) (t : Transcript payDb.sig) : Prop :=
  ∀ tx q r, (⟨.stmt tx q, r⟩ : (c : TxCmd PayStmt) × payDb.Resp c) ∈ t →
    ∀ m ∈ claims q, m ∈ M ∨ Known t m

/-- The reason of a command: transactions are the call's own, and nothing is
committed before all that is recorded is known. -/
structure TenancyOk (t : Transcript payDb.sig) (c : TxCmd PayStmt) : Prop where
  own : ∀ tx, c.tx? = some tx → Began tx t
  auto : ∀ q, c = .stmt none q → ∀ m ∈ claims q, Known t m
  commit : ∀ tx, c = .commit tx → Clear [] t

section Reasons

variable {t t' t'' : Transcript payDb.sig} {b : Booking} {m : Claim} {M M' : List Claim} {q : PayStmt}
  {tx : Option Nat} {n : Nat} {c : TxCmd PayStmt} {α β : Type}

theorem Seen.cons (h : Seen b t) (said : (c : TxCmd PayStmt) × payDb.Resp c) : Seen b
    (said :: t) := by
  obtain ⟨tx, q, r, hsaid, hb⟩ := h
  exact ⟨tx, q, r, List.mem_cons_of_mem _ hsaid, hb⟩

theorem Known.cons (h : Known t m) (said : (c : TxCmd PayStmt) × payDb.Resp c) :
    Known (said :: t) m := by
  obtain ⟨b, hb, hm⟩ := h
  exact ⟨b, hb.cons said, hm⟩

theorem Later.known (h : Later t t') (hm : Known t m) : Known t' m := by
  obtain ⟨b, hb, hm⟩ := hm
  exact ⟨b, h b hb, hm⟩

theorem clear_nil : Clear M [] := fun _ _ _ h => absurd h List.not_mem_nil

theorem Clear.mono (h : Clear M t) (hM : ∀ m ∈ M, m ∈ M' ∨ Known t m) : Clear M' t :=
  fun tx q r hsaid m hm => (h tx q r hsaid m hm).elim (hM m) Or.inr

/-- A command that records `M` at most, and what is known. -/
theorem Clear.cons (h : Clear M t) {r : payDb.Resp c}
    (hc : Stmts (fun q => ∀ m ∈ claims q, m ∈ M ∨ Known t m) c) : Clear M (⟨c, r⟩ :: t) := by
  intro tx q r' hsaid m hm
  rcases List.mem_cons.mp hsaid with hsaid | hsaid
  · obtain ⟨rfl, -⟩ := Sigma.mk.inj hsaid
    exact (hc m hm).imp_right fun hk => hk.cons _
  · exact (h tx q r' hsaid m hm).imp_right fun hk => hk.cons _

theorem tenancyOk_stmt (htx : Begun tx t) (hq : tx = none → ∀ m ∈ claims q, Known t m) :
    TenancyOk t (.stmt tx q) := by
  refine ⟨fun n hn => htx n hn, ?_, ?_⟩
  · intro q' h
    obtain ⟨rfl, rfl⟩ := TxCmd.stmt.inj h
    exact hq rfl
  · intro n h
    cases h

theorem tenancyOk_begin : TenancyOk t .begin := by
  refine ⟨?_, ?_, ?_⟩ <;> intro _ h <;> cases h

theorem tenancyOk_rollback (h : Began n t) : TenancyOk t (.rollback n) := by
  refine ⟨?_, ?_, ?_⟩
  · rintro _ ⟨⟩
    exact h
  all_goals
    intro _ h
    cases h

theorem tenancyOk_commit (h : Began n t) (ht : Clear [] t) : TenancyOk t (.commit n) := by
  refine ⟨?_, ?_, fun _ _ => ht⟩
  · rintro _ ⟨⟩
    exact h
  · intro _ h
    cases h

/-! ### Rules -/

abbrev Told (p : PayM α) (Q : α → Transcript payDb.sig → Prop)
    (T : PayExn → Transcript payDb.sig → Prop) (t : Transcript payDb.sig) : Prop :=
  p.told TenancyOk Can Q T t

/-- A program that ends with nothing recorded that is not known. -/
abbrev Tidy (p : PayM α) (t : Transcript payDb.sig) : Prop :=
  Told p (fun _ => Clear []) (fun _ => Clear []) t

/-- All that the program records is among `M`. -/
abbrev Records (M : List Claim) (p : PayM α) : Prop := p.All (Stmts fun q => claims q ⊆ M)

theorem subset_of_not_records {q : PayStmt} (hq : q.records = false) : claims q ⊆ M := by
  rw [claims_of_not_records hq]
  exact List.nil_subset M

theorem common_records : Common fun q => claims q ⊆ M := fun q hq =>
  subset_of_not_records (by cases q <;> first | rfl | cases hq)

theorem records_ask (hq : claims q = []) : Records M (ask tx q) := by
  refine all_query ?_
  rw [hq]
  exact List.nil_subset M

/-- A program that records what is known, with reasons of another kind for its
transactions. -/
theorem tidy_of_safe (op : StatusOp) {p : PayM α} (hp : Safe op p t) (hall : Records M p)
    (ht : Clear [] t)
    (hM : ∀ m ∈ M, Known t m) : Tidy p t := by
  induction p generalizing t with
  | ret a => exact ht
  | err e => exact ht
  | call c k ih =>
      have hc : ∀ r, Clear [] (⟨c, r⟩ :: t) := fun r => ht.cons (by
        cases c with
        | stmt tx q => exact fun m hm => Or.inr (hM m (hall.1 hm))
        | _ => trivial)
      refine ⟨⟨hp.1.own, ?_, fun _ _ => ht⟩, fun r hr => ih r (hp.2 r hr) (hall.2 r) (hc r)
        fun m hm => (hM m hm).cons _⟩
      intro q hq m hm
      subst hq
      exact hM m (hall.1 hm)

variable {Q : β → Transcript payDb.sig → Prop} {T : PayExn → Transcript payDb.sig → Prop}

/-- Where a call has come to in transaction `n`, with `M` recorded. -/
structure Inside (n : Nat) (M : List Claim) (t : Transcript payDb.sig) : Prop where
  began : Began n t
  clear : Clear M t

theorem Inside.done (h : Inside n M t) (hM : ∀ m ∈ M, Known t m) : Inside n [] t :=
  ⟨h.began, h.clear.mono fun m hm => Or.inr (hM m hm)⟩

theorem Inside.mono (h : Inside n M t) (hM : M ⊆ M') : Inside n M' t :=
  ⟨h.began, h.clear.mono fun _ hm => Or.inl (hM hm)⟩

theorem told_stmt {f : q.Ret → PayM β} (htx : tx = none ∧ claims q = [] ∨ tx = some n)
    (hn : Inside n M t) (hq : claims q ⊆ M) (hM : M ⊆ M')
    (hok : ∀ a t', Inside n M t' → Later t t' → (∀ b ∈ q.rowsRead a, Seen b t') →
      (∃ (o : PayOracle) (d : PayData), (payDb.exec q o d).1 = .ok a) →
        Told (f a) Q (fun _ => Inside n M') t') :
    Told (ask tx q >>= f) Q (fun _ => Inside n M') t := by
  have hafter : ∀ r, Inside n M (⟨.stmt tx q, r⟩ :: t) := fun r =>
    ⟨hn.began.cons _, hn.clear.cons fun m hm => Or.inl (hq hm)⟩
  have hbegun : Begun tx t := by
    rcases htx with ⟨rfl, -⟩ | rfl
    · exact begun_none
    · rintro _ ⟨⟩
      exact hn.began
  refine told_query (tenancyOk_stmt hbegun ?_) (fun a o d hexec => ?_) fun e => (hafter _).mono hM
  · rintro rfl
    rw [(htx.resolve_right nofun).2]
    exact fun _ hm => absurd hm List.not_mem_nil
  · exact hok a _ (hafter _) (fun b hb => hb.cons _)
      (fun b hb => ⟨tx, q, a, List.mem_cons_self .., hb⟩) ⟨o, d, hexec⟩

theorem told_transact {p : Nat → PayM β} (ht : Clear M t) (hM : M ⊆ M')
    (hbody : ∀ n t', Inside n M t' → Later t t' →
      Told (p n) (fun _ => Inside n []) (fun _ => Inside n M') t') :
    Told (inTransaction p) (fun _ => Clear []) (fun _ => Clear M') t := by
  have hweak : ∀ {t}, Clear M t → Clear M' t := fun h => h.mono fun m hm => Or.inl (hM hm)
  refine told_transaction_of tenancyOk_begin (fun _ _ h => tenancyOk_rollback h) (fun n _ => ?_)
    fun _ => hweak (ht.cons trivial)
  refine told_mono (hbody n _ ⟨List.mem_cons_self .., ht.cons trivial⟩ fun b hb => hb.cons _)
    (fun a t h => ?_) fun e t h => ⟨h.began, h.clear.cons trivial⟩
  have hafter : ∀ r, Clear [] (⟨.commit n, r⟩ :: t) := fun r => h.clear.cons trivial
  exact ⟨tenancyOk_commit h.began h.clear, fun r => ⟨hafter r, fun _ =>
    (hafter r).mono fun _ hm => absurd hm List.not_mem_nil⟩⟩

theorem told_later {p : PayM β} (h : Told p Q T t) :
    Told p (fun a t' => Q a t' ∧ Later t t') (fun e t' => T e t' ∧ Later t t') t :=
  told_keep h (all_true p) (F := Later t) (fun _ _ _ _ _ h b hb => (h b hb).cons _) fun _ hb => hb

theorem tidy_bind {p : PayM α} {f : α → PayM β} (hp : Tidy p t)
    (h : ∀ a t', Clear [] t' → Later t t' → Tidy (f a) t') : Tidy (p >>= f) t :=
  told_bind.mpr (told_mono (told_later hp) (fun a t' h' => h a t' h'.1 h'.2) fun _ _ h' => h'.1)

theorem tidy_attempt {p : PayM α} {f : Except PayExn α → PayM β} (hp : Tidy p t)
    (h : ∀ x t', Clear [] t' → Later t t' → Tidy (f x) t') : Tidy (p.attempt >>= f) t :=
  told_bind.mpr (told_attempt.mpr (told_mono (told_later hp) (fun _ t' h' => h _ t' h'.1 h'.2)
    fun _ t' h' => h _ t' h'.1 h'.2))

theorem tidy_mapM {f : α → PayM β} {l : List α} (ht : Clear [] t)
    (h : ∀ a ∈ l, ∀ t', Clear [] t' → Later t t' → Tidy (f a) t') : Tidy (l.mapM f) t := by
  refine told_mono (told_mapM' (F := fun t' => Clear [] t' ∧ Later t t')
    (E := fun _ t' => Clear [] t' ∧ Later t t') (fun a ha t' ht' => ?_) ⟨ht, fun _ hb => hb⟩)
    (fun _ _ h => h.1) fun _ _ h => h.1
  exact told_mono (told_later (h a ha t' ht'.1 ht'.2))
    (fun _ _ h' => ⟨h'.1, fun b hb => h'.2 b (ht'.2 b hb)⟩)
    fun _ _ h' => ⟨h'.1, fun b hb => h'.2 b (ht'.2 b hb)⟩

theorem tidy_ask {f : q.Ret → PayM β} (ht : Clear [] t) (hq : claims q = [])
    (h : ∀ a t', Clear [] t' → Later t t' → (∀ b ∈ q.rowsRead a, Seen b t') →
      (∃ (o : PayOracle) (d : PayData), (payDb.exec q o d).1 = .ok a) → Tidy (f a) t') :
    Tidy (ask none q >>= f) t := by
  have hafter : ∀ r, Clear [] (⟨.stmt none q, r⟩ :: t) := fun r => ht.cons fun m hm => by
    rw [hq] at hm
    cases hm
  refine told_query (tenancyOk_stmt begun_none fun _ m hm => ?_) (fun a o d hexec => ?_)
    fun e => hafter _
  · rw [hq] at hm
    cases hm
  · exact h a _ (hafter _) (fun b hb => hb.cons _)
      (fun b hb => ⟨none, q, a, List.mem_cons_self .., hb⟩) ⟨o, d, hexec⟩

theorem tidy_last (ht : Clear [] t) (hq : claims q = []) : Tidy (ask none q) t := by
  rw [← bind_ret (ask none q)]
  exact tidy_ask ht hq fun _ _ ht _ _ _ => ht

end Reasons

/-! ## The calls -/

section Calls

variable {t : Transcript payDb.sig} {bookingId tenantId : String} {α : Type}

theorem id_of_found {b : Booking}
    (h : ∃ (o : PayOracle) (d : PayData), (payDb.exec (.bookingFindUnique bookingId) o d).1 = .ok (some b)) :
    b.id = bookingId := by
  obtain ⟨o, d, hexec⟩ := h
  exact (BookingTable.mem_of_find (Except.ok.inj hexec)).2

/-! ### The webhook -/

/-- The tenant of the event is recorded first, and checked then. -/
theorem told_processPaymentSuccess {paymentId signature : String}
    (ht : Clear [(bookingId, tenantId)] t) :
    Told (processPaymentSuccess bookingId paymentId signature tenantId) (fun _ => Clear [])
      (fun _ => Clear [(bookingId, tenantId)]) t := by
  have hall : [(bookingId, tenantId)] ⊆ [(bookingId, tenantId)] := List.Subset.refl _
  refine told_transact ht hall fun n t hin _ => ?_
  refine told_stmt (Or.inr rfl) hin (List.nil_subset _) hall fun found t hin _ hseen hfound => ?_
  cases found with
  | none => exact hin
  | some booking =>
      dsimp only
      split
      · exact hin
      · rename_i htenant
        have hk : Known t (bookingId, tenantId) :=
          ⟨booking, hseen booking (List.mem_singleton_self _), id_of_found hfound, not_ne_iff.mp htenant⟩
        have hdone : ∀ {t'}, Inside n [(bookingId, tenantId)] t' → Later t t' → Inside n [] t' :=
          fun hin hl => hin.done fun m hm => List.mem_singleton.mp hm ▸ hl.known hk
        split
        · refine told_stmt (Or.inl ⟨rfl, rfl⟩) hin (List.nil_subset _) hall fun now t hin h₁ _ _ => ?_
          refine told_stmt (Or.inr rfl) hin (List.nil_subset _) hall fun _ t hin h₂ _ _ => ?_
          refine told_stmt (Or.inr rfl) hin (List.nil_subset _) hall fun _ t hin h₃ _ _ => ?_
          refine told_stmt (Or.inr rfl) hin (List.nil_subset _) hall fun _ t hin h₄ _ _ => ?_
          refine told_stmt (Or.inr rfl) hin hall hall fun _ t hin h₅ _ _ => ?_
          exact hdone hin fun b hb => h₅ b (h₄ b (h₃ b (h₂ b (h₁ b hb))))
        · split
          · refine told_stmt (Or.inr rfl) hin (by simp [claims, paymentEntry, refundFlag]) hall
              fun _ t hin h₁ _ _ => ?_
            exact hdone hin h₁
          · exact hdone hin fun _ hb => hb

theorem tidy_recordCapture {r : Delivery} {payment : PaymentEntity} (ht : Clear [] t) :
    Told (recordCapture r payment bookingId) (fun _ => Clear []) (fun _ _ => True) t := by
  have hweak : ∀ {M : List Claim} {p : PayM Unit} {t : Transcript payDb.sig},
      Told p (fun _ => Clear []) (fun _ => Clear M) t →
        Told p (fun _ => Clear []) (fun _ _ => True) t :=
    fun h => told_mono h (fun _ _ h => h) fun _ _ _ => trivial
  refine hweak (M := [(bookingId, payment.notes.tenantId.getD "")])
    (told_transact ht (List.nil_subset _) fun n t hin _ => ?_)
  have hcreate : Told (ask (some n) (.webhookEventCreate (eventKey r.body payment)))
      (fun _ => Inside n []) (fun _ => Inside n []) t := by
    rw [← bind_ret (ask (some n) _)]
    exact told_stmt (Or.inr rfl) hin (List.nil_subset _) (List.nil_subset _) fun _ t hin _ _ _ =>
      hin
  refine told_bind.mpr (told_attempt.mpr (told_mono hcreate (fun _ t hin => ?_) fun e t hin => ?_))
  · dsimp only
    split
    · exact hin.mono (List.nil_subset _)
    · rename_i tenantId htenant
      have hall : [(bookingId, tenantId)] ⊆ [(bookingId, payment.notes.tenantId.getD "")] := by
        rw [(Option.filter_eq_some_iff.mp htenant).1]
        exact List.Subset.refl _
      refine told_stmt (M := [(bookingId, tenantId)]) (Or.inr rfl) (hin.mono (List.nil_subset _))
        (List.Subset.refl _) hall fun paymentEventId t hin _ _ _ => ?_
      refine told_bind.mpr (told_mono (told_keep (told_processPaymentSuccess hin.clear) (all_true _)
        (F := Began n) (fun _ _ _ _ _ h => h.cons _) hin.began) (fun _ t h => ?_)
        fun e t h => ⟨h.2, h.1.mono fun m hm => Or.inl (hall hm)⟩)
      rw [← bind_ret (ask (some n) _)]
      exact told_stmt (Or.inr rfl) ⟨h.2, h.1⟩ (List.nil_subset _) (List.nil_subset _)
        fun _ t hin _ _ _ => hin
  · dsimp only
    split
    · exact hin
    · exact hin.mono (List.nil_subset _)

/-- Nothing needs to be known at the end. -/
abbrev Through (p : PayM α) (t : Transcript payDb.sig) : Prop :=
  Told p (fun _ _ => True) (fun _ _ => True) t

theorem through_of_tidy {p : PayM α} (hp : Tidy p t) : Through p t :=
  told_mono hp (fun _ _ _ => trivial) fun _ _ _ => trivial

theorem through_paymentCaptured {r : Delivery} {payment : PaymentEntity} (ht : Clear [] t) :
    Through (paymentCaptured r payment bookingId) t := by
  refine told_bind.mpr (told_attempt.mpr (told_mono (tidy_recordCapture ht) (fun _ t _ => trivial)
    fun e t _ => ?_))
  exact told_query (tenancyOk_stmt begun_none fun _ _ hm => absurd hm List.not_mem_nil)
    (fun _ _ _ _ => trivial) fun _ => trivial

theorem through_handleWebhook {P : PayPlatform} {r : Delivery} (ht : Clear [] t) :
    Through (handleWebhook P r) t := by
  unfold handleWebhook
  split
  · trivial
  · refine told_throwIf trivial fun _ => ?_
    split
    · trivial
    · rename_i payment _
      have hresolve : Tidy (resolveBookingId payment) t := by
        unfold resolveBookingId
        split
        · exact ht
        · split
          · exact ht
          · exact tidy_ask ht rfl fun _ _ ht _ _ _ => ht
      refine told_bind.mpr (told_mono hresolve (fun bookingId t ht => ?_) fun _ _ _ => trivial)
      cases bookingId with
      | none => trivial
      | some bookingId =>
          have hdispatch : Through (dispatch r payment bookingId) t := by
            unfold dispatch
            split
            · exact through_paymentCaptured ht
            · split
              · exact through_of_tidy (tidy_of_safe (M := []) (.pay (.handleWebhook r))
                  safe_refundProcessed (says_refundProcessed common_records) ht nofun)
              · split
                · exact through_of_tidy (tidy_of_safe (M := []) (.pay (.handleWebhook r))
                    safe_refundFailed (says_refundFailed common_records) ht nofun)
                · trivial
          exact told_bind.mpr (told_mono hdispatch (fun _ _ _ => trivial) fun _ _ _ => trivial)

/-! ### Refunds -/

theorem records_handleRefundFailure {paymentId : String} {amount : Int} {retryCount : Nat} :
    Records [(bookingId, tenantId)]
      (handleRefundFailure bookingId paymentId tenantId amount retryCount) := by
  refine all_transaction fun tx => (records_ask rfl).bind fun bk => ?_
  have hmark : Records [(bookingId, tenantId)] (markRefundFailed tx bookingId bk) := by
    unfold markRefundFailed
    cases bk with
    | none => trivial
    | some bk =>
        dsimp only
        split
        · exact (all_throwIf ..).bind fun _ => records_ask rfl
        · trivial
  exact hmark.bind fun _ => All.bind (all_query (List.Subset.refl _)) fun _ =>
    records_ask rfl

theorem records_recordRefund {paymentId refundId : String} {amount : Int} :
    Records [(bookingId, tenantId)] (recordRefund bookingId paymentId tenantId amount refundId) := by
  refine all_transaction fun tx => (records_ask rfl).bind fun latestBk => ?_
  have hmark : Records [(bookingId, tenantId)] (markRefunded tx bookingId refundId latestBk) := by
    unfold markRefunded
    cases latestBk with
    | none => trivial
    | some latestBk =>
        dsimp only
        split
        · exact (all_throwIf ..).bind fun _ => (records_ask rfl).bind fun _ =>
            (records_ask rfl).bind fun _ => records_ask rfl
        · trivial
  exact hmark.bind fun _ => all_query (List.Subset.refl _)

theorem tidy_processRefund {retryCount : Nat} (ht : Clear [] t) :
    Tidy (processRefund bookingId tenantId retryCount) t := by
  refine tidy_ask ht rfl fun found t ht _ hseen hfound => ?_
  cases found with
  | none => exact ht
  | some b =>
      dsimp only
      cases htarget : refundTarget (some b) tenantId with
      | none => exact ht
      | some target =>
          obtain ⟨rfl, htenant, -⟩ := refundTarget_eq_some.mp htarget
          have hk : Known t (bookingId, tenantId) :=
            ⟨_, hseen _ (List.mem_singleton_self _), id_of_found hfound, htenant⟩
          have hknown : ∀ {t'}, Later t t' → ∀ m ∈ [(bookingId, tenantId)], Known t' m :=
            fun hl m hm => List.mem_singleton.mp hm ▸ hl.known hk
          dsimp only
          refine tidy_attempt (tidy_last ht rfl) fun refund t₁ ht h₁ => ?_
          cases refund with
          | error e =>
              exact tidy_bind (tidy_of_safe (.pay .sweepPendingRefunds) safe_handleRefundFailure
                records_handleRefundFailure ht (hknown h₁)) fun _ _ ht _ => ht
          | ok refundId =>
              refine tidy_attempt (tidy_of_safe (.pay .sweepPendingRefunds) safe_recordRefund
                records_recordRefund ht (hknown h₁)) fun recorded t₂ ht _ => ?_
              cases recorded with
              | ok u => exact ht
              | error dbError => exact tidy_bind (tidy_last ht rfl) fun _ _ ht _ => ht

theorem tidy_forTenant {booking : Booking} {p : String → PayM α} (ht : Clear [] t)
    (h : ∀ tenantId, booking.tenantId = some tenantId → Tidy (p tenantId) t) :
    Tidy (forTenant booking p) t := by
  unfold forTenant
  split
  · exact ht
  · rename_i tenantId htenant
    exact tidy_attempt (h tenantId (Option.filter_eq_some_iff.mp htenant).1) fun _ _ ht _ => ht

theorem tidy_sweepPendingRefunds (ht : Clear [] t) : Tidy sweepPendingRefunds t := by
  refine tidy_ask ht rfl fun pendingRefunds t ht _ _ _ => ?_
  refine tidy_bind (tidy_mapM ht fun booking _ t ht _ => ?_) fun _ _ ht _ => ht
  exact tidy_forTenant ht fun _ _ => tidy_processRefund ht

/-! ### The worker -/

theorem records_syncPayment {paymentId : String} {finalAmount : Money} :
    Records [(bookingId, tenantId)] (syncPayment bookingId paymentId tenantId finalAmount) := by
  refine all_transaction fun tx => (records_ask rfl).bind fun bk => ?_
  cases bk with
  | none => trivial
  | some bk =>
      dsimp only
      split
      · refine (all_throwIf ..).bind fun _ => (records_ask rfl).bind fun _ =>
          (records_ask rfl).bind fun _ => ?_
        refine (records_ask rfl).bind fun _ => (records_ask rfl).bind fun _ => ?_
        exact all_query (List.Subset.refl _)
      · split
        · refine (all_throwIf ..).bind fun _ => (records_ask rfl).bind fun _ =>
            (records_ask rfl).bind fun _ => ?_
          refine (records_ask rfl).bind fun _ => all_query ?_
          simp [claims, paymentEntry, refundFlag]
        · trivial

theorem tidy_reconcileBooking {razorpayOrderId : Option String} {finalAmount : Money}
    (ht : Clear [] t) (hk : Known t (bookingId, tenantId)) :
    Tidy (reconcileBooking bookingId razorpayOrderId tenantId finalAmount) t := by
  unfold reconcileBooking
  split
  · exact tidy_last ht rfl
  · refine tidy_attempt (tidy_last ht rfl) fun fetched t₁ ht h₁ => ?_
    cases fetched with
    | error e => exact ht
    | ok payments =>
        dsimp only
        split
        · exact tidy_of_safe (M := []) (.pay .sweepPendingRefunds) safe_failBooking
            (says_failBooking common_records) ht nofun
        · refine tidy_ask ht rfl fun existingLedger t₂ ht h₂ _ _ => ?_
          cases existingLedger with
          | some row => exact tidy_last ht rfl
          | none =>
              refine tidy_of_safe (.pay .sweepPendingRefunds) safe_syncPayment records_syncPayment ht
                fun m hm => ?_
              exact List.mem_singleton.mp hm ▸ h₂.known (h₁.known hk)

theorem tidy_handleReconciliation {process : String} (ht : Clear [] t) :
    Tidy (handleReconciliation process) t := by
  have hstale : ∀ t, Clear [] t → Tidy reconcileStale t := by
    intro t ht
    refine tidy_ask ht rfl fun now t ht _ _ _ => ?_
    refine tidy_ask ht rfl fun staleBookings t ht _ hseen _ => ?_
    split
    · exact ht
    · refine tidy_bind (tidy_mapM ht fun booking hbooking t₁ ht h₁ => ?_)
        fun _ _ ht _ => tidy_sweepPendingRefunds ht
      refine tidy_forTenant ht fun tenantId htenant => tidy_reconcileBooking ht ?_
      exact ⟨booking, h₁ _ (hseen booking hbooking), rfl, htenant⟩
  refine tidy_ask ht rfl fun isEntered t ht _ _ _ => ?_
  cases isEntered with
  | false => exact ht
  | true => exact tidy_attempt (hstale t ht) fun _ _ ht _ => tidy_last ht rfl

/-! ### All calls -/

theorem through_body {P : SeatPlatform} (hR : P.Releases) (hP : Revenue.SparesRecords P)
    (op : StatusOp)
    (ht : Clear [] t) : Through (op.body P) t := by
  have hmap : ∀ {α β : Type} {p : PayM α} {f : α → β}, Through p t → Through (f <$> p) t :=
    fun hp => told_bind.mpr (told_mono hp (fun _ _ _ => trivial) fun _ _ _ => trivial)
  have hsparing : ∀ q : PayStmt, Revenue.sparesRecords q = true → q.records = false := by
    intro q hq
    cases q <;> first | rfl | cases hq
  have hother : (∀ q, op.vocabulary q = true → q.records = false) → Through (op.body P) t := fun hop =>
    through_of_tidy (tidy_of_safe (M := []) op (safe_body hR op)
      (says_body (fun q hq => subset_of_not_records (hop q hq)) fun _ bookingId tx =>
        (hP bookingId tx).mono (Stmts.mono fun q hq => subset_of_not_records (hsparing q hq)))
      ht nofun)
  cases op with
  | pay op =>
      cases op with
      | createRazorpayOrder bookingId userId =>
          exact through_of_tidy (tidy_of_safe (M := []) (.pay (.createRazorpayOrder bookingId userId))
            (safe_body hR _) (says_map (says_map (says_createRazorpayOrder common_records))) ht nofun)
      | handleWebhook r => exact hmap (hmap (through_handleWebhook ht))
      | handleReconciliation process => exact hmap (hmap (through_of_tidy (tidy_handleReconciliation ht)))
      | sweepPendingRefunds => exact hmap (hmap (through_of_tidy (tidy_sweepPendingRefunds ht)))
      | processRefund bookingId tenantId retryCount =>
          exact hmap (hmap (through_of_tidy (tidy_processRefund ht)))
  | _ => exact hother fun q hq => by cases q <;> first | rfl | cases hq

end Calls

/-! ## Runs -/

/-- Every record is borne out by a booking, and no booking has ever been another
tenant's. -/
structure Tenanted (s : StatusSnap) : Prop where
  owned : Owned s
  past : ∀ e ∈ s.hist, owners e.before.data = owners s.world.data
  borne : ∀ m ∈ claimed s.world.data, Owner s.world.data m

section Runs

variable {P : SeatPlatform} {s : StatusSnap} {i : Nat} {op : StatusOp} {c : TxCmd PayStmt}
  {o : PayOracle} {m : Claim}

theorem owners_step (c : TxCmd PayStmt) (o : PayOracle) (w : PayStore) :
    owners (payDb.step c o w).2.data = owners w.data := by
  rcases step_data payDb c o w with hd | ⟨q, -, -, hd⟩ | ⟨ss, -, -, -, hd⟩ <;> rw [hd]
  · exact owners_applyAll ..
  · exact owners_applyAll ..

theorem Tenanted.owner (h : Tenanted s) (hm : Known (transcript (statusWriters P) i s.hist) m) :
    Owner s.world.data m := by
  obtain ⟨b, ⟨tx, q, r, hsaid, hb⟩, hid, htenant⟩ := hm
  obtain ⟨⟨tid, op, c, o, w⟩, he, -, heq⟩ := mem_transcript hsaid
  obtain ⟨rfl, hr⟩ := Sigma.mk.inj heq
  have hanswer : (payDb.step (.stmt tx q) o w).1 = .ok r := (eq_of_heq hr).symm
  have hrow : (b.id, b.tenantId) ∈ owners w.data := by
    cases tx with
    | none =>
        exact List.mem_map_of_mem (f := fun b : Booking => (b.id, b.tenantId))
          (mem_rowsRead (query_ok hanswer).1 hb)
    | some tx =>
        obtain ⟨ss, -, -, hexec, -⟩ := stmt_ok hanswer
        rw [← owners_applyAll ss.writes]
        exact List.mem_map_of_mem (f := fun b : Booking => (b.id, b.tenantId)) (mem_rowsRead hexec hb)
  have hpast : owners w.data = owners s.world.data := h.past _ he
  rw [owner_iff, ← hpast, ← hid, ← htenant]
  exact hrow

/-- **Step**: a command that meets its reason records what a booking bears out. -/
theorem tenanted_exec (h : Tenanted s) (hok : TenancyOk (transcript (statusWriters P) i s.hist) c)
    (hallows : waiting.allows i op c o s) : Tenanted (s.exec (statusWriters P) i op c o) := by
  have howners : owners (s.exec (statusWriters P) i op c o).world.data = owners s.world.data :=
    owners_step c o s.world
  refine ⟨owned_exec h.owned hok.own hallows, fun e he => ?_, fun m hm => ?_⟩
  · rw [howners]
    rcases List.mem_cons.mp he with rfl | he
    · rfl
    · exact h.past e he
  · rw [owner_iff, howners, ← owner_iff]
    change m ∈ claimed (payDb.step c o s.world).2.data at hm
    rcases step_data payDb c o s.world with hd | ⟨q, rfl, -, hd⟩ | ⟨ss, rfl, hss, -, hd⟩ <;> rw [hd] at hm
    · exact h.borne m hm
    · rcases mem_claimed_applyAll hm with hm | ⟨w, hw, hclaim⟩
      · exact h.borne m hm
      · exact h.owner (hok.auto q rfl m (claim_exec hw hclaim))
    · rcases mem_claimed_applyAll hm with hm | ⟨w, hw, hclaim⟩
      · exact h.borne m hm
      · obtain ⟨q, r, o', d, hsaid, hexec⟩ := written_of_began h.owned (hok.own ss.id rfl)
          (session?_of_mem h.owned.store hss) hw
        exact h.owner ((hok.commit ss.id rfl (some ss.id) q r hsaid m (claim_exec hexec hclaim)).resolve_left
          List.not_mem_nil)

theorem tenancy_valid (hR : P.Releases) (hP : Revenue.SparesRecords P) :
    Outline.Valid (statusWriters P)
      (toldOutline (statusWriters P) waiting Tenanted fun _ => TenancyOk) fun _ _ _ _ => True :=
  toldOutline_valid (Q := fun _ _ _ => True) (fun _ h i c o => can_step h.owned i c o)
    (fun _ h i op c o _ hok hallows => tenanted_exec h hok hallows)
    (fun s h e => by
      have hdata : owners (s.env (statusWriters P) e).world.data = owners s.world.data ∧
          claimed (s.env (statusWriters P) e).world.data = claimed s.world.data := by
        cases e with
        | data m => cases m <;> exact ⟨rfl, rfl⟩
        | abort tx => exact ⟨rfl, rfl⟩
      refine ⟨owned_env h.owned e, fun e' he' => (h.past e' he').trans hdata.1.symm, fun m hm => ?_⟩
      rw [owner_iff, hdata.1, ← owner_iff]
      exact h.borne m (hdata.2 ▸ hm))
    fun op _ => through_body hR hP op clear_nil

/-- **Tenancy**: whatever runs, in every state that is reached the ledger and the
payment events name bookings of the tenants they name. -/
theorem tenancy_run (P : SeatPlatform) (hR : P.Releases) (hP : Revenue.SparesRecords P)
    {d : PayData}
    (hd : ∀ m ∈ claimed d, Owner d m) {ls : List StatusLabel}
    (h : waiting.admitsRun (statusWriters P) (Config.idle (.idle d)) ls) :
    ∀ m ∈ claimed ((Config.idle (.idle d)).run (statusWriters P) ls).world.data,
      Owner ((Config.idle (.idle d)).run (statusWriters P) ls).world.data m :=
  (Outline.sound (tenancy_valid hR hP)
    (Outline.Good.idle (w := Store.idle d) ⟨owned_idle d, fun _ he =>
      absurd he List.not_mem_nil, hd⟩)
    h).inv.borne

end Runs

namespace Sample

open Payments.Sample

/-- A delivery for a booking of another tenant, and one for its own. -/
def deliveries : List StatusLabel :=
  .spawn (.pay (.handleWebhook { delivery "evt_1" with
      body := { (delivery "evt_1").body with payment := some { payment with
        notes := { payment.notes with tenantId := some "t2" } } } })) ::
    .spawn (.pay (.handleWebhook (delivery "evt_2"))) ::
      List.replicate 14 (.step 0 { fresh := "evt_1" }) ++ List.replicate 14 (.step 1 { fresh := "evt_2" })

end Sample

open Payments.Sample in
theorem tenancy_deliveries :
    claimed ((Config.idle (.idle (data (booking .PAYMENT_IN_PROGRESS)))).run (statusWriters seatPlatform)
        Sample.deliveries).world.data = [("b1", "t1"), ("b1", "t1")] ∧
      ∀ m ∈ claimed ((Config.idle (.idle (data (booking .PAYMENT_IN_PROGRESS)))).run
          (statusWriters seatPlatform) Sample.deliveries).world.data,
        Owner ((Config.idle (.idle (data (booking .PAYMENT_IN_PROGRESS)))).run
          (statusWriters seatPlatform) Sample.deliveries).world.data m :=
  ⟨by decide +kernel, tenancy_run seatPlatform seatPlatform_releases
    Revenue.Sample.seatPlatform_sparesRecords (by decide) (by decide +kernel)⟩

end Omnipax.Payments.Tenancy
