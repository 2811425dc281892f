import Omnipax.Outcomes
import Omnipax.Reachable
import Omnipax.Records

/-!
# Tickets at the door

`verifyTicket` looks a ticket code up among the CONFIRMED bookings of a
tenant. Codes are unique, and in every reachable state a CONFIRMED booking
has its code and the QR code made from it (`Booking.Ticketed`): the QR code
of a booking is read as exactly its own id, tenant and code, and at the door
of its tenant the code is answered with this booking and no other.
-/

namespace Omnipax

open Conc Prog

theorem Reachable.ticketed {P : Platform} {w : World} (h : Reachable P w) {b : Booking}
    (hb : b ∈ w.bookings.rows) (hc : b.status = .CONFIRMED) : b.Ticketed P w.catalog := by
  obtain ⟨clock, catalog, ls, hls, rfl⟩ := h
  have hcatalog : ((Config.idle (World.init clock catalog)).run (live P) ls).world.catalog
      = catalog :=
    Config.run_invariant_of_all (I := fun w : World => w.catalog = catalog) (P := fun _ => True)
      (fun (_ : Op) (_ : True) => all_true _) (fun c o w _ hw => (exec_catalog P o w c).trans hw)
      (fun _ _ hw => hw) (by simp [Config.idle]) rfl fun _ _ => trivial
  rw [hcatalog]
  exact (regular_run P clock catalog (Q := fun _ => True) (fun _ _ _ _ => trivial) hls b hb).ticketed
    hc

section Verify

variable {P : Platform} {w : World} {os : Nat → Oracle}

theorem holder_unique {tenantId ticketCode : String} {b b' : Booking}
    (hb : b ∈ w.ticketHolders tenantId ticketCode) (hb' : b' ∈ w.ticketHolders tenantId ticketCode) :
    b = b' := by
  obtain ⟨hb, -, hcode, -⟩ := World.mem_ticketHolders.mp hb
  obtain ⟨hb', -, hcode', -⟩ := World.mem_ticketHolders.mp hb'
  exact eq_of_nodup_filterMap w.bookings.unique.ticketCode hb hb' hcode hcode'

theorem run_verifyTicket (hup : (os 0).fault = none) (tenantId ticketCode : String) :
    ((verifyTicket tenantId ⟨ticketCode⟩).run (machine P) os 0 w).result =
      match (shuffle (os 0).order (w.ticketHolders tenantId ticketCode)).head? with
      | none => .error (.notFound "Ticket not found or invalid")
      | some b => .ok { valid := true, booking := w.verifiedTicket b } := by
  unfold verifyTicket
  rw [run_await_ok (.inr hup) rfl]
  cases (shuffle (os 0).order (w.ticketHolders tenantId ticketCode)).head? <;> rfl

theorem verifyTicket_ok (hup : (os 0).fault = none) {b : Booking} {ticketCode : String}
    (hb : b ∈ w.bookings.rows) (hcode : b.ticketCode = some ticketCode)
    (hc : b.status = .CONFIRMED) :
    ((verifyTicket b.tenantId ⟨ticketCode⟩).run (machine P) os 0 w).result
      = .ok { valid := true, booking := w.verifiedTicket b } := by
  have hholder : b ∈ w.ticketHolders b.tenantId ticketCode :=
    World.mem_ticketHolders.mpr ⟨hb, rfl, hcode, hc⟩
  rw [run_verifyTicket hup]
  cases hhead : (shuffle (os 0).order (w.ticketHolders b.tenantId ticketCode)).head? with
  | none =>
      rw [List.head?_eq_none_iff, shuffle_eq_nil] at hhead
      rw [hhead] at hholder
      cases hholder
  | some b' =>
      have hb' := mem_shuffle.mp (List.mem_of_head? hhead)
      rw [holder_unique hb' hholder]

theorem verifyTicket_error {tenantId ticketCode : String}
    (hnone : ∀ b ∈ w.bookings.rows, b.status = .CONFIRMED → b.tenantId = tenantId →
      b.ticketCode ≠ some ticketCode) :
    ∃ e, ((verifyTicket tenantId ⟨ticketCode⟩).run (machine P) os 0 w).result = .error e := by
  by_cases hup : (os 0).fault = none
  · have hempty : w.ticketHolders tenantId ticketCode = [] := by
      rw [List.eq_nil_iff_forall_not_mem]
      intro b hb
      obtain ⟨hb, ht, hcode, hc⟩ := World.mem_ticketHolders.mp hb
      exact hnone b hb hc ht hcode
    rw [run_verifyTicket hup, hempty, shuffle_eq_nil.mpr rfl]
    exact ⟨_, rfl⟩
  · unfold verifyTicket
    rw [run_await_fault _ rfl hup]
    exact ⟨_, rfl⟩

end Verify

/-- The booking has a payment and a code; its QR code is read as its own id,
the slug of its tenant and this code, and as nothing else; the code is
answered with the booking. -/
structure TicketSound (P : Platform) (w : World) (b : Booking) : Prop where
  payment : b.razorpayPaymentId.isSome = true
  ticket : ∃ ticketCode, b.ticketCode = some ticketCode ∧
    (∀ p, b.ticketQrData = some (P.toDataURL p) ↔ p =
      { bookingId := b.id, tenantSlug := w.catalog.tenantSlug b.tenantId, ticketCode }) ∧
    ∀ os, Up os → ((verifyTicket b.tenantId ⟨ticketCode⟩).run (machine P) os 0 w).result
      = .ok { valid := true, booking := w.verifiedTicket b }

/-- **Tickets**: in every reachable state, however the operations interleave
and whatever fails, every CONFIRMED booking has a sound ticket, and
`verifyTicket` rejects every code that no CONFIRMED booking of the tenant
has. -/
theorem ticketSound_reachable (P : Platform) (toDataURL : String → String) (w : World)
    (hinj : Function.Injective toDataURL) (hP : ∀ p, P.toDataURL p = toDataURL p.stringify)
    (hw : Reachable P w) :
    (∀ b ∈ w.bookings.rows, b.status = .CONFIRMED → TicketSound P w b) ∧
      ∀ tenantId ticketCode os,
        (∀ b ∈ w.bookings.rows, b.status = .CONFIRMED → b.tenantId = tenantId →
          b.ticketCode ≠ some ticketCode) →
        ∃ e, ((verifyTicket tenantId ⟨ticketCode⟩).run (machine P) os 0 w).result = .error e := by
  refine ⟨fun b hb hc => ?_, fun _ _ _ hnone => verifyTicket_error hnone⟩
  obtain ⟨hpayment, ticketCode, hcode, hqr⟩ := hw.ticketed hb hc
  refine ⟨hpayment, ticketCode, hcode, fun p => ?_, fun os hup => verifyTicket_ok (hup 0) hb hcode hc⟩
  rw [hqr, Option.some_inj, hP, hP]
  constructor
  · exact fun h => (QrPayload.stringify_injective (hinj h)).symm
  · rintro rfl
    rfl

namespace Sample

/-- The platform with QR codes from which the whole text can be read. -/
def qrPlatform : Platform :=
  { platform with toDataURL := fun p => "data:image/png;base64," ++ p.stringify }

/-- The first seat, locked, booked and paid for. -/
def paid : World :=
  serial qrPlatform world (lockAndBook 0 "u1" "tok_1" "order_1" "b1" ++
    [pay 1000 "evt_1" "pay_1" "order_1" "5a17ed00"])

end Sample

theorem ticketSound_paid :
    ∃ b ∈ Sample.paid.bookings.rows, TicketSound Sample.qrPlatform Sample.paid b := by
  have hinj : Function.Injective fun text : String => "data:image/png;base64," ++ text :=
    fun _ _ h => (String.append_right_inj _).mp h
  have hreach : Reachable Sample.qrPlatform Sample.paid :=
    reachable_serial Sample.qrPlatform 0 Sample.catalog _ (by decide +kernel)
  have hconfirmed : ∃ b ∈ Sample.paid.bookings.rows, b.status = .CONFIRMED := by decide +kernel
  obtain ⟨b, hb, hc⟩ := hconfirmed
  exact ⟨b, hb, (ticketSound_reachable Sample.qrPlatform _ Sample.paid hinj (fun _ => rfl)
    hreach).1 b hb hc⟩

/-- The ticket its owner gets is let in at the door. -/
theorem verifyTicket_of_getTicket {P : Platform} {w : World} (hw : Reachable P w)
    {tenantId bookingId userId : String} {os os' : Nat → Oracle} {ticket : OwnTicket}
    (hget : ((getTicketByBookingId tenantId bookingId userId).run (machine P) os 0 w).result
      = .ok ticket) (hup : Up os') :
    ∃ ticketCode, ticket.ticketCode = some ticketCode ∧ ∃ verified : VerifiedTicket,
      verified.id = ticket.id ∧
      ((verifyTicket tenantId ⟨ticketCode⟩).run (machine P) os' 0 w).result
        = .ok { valid := true, booking := verified } := by
  unfold getTicketByBookingId at hget
  by_cases hfault : (os 0).fault = none
  swap
  · rw [run_await_fault _ rfl hfault] at hget
    cases hget
  rw [run_await_ok (.inr hfault) rfl] at hget
  cases hfind : w.bookings.rows.find? fun b =>
      b.id == bookingId && b.tenantId == tenantId && b.userId == userId with
  | none =>
      rw [hfind] at hget
      cases hget
  | some b =>
      rw [hfind] at hget
      have hb := List.mem_of_find?_eq_some hfind
      have hkeys := List.find?_some hfind
      simp only [Bool.and_eq_true, beq_iff_eq] at hkeys
      obtain ⟨⟨-, rfl⟩, -⟩ := hkeys
      by_cases hc : b.status = .CONFIRMED
      · have hticket : w.ownTicket b = ticket := by
          simpa [World.ownTicket, hc, throwIf] using hget
        obtain ⟨-, ticketCode, hcode, -⟩ := hw.ticketed hb hc
        refine ⟨ticketCode, ?_, w.verifiedTicket b, ?_, verifyTicket_ok (hup 0) hb hcode hc⟩
        · rw [← hticket]
          exact hcode
        · rw [← hticket]
          rfl
      · simp [World.ownTicket, hc, throwIf] at hget

end Omnipax
