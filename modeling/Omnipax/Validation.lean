import Omnipax.Conc.Embed
import Omnipax.Hex
import Omnipax.StatusWriters

/-!
# Tickets of a booking at the door

`ValidationService.validateTicket` compares the token it is given with that of
the booking, and lets a booking in once: its update asks again whether the
booking has been scanned, and does not ask for the status again. The tokens are
compared as the buffers of what is hexadecimal of them.

A booking has its tickets in the payments database, to which the users and the
audit log are added here.
-/

namespace Omnipax.Payments.Validation

open Conc Database Prog

/-! ## The token -/

/-- `Buffer.from(text, 'hex')` -/
def bufferFromHex (text : String) : List Nat := Hex.decode text.toList

/-- The buffers have one length, and `timingSafeEqual` finds the same bytes. -/
def tokenMatches (validToken providedToken : String) : Bool :=
  let validTokenBuffer := bufferFromHex validToken
  let providedTokenBuffer := bufferFromHex providedToken
  validTokenBuffer.length == providedTokenBuffer.length && validTokenBuffer == providedTokenBuffer

/-- **Tokens**: the comparison tells two tokens apart, but for the case of their
digits, exactly when they differ in the pairs of digits they begin with or are
the same in what follows these. -/
theorem tokenMatches_iff (qrToken provided : String) :
    (tokenMatches qrToken provided = true ↔ Hex.Same qrToken.toList provided.toList) ↔
      (Hex.Same (Hex.decoded qrToken.toList) (Hex.decoded provided.toList) →
        Hex.Same (Hex.undecoded qrToken.toList) (Hex.undecoded provided.toList)) := by
  rw [← Hex.decode_eq_iff_same]
  have hmatches : tokenMatches qrToken provided = true ↔
      Hex.decode qrToken.toList = Hex.decode provided.toList := by
    unfold tokenMatches bufferFromHex
    rw [Bool.and_eq_true, beq_iff_eq, beq_iff_eq]
    exact ⟨And.right, fun h => ⟨congrArg List.length h, h⟩⟩
  rw [hmatches]

/-- A token that is not hexadecimal is matched by a text that is not it. -/
theorem not_tokenMatches_notHex :
    ¬ ∀ qrToken provided : String, qrToken ≠ "" →
      (tokenMatches qrToken provided = true ↔ Hex.Same qrToken.toList provided.toList) := by
  intro h
  have hmatches := (h "ab12" "ab12 and more" (by decide)).mp (by decide +kernel)
  revert hmatches
  decide +kernel

/-! ## The database -/

inductive ScanAudit where
  | failed (bookingId reason : String)
  | success (bookingId event : String)
deriving Repr, DecidableEq

structure AuditLog where
  action : String
  metadata : ScanAudit
  userId : String
deriving Repr, DecidableEq

structure ValidationData where
  pay : PayData
  /-- The users, with their emails. -/
  users : List (String × String) := []
  /-- The shows, with the titles of their events. -/
  shows : List (String × String) := []
  auditLogs : List AuditLog := []
deriving DecidableEq

/-- What a booking is read with. The foreign keys see to it that both are
there. -/
structure BookingWithShow where
  booking : Booking
  user_email : String
  event_title : String
deriving Repr, DecidableEq

namespace ValidationData

def booking? (d : ValidationData) (id : String) : Option Booking :=
  d.pay.bookings.rows.find? (·.id == id)

def withShow (d : ValidationData) (booking : Booking) : BookingWithShow where
  booking
  user_email := ((d.users.find? (·.1 == booking.userId)).map (·.2)).getD ""
  event_title := ((d.shows.find? (·.1 == booking.showId)).map (·.2)).getD ""

end ValidationData

inductive ValidationStmt where
  | pay (q : PayStmt)
  | bookingFindWithShow (id : String)
  /-- `updateMany` where it has not been scanned. -/
  | bookingScan (id : String) (scannedAt : Time) (validatedBy : String)
  | auditLogCreate (row : AuditLog)

abbrev ValidationStmt.Ret : ValidationStmt → Type
  | .pay q => q.Ret
  | .bookingFindWithShow _ => Option BookingWithShow
  | .bookingScan .. => Nat
  | .auditLogCreate _ => Unit

inductive ValidationWrite where
  | pay (w : PayWrite)
  | scan (id : String) (scannedAt : Time) (validatedBy : String)
  | auditLog (row : AuditLog)

def scanned (scannedAt : Time) (validatedBy : String) (b : Booking) : Booking :=
  { b with scannedAt := some scannedAt, validatedBy := some validatedBy }

def scanRow (t : BookingTable) (id : String) (scannedAt : Time) (validatedBy : String) :
    BookingTable where
  rows := t.rows.map fun b => if b.id = id then scanned scannedAt validatedBy b else b
  ids := by
    have hid : (fun b : Booking => b.id) ∘
        (fun b => if b.id = id then scanned scannedAt validatedBy b else b) = (·.id) := by
      funext b
      simp only [Function.comp_apply]
      split <;> rfl
    rw [List.map_map, hid]
    exact t.ids

def ValidationWrite.keys : ValidationWrite → List PayKey
  | .pay w => w.keys
  | .scan id _ _ => [.booking id]
  | .auditLog _ => []

def ValidationWrite.apply : ValidationWrite → ValidationData → ValidationData
  | .pay w, d => { d with pay := w.apply d.pay }
  | .scan id scannedAt validatedBy, d =>
      { d with pay := { d.pay with bookings := scanRow d.pay.bookings id scannedAt validatedBy } }
  | .auditLog row, d => { d with auditLogs := d.auditLogs ++ [row] }

def ValidationStmt.exec (o : PayOracle) (d : ValidationData) :
    (q : ValidationStmt) → Except StepError q.Ret × List ValidationWrite
  | .pay q => ((q.exec o d.pay).1, (q.exec o d.pay).2.map .pay)
  | .bookingFindWithShow id => (.ok ((d.booking? id).map d.withShow), [])
  | .bookingScan id scannedAt validatedBy =>
      if (d.booking? id).any fun b => b.scannedAt.isNone then
        (.ok 1, [.scan id scannedAt validatedBy])
      else (.ok 0, [])
  | .auditLogCreate row =>
      if d.users.any (·.1 == row.userId) then (.ok (), [.auditLog row])
      else (.error (.prisma "P2003"), [])

def validationDb :
    Database ValidationStmt ValidationData ValidationWrite PayKey PayOracle StepError where
  Ans := ValidationStmt.Ret
  exec q o d := q.exec o d
  apply := ValidationWrite.apply
  keys := ValidationWrite.keys
  loss := PayOracle.loss
  inProcess
    | .pay q => payDb.inProcess q
    | _ => false
  gone := .unavailable

/-! ## The service -/

inductive ValidationExn where
  | notFound (message : String)
  | badRequest (message : String)
  | forbidden (message : String)
  | step (e : StepError)
  | pay (e : PayExn)
deriving Repr, DecidableEq

abbrev ValidationM := Prog validationDb.sig ValidationExn

def ask (q : ValidationStmt) : ValidationM q.Ret := validationDb.query ValidationExn.step none q

/-- `AuditService.log`: an error is written to the console. -/
def log (action : String) (metadata : ScanAudit) (userId : String) : ValidationM Unit := do
  let _ ← (ask (.auditLogCreate ⟨action, metadata, userId⟩)).attempt
  return ()

structure ValidationReply where
  scannedAt : Option Time
  event : String
  user : String
deriving Repr, DecidableEq

/-- The update, and the answer from the row it has left. -/
def letIn (bookingId adminId : String) (found : BookingWithShow) : ValidationM ValidationReply := do
  let now ← ask (.pay .dateNow)
  let count ← ask (.bookingScan bookingId now adminId)
  throwIf (count == (0 : Nat)) (.badRequest "Ticket already scanned (Race Condition Detected)")
  match ← ask (.pay (.bookingFindUnique bookingId)) with
  | none => throw (.notFound "Booking lost")
  | some updated => do
      log "scan_success" (.success bookingId found.event_title) adminId
      return { scannedAt := updated.scannedAt, event := found.event_title, user := found.user_email }

/-- `Date.prototype.toISOString` is a parameter. -/
def validateTicket (toISOString : Time → String) (bookingId qrToken adminId : String) :
    ValidationM ValidationReply := do
  match ← ask (.bookingFindWithShow bookingId) with
  | none => throw (.notFound "Booking not found")
  | some found => do
      throwIf (found.booking.status != .CONFIRMED) (.badRequest "Ticket is not confirmed")
      match found.booking.scannedAt with
      | some scannedAt => throw (.badRequest ("Ticket already scanned at " ++ toISOString scannedAt ++
          " by " ++ found.booking.validatedBy.getD "null"))
      | none =>
          match truthy? found.booking.qrToken with
          | none => throw (.forbidden "Ticket has no valid QR token generated")
          | some validToken =>
              if tokenMatches validToken qrToken then letIn bookingId adminId found
              else do
                log "scan_failed" (.failed bookingId "Invalid Token") adminId
                throw (.forbidden "Invalid QR Token")

end Omnipax.Payments.Validation
