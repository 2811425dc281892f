import Omnipax.OfflineSync
import Omnipax.TicketGeneration

/-!
# The tokens of the tickets

`generateTicketsForBooking` signs a token with the id of the new ticket and stores the
hash of it in the row. So whatever calls have made tickets, each of them is found by a
token that carries its id, and, where no two valid tokens have one hash, by no other.
This is what a batch of offline scans takes from the tickets (`Scans.Generated`).
-/

namespace Omnipax.TicketGeneration

open Conc Database Prog
open Scans (Door DoorPlatform GRACE_PERIOD_MS QRPayload)

/-! ## Tokens -/

/-- A payload that `validateToken` takes, with a number that `JSON` keeps as it is. -/
structure Signable (payload : QRPayload) : Prop where
  t : payload.t ≠ ""
  s : payload.s ≠ ""
  exp : payload.exp ≠ 0
  exact : payload.exp.natAbs ≤ 2 ^ 53

/-- A payload is read back from its base64 text, and no part of a token has a dot in
it. -/
structure TicketPlatform.Encodes (P : TicketPlatform) : Prop where
  parse : ∀ {payload}, Signable payload → P.parsePayload (P.encodePayload payload) = some payload
  payload_dot : ∀ payload, '.' ∉ (P.encodePayload payload).toList
  signature_dot : ∀ text, '.' ∉ (P.hmacSha256Hex P.secret text).toList

/-- No two valid tokens have one hash. -/
def HashesApart (P : DoorPlatform) : Prop :=
  ∀ token token' payload payload', P.validateToken token = some payload →
    P.validateToken token' = some payload' → P.hashToken token = P.hashToken token' → token = token'

section Tokens

variable {P : TicketPlatform} {payload : QRPayload}

theorem splitOn_token (hP : P.Encodes) (payload : QRPayload) :
    ((P.generateSignedToken payload).toList.splitOn '.').map String.ofList =
      ["v1", P.encodePayload payload, P.hmacSha256Hex P.secret (P.encodePayload payload)] := by
  have hlist : (P.generateSignedToken payload).toList = "v1".toList ++ '.' ::
      ((P.encodePayload payload).toList ++ '.' ::
        (P.hmacSha256Hex P.secret (P.encodePayload payload)).toList) := by
    simp [TicketPlatform.generateSignedToken]
  rw [hlist, List.splitOn_append_cons_self_of_not_mem (by decide),
    List.splitOn_append_cons_self_of_not_mem (hP.payload_dot payload),
    List.splitOn_eq_singleton (hP.signature_dot _)]
  simp

theorem validateToken_generateSignedToken (hP : P.Encodes) (h : Signable payload) :
    P.validateToken (P.generateSignedToken payload) = some payload := by
  have hne : P.generateSignedToken payload ≠ "" := by
    intro hempty
    have hlist := congrArg String.toList hempty
    simp [TicketPlatform.generateSignedToken] at hlist
  simp only [DoorPlatform.validateToken, if_neg hne, splitOn_token hP, ne_eq, not_true_eq_false,
    if_false, hP.parse h, h.t, h.s, h.exp, or_self]

end Tokens

/-! ## Signed tickets -/

/-- The row has the hash of a token for it. -/
def Signed (P : TicketPlatform) (row : Ticket) : Prop :=
  ∃ exp, Signable ⟨row.id, row.showId, exp⟩ ∧
    row.qrHash = P.hashToken (P.generateSignedToken ⟨row.id, row.showId, exp⟩)

/-- The shows end at times that can be signed. -/
def Timed (d : TicketData) : Prop :=
  ∀ shw ∈ d.shows, (shw.startTime + GRACE_PERIOD_MS) / 1000 ≠ 0 ∧
    ((shw.startTime + GRACE_PERIOD_MS) / 1000).natAbs ≤ 2 ^ 53

/-- Calls for shows with an id, where `randomUUID` draws one: a token whose fields are empty
would be signed, but never taken. -/
def issuing : Discipline ticketDb.sig TicketStore TicketOracle TicketOp where
  starts op := op.showId ≠ ""
  allows _ _ c o _ := ∀ t, c = .stmt t .randomUUID → o.uuid ≠ ""

/-- What is committed and what is on its way are signed tickets. -/
structure Issued (P : TicketPlatform) (w : TicketStore) : Prop where
  committed : ∀ row ∈ w.data.tickets, Signed P row
  written : WritesIn (Signed P) w
  timed : Timed w.data

def signing (P : TicketPlatform) : TicketOutline where
  toDiscipline := issuing
  inv s := Issued P s.world
  pre _ _ c _ := ∀ t row, c = .stmt t (.ticketCreate row) → Signed P row

section Runs

variable {P : TicketPlatform} {i tx : Nat} {op : TicketOp} {s : TicketSnap} {w : TicketStore}
  {c : TxCmd TicketStmt} {o : TicketOracle} {bookingId showId tenantId : String} {expirationUnixSecs : Int}

theorem mem_exec {q : TicketStmt} {d : TicketData} {row : Ticket}
    (h : row ∈ (ticketDb.exec q o d).2) : q = .ticketCreate row := by
  cases q with
  | ticketCreate row' =>
      simp only [ticketDb, TicketStmt.exec] at h
      split at h
      · cases h
      · rw [List.mem_singleton.mp h]
  | _ => cases h

theorem Issued.step (h : Issued P w) (hpre : ∀ t row, c = .stmt t (.ticketCreate row) → Signed P row) :
    Issued P (ticketDb.step c o w).2 := by
  have hwants : ∀ t q, c = .stmt t q → ∀ row ∈ ticketDb.wants t q o w, Signed P row := by
    rintro t q rfl row hrow
    obtain ⟨d, hd⟩ := mem_wants hrow
    exact hpre t row (congrArg _ (mem_exec hd))
  obtain ⟨hwritten, rows, hrows, hdata⟩ := writesIn_step h.written hwants
  refine ⟨fun row hrow => ?_, hwritten, ?_⟩
  · rw [hdata, tickets_applyAll] at hrow
    exact (List.mem_append.mp hrow).elim (h.committed row) (hrows row)
  · rw [hdata, tickets_applyAll]
    exact h.timed

/-- A round of the loop signs the ticket that it creates. -/
theorem signs_generateTicket {bs : BookingSeat} (hshow : showId ≠ "") (hexp : expirationUnixSecs ≠ 0)
    (hexact : expirationUnixSecs.natAbs ≤ 2 ^ 53) :
    (generateTicket P bookingId showId tenantId expirationUnixSecs tx bs).wp (office P) (signing P) i op
      (fun _ _ => True) (fun _ _ => True) s := by
  refine fine_query (fun _ _ => nofun) fun s o existing _ _ _ => ?_
  cases existing with
  | some t => exact fine_ret
  | none =>
      refine wp_query persistent_true.stable trivial persistent_true (fun _ _ => trivial)
        (fun _ _ _ => nofun) fun s o newTicketId _ _ hdrawn ha _ => ?_
      obtain ⟨hexec, -⟩ := query_ok ha
      obtain rfl : o.uuid = newTicketId := Except.ok.inj hexec
      refine fine_query (fun _ _ t row hc => ?_) fun _ _ _ _ _ _ => fine_ret
      cases hc
      exact ⟨expirationUnixSecs, ⟨hdrawn none rfl, hshow, hexp, hexact⟩, rfl⟩

theorem signs_generateTicketsForBooking (hshow : showId ≠ "") :
    (generateTicketsForBooking P bookingId showId tenantId).wp (office P) (signing P) i op
      (fun _ _ => True) (fun _ _ => True) s := by
  refine fine_query (fun _ _ => nofun) fun s o bookingSeats _ _ _ => ?_
  refine fine_query (fun _ _ => nofun) fun s o shw hinv ha _ => ?_
  obtain ⟨hexec, -⟩ := query_ok ha
  cases shw with
  | none => exact fine_err
  | some shw =>
      have hshw : s.world.data.shows.find? (·.id == showId) = some shw := Except.ok.inj hexec
      obtain ⟨hexp, hexact⟩ := hinv.timed shw (List.mem_of_find?_eq_some hshw)
      refine wp_map _ (fine_transaction (fun c s hstmt _ t row hc => absurd hc (hstmt t _))
        fun tx s hinv => fine_mapM hinv fun bs _ s _ => ?_)
      exact signs_generateTicket hshow hexp hexact

theorem signing_valid (P : TicketPlatform) :
    Outline.Valid (office P) (signing P) fun _ _ _ _ => True where
  inv_exec h _ _ _ _ _ hpre _ := h.step hpre
  inv_env h e := by
    cases e with
    | data e => exact e.elim
    | abort tx => exact ⟨h.committed, fun ss hss => h.written ss (List.mem_filter.mp hss).1, h.timed⟩
  body _ _ _ hop _ _ := signs_generateTicketsForBooking hop

/-- **Signed tickets**: every ticket that calls have made has the hash of a token
that is signed for it. -/
theorem signed_run (P : TicketPlatform) {d : TicketData} (hd : ∀ row ∈ d.tickets, Signed P row)
    (htimed : Timed d) {ls : List TicketLabel}
    (hls : issuing.admitsRun (office P) (Config.idle (.idle d)) ls) :
    ∀ row ∈ ((Config.idle (.idle d)).run (office P) ls).world.data.tickets, Signed P row :=
  (Outline.sound (signing_valid P)
    (Outline.Good.idle (w := Store.idle d) ⟨hd, fun _ h => absurd h List.not_mem_nil, htimed⟩)
    hls).inv.committed

/-- The tickets at a door that calls have made are generated ones. -/
theorem generated_run (P : TicketPlatform) (hP : P.Encodes) (hhash : HashesApart P.toDoorPlatform)
    {d : TicketData} (hd : ∀ row ∈ d.tickets, Signed P row) (htimed : Timed d) {ls : List TicketLabel}
    (hls : issuing.admitsRun (office P) (Config.idle (.idle d)) ls) {door : Door}
    (hdoor : ∀ t ∈ door.tickets.rows,
      ∃ row ∈ ((Config.idle (.idle d)).run (office P) ls).world.data.tickets,
        row.id = t.id ∧ row.qrHash = t.qrHash) :
    Scans.Generated P.toDoorPlatform door := by
  intro t ht
  obtain ⟨row, hrow, hid, hrowHash⟩ := hdoor t ht
  obtain ⟨exp, hsignable, hqrHash⟩ := signed_run P hd htimed hls row hrow
  have hvalid := validateToken_generateSignedToken hP hsignable
  refine ⟨P.generateSignedToken ⟨row.id, row.showId, exp⟩, _, hvalid, hid, ?_,
    fun token payload h hsame => ?_⟩
  · rw [← hqrHash, hrowHash]
  · refine hhash token _ payload _ h hvalid ?_
    rw [hsame, ← hrowHash, hqrHash]

end Runs

end Omnipax.TicketGeneration
