import Omnipax.Commands

/-!
# `SeatLocksService`

The five operations on seat locks, one `await` a line. The commands of a
`Promise.all` go over one Redis connection, which executes them in the
order issued: in `validateLocksOwned` the `GET`s in the order of the seat
ids, in `releaseMany` all the `GET`s before the first `DEL`, because each
branch waits for its own `GET` and all branches are issued at once. Other
calls' commands may fall anywhere in between.
-/

namespace Omnipax

open Conc Prog

structure LockSeatResult where
  seatId : String
  eventId : String
  expiresInSeconds : Int
deriving Repr, DecidableEq

structure UnlockSeatResult where
  released : Bool
deriving Repr, DecidableEq

def lockSeat (P : Platform) (tenantSlug eventId seatId userId : String) :
    M LockSeatResult := do
  let key := getLockKey tenantSlug eventId seatId
  let token ← await .randomUUID
  let lockedAt ← await .dateNow
  let payload : SeatLockPayload :=
    { tenantSlug, eventId, seatId, userId, token, lockedAt }
  let lockResult ← await (.redisSet key payload (P.seatLockTtlSeconds * 1000))
  throwIf (!lockResult) (.conflict "Seat is already locked")
  await (.seatLockExpiryAdd { tenantSlug, eventId, seatId, token }
    (P.seatLockTtlSeconds * 1000) (key ++ ":" ++ token))
  await (.emit (.SEAT_LOCKED tenantSlug eventId seatId userId))
  return { seatId, eventId, expiresInSeconds := P.seatLockTtlSeconds }

/-- `unlockSeat` from the check of the value found under the key on. -/
def unlockFound (tenantSlug eventId seatId userId : String) (force : Bool) :
    Option SeatLockPayload → M UnlockSeatResult
  | none => return { released := false }
  | some lock => do
      throwIf (!force && lock.userId != userId)
        (.forbidden "Cannot unlock seats locked by another user")
      await (.redisDel (getLockKey tenantSlug eventId seatId))
      await (.emit (.SEAT_UNLOCKED tenantSlug eventId seatId
        (if force then .system else .user)))
      return { released := true }

def unlockSeat (tenantSlug eventId seatId userId : String) (force : Bool := false) :
    M UnlockSeatResult := do
  let existing ← await (.redisGet (getLockKey tenantSlug eventId seatId))
  unlockFound tenantSlug eventId seatId userId force existing

/-- The lock is missing or belongs to another user. -/
def notOwned (userId : String) : Option SeatLockPayload → Bool
  | none => true
  | some lock => lock.userId != userId

def validateLocksOwned (tenantSlug eventId : String) (seatIds : List String)
    (userId : String) : M Unit := do
  let locks ← seatIds.mapM fun seatId =>
    await (.redisGet (getLockKey tenantSlug eventId seatId))
  throwIf (locks.any (notOwned userId))
    (.conflict "All seats must be actively locked by the same user before booking")

/-- One branch of `releaseMany` after its `GET`: a rejected `GET` or `DEL`
rejects the branch, the others go on. -/
def releaseFound (tenantSlug eventId : String) :
    String × Except StepError (Option SeatLockPayload) → M (Except StepError Unit)
  | (_, .error e) => return .error e
  | (_, .ok none) => return .ok ()
  | (seatId, .ok (some _)) => do
      match ← settle (.redisDel (getLockKey tenantSlug eventId seatId)) with
      | .error e => return .error e
      | .ok _ => do
          await (.emit (.SEAT_UNLOCKED tenantSlug eventId seatId .system))
          return .ok ()

/-- `Promise.all` of `unlockSeat(.., force = true)` over the seats. -/
def releaseMany (tenantSlug eventId : String) (seatIds : List String) : M Unit := do
  let found ← seatIds.mapM fun seatId =>
    settle (.redisGet (getLockKey tenantSlug eventId seatId))
  let outcomes ← (seatIds.zip found).mapM (releaseFound tenantSlug eventId)
  allOf outcomes

def getLocksForEvent (tenantSlug eventId : String) : M (List SeatLockPayload) := do
  let keys ← await (.redisKeys (locksPrefix tenantSlug eventId ++ "*"))
  if keys.isEmpty then return []
  else do
    let values ← await (.redisMget keys)
    return values.filterMap id

def handleExpiryJob (data : SeatLockExpiryJobData) : M Unit := do
  let key := getLockKey data.tenantSlug data.eventId data.seatId
  let currentValue ← await (.redisGet key)
  match currentValue with
  | none =>
      await (.emit (.SEAT_UNLOCKED data.tenantSlug data.eventId data.seatId .expired))
  | some lock =>
      if lock.token = data.token then do
        let ttl ← await (.redisPttl key)
        if ttl ≤ 0 then do
          await (.redisDel key)
          await (.emit (.SEAT_UNLOCKED data.tenantSlug data.eventId data.seatId .expired))
        else return ()
      else return ()

end Omnipax
