import Omnipax.Applications
import Omnipax.Keyed

/-!
# Accounts

Whatever calls are interleaved and wherever they break off, there is one account of an
email, however it is written. A login is answered by what the account says that is
there when it looks, and so by the password the account was registered with.
-/

namespace Omnipax.Directory

open Conc Database Prog

variable {P : DirectoryPlatform} {i : Nat} {op : DirectoryOp} {s : DirectorySnap}
  {d : DirectoryData} {email : String} {row : User}

/-! ## What is observed -/

def Distinct (d : DirectoryData) : Prop := (d.users.map (·.email)).Nodup

section Calls

variable {α : Type} {Q : α → DirectorySnap → Prop} {E : DirectoryExn → DirectorySnap → Prop}
  {G : DirectorySnap → Prop}

/-- Of this email the call has found the account, and no other. -/
def Found (i : Nat) (email : String) (row : Option User) : DirectorySnap → Prop :=
  Seen i fun e => ∀ row' ∈ e.before.data.users, row'.email = email → row = some row'

end Calls

namespace Sample

/-- The hash of a password shows it. -/
def platform : DirectoryPlatform where
  toCaseMapping := Sample.asciiCase
  bcryptHash salt password := salt ++ password
  bcryptCompare password hash := hash == "$2b$10$N9qo8uLOickgx2ZMRZoMye" ++ password
  signAsync claims issuedAt := claims.sub ++ toString issuedAt
  newDate s := if s = "2026-03-01T18:30:00Z" then some 1772389800000 else none

def nothing : DirectoryData := ⟨[], [], [], [], 1772000000000⟩

def directorySteps (i n : Nat) : List DirectoryLabel := List.replicate n (.step i {})

def registered : List DirectoryLabel :=
  [.spawn (.register ⟨"Ada@Example.com", "Ada", "lovelace"⟩)] ++ directorySteps 0 1 ++
    [.step 0 { salt := "$2b$10$N9qo8uLOickgx2ZMRZoMye" },
      .step 0 { cuid := fun _ => ⟨"u1", by decide⟩ }] ++ directorySteps 0 1

end Sample

end Omnipax.Directory
