import TrusteeBoard.Authority
import TrusteeBoard.Refusal

/-!
# A host in memory

`Host` has a clock, the accounts that exist, the accounts whose authority the current call carries,
and the authorities pushed to it. It accepts an authority that can be satisfied and, when told so,
fails the next push.
-/

namespace TrusteeBoard

/-- The state of a host. -/
structure Host where
  clock : Timestamp
  accounts : OrderedSet Account := .empty
  /-- The accounts whose authority the current call carries. -/
  callers : OrderedSet Account := .empty
  /-- The authority last accepted for each account. -/
  authorities : OrderedMap Account Authority := .empty
  /-- Every accepted authority, in order. -/
  pushes : List (Account × Authority) := []
  failNextPush : Bool := false
  deriving DecidableEq

namespace Host

def advance (h : Host) (span : UInt64) : Host :=
  { h with clock := h.clock.plus span }

def addAccounts (h : Host) (names : List Account) : Host :=
  { h with accounts := names.foldl (fun s a => s.insert a ()) h.accounts }

/-- The host during a call that carries the authority of `names` only. -/
def signedBy (h : Host) (names : List Account) : Host :=
  { h with callers := OrderedSet.ofList names }

def authorize (h : Host) (account : Account) : Except HostError Unit :=
  if h.callers.contains account then .ok () else .error (.missingAuthority account)

def setAuthority (h : Host) (account : Account) (authority : Authority) :
    Except HostError Unit × Host :=
  if h.failNextPush then
    (.error (.authorityRejected account "injected failure"), { h with failNextPush := false })
  else if authority.IsSatisfiable then
    (.ok (),
      { h with
        authorities := h.authorities.insert account authority
        pushes := h.pushes ++ [(account, authority)] })
  else (.error (.authorityRejected account "threshold cannot be met"), h)

end Host

end TrusteeBoard
