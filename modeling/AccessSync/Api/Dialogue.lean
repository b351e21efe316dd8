import AccessSync.Api.Endpoint
import AccessSync.Event
import AccessSync.Plan

/-!
# Work on the server

Plans that ask endpoints, with the two ways in which such work can fail: with the fault of a
request, or with what that fault means for the operation.
-/

namespace AccessSync

open Api (Endpoint)

/-- Work that asks endpoints. -/
abbrev Dialogue : Type → Type := Plan Event Endpoint.Reply

/-- Work that ends early with the fault of a request. -/
abbrev Inquiry : Type → Type := ExceptT Fault Dialogue

/-- Work that ends early with the failure of an operation. -/
abbrev Operation : Type → Type := ExceptT Failure Dialogue

namespace Dialogue

/-- The reply of an endpoint, a fault included. -/
def attempt (e : Endpoint) : Dialogue e.Reply := Plan.query e

/-- The answer of an endpoint. -/
def inquire (e : Endpoint) : Inquiry e.Answer := ExceptT.mk (attempt e)

end Dialogue

/-- The inquiry as a part of an operation. -/
def Inquiry.operation {α : Type} (work : Inquiry α) : Operation α :=
  ExceptT.mk do return (← work.run).mapError Fault.failure

namespace Operation

/-- The answer of an endpoint. -/
def ask (e : Endpoint) : Operation e.Answer := (Dialogue.inquire e).operation

/-- The reply of an endpoint, a fault included. -/
def attempt (e : Endpoint) : Operation e.Reply := ExceptT.lift (Dialogue.attempt e)

/-- An operator is told of an event. -/
def report (e : Event) : Operation Unit := ExceptT.lift (Plan.report e)

/-- What needs no work. -/
def ofExcept {α : Type} (result : Except Failure α) : Operation α := ExceptT.mk (.done result)

end Operation

namespace Api

/-- One more page of the workspaces of the caller after those found before; the list goes on when
the page tells a cursor. -/
def moreWorkspaces (pageSize : UInt32) (done : List Workspace) (cursor : String) :
    Inquiry ((List Workspace × String) ⊕ List Workspace) := do
  let page ← Dialogue.inquire (.workspaces pageSize cursor)
  let found := done ++ page.items
  if page.next = "" then return .inr found else return .inl (found, page.next)

/-- Every workspace of the caller, page after page, with at most `limit` pages. -/
def allWorkspaces (pageSize : UInt32) (limit : Nat) : Inquiry (List Workspace) :=
  repeatUpTo (ExceptT.lift (.stop .rounds))
    (fun (done, cursor) => moreWorkspaces pageSize done cursor) limit ([], "")

end Api

end AccessSync
