import Kira.UseCases.Context

/-!
# Passing changes of contacts on

When a contact is new, changes or is removed, the contacts closest to the node are told.  And a
change has consequences in the table itself: if the contact is an underlay neighbour that is gone or
has become invalid, then so are the contacts that are reached through it.

A contact that is removed from the routing table is removed from the table of underlay neighbours as
well, whatever its path was.  The contacts that are reached through it are only looked for if it is
reached directly itself.
-/

set_option autoImplicit false

namespace Kira

open RoutingTable

structure HandleContactUpdateConfig where
  radius : Nat
  groupingBits : NonZeroU8

def HandleContactUpdateConfig.default : HandleContactUpdateConfig where
  radius := 3
  groupingBits := .MIN

namespace HandleContactUpdate

variable {T : Type} {k : Nat} [RoutingTable T k]

/-- Tells the closest contacts.  The nonces are those that the headers draw. -/
def sendUpdate (config : HandleContactUpdateConfig) (nonces : Nat → Nonce)
    (context : UseCaseContext T) (updates : List (Contact × RouteUpdateActionType)) :
    Run (UseCaseContext T) := do
  match ← closest context.routingTable context.rootId config.radius config.groupingBits with
  | .error _ => .panic "type didn't prevent invalid grouping"
  | .ok overlayNeighbors =>
    overlayNeighbors.zipIdx.foldlM (fun context neighbor ↦ do
      let path ← Run.unwrap neighbor.1.2.path
      context.sendMessage (.updateRouteReq
        { commonHeader := .new .updateRouteReq context.rootId neighbor.1.2.id (nonces neighbor.2)
            (.value context.ulnTable.stateSeqNr) context.ulnTable.size
          notVia := none
          contactActions := updates
          sourceRoute := .new context.rootId path })) context

/-- A contact becomes invalid if its path begins with that of a neighbour that is gone. -/
def invalidateVia (clock : Readings) (rootId : NodeId) (invalidated : Contact)
    (invalidatedPath : Path) (saved : Contact) : Contact :=
  match saved.path with
  | some path =>
    if path.startsWith invalidatedPath then
      let nvs : NotViaState := ⟨.new rootId invalidated.id, (clock.part 0).now⟩
      match invalidated.state with
      | .invalid notViaStateList =>
        saved.setInvalid (clock.part 1).clock (notViaStateList.insert nvs)
      | _ => saved.setInvalid (clock.part 1).clock (.singleton nvs)
    else saved
  | none => saved

/-- Invalidates the contacts that are reached through this one, if it is a neighbour. -/
def invalidateAllAffectedContacts (clock : Readings) (context : UseCaseContext T)
    (invalidated : Contact) : UseCaseContext T :=
  match invalidated.path with
  | some path =>
    if path.size = 1 then
      context.iterMut fun saved ↦
        invalidateVia (clock.part saved.id.toNat) context.rootId invalidated path saved
    else context
  | none => context

/-- What the others are told about a contact that has changed.  A contact that is valid is only
mentioned if its path is the same as before. -/
def updatesOf (new old : Contact) : List (Contact × RouteUpdateActionType) :=
  if new.isValid then
    match new.path, old.path with
    | some newPath, some oldPath =>
      if newPath.isSamePathAs oldPath then [(new, .change)] else []
    | _, _ => []
  else [(new, .unreachable)]

def handleEvent (config : HandleContactUpdateConfig) (clock : Readings) (nonces : Nat → Nonce)
    (context : UseCaseContext T) : UseCaseEvent → Run (UseCaseContext T)
  | .contact (.removed contact) => do
    let context ← (if contact.isUln then
        sendUpdate config nonces context [(contact, .withDraw)]
      else pure context)
    (invalidateAllAffectedContacts clock context contact).ulnRemove contact.id
  | .contact (.updated new old) => do
    let context ← sendUpdate config nonces context (updatesOf new old)
    if old.isValid && !new.isValid then
      return invalidateAllAffectedContacts clock context new
    else return context
  | .contact (.new new) => sendUpdate config nonces context [(new, .announce)]
  | _ => return context

end HandleContactUpdate

end Kira
