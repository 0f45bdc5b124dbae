import Kira.Lib.KeyMap
import Kira.Domain.RoutingTable.FlatInvariant

/-!
# The table with room for all underlay neighbors

`UnlimitedULNRoutingTable` keeps underlay neighbors, the contacts whose active path is a single hop,
in a map of their own next to a flat table.  A lookup asks the map first.

Where a contact goes is decided when it is added.  A neighbor goes into the map, and a contact with
the same id leaves the inner table for it; another contact goes into the inner table, unless the map
has a valid contact of that id.  If that one is not valid, it is removed first, whether the inner
table then takes the contact or not.  A replacement goes into the map in any case.
-/

set_option autoImplicit false

namespace Kira

/-- The neighbours are in a map, all others in a flat table. -/
structure UnlimitedULNRoutingTable (k acc : Nat) where
  unContacts : KeyMap NodeId Contact
  inner : FlatRoutingTable k acc

namespace UnlimitedULNRoutingTable

variable {k acc : Nat}

def new (root : NodeId) (acc_pos : 0 < acc) (acc_lt : acc < 64) :
    UnlimitedULNRoutingTable k acc :=
  { unContacts := ∅, inner := .new root acc_pos acc_lt }

def root (self : UnlimitedULNRoutingTable k acc) : NodeId := self.inner.root

def addInner (self : UnlimitedULNRoutingTable k acc) (contact : Contact) :
    Run (Except AddError Unit × UnlimitedULNRoutingTable k acc) := do
  let (res, inner) ← self.inner.add contact
  return (res, { self with inner })

def add (self : UnlimitedULNRoutingTable k acc) (contact : Contact) :
    Run (Except AddError Unit × UnlimitedULNRoutingTable k acc) :=
  match self.unContacts.lookup contact.id with
  | some ulnEntry =>
    if contact.isUln then
      return (.error (.alreadyExists contact.id), self)
    -- the contact is a neighbor and has a longer path now
    else if ulnEntry.isValid then
      return (.error (.alreadyExists contact.id), self)
    -- the contact was a neighbor and is not any more
    else addInner { self with unContacts := self.unContacts.erase contact.id } contact
  | none =>
    if contact.isUln then
      return (.ok (),
        { unContacts := self.unContacts.insert contact.id contact
          inner := (self.inner.remove contact.id).2 })
    else addInner self contact

def remove (self : UnlimitedULNRoutingTable k acc) (id : NodeId) :
    Option Contact × UnlimitedULNRoutingTable k acc :=
  match self.unContacts.lookup id with
  | some contact => (some contact, { self with unContacts := self.unContacts.erase id })
  | none =>
    let (removed, inner) := self.inner.remove id
    (removed, { self with inner })

def replace (self : UnlimitedULNRoutingTable k acc) (id : NodeId) (withContact : Contact) :
    Except ReplacementError Contact × UnlimitedULNRoutingTable k acc :=
  -- the map takes the contact before it is known whether there is one to replace
  let unContacts := self.unContacts.insert id withContact
  match self.unContacts.lookup id with
  | some contact => (.ok contact, { self with unContacts })
  | none =>
    let (res, inner) := self.inner.replace id withContact
    (res, { unContacts, inner })

def contact (self : UnlimitedULNRoutingTable k acc) (id : NodeId) : Option Contact :=
  (self.unContacts.lookup id).or (self.inner.contact id)

def write (self : UnlimitedULNRoutingTable k acc) (id : NodeId) (contact : Contact) :
    UnlimitedULNRoutingTable k acc :=
  match self.unContacts.lookup id with
  | some _ => { self with unContacts := self.unContacts.insert id contact }
  | none => { self with inner := self.inner.write id contact }

def contactMut {α : Type} (self : UnlimitedULNRoutingTable k acc) (id : NodeId)
    (f : Contact → Run (α × Contact)) : Run (Option α × UnlimitedULNRoutingTable k acc) :=
  match self.unContacts.lookup id with
  | some contact => do
    let (a, contact) ← f contact
    return (some a, { self with unContacts := self.unContacts.insert id contact })
  | none => do
    let (a, inner) ← self.inner.contactMut id f
    return (a, { self with inner })

def contains (self : UnlimitedULNRoutingTable k acc) (id : NodeId) : Bool :=
  (self.unContacts.lookup id).isSome || self.inner.contains id

def splitBucket (self : UnlimitedULNRoutingTable k acc) (id : NodeId) :
    Run (Except BucketSplitError Nat × UnlimitedULNRoutingTable k acc) := do
  let (res, inner) ← self.inner.splitBucket id
  return (res, { self with inner })

/-- The contacts of the inner table that are close to the target, with all valid neighbors, sorted.
More than were asked for are returned only while the first surplus one is outside of the last
bucket. -/
def closest (self : UnlimitedULNRoutingTable k acc) (target : NodeId) (n : Nat)
    (sharedPrefixGrouping : NonZeroU8) : Run (Except GroupingError (List PrefixContact)) := do
  match ← self.inner.closest target n sharedPrefixGrouping with
  | .error err => return .error err
  | .ok closest =>
    let closest := sortXor
      (closest ++ candidatesOf self.unContacts.values target sharedPrefixGrouping.get)
    match closest[n]? with
    | none => return .ok closest
    | some (_, nthClosest) =>
      if self.inner.getBucketIndex nthClosest.id = self.inner.numBuckets - 1 then
        return .ok (closest.take n)
      else return .ok closest

def iter (self : UnlimitedULNRoutingTable k acc) : List Contact :=
  self.unContacts.values ++ self.inner.iter

def len (self : UnlimitedULNRoutingTable k acc) : Nat :=
  self.unContacts.values.length + self.inner.len

def isEmpty (self : UnlimitedULNRoutingTable k acc) : Bool :=
  self.unContacts.values.isEmpty && self.inner.isEmpty

def randomId (self : UnlimitedULNRoutingTable k acc) (draw : Nat → Nat) : Run (Option NodeId) :=
  if self.isEmpty then return none
  else do
    let random ← randomRange draw self.len
    return self.iter[random]?.map Contact.id

def iterMut (self : UnlimitedULNRoutingTable k acc) (f : Contact → Contact) :
    UnlimitedULNRoutingTable k acc :=
  { unContacts := self.unContacts.mapValues f, inner := self.inner.iterMut f }

instance : RoutingTable (UnlimitedULNRoutingTable k acc) k where
  root := root
  add := add
  remove := remove
  replace := replace
  contact := contact
  contactMut := contactMut
  contains := contains
  splitBucket := splitBucket
  bucket self := self.inner.bucket
  bucketByIndex self := self.inner.bucketByIndex
  getBucketIndex self := self.inner.getBucketIndex
  getBucketPrefixLength self := self.inner.getBucketPrefixLength
  closest := closest
  iter := iter
  iterMut := iterMut

end UnlimitedULNRoutingTable

end Kira
