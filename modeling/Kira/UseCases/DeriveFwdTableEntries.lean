import Kira.Domain.RoutingTable.Observable
import Kira.Forwarding.PathIdTable

/-!
# Deriving forwarding entries

The use case listens to the events of the routing table and keeps the forwarding table of the node
in step with it.  It installs two kinds of entries under subnets of node ids.

* For every valid contact an entry of its own, under its id with prefix length zero.
* For every bucket with a valid contact one *bucket prefix entry*, under the leading bits of one of
  the contacts with the shortest path.  Which subnet that is the use case remembers for each bucket
  (`bucketPrefixEntries`), so that it can remove the entry later.

Entries to a neighbour forward packets, entries to other contacts encapsulate them with the id of
the path, a hash of its node ids.

An event is handled with the table as it is after the operation that caused it.  A handler that
fails has done what it did before; its error is logged and the next event is handled
(`handleEvents`).  The model has the state of the running use case and the forwarding table
together, since every update of the one goes with an update of the other.  The path id table is
written only when the use case is started (`startUpdate`).
-/

set_option autoImplicit false

namespace Kira

open Run RoutingTable

inductive NodeIdEntry where
  | forward (destination : NodeIdSubnet) (nextHop : UnderlayNeighborId)
  | encapsulate (destination : NodeIdSubnet) (nextHop : UnderlayNeighborId) (outPathId : PathId)
  deriving DecidableEq

def NodeIdEntry.destination : NodeIdEntry → NodeIdSubnet
  | .forward destination _ => destination
  | .encapsulate destination _ _ => destination

inductive NodeIdTableUpdate where
  | createOrUpdate (entry : NodeIdEntry)
  | remove (destination : NodeIdSubnet)

inductive DeriveFwdEntriesError where
  | neighborNotInULNTable (id : NodeId)
  | nonUNInULNTable (contact : Contact)
  deriving DecidableEq

structure FwdConfig where
  ulnTable : NodeId → Option UnderlayNeighborId
  hash : List NodeId → PathId

/-- The running use case, and the entries it has installed. -/
structure DeriveFwdTableEntries where
  bucketPrefixEntries : KeyMap Nat NodeIdSubnet
  nodeIdTable : KeyMap NodeIdSubnet NodeIdEntry

namespace DeriveFwdTableEntries

def start : DeriveFwdTableEntries := ⟨∅, ∅⟩

/-- What the start hands over: packets whose path has come to its end have arrived. -/
def startUpdate {P : Type} (hasher : List NodeId → P) (rootId : NodeId) : PathIdTableUpdate P :=
  .create (.decapsulate (hasher [rootId]) .local)

def updateFwdTables (self : DeriveFwdTableEntries) : NodeIdTableUpdate → DeriveFwdTableEntries
  | .createOrUpdate entry =>
    { self with nodeIdTable := self.nodeIdTable.insert entry.destination entry }
  | .remove destination => { self with nodeIdTable := self.nodeIdTable.erase destination }

/-- The entry to a contact on this path, under some subnet. -/
def entryTo (cfg : FwdConfig) (destination : NodeIdSubnet) (nextHop : UnderlayNeighborId)
    (contact : Contact) (path : Path) : NodeIdEntry :=
  if contact.isUln then .forward destination nextHop
  else .encapsulate destination nextHop (cfg.hash path.ids)

def deriveNodeIdEntry (cfg : FwdConfig) (contact : Contact) :
    Run (Except DeriveFwdEntriesError NodeIdEntry) := do
  let path ← expect contact.path "contact is expected to have an active path"
  match cfg.ulnTable path.first with
  | none => return .error (.neighborNotInULNTable path.first)
  | some nextHop =>
    if (cfg.ulnTable contact.id).isSome && !contact.isUln then
      return .error (.nonUNInULNTable contact)
    else
      return .ok (entryTo cfg (.new contact.id) nextHop contact path)

variable {T : Type} {k : Nat} [RoutingTable T k]

/-- The first of the valid contacts with the shortest path. -/
def closestOf (bucket : Bucket k) : Run (Option Contact) := do
  let sized ← (bucket.contacts.filter Contact.isValid).mapM fun c ↦ do
    let path ← expect c.path "valid contact should have an active path"
    return (c, path.size)
  return (Iter.minBy (fun a b ↦ compare a.2 b.2) sized).map Prod.fst

/-- The subnet for the leading bits of an id.  The source subtracts the length from that of an id
without a check, before it gets to the check of `tryNew`. -/
def prefixSubnet (id : NodeId) (prefixLen : Nat) : Run NodeIdSubnet := do
  assert (prefixLen ≤ NodeId.BITS) "attempt to subtract with overflow"
  expect (NodeIdSubnet.tryNew (id.topBits prefixLen) prefixLen) "should be valid prefix length"

/-- The entry of a bucket, by proximity neighbour selection. -/
def deriveBucketPrefixEntry (cfg : FwdConfig) (routingTable : T) (bucketIndex : Nat) :
    Run (Except DeriveFwdEntriesError (Option NodeIdEntry)) := do
  let bucket ← bucketByIndex routingTable bucketIndex
  match ← closestOf bucket with
  | none => return .ok none
  | some closest =>
    assert (closest.id != root routingTable) "root in not-lowest bucket"
    let subnet ← prefixSubnet closest.id (getBucketPrefixLength routingTable bucketIndex)
    let path ← unwrap closest.path
    match cfg.ulnTable path.first with
    | none => return .error (.neighborNotInULNTable path.first)
    | some nextHop => return .ok (some (entryTo cfg subnet nextHop closest path))

/-- Installs the entry of a bucket in the place of the one installed before. -/
def installBucketPrefix (bucketIndex : Nat) (prefixEntry : NodeIdEntry)
    (self : DeriveFwdTableEntries) : DeriveFwdTableEntries :=
  let registered := { self with
    bucketPrefixEntries := self.bucketPrefixEntries.insert bucketIndex prefixEntry.destination }
  let cleaned := match self.bucketPrefixEntries.lookup bucketIndex with
    | some old =>
      if old != prefixEntry.destination then registered.updateFwdTables (.remove old)
      else registered
    | none => registered
  cleaned.updateFwdTables (.createOrUpdate prefixEntry)

def uninstallBucketPrefix (bucketIndex : Nat) (self : DeriveFwdTableEntries) :
    DeriveFwdTableEntries :=
  match self.bucketPrefixEntries.lookup bucketIndex with
  | none => self
  | some old =>
    { self with bucketPrefixEntries := self.bucketPrefixEntries.erase bucketIndex }.updateFwdTables
      (.remove old)

def updateBucket (cfg : FwdConfig) (routingTable : T) (bucketIndex : Nat)
    (self : DeriveFwdTableEntries) :
    Run (Except DeriveFwdEntriesError Unit × DeriveFwdTableEntries) := do
  match ← deriveBucketPrefixEntry cfg routingTable bucketIndex with
  | .error err => return (.error err, self)
  | .ok none => return (.ok (), self.uninstallBucketPrefix bucketIndex)
  | .ok (some prefixEntry) => return (.ok (), self.installBucketPrefix bucketIndex prefixEntry)

/-- Removes the entry of a contact.  The entry of its bucket is derived anew unless that is known to
be under another id: but what is known is the id of the *subnet*. -/
def removeNodeIdEntry (cfg : FwdConfig) (routingTable : T) (nodeId : NodeId)
    (self : DeriveFwdTableEntries) :
    Run (Except DeriveFwdEntriesError Unit × DeriveFwdTableEntries) :=
  let self := self.updateFwdTables (.remove (.new nodeId))
  let bucketIndex := getBucketIndex routingTable nodeId
  if (self.bucketPrefixEntries.lookup bucketIndex).any fun entry ↦ entry.nodeId != nodeId then
    return (.ok (), self)
  else
    self.updateBucket cfg routingTable bucketIndex

def createNodeIdEntry (cfg : FwdConfig) (routingTable : T) (contact : Contact)
    (self : DeriveFwdTableEntries) :
    Run (Except DeriveFwdEntriesError Unit × DeriveFwdTableEntries) := do
  match ← deriveNodeIdEntry cfg contact with
  | .error err => return (.error err, self)
  | .ok entry =>
    (self.updateFwdTables (.createOrUpdate entry)).updateBucket cfg routingTable
      (getBucketIndex routingTable contact.id)

/-- The source has this function twice, for a new contact and for a changed one. -/
def updateNodeIdEntry (cfg : FwdConfig) (routingTable : T) (contact : Contact)
    (self : DeriveFwdTableEntries) :
    Run (Except DeriveFwdEntriesError Unit × DeriveFwdTableEntries) :=
  self.createNodeIdEntry cfg routingTable contact

/-- Goes on unless there was an error. -/
def andThen (first : Run (Except DeriveFwdEntriesError Unit × DeriveFwdTableEntries))
    (next : DeriveFwdTableEntries →
      Run (Except DeriveFwdEntriesError Unit × DeriveFwdTableEntries)) :
    Run (Except DeriveFwdEntriesError Unit × DeriveFwdTableEntries) := do
  match ← first with
  | (.error err, self) => return (.error err, self)
  | (.ok (), self) => next self

/-- What is done about a contact that has changed, or has been exchanged for another one. -/
def handleUpdated (cfg : FwdConfig) (routingTable : T) (new old : Contact)
    (self : DeriveFwdTableEntries) :
    Run (Except DeriveFwdEntriesError Unit × DeriveFwdTableEntries) :=
  match new.state, old.state with
  | .invalid _, .valid =>
    if new.id = old.id then self.removeNodeIdEntry cfg routingTable new.id
    else
      andThen (self.removeNodeIdEntry cfg routingTable new.id)
        (removeNodeIdEntry cfg routingTable old.id)
  | .rediscovering _, .valid =>
    if new.id = old.id then self.removeNodeIdEntry cfg routingTable new.id
    else return (.ok (), self)
  | .valid, .invalid _ => self.createNodeIdEntry cfg routingTable new
  | .valid, .rediscovering _ => self.createNodeIdEntry cfg routingTable new
  | .valid, .valid =>
    if new.path = old.path then return (.ok (), self)
    else if new.id = old.id then self.updateNodeIdEntry cfg routingTable new
    else
      andThen (self.removeNodeIdEntry cfg routingTable old.id)
        (createNodeIdEntry cfg routingTable new)
  | _, _ => return (.ok (), self)

def handleEvent (cfg : FwdConfig) (routingTable : T) (event : RoutingTableEvent)
    (self : DeriveFwdTableEntries) :
    Run (Except DeriveFwdEntriesError Unit × DeriveFwdTableEntries) :=
  match event with
  | .newContact contact => self.createNodeIdEntry cfg routingTable contact
  | .removedContact contact => self.removeNodeIdEntry cfg routingTable contact.id
  | .updatedContact new old => self.handleUpdated cfg routingTable new old
  | .updatedBucket bucket => self.updateBucket cfg routingTable bucket
  | .newBucket bucket => self.updateBucket cfg routingTable bucket

def handleEvents (cfg : FwdConfig) (routingTable : T) :
    List RoutingTableEvent → DeriveFwdTableEntries → Run DeriveFwdTableEntries
  | [], self => return self
  | event :: events, self => do
    let (_, self) ← self.handleEvent cfg routingTable event
    handleEvents cfg routingTable events self

/-! ## Installing and removing -/

@[simp] theorem entryTo_destination (cfg : FwdConfig) (destination : NodeIdSubnet)
    (nextHop : UnderlayNeighborId) (contact : Contact) (path : Path) :
    (entryTo cfg destination nextHop contact path).destination = destination := by
  unfold entryTo
  split <;> rfl

theorem bucketPrefixEntries_uninstall (self : DeriveFwdTableEntries) (b b' : Nat) :
    (self.uninstallBucketPrefix b).bucketPrefixEntries.lookup b' =
      if b' = b then none else self.bucketPrefixEntries.lookup b' := by
  unfold uninstallBucketPrefix
  split
  · rename_i hnone
    split
    · rename_i hb
      rw [hb, hnone]
    · rfl
  · exact KeyMap.lookup_erase_eq ..

theorem nodeIdTable_uninstall (self : DeriveFwdTableEntries) (b : Nat) (subnet : NodeIdSubnet) :
    (self.uninstallBucketPrefix b).nodeIdTable.lookup subnet =
      if self.bucketPrefixEntries.lookup b = some subnet then none
      else self.nodeIdTable.lookup subnet := by
  unfold uninstallBucketPrefix
  split
  · rename_i hnone
    simp [hnone]
  · rename_i old hold
    rw [hold]
    simp only [updateFwdTables, KeyMap.lookup_erase_eq, Option.some_inj, eq_comm (a := subnet)]

theorem bucketPrefixEntries_install (self : DeriveFwdTableEntries) (b : Nat) (entry : NodeIdEntry)
    (b' : Nat) :
    (self.installBucketPrefix b entry).bucketPrefixEntries.lookup b' =
      if b' = b then some entry.destination else self.bucketPrefixEntries.lookup b' := by
  unfold installBucketPrefix
  simp only [updateFwdTables]
  split
  · split <;> exact KeyMap.lookup_insert_eq ..
  · exact KeyMap.lookup_insert_eq ..

theorem nodeIdTable_install (self : DeriveFwdTableEntries) (b : Nat) (entry : NodeIdEntry)
    (subnet : NodeIdSubnet) :
    (self.installBucketPrefix b entry).nodeIdTable.lookup subnet =
      if subnet = entry.destination then some entry
      else if self.bucketPrefixEntries.lookup b = some subnet then none
      else self.nodeIdTable.lookup subnet := by
  unfold installBucketPrefix
  simp only [updateFwdTables]
  split
  · rename_i old hold
    rw [hold]
    by_cases hsame : old = entry.destination
    · subst hsame
      by_cases hsub : subnet = entry.destination
      · subst hsub
        simp
      · simp [hsub, Ne.symm hsub]
    · simp only [bne_iff_ne, ne_eq, hsame, not_false_eq_true, if_true, KeyMap.lookup_insert_eq,
        KeyMap.lookup_erase_eq, Option.some_inj, eq_comm (a := subnet) (b := old)]
  · rename_i hnone
    simp [hnone, KeyMap.lookup_insert_eq]

/-! ## What is derived -/

end DeriveFwdTableEntries

/-- A valid contact of the bucket, with a shortest path. -/
structure Bucket.IsBest {k : Nat} (bucket : Bucket k) (c : Contact) (path : Path) : Prop where
  mem : c ∈ bucket.contacts
  valid : c.isValid = true
  path_eq : c.path = some path
  shortest : ∀ d ∈ bucket.contacts, d.isValid = true → ∀ p, d.path = some p → path.size ≤ p.size

namespace DeriveFwdTableEntries

variable {T : Type} {k : Nat} [RoutingTable T k]

theorem sized_spec {contacts : List Contact} {msg : String} {sized : List (Contact × Nat)}
    (h : contacts.mapM (fun c ↦ do
      let path ← expect c.path msg
      return (c, path.size)) = Run.ok sized) :
    sized.map Prod.fst = contacts ∧
      ∀ p ∈ sized, ∃ path, p.1.path = some path ∧ path.size = p.2 := by
  induction contacts generalizing sized with
  | nil =>
    cases h
    simp
  | cons c contacts ih =>
    rw [List.mapM_cons] at h
    obtain ⟨p, hp, h⟩ := of_bind h
    obtain ⟨path, hpath, hp⟩ := of_bind hp
    obtain ⟨rest, hrest, h⟩ := of_bind h
    cases hp
    cases h
    obtain ⟨hmap, hsize⟩ := ih hrest
    refine ⟨by simp [hmap], ?_⟩
    intro q hq
    rcases List.mem_cons.1 hq with rfl | hq
    · exact ⟨path, expect_eq_ok.1 hpath, rfl⟩
    · exact hsize q hq

theorem closestOf_cases {bucket : Bucket k} {r : Option Contact} (h : closestOf bucket = .ok r) :
    (r = none ∧ ∀ c ∈ bucket.contacts, c.isValid = false) ∨
      ∃ c path, r = some c ∧ bucket.IsBest c path := by
  obtain ⟨sized, hsized, h⟩ := of_bind h
  cases h
  obtain ⟨hmap, hsize⟩ := sized_spec hsized
  cases hmin : Iter.minBy (fun a b : Contact × Nat ↦ compare a.2 b.2) sized with
  | none =>
    refine .inl ⟨rfl, fun c hc ↦ ?_⟩
    rw [Iter.minBy_eq_none_iff] at hmin
    subst hmin
    have hnil : bucket.contacts.filter Contact.isValid = [] := hmap.symm
    simpa using List.filter_eq_nil_iff.1 hnil c hc
  | some best =>
    obtain ⟨hmem, hle⟩ := Iter.minBy_spec Prod.snd (fun _ _ ↦ Nat.compare_eq_gt) hmin
    obtain ⟨path, hpath, hbest⟩ := hsize best hmem
    have hfilter := List.mem_filter.1 (hmap ▸ List.mem_map_of_mem (f := Prod.fst) hmem)
    refine .inr ⟨best.1, path, rfl, hfilter.1, hfilter.2, hpath, ?_⟩
    intro d hd hvalid p hp
    have hmem' : d ∈ sized.map Prod.fst := hmap ▸ List.mem_filter.2 ⟨hd, hvalid⟩
    obtain ⟨q, hq, rfl⟩ := List.mem_map.1 hmem'
    obtain ⟨path', hpath', hsize'⟩ := hsize q hq
    obtain rfl := Option.some.inj (hpath'.symm.trans hp)
    rw [hbest, hsize']
    exact hle q hq

theorem prefixSubnet_cases {id : NodeId} {prefixLen : Nat} {subnet : NodeIdSubnet}
    (h : prefixSubnet id prefixLen = .ok subnet) :
    prefixLen ≤ NodeId.BITS ∧ subnet = ⟨id.topBits prefixLen, prefixLen⟩ := by
  obtain ⟨_, hlen, h⟩ := of_bind h
  have hle : prefixLen ≤ NodeId.BITS := by simpa using assert_eq_ok.1 hlen
  rw [NodeIdSubnet.tryNew, if_pos hle] at h
  exact ⟨hle, by simpa using h.symm⟩

def subnetOf (routingTable : T) (bucketIndex : Nat) (id : NodeId) : NodeIdSubnet :=
  let prefixLen := getBucketPrefixLength routingTable bucketIndex
  ⟨id.topBits prefixLen, prefixLen⟩

/-- **Everything that can come of deriving the entry of a bucket.** -/
inductive DerivedPrefix (cfg : FwdConfig) (routingTable : T) (b : Nat) :
    Except DeriveFwdEntriesError (Option NodeIdEntry) → Prop
  | none {bucket : Bucket k} (hb : bucketByIndex routingTable b = .ok bucket)
      (h : ∀ c ∈ bucket.contacts, c.isValid = false) :
      DerivedPrefix cfg routingTable b (.ok none)
  | foreign {bucket : Bucket k} {c : Contact} {path : Path}
      (hb : bucketByIndex routingTable b = .ok bucket) (hbest : bucket.IsBest c path)
      (huln : cfg.ulnTable path.first = .none) :
      DerivedPrefix cfg routingTable b (.error (.neighborNotInULNTable path.first))
  | entry {bucket : Bucket k} {c : Contact} {path : Path} {nextHop : UnderlayNeighborId}
      (hb : bucketByIndex routingTable b = .ok bucket) (hbest : bucket.IsBest c path)
      (hlen : getBucketPrefixLength routingTable b ≤ NodeId.BITS)
      (huln : cfg.ulnTable path.first = some nextHop) :
      DerivedPrefix cfg routingTable b
        (.ok (some (entryTo cfg (subnetOf routingTable b c.id) nextHop c path)))

theorem deriveBucketPrefixEntry_cases {cfg : FwdConfig} {routingTable : T} {b : Nat}
    {r : Except DeriveFwdEntriesError (Option NodeIdEntry)}
    (h : deriveBucketPrefixEntry cfg routingTable b = .ok r) :
    DerivedPrefix cfg routingTable b r := by
  obtain ⟨bucket, hb, h⟩ := of_bind h
  obtain ⟨closest, hclosest, h⟩ := of_bind h
  rcases closestOf_cases hclosest with ⟨rfl, hnone⟩ | ⟨c, path, rfl, hbest⟩
  · cases h
    exact .none hb hnone
  · obtain ⟨_, -, h⟩ := of_bind h
    obtain ⟨subnet, hsubnet, h⟩ := of_bind h
    obtain ⟨path', hpath', h⟩ := of_bind h
    obtain ⟨hlen, rfl⟩ := prefixSubnet_cases hsubnet
    obtain rfl := Option.some.inj (hbest.path_eq.symm.trans (expect_eq_ok.1 hpath'))
    cases huln : cfg.ulnTable path.first with
    | none =>
      obtain rfl : .error (.neighborNotInULNTable path.first) = r := by simpa [huln] using h
      exact .foreign hb hbest huln
    | some nextHop =>
      simp only [huln] at h
      cases h
      exact .entry hb hbest hlen huln

/-! ## What a handler does -/

/-- **Everything an update of a bucket can do.** -/
inductive BucketUpdated (cfg : FwdConfig) (routingTable : T) (b : Nat)
    (self : DeriveFwdTableEntries) :
    Except DeriveFwdEntriesError Unit → DeriveFwdTableEntries → Prop
  | failed {err : DeriveFwdEntriesError} (h : DerivedPrefix cfg routingTable b (.error err)) :
      BucketUpdated cfg routingTable b self (.error err) self
  | cleared (h : DerivedPrefix cfg routingTable b (.ok none)) :
      BucketUpdated cfg routingTable b self (.ok ()) (self.uninstallBucketPrefix b)
  | installed {entry : NodeIdEntry} (h : DerivedPrefix cfg routingTable b (.ok (some entry))) :
      BucketUpdated cfg routingTable b self (.ok ()) (self.installBucketPrefix b entry)

variable {cfg : FwdConfig} {routingTable : T} {self self' : DeriveFwdTableEntries}
  {r : Except DeriveFwdEntriesError Unit}

theorem updateBucket_cases {b : Nat} (h : self.updateBucket cfg routingTable b = .ok (r, self')) :
    BucketUpdated cfg routingTable b self r self' := by
  obtain ⟨d, hd, h⟩ := of_bind h
  have hderived := deriveBucketPrefixEntry_cases hd
  match d with
  | .error err =>
    cases h
    exact .failed hderived
  | .ok none =>
    cases h
    exact .cleared hderived
  | .ok (some entry) =>
    cases h
    exact .installed hderived

/-- The removal of the entry of a contact: the bucket is left alone only if its entry is registered
under an id other than that of the contact. -/
theorem removeNodeIdEntry_cases {id : NodeId}
    (h : self.removeNodeIdEntry cfg routingTable id = .ok (r, self')) :
    (∃ subnet, self.bucketPrefixEntries.lookup (getBucketIndex routingTable id) = some subnet ∧
      subnet.nodeId ≠ id ∧ r = .ok () ∧ self' = self.updateFwdTables (.remove (.new id))) ∨
    ((∀ subnet, self.bucketPrefixEntries.lookup (getBucketIndex routingTable id) = some subnet →
        subnet.nodeId = id) ∧
      BucketUpdated cfg routingTable (getBucketIndex routingTable id)
        (self.updateFwdTables (.remove (.new id))) r self') := by
  unfold removeNodeIdEntry at h
  simp only [Option.any_eq_true, bne_iff_ne] at h
  split at h
  · rename_i hother
    obtain ⟨subnet, hlook, hne⟩ := hother
    obtain ⟨rfl, rfl⟩ : .ok () = r ∧ self.updateFwdTables (.remove (.new id)) = self' := by
      simpa using h
    exact .inl ⟨subnet, hlook, hne, rfl, rfl⟩
  · rename_i hother
    refine .inr ⟨fun subnet hlook ↦ ?_, updateBucket_cases h⟩
    by_contra hne
    exact hother ⟨subnet, hlook, hne⟩

/-- An entry can be derived for the contact. -/
structure Derivable (cfg : FwdConfig) (c : Contact) (path : Path) (nextHop : UnderlayNeighborId) :
    Prop where
  path_eq : c.path = some path
  nextHop_eq : cfg.ulnTable path.first = some nextHop
  neighbor : (cfg.ulnTable c.id).isSome = true → c.isUln = true

/-- The creation of an entry: it fails before it has changed anything, or the entry is installed and
that of the bucket is derived anew. -/
theorem createNodeIdEntry_cases {c : Contact}
    (h : self.createNodeIdEntry cfg routingTable c = .ok (r, self')) :
    ((∃ err, r = .error err) ∧ self' = self ∧ ∀ path nextHop, ¬ Derivable cfg c path nextHop) ∨
    (∃ path nextHop, Derivable cfg c path nextHop ∧
      BucketUpdated cfg routingTable (getBucketIndex routingTable c.id)
        (self.updateFwdTables (.createOrUpdate (entryTo cfg (.new c.id) nextHop c path))) r
        self') := by
  obtain ⟨d, hd, h⟩ := of_bind h
  obtain ⟨path, hpath, hd⟩ := of_bind hd
  rw [expect_eq_ok] at hpath
  have hfail : ∀ err, d = .error err → (∀ p nextHop, ¬ Derivable cfg c p nextHop) →
      (∃ err, r = .error err) ∧ self' = self ∧ ∀ p nextHop, ¬ Derivable cfg c p nextHop := by
    rintro err rfl hnot
    cases h
    exact ⟨⟨err, rfl⟩, rfl, hnot⟩
  cases huln : cfg.ulnTable path.first with
  | none =>
    obtain rfl : .error (.neighborNotInULNTable path.first) = d := by simpa [huln] using hd
    refine .inl (hfail _ rfl fun p nextHop hder ↦ ?_)
    obtain rfl := Option.some.inj (hpath.symm.trans hder.path_eq)
    exact absurd hder.nextHop_eq (by simp [huln])
  | some nextHop =>
    simp only [huln] at hd
    split at hd
    · rename_i hnon
      cases hd
      refine .inl (hfail _ rfl fun p nextHop hder ↦ ?_)
      simp only [Bool.and_eq_true, Bool.not_eq_true'] at hnon
      exact absurd (hder.neighbor hnon.1) (by simp [hnon.2])
    · rename_i hnon
      cases hd
      refine .inr ⟨path, nextHop, ⟨hpath, huln, fun hsome ↦ ?_⟩, updateBucket_cases h⟩
      by_contra huln'
      exact hnon (by simp [hsome, huln'])

/-! Which handler an update of a contact leads to. -/

variable {new old : Contact}

theorem handleUpdated_invalidated (hid : new.id = old.id)
    (hold : old.state = .valid) (hnew : new.state ≠ .valid) (hdead : new.state ≠ .dead)
    (hunknown : new.state ≠ .unknown) :
    self.handleUpdated cfg routingTable new old =
      self.removeNodeIdEntry cfg routingTable new.id := by
  rw [handleUpdated, hold]
  cases hstate : new.state <;> simp_all

theorem handleUpdated_validated (hnew : new.state = .valid)
    (hold : old.state ≠ .valid) (hdead : old.state ≠ .dead) (hunknown : old.state ≠ .unknown) :
    self.handleUpdated cfg routingTable new old = self.createNodeIdEntry cfg routingTable new := by
  rw [handleUpdated, hnew]
  cases hstate : old.state <;> simp_all

theorem handleUpdated_valid (hnew : new.state = .valid) (hold : old.state = .valid) :
    self.handleUpdated cfg routingTable new old =
      if new.path = old.path then .ok (.ok (), self)
      else if new.id = old.id then self.createNodeIdEntry cfg routingTable new
      else
        andThen (self.removeNodeIdEntry cfg routingTable old.id)
          (createNodeIdEntry cfg routingTable new) := by
  rw [handleUpdated, hnew, hold]
  rfl

theorem handleUpdated_of_not_valid (hnew : new.state ≠ .valid) (hold : old.state ≠ .valid) :
    self.handleUpdated cfg routingTable new old = .ok (.ok (), self) := by
  rw [handleUpdated]
  split <;> simp_all

theorem andThen_eq_ok {first : Run (Except DeriveFwdEntriesError Unit × DeriveFwdTableEntries)}
    {next : DeriveFwdTableEntries →
      Run (Except DeriveFwdEntriesError Unit × DeriveFwdTableEntries)}
    (h : andThen first next = .ok (r, self')) :
    (∃ err, r = .error err ∧ first = .ok (.error err, self')) ∨
      ∃ between, first = .ok (.ok (), between) ∧ next between = .ok (r, self') := by
  obtain ⟨⟨r₁, between⟩, hfirst, h⟩ := of_bind h
  cases r₁ with
  | error err =>
    cases h
    exact .inl ⟨err, rfl, hfirst⟩
  | ok u => exact .inr ⟨between, hfirst, h⟩

theorem handleEvents_cons {event : RoutingTableEvent} {events : List RoutingTableEvent}
    (h : handleEvents cfg routingTable (event :: events) self = .ok self') :
    ∃ r between, self.handleEvent cfg routingTable event = .ok (r, between) ∧
      handleEvents cfg routingTable events between = .ok self' := by
  obtain ⟨⟨r, between⟩, hfirst, h⟩ := of_bind h
  exact ⟨r, between, hfirst, h⟩

theorem handleEvents_append {events events' : List RoutingTableEvent}
    (h : handleEvents cfg routingTable (events ++ events') self = .ok self') :
    ∃ between, handleEvents cfg routingTable events self = .ok between ∧
      handleEvents cfg routingTable events' between = .ok self' := by
  induction events generalizing self with
  | nil => exact ⟨self, rfl, h⟩
  | cons event events ih =>
    obtain ⟨r, next, hfirst, h⟩ := handleEvents_cons h
    obtain ⟨between, hbetween, h⟩ := ih h
    refine ⟨between, ?_, h⟩
    rw [handleEvents, hfirst]
    exact hbetween

end DeriveFwdTableEntries

end Kira
