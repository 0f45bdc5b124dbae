import Kira.Domain.UnderlayNeighborTable

/-!
# The underlay information base

The underlay neighbours are known to the routing layer by ids, each made of the interface and of a
number that the interface hands out.  The base keeps three maps: from the ids to the neighbours,
from the neighbours to the ids, and from the interfaces that are up to the numbers in use.

The numbers of an interface start again at 0 whenever it comes up, and are 32 bits wide.
`Consistent` is what the three maps have in common as long as no number is handed out twice;
`registrations` counts the numbers handed out by each interface since it last went down.
-/

set_option autoImplicit false

namespace Kira

open Run

abbrev EthAddr := BitVec 48

structure Interface where
  interfaceId : Nat
  srcMac : EthAddr
  broadcastMac : EthAddr
  deriving DecidableEq

structure UnderlayNeighbor where
  llIpv6 : BitVec 128
  interfaceId : Nat
  isUnicastLinkLocal : llIpv6 >>> 112 &&& 0xffc0 = 0xfe80
  deriving DecidableEq

structure UnderlayNeighborInformation where
  interfaceId : Nat
  srcMac : EthAddr
  broadcastMac : EthAddr
  llIpv6 : BitVec 128

def UnderlayNeighbor.information (self : UnderlayNeighbor) (interface : Interface) :
    Run UnderlayNeighborInformation := do
  assert (self.interfaceId = interface.interfaceId)
    "Interface of underlay neighbor should match supplied interface"
  .ok ⟨self.interfaceId, interface.srcMac, interface.broadcastMac, self.llIpv6⟩

structure UnderlayNeighborInterfaceDownError where
  interfaceId : Nat

structure InterfaceState where
  interface : Interface
  nextCid : Nat
  neighbors : KeyMap Nat Unit

/-- The underlay neighbours connected via this interface. -/
def InterfaceState.neighborIds (self : InterfaceState) : List UnderlayNeighborId :=
  self.neighbors.keys.map (⟨self.interface.interfaceId, ·⟩)

def InterfaceState.ofInterface (interface : Interface) : InterfaceState := ⟨interface, 0, ∅⟩

/-- The interfaces, and the neighbours by id and by address. -/
structure UnderlayInformationBase where
  neighbors : KeyMap UnderlayNeighborId UnderlayNeighbor
  neighborIds : KeyMap UnderlayNeighbor UnderlayNeighborId
  interfaces : KeyMap Nat InterfaceState

namespace UnderlayInformationBase

def empty : UnderlayInformationBase := ⟨∅, ∅, ∅⟩

def getInformation (self : UnderlayInformationBase) (ulnid : UnderlayNeighborId) :
    Run (Option UnderlayNeighborInformation) :=
  match self.neighbors.lookup ulnid with
  | none => .ok none
  | some neighbor => do
    let state ← expect (self.interfaces.lookup neighbor.interfaceId)
      "interface should be up as enforced by register_neighbor"
    let info ← neighbor.information state.interface
    .ok (some info)

def registerNeighbor (self : UnderlayInformationBase) (neighbor : UnderlayNeighbor) :
    Run (Except UnderlayNeighborInterfaceDownError UnderlayNeighborId × UnderlayInformationBase) :=
  match self.neighborIds.lookup neighbor with
  | some ulnid => .ok (.ok ulnid, self)
  | none =>
    match self.interfaces.lookup neighbor.interfaceId with
    | none => .ok (.error ⟨neighbor.interfaceId⟩, self)
    | some state => do
      let ulnid := ⟨neighbor.interfaceId, state.nextCid⟩
      assert (self.neighbors.lookup ulnid).isNone
        "Collision of active underlay neighbor ids because unhandled overflow"
      assert (self.neighborIds.lookup neighbor).isNone
        "Generation of a new ConnectionID necessitates an unknown UnderlayNeighbor"
      assert (state.nextCid ∉ state.neighbors) "ConnectionId should be unused"
      let state := { state with
        neighbors := state.neighbors.insert state.nextCid ()
        -- the successor if it fits into 32 bits
        nextCid := if state.nextCid + 1 < 2 ^ 32 then state.nextCid + 1 else 1 }
      .ok (.ok ulnid,
        { neighbors := self.neighbors.insert ulnid neighbor
          neighborIds := self.neighborIds.insert neighbor ulnid
          interfaces := self.interfaces.insert neighbor.interfaceId state })

/-- The neighbour is removed from the two maps of the neighbours, as both operations that remove one
do. -/
def forget (self : UnderlayInformationBase) (ulnid : UnderlayNeighborId)
    (neighbor : UnderlayNeighbor) : Run UnderlayInformationBase := do
  assert (self.neighborIds.lookup neighbor = some ulnid) "assertion `left == right` failed"
  .ok { self with
    neighbors := self.neighbors.erase ulnid
    neighborIds := self.neighborIds.erase neighbor }

def unregisterNeighbor (self : UnderlayInformationBase) (ulnid : UnderlayNeighborId) :
    Run (Option UnderlayNeighbor × UnderlayInformationBase) :=
  match self.neighbors.lookup ulnid with
  | none => .ok (none, self)
  | some neighbor => do
    let self ← self.forget ulnid neighbor
    let state ← expect (self.interfaces.lookup ulnid.interfaceId)
      "Interface of Underlay should be up"
    assert (ulnid.connectionId ∈ state.neighbors) "UnderlayNeighbor not registered to Interface"
    let state := { state with neighbors := state.neighbors.erase ulnid.connectionId }
    .ok (some neighbor, { self with interfaces := self.interfaces.insert ulnid.interfaceId state })

/-- The loop of `interfaceDown`, and whether it came to its end. -/
def downAll (self : UnderlayInformationBase) :
    List UnderlayNeighborId → Run (Bool × UnderlayInformationBase)
  | [] => .ok (true, self)
  | ulnid :: rest =>
    match self.neighbors.lookup ulnid with
    | none => .ok (false, self)
    | some neighbor => do
      let self ← self.forget ulnid neighbor
      self.downAll rest

def interfaceDown (self : UnderlayInformationBase) (interfaceId : Nat) :
    Run (Option (List UnderlayNeighborId) × UnderlayInformationBase) :=
  match self.interfaces.lookup interfaceId with
  | none => .ok (none, self)
  | some state => do
    let self := { self with interfaces := self.interfaces.erase interfaceId }
    let (finished, self) ← self.downAll state.neighborIds
    .ok (if finished then some state.neighborIds else none, self)

def interfaceUp (self : UnderlayInformationBase) (interface : Interface) :
    Run (Bool × UnderlayInformationBase) :=
  match self.interfaces.lookup interface.interfaceId with
  | some state => do
    assert (interface.interfaceId = state.interface.interfaceId)
      "InterfaceId HashMap key inconsistency"
    .ok (false, { self with
      interfaces := self.interfaces.insert interface.interfaceId { state with interface } })
  | none =>
    .ok (true, { self with
      interfaces := self.interfaces.insert interface.interfaceId (.ofInterface interface) })

/-! ## What the maps have in common -/

/-- The id is in the set of its interface, and the interface is up. -/
def InUse (interfaces : KeyMap Nat InterfaceState) (ulnid : UnderlayNeighborId) : Prop :=
  ∃ state, interfaces.lookup ulnid.interfaceId = some state ∧ ulnid.connectionId ∈ state.neighbors

theorem inUse_insert {interfaces : KeyMap Nat InterfaceState} {id : Nat} {state : InterfaceState}
    {ulnid : UnderlayNeighborId} : InUse (interfaces.insert id state) ulnid ↔
      if ulnid.interfaceId = id then ulnid.connectionId ∈ state.neighbors
      else InUse interfaces ulnid := by
  unfold InUse
  rw [KeyMap.lookup_insert_eq]
  split <;> simp

/-- What holds of an interface that is up, given how many numbers each interface has handed out. -/
structure Sound (registrations : Nat → Nat) (id : Nat) (state : InterfaceState) : Prop where
  keyed : state.interface.interfaceId = id
  counted : state.nextCid ≤ registrations id
  handedOut : ∀ cid ∈ state.neighbors, cid < state.nextCid

/-- The two maps of the neighbours are inverse to each other, and keep to the interfaces. -/
structure Inverse (base : UnderlayInformationBase) : Prop where
  inverse : ∀ ulnid neighbor,
    base.neighbors.lookup ulnid = some neighbor ↔ base.neighborIds.lookup neighbor = some ulnid
  via : ∀ ulnid neighbor, base.neighbors.lookup ulnid = some neighbor →
    neighbor.interfaceId = ulnid.interfaceId

/-- What holds of the base. -/
structure Consistent (registrations : Nat → Nat) (base : UnderlayInformationBase) : Prop
    extends Inverse base where
  inUse : ∀ ulnid, (base.neighbors.lookup ulnid).isSome ↔ InUse base.interfaces ulnid
  sound : ∀ id state, base.interfaces.lookup id = some state → Sound registrations id state

variable {self self' : UnderlayInformationBase} {registrations : Nat → Nat}

theorem Consistent.sound_insert (h : self.Consistent registrations) {registrations' : Nat → Nat}
    {key : Nat} {new : InterfaceState} (hsame : ∀ id ≠ key, registrations' id = registrations id)
    (hnew : Sound registrations' key new) (id : Nat) (state : InterfaceState)
    (hlookup : (self.interfaces.insert key new).lookup id = some state) :
    Sound registrations' id state := by
  rw [KeyMap.lookup_insert_eq] at hlookup
  split at hlookup
  case isTrue hid =>
    cases hlookup
    exact hid ▸ hnew
  case isFalse hid =>
    obtain ⟨hkeyed, hcounted, hhanded⟩ := h.sound _ _ hlookup
    exact ⟨hkeyed, (hsame id hid).symm ▸ hcounted, hhanded⟩

theorem consistent_empty : empty.Consistent registrations := by
  refine ⟨⟨?_, ?_⟩, ?_, ?_⟩ <;> simp [empty, InUse]

/-! ## The operations -/

theorem Consistent.getInformation (h : self.Consistent registrations) (ulnid : UnderlayNeighborId) :
    ∃ info, self.getInformation ulnid = .ok info := by
  unfold UnderlayInformationBase.getInformation
  cases hlookup : self.neighbors.lookup ulnid with
  | none => exact ⟨_, rfl⟩
  | some neighbor =>
    obtain ⟨state, hstate, -⟩ := (h.inUse ulnid).1 (by simp [hlookup])
    rw [← h.via _ _ hlookup] at hstate
    simp only [hstate, expect_some, UnderlayNeighbor.information, (h.sound _ _ hstate).keyed,
      decide_true, assert_true, ok_bind]
    exact ⟨_, rfl⟩

/-- The interface hands out a number for this neighbour. -/
def Registers (self : UnderlayInformationBase) (neighbor : UnderlayNeighbor) : Prop :=
  self.neighborIds.lookup neighbor = none ∧
    (self.interfaces.lookup neighbor.interfaceId).isSome

instance (neighbor : UnderlayNeighbor) : Decidable (self.Registers neighbor) :=
  inferInstanceAs (Decidable (_ ∧ _))

theorem Consistent.registerNeighbor (h : self.Consistent registrations)
    {neighbor : UnderlayNeighbor}
    (hbound : self.Registers neighbor → registrations neighbor.interfaceId + 1 < 2 ^ 32) :
    ∃ answer self', self.registerNeighbor neighbor = .ok (answer, self') ∧
      self'.Consistent (Function.update registrations neighbor.interfaceId
        (registrations neighbor.interfaceId + if self.Registers neighbor then 1 else 0)) := by
  unfold UnderlayInformationBase.registerNeighbor
  cases hid : self.neighborIds.lookup neighbor with
  | some ulnid =>
    refine ⟨_, _, rfl, ?_⟩
    rwa [if_neg (by simp [Registers, hid]), Nat.add_zero, Function.update_eq_self]
  | none =>
    cases hstate : self.interfaces.lookup neighbor.interfaceId with
    | none =>
      refine ⟨_, _, rfl, ?_⟩
      rwa [if_neg (by simp [Registers, hstate]), Nat.add_zero, Function.update_eq_self]
    | some state =>
      have hregisters : self.Registers neighbor := ⟨hid, by simp [hstate]⟩
      obtain ⟨hkeyed, hcounted, hhanded⟩ := h.sound _ _ hstate
      have hunused : state.nextCid ∉ state.neighbors :=
        fun hmem ↦ Nat.lt_irrefl _ (hhanded _ hmem)
      have hfree : self.neighbors.lookup ⟨neighbor.interfaceId, state.nextCid⟩ = none := by
        have hnot : ¬ InUse self.interfaces ⟨neighbor.interfaceId, state.nextCid⟩ := by
          rintro ⟨state', hstate', hmem⟩
          obtain rfl : state = state' := Option.some.inj (hstate.symm.trans hstate')
          exact hunused hmem
        rw [← h.inUse] at hnot
        simpa using hnot
      have hfits : state.nextCid + 1 < 2 ^ 32 :=
        Nat.lt_of_le_of_lt (Nat.succ_le_succ hcounted) (hbound hregisters)
      simp only [hfree, Option.isNone_none, hunused, not_false_eq_true, decide_true, assert_true,
        ok_bind, if_pos hfits, if_pos hregisters]
      refine ⟨_, _, rfl, ⟨?_, ?_⟩, ?_, ?_⟩
      · intro ulnid other
        have hinverse := h.inverse ulnid other
        grind [KeyMap.lookup_insert_eq]
      · intro ulnid other hother
        have hvia := h.via ulnid other
        grind [KeyMap.lookup_insert_eq]
      · rintro ⟨id, cid⟩
        have hinUse := h.inUse ⟨id, cid⟩
        rw [inUse_insert, KeyMap.lookup_insert_eq]
        simp only [AList.mem_insert, UnderlayNeighborId.mk.injEq]
        grind [InUse]
      · refine h.sound_insert (fun id hid ↦ Function.update_of_ne hid _ _)
          ⟨hkeyed, by simpa using hcounted, fun cid hcid ↦ ?_⟩
        rcases (AList.mem_insert _).1 hcid with rfl | hcid
        · exact Nat.lt_succ_self _
        · exact Nat.lt_succ_of_lt (hhanded cid hcid)

theorem Inverse.forget (h : self.Inverse) {ulnid : UnderlayNeighborId} {neighbor : UnderlayNeighbor}
    (hlookup : self.neighbors.lookup ulnid = some neighbor) :
    ∃ self', self.forget ulnid neighbor = .ok self' ∧ self'.Inverse ∧
      self'.interfaces = self.interfaces ∧ self'.neighbors = self.neighbors.erase ulnid := by
  have hid := (h.inverse _ _).1 hlookup
  simp only [UnderlayInformationBase.forget, hid, decide_true, assert_true, ok_bind]
  refine ⟨_, rfl, ⟨?_, ?_⟩, rfl, rfl⟩
  · intro ulnid' neighbor'
    have hinverse := h.inverse
    grind [KeyMap.lookup_erase_eq]
  · intro ulnid' neighbor' hlookup'
    exact h.via _ _ (KeyMap.lookup_of_erase hlookup')

theorem Consistent.unregisterNeighbor (h : self.Consistent registrations)
    (ulnid : UnderlayNeighborId) :
    ∃ answer self', self.unregisterNeighbor ulnid = .ok (answer, self') ∧
      self'.Consistent registrations := by
  unfold UnderlayInformationBase.unregisterNeighbor
  cases hlookup : self.neighbors.lookup ulnid with
  | none => exact ⟨_, _, rfl, h⟩
  | some neighbor =>
    obtain ⟨state, hstate, hmem⟩ := (h.inUse ulnid).1 (by simp [hlookup])
    obtain ⟨self', hforget, hinverse, hinterfaces, hneighbors⟩ := h.forget hlookup
    simp only [hforget, hinterfaces, hstate, hmem, expect_some, ok_bind, decide_true,
      assert_true]
    refine ⟨_, _, rfl, ⟨hinverse.inverse, hinverse.via⟩, ?_, ?_⟩
    · intro other
      have hinUse := h.inUse other
      rw [inUse_insert, hneighbors, KeyMap.lookup_erase_eq]
      cases other
      cases ulnid
      grind [InUse, AList.mem_erase]
    · obtain ⟨hkeyed, hcounted, hhanded⟩ := h.sound _ _ hstate
      exact h.sound_insert (fun _ _ ↦ rfl)
        ⟨hkeyed, hcounted, fun cid hcid ↦ hhanded cid (AList.mem_erase.1 hcid).2⟩

theorem Inverse.downAll (h : self.Inverse) {ids : List UnderlayNeighborId} (hnodup : ids.Nodup)
    (hids : ∀ ulnid ∈ ids, (self.neighbors.lookup ulnid).isSome) :
    ∃ self', self.downAll ids = .ok (true, self') ∧ self'.Inverse ∧
      self'.interfaces = self.interfaces ∧
      ∀ ulnid, self'.neighbors.lookup ulnid =
        if ulnid ∈ ids then none else self.neighbors.lookup ulnid := by
  induction ids generalizing self with
  | nil => exact ⟨self, rfl, h, rfl, fun _ ↦ rfl⟩
  | cons ulnid ids ih =>
    obtain ⟨hnot, hnodup⟩ := List.nodup_cons.1 hnodup
    obtain ⟨neighbor, hlookup⟩ := Option.isSome_iff_exists.1 (hids ulnid List.mem_cons_self)
    obtain ⟨mid, hforget, hmid, hinterfaces, hneighbors⟩ := h.forget hlookup
    obtain ⟨self', hdown, hself', hinterfaces', hlookups⟩ := ih hmid hnodup fun other hother ↦ by
      rw [hneighbors, KeyMap.lookup_erase_eq, if_neg (ne_of_mem_of_not_mem hother hnot)]
      exact hids other (List.mem_cons_of_mem _ hother)
    refine ⟨self', ?_, hself', hinterfaces'.trans hinterfaces, fun other ↦ ?_⟩
    · simp only [UnderlayInformationBase.downAll, hlookup, hforget, ok_bind, hdown]
    · rw [hlookups, hneighbors, KeyMap.lookup_erase_eq]
      by_cases heq : other = ulnid <;> simp [heq]

theorem nodup_neighborIds (state : InterfaceState) : state.neighborIds.Nodup :=
  (AList.keys_nodup state.neighbors).map fun _ _ h ↦ (UnderlayNeighborId.mk.inj h).2

/-- What it means that an interface goes down. -/
def Downed (self self' : UnderlayInformationBase) (interfaceId : Nat)
    (answer : Option (List UnderlayNeighborId)) : Prop :=
  (answer.isSome ↔ (self.interfaces.lookup interfaceId).isSome) ∧
  ∀ ids, answer = some ids →
    (∀ ulnid, ulnid ∈ ids ↔
      ulnid.interfaceId = interfaceId ∧ (self.neighbors.lookup ulnid).isSome) ∧
    ∀ ulnid ∈ ids, self'.neighbors.lookup ulnid = none

theorem Consistent.interfaceDown (h : self.Consistent registrations) (interfaceId : Nat) :
    ∃ answer self', self.interfaceDown interfaceId = .ok (answer, self') ∧
      self'.Consistent (Function.update registrations interfaceId 0) ∧
      self.Downed self' interfaceId answer := by
  unfold UnderlayInformationBase.interfaceDown
  cases hstate : self.interfaces.lookup interfaceId with
  | none =>
    refine ⟨_, _, rfl, ⟨h.toInverse, h.inUse, fun id state hlookup ↦ ?_⟩, by simp [hstate], nofun⟩
    obtain ⟨hkeyed, hcounted, hhanded⟩ := h.sound _ _ hlookup
    have hne : id ≠ interfaceId := by
      rintro rfl
      simp [hstate] at hlookup
    exact ⟨hkeyed, by rwa [Function.update_of_ne hne], hhanded⟩
  | some state =>
    have hids : ∀ ulnid, ulnid ∈ state.neighborIds ↔
        ulnid.interfaceId = interfaceId ∧ (self.neighbors.lookup ulnid).isSome := by
      rintro ⟨id, cid⟩
      rw [h.inUse, InterfaceState.neighborIds, (h.sound _ _ hstate).keyed]
      grind [InUse, AList.mem_keys]
    have hwithout : Inverse { self with interfaces := self.interfaces.erase interfaceId } :=
      ⟨h.inverse, h.via⟩
    obtain ⟨self', hdown, hinverse, hinterfaces, hlookups⟩ :=
      hwithout.downAll (nodup_neighborIds state) fun ulnid hmem ↦ ((hids ulnid).1 hmem).2
    simp only [hdown, ok_bind]
    refine ⟨_, _, rfl, ⟨hinverse, fun ulnid ↦ ?_, fun id state' hlookup ↦ ?_⟩, by simp [hstate], ?_⟩
    · have hinUse := h.inUse ulnid
      rw [InUse] at hinUse ⊢
      rw [hlookups, hinterfaces, KeyMap.lookup_erase_eq]
      simp only [hids]
      by_cases heq : ulnid.interfaceId = interfaceId
      · cases hlookup : self.neighbors.lookup ulnid <;> simp [heq]
      · simpa [heq] using hinUse
    · rw [hinterfaces, KeyMap.lookup_erase_eq] at hlookup
      split at hlookup
      · cases hlookup
      · obtain ⟨hkeyed, hcounted, hhanded⟩ := h.sound _ _ hlookup
        exact ⟨hkeyed, by rwa [Function.update_of_ne (by assumption)], hhanded⟩
    · rintro ids ⟨⟩
      exact ⟨hids, fun ulnid hmem ↦ by rw [hlookups, if_pos hmem]⟩

theorem Consistent.interfaceUp (h : self.Consistent registrations) (interface : Interface) :
    ∃ answer self', self.interfaceUp interface = .ok (answer, self') ∧
      self'.Consistent registrations := by
  unfold UnderlayInformationBase.interfaceUp
  cases hstate : self.interfaces.lookup interface.interfaceId with
  | none =>
    refine ⟨_, _, rfl, ⟨h.inverse, h.via⟩, fun ulnid ↦ ?_, h.sound_insert (fun _ _ ↦ rfl) ?_⟩
    · rw [h.inUse, inUse_insert]
      split
      case isTrue hid =>
        rw [← hid] at hstate
        simp [InUse, hstate, InterfaceState.ofInterface]
      case isFalse => rfl
    · exact ⟨rfl, Nat.zero_le _, by simp [InterfaceState.ofInterface]⟩
  | some state =>
    have hsound := h.sound _ _ hstate
    simp only [hsound.keyed, decide_true, assert_true, ok_bind]
    refine ⟨_, _, rfl, ⟨h.inverse, h.via⟩, fun ulnid ↦ ?_, h.sound_insert (fun _ _ ↦ rfl) ?_⟩
    · rw [h.inUse, inUse_insert]
      split
      case isTrue hid =>
        rw [← hid] at hstate
        simp [InUse, hstate]
      case isFalse => rfl
    · exact ⟨rfl, hsound.counted, hsound.handedOut⟩

/-! ## Sequences of operations -/

inductive Op where
  | interfaceUp (interface : Interface)
  | interfaceDown (interfaceId : Nat)
  | registerNeighbor (neighbor : UnderlayNeighbor)
  | unregisterNeighbor (ulnid : UnderlayNeighborId)
  | getInformation (ulnid : UnderlayNeighborId)

/-- The base, and how many numbers each interface has handed out since it last went down. -/
structure Counted where
  base : UnderlayInformationBase
  registrations : Nat → Nat

namespace Counted

def step (s : Counted) : Op → Run Counted
  | .interfaceUp interface => do
    let (_, base) ← s.base.interfaceUp interface
    .ok { s with base }
  | .interfaceDown interfaceId => do
    let (_, base) ← s.base.interfaceDown interfaceId
    .ok ⟨base, Function.update s.registrations interfaceId 0⟩
  | .registerNeighbor neighbor => do
    let (_, base) ← s.base.registerNeighbor neighbor
    .ok ⟨base, Function.update s.registrations neighbor.interfaceId
      (s.registrations neighbor.interfaceId + if s.base.Registers neighbor then 1 else 0)⟩
  | .unregisterNeighbor ulnid => do
    let (_, base) ← s.base.unregisterNeighbor ulnid
    .ok { s with base }
  | .getInformation ulnid => do
    let _ ← s.base.getInformation ulnid
    .ok s

/-- No interface hands out more than `2 ^ 32 - 1` numbers before it goes down. -/
def Fits (s : Counted) : Op → Prop
  | .registerNeighbor neighbor =>
    s.base.Registers neighbor → s.registrations neighbor.interfaceId + 1 < 2 ^ 32
  | _ => True

theorem step_consistent {s : Counted} (h : s.base.Consistent s.registrations) {op : Op}
    (hop : s.Fits op) : ∃ s', s.step op = .ok s' ∧ s'.base.Consistent s'.registrations := by
  cases op with
  | interfaceUp interface =>
    obtain ⟨_, base, hrun, hbase⟩ := h.interfaceUp interface
    exact ⟨_, by rw [step, hrun]; rfl, hbase⟩
  | interfaceDown interfaceId =>
    obtain ⟨_, base, hrun, hbase, -⟩ := h.interfaceDown interfaceId
    exact ⟨_, by rw [step, hrun]; rfl, hbase⟩
  | registerNeighbor neighbor =>
    obtain ⟨_, base, hrun, hbase⟩ := h.registerNeighbor hop
    exact ⟨_, by rw [step, hrun]; rfl, hbase⟩
  | unregisterNeighbor ulnid =>
    obtain ⟨_, base, hrun, hbase⟩ := h.unregisterNeighbor ulnid
    exact ⟨_, by rw [step, hrun]; rfl, hbase⟩
  | getInformation ulnid =>
    obtain ⟨info, hrun⟩ := h.getInformation ulnid
    exact ⟨s, by rw [step, hrun]; rfl, h⟩

/-- **The base stays consistent.**  After every sequence of operations the maps of the neighbours
are inverse to each other, the registered ids are those in use at the interfaces that are up,
different neighbours have different ids, no operation panics, and an interface that goes down takes
its ids with it. -/
theorem base_consistent {s : Counted} (hs : Reachable step Fits ⟨empty, fun _ ↦ 0⟩ s) :
    (∀ ulnid neighbor, s.base.neighbors.lookup ulnid = some neighbor ↔
      s.base.neighborIds.lookup neighbor = some ulnid) ∧
    (∀ ulnid, (s.base.neighbors.lookup ulnid).isSome ↔ InUse s.base.interfaces ulnid) ∧
    (∀ ulnid a b, s.base.neighborIds.lookup a = some ulnid →
      s.base.neighborIds.lookup b = some ulnid → a = b) ∧
    (∀ op, s.Fits op → ∃ s', s.step op = .ok s') ∧
    ∀ interfaceId, ∃ answer base, s.base.interfaceDown interfaceId = .ok (answer, base) ∧
      s.base.Downed base interfaceId answer := by
  have h : s.base.Consistent s.registrations := by
    refine hs.invariant (I := fun s ↦ s.base.Consistent s.registrations) consistent_empty ?_
    intro s op s' h hop hrun
    obtain ⟨_, hrun', h'⟩ := step_consistent h hop
    obtain rfl := ok.inj (hrun'.symm.trans hrun)
    exact h'
  refine ⟨h.inverse, h.inUse, fun ulnid a b ha hb ↦ ?_, fun op hop ↦ ?_, fun interfaceId ↦ ?_⟩
  · rw [← h.inverse] at ha hb
    exact Option.some.inj (ha.symm.trans hb)
  · obtain ⟨s', hrun, -⟩ := step_consistent h hop
    exact ⟨s', hrun⟩
  · obtain ⟨answer, base, hrun, -, hdowned⟩ := h.interfaceDown interfaceId
    exact ⟨answer, base, hrun, hdowned⟩

/-- An interface comes up, and the addresses fe80::1 and fe80::2 are registered there. -/
theorem base_consistent_registered : ∃ s : Counted,
    s.base.neighborIds.lookup ⟨0xfe800000000000000000000000000002, 1, by decide⟩ = some ⟨1, 1⟩ ∧
    ∀ op, s.Fits op → ∃ s', s.step op = .ok s' := by
  have hup : Reachable step Fits ⟨empty, fun _ ↦ 0⟩ _ :=
    .step .start (show Fits _ (.interfaceUp ⟨1, 0, 0⟩) from trivial) rfl
  have hfirst : Reachable step Fits ⟨empty, fun _ ↦ 0⟩ _ :=
    hup.step
      (show Fits _ (.registerNeighbor ⟨0xfe800000000000000000000000000001, 1, by decide⟩) from
      fun _ ↦ by decide) rfl
  have hsecond : Reachable step Fits ⟨empty, fun _ ↦ 0⟩ _ :=
    hfirst.step
      (show Fits _ (.registerNeighbor ⟨0xfe800000000000000000000000000002, 1, by decide⟩) from
      fun _ ↦ by decide) rfl
  exact ⟨_, rfl, (base_consistent hsecond).2.2.2.1⟩

end Counted

end UnderlayInformationBase

end Kira
