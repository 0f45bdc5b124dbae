import Kira.Domain.RoutingTable.UnlimitedULNLawful
import Kira.UseCases.ForwardingNode

/-!
# The forwarding entries of single contacts

Every valid contact should have a forwarding entry of its own, and no other id should have one.  The
handler of routing table events only sees the contact before and after a change, and it dispatches
on the two states.  So the question is whether every change that is possible leads to the right
handler.

It does with one exception.  When a contact is displaced by another one with a shorter path, the
handler installs the entry of the new contact if the old one was valid, invalid or being
rediscovered.  The case that the old one was dead is missing: the new contact then remains without
an entry (`no_entry_after_displacement`).  As long as there is no dead contact in a full bucket into
which a contact is inserted, the entries are exactly those of the valid contacts (`entries_exact`).
-/

set_option autoImplicit false

namespace Kira

open Run RoutingTable LawfulRoutingTable

namespace DeriveFwdTableEntries

/-- The installed entry of a single id. -/
def full (self : DeriveFwdTableEntries) (id : NodeId) : Option NodeIdEntry :=
  self.nodeIdTable.lookup (.new id)

/-- The entries of buckets are registered under prefixes that are not empty, so that they cannot be
taken for entries of contacts. -/
def Prefixed (self : DeriveFwdTableEntries) : Prop :=
  ∀ b subnet, self.bucketPrefixEntries.lookup b = some subnet → 0 < subnet.prefixLength

theorem full_create (self : DeriveFwdTableEntries) {entry : NodeIdEntry} {id : NodeId}
    (h : entry.destination = .new id) :
    (self.updateFwdTables (.createOrUpdate entry)).full =
      Function.update self.full id (some entry) := by
  funext i
  simp only [full, updateFwdTables, h, KeyMap.lookup_insert_eq, Function.update_apply,
    NodeIdSubnet.new, NodeIdSubnet.mk.injEq, and_true]

theorem full_remove (self : DeriveFwdTableEntries) (id : NodeId) :
    (self.updateFwdTables (.remove (.new id))).full = Function.update self.full id none := by
  funext i
  simp only [full, updateFwdTables, KeyMap.lookup_erase_eq, Function.update_apply,
    NodeIdSubnet.new, NodeIdSubnet.mk.injEq, and_true]

/-- The entry that a contact should have. -/
def entryOf (cfg : FwdConfig) (c : Contact) : Option NodeIdEntry :=
  if c.isValid then
    c.path.bind fun path ↦ (cfg.ulnTable path.first).map fun nextHop ↦
      entryTo cfg (.new c.id) nextHop c path
  else none

theorem entryOf_of_not_valid (cfg : FwdConfig) {c : Contact} (h : c.state ≠ .valid) :
    entryOf cfg c = none := by
  simp [entryOf, Contact.isValid, h]

theorem entryOf_of_derivable {cfg : FwdConfig} {c : Contact} {path : Path}
    {nextHop : UnderlayNeighborId} (hvalid : c.state = .valid) (h : Derivable cfg c path nextHop) :
    entryOf cfg c = some (entryTo cfg (.new c.id) nextHop c path) := by
  simp [entryOf, Contact.isValid, hvalid, h.path_eq, h.nextHop_eq]

theorem entryOf_congr (cfg : FwdConfig) {a b : Contact} (h : SameRoute a b) :
    entryOf cfg a = entryOf cfg b := by
  obtain ⟨hid, hvalid, hids⟩ := h
  have huln : a.isUln = b.isUln := by
    unfold Contact.isUln
    cases ha : a.path <;> cases hb : b.path <;> simp_all [Path.size]
  unfold entryOf entryTo
  rw [hid, hvalid, huln]
  cases ha : a.path <;> cases hb : b.path <;> simp_all [Path.first]

/-! ## What the handlers do to the entries of contacts -/

section Handlers

variable {T : Type} {k : Nat} [RoutingTable T k] {cfg : FwdConfig} {t : T}
  {self self' : DeriveFwdTableEntries} {r : Except DeriveFwdEntriesError Unit}

theorem BucketUpdated.full_eq (hlen : ∀ b, 0 < getBucketPrefixLength t b) (hp : self.Prefixed)
    {b : Nat} (h : BucketUpdated cfg t b self r self') :
    self'.Prefixed ∧ self'.full = self.full := by
  have hother : ∀ id, self.bucketPrefixEntries.lookup b ≠ some (.new id) := by
    intro id hlook
    exact absurd (hp b _ hlook) (by simp [NodeIdSubnet.new])
  cases h with
  | failed => exact ⟨hp, rfl⟩
  | cleared =>
    refine ⟨?_, ?_⟩
    · intro b' subnet hlook
      rw [bucketPrefixEntries_uninstall] at hlook
      split at hlook
      · simp at hlook
      · exact hp b' subnet hlook
    · funext id
      rw [full, nodeIdTable_uninstall, if_neg (hother id), full]
  | @installed entry hd =>
    have hpos : 0 < entry.destination.prefixLength := by
      cases hd with
      | entry =>
        rw [entryTo_destination]
        exact hlen b
    refine ⟨?_, ?_⟩
    · intro b' subnet hlook
      rw [bucketPrefixEntries_install] at hlook
      split at hlook
      · cases hlook
        exact hpos
      · exact hp b' subnet hlook
    · funext id
      have hne : NodeIdSubnet.new id ≠ entry.destination := by
        intro heq
        rw [← heq] at hpos
        simp [NodeIdSubnet.new] at hpos
      rw [full, nodeIdTable_install, if_neg hne, if_neg (hother id), full]

theorem Prefixed.updateFwdTables (hp : self.Prefixed) (update : NodeIdTableUpdate) :
    (self.updateFwdTables update).Prefixed := by
  cases update with
  | createOrUpdate entry | remove destination => exact hp

theorem removeNodeIdEntry_full (hlen : ∀ b, 0 < getBucketPrefixLength t b) (hp : self.Prefixed)
    {id : NodeId} (h : self.removeNodeIdEntry cfg t id = .ok (r, self')) :
    self'.Prefixed ∧ self'.full = Function.update self.full id none := by
  rcases removeNodeIdEntry_cases h with ⟨_, -, -, -, rfl⟩ | ⟨-, hup⟩
  · exact ⟨hp.updateFwdTables _, full_remove self id⟩
  · obtain ⟨hp', heq⟩ := hup.full_eq hlen (hp.updateFwdTables _)
    exact ⟨hp', heq.trans (full_remove self id)⟩

theorem createNodeIdEntry_full (hlen : ∀ b, 0 < getBucketPrefixLength t b) (hp : self.Prefixed)
    {c : Contact} (hvalid : c.state = .valid) {path : Path} {nextHop : UnderlayNeighborId}
    (hder : Derivable cfg c path nextHop) (h : self.createNodeIdEntry cfg t c = .ok (r, self')) :
    self'.Prefixed ∧ self'.full = Function.update self.full c.id (entryOf cfg c) := by
  rcases createNodeIdEntry_cases h with ⟨-, -, hnot⟩ | ⟨path', nextHop', hder', hup⟩
  · exact absurd hder (hnot path nextHop)
  · obtain ⟨hp', heq⟩ := hup.full_eq hlen (hp.updateFwdTables _)
    rw [entryOf_of_derivable hvalid hder']
    exact ⟨hp', heq.trans (full_create self (entryTo_destination ..))⟩

theorem handleEvents_buckets_full (hlen : ∀ b, 0 < getBucketPrefixLength t b) (hp : self.Prefixed)
    {events : List RoutingTableEvent} (hevents : ∀ e ∈ events, e.isBucket = true)
    (h : handleEvents cfg t events self = .ok self') :
    self'.Prefixed ∧ self'.full = self.full := by
  induction events generalizing self with
  | nil =>
    obtain rfl : self = self' := ok.inj h
    exact ⟨hp, rfl⟩
  | cons e events ih =>
    obtain ⟨r, between, hfirst, h⟩ := handleEvents_cons h
    have hbetween : between.Prefixed ∧ between.full = self.full := by
      cases e with
      | updatedBucket b | newBucket b => exact (updateBucket_cases hfirst).full_eq hlen hp
      | newContact c | updatedContact new old | removedContact c =>
        exact absurd (hevents _ List.mem_cons_self) Bool.false_ne_true
    obtain ⟨hp', heq⟩ := ih hbetween.1 (fun e he ↦ hevents e (List.mem_cons_of_mem _ he)) h
    exact ⟨hp', heq.trans hbetween.2⟩

theorem handleEvents_singleton {e : RoutingTableEvent}
    (h : handleEvents cfg t [e] self = .ok self') :
    ∃ r, self.handleEvent cfg t e = .ok (r, self') := by
  obtain ⟨r, between, hfirst, h⟩ := handleEvents_cons h
  obtain rfl : between = self' := ok.inj h
  exact ⟨r, hfirst⟩

/-- An entry can be derived for the contact if it is valid. -/
def Ready (cfg : FwdConfig) (c : Contact) : Prop :=
  c.state = .valid → ∃ path nextHop, Derivable cfg c path nextHop

/-- **A change of a stored contact** is carried over to its entry. -/
theorem guardDrop_full (hlen : ∀ b, 0 < getBucketPrefixLength t b) (hp : self.Prefixed)
    {old new : Contact} (htrans : Transition old new) (hknown : old.state ≠ .unknown)
    (hready : Ready cfg new) (hentry : self.full old.id = entryOf cfg old)
    (h : handleEvents cfg t (guardDrop old new) self = .ok self') :
    self'.Prefixed ∧ self'.full = Function.update self.full old.id (entryOf cfg new) := by
  have hsame : entryOf cfg new = entryOf cfg old →
      self.full = Function.update self.full old.id (entryOf cfg new) := by
    intro heq
    rw [heq, ← hentry, Function.update_eq_self]
  rcases guardDrop_cases htrans.id_eq with ⟨hnone, hroute⟩ | hone
  · rw [hnone] at h
    obtain rfl : self = self' := ok.inj h
    exact ⟨hp, hsame (entryOf_congr cfg hroute)⟩
  · rw [hone] at h
    obtain ⟨r, h⟩ := handleEvents_singleton h
    have h : self.handleUpdated cfg t new old = .ok (r, self') := h
    by_cases hnew : new.state = .valid
    · obtain ⟨path, nextHop, hder⟩ := hready hnew
      by_cases hold : old.state = .valid
      · rw [handleUpdated_valid hnew hold] at h
        split at h
        · rename_i hpath
          cases h
          refine ⟨hp, hsame (entryOf_congr cfg ⟨htrans.id_eq, ?_, congrArg _ hpath⟩)⟩
          simp [Contact.isValid, hnew, hold]
        · rw [if_pos htrans.id_eq] at h
          rw [← htrans.id_eq]
          exact createNodeIdEntry_full hlen hp hnew hder h
      · rw [handleUpdated_validated hnew hold (htrans.alive hnew) hknown] at h
        rw [← htrans.id_eq]
        exact createNodeIdEntry_full hlen hp hnew hder h
    · rw [entryOf_of_not_valid cfg hnew]
      by_cases hold : old.state = .valid
      · rw [handleUpdated_invalidated htrans.id_eq hold hnew (htrans.notDead hold)
          (htrans.known hknown), htrans.id_eq] at h
        exact removeNodeIdEntry_full hlen hp h
      · rw [handleUpdated_of_not_valid hnew hold] at h
        cases h
        rw [entryOf_of_not_valid cfg hnew, entryOf_of_not_valid cfg hold] at hsame
        exact ⟨hp, hsame rfl⟩

/-- **The displacement of a contact** takes its entry away and installs that of the new one, unless
the old one was dead. -/
theorem displaced_full [LawfulRoutingTable T k] (hlen : ∀ b, 0 < getBucketPrefixLength t b)
    (hhops : HopsCovered cfg t) (hp : self.Prefixed) {old new : Contact} (hid : new.id ≠ old.id)
    (hpath : new.path ≠ old.path) (hvalid : new.state = .valid) (hdead : old.state ≠ .dead)
    (hknown : old.state ≠ .unknown) (hready : Ready cfg new)
    (hentry : self.full old.id = entryOf cfg old)
    (h : handleEvents cfg t (guardDrop old new) self = .ok self') :
    self'.Prefixed ∧ self'.full =
      Function.update (Function.update self.full old.id none) new.id (entryOf cfg new) := by
  obtain ⟨path, nextHop, hder⟩ := hready hvalid
  rw [guardDrop_displaced hid hpath] at h
  obtain ⟨r, h⟩ := handleEvents_singleton h
  have h : self.handleUpdated cfg t new old = .ok (r, self') := h
  by_cases hold : old.state = .valid
  · rw [handleUpdated_valid hvalid hold, if_neg hpath, if_neg hid] at h
    rcases andThen_eq_ok h with ⟨err, -, hfail⟩ | ⟨between, hremove, hcreate⟩
    · -- the removal of the old entry cannot fail
      rcases removeNodeIdEntry_cases hfail with ⟨_, -, -, herr, -⟩ | ⟨-, hup⟩
      · simp at herr
      · exact absurd (hup.eq_ok hhops) (by simp)
    · obtain ⟨hp', heq⟩ := removeNodeIdEntry_full hlen hp hremove
      rw [← heq]
      exact createNodeIdEntry_full hlen hp' hvalid hder hcreate
  · rw [handleUpdated_validated hvalid hold hdead hknown] at h
    have hnone : Function.update self.full old.id none = self.full := by
      rw [← entryOf_of_not_valid cfg hold, ← hentry, Function.update_eq_self]
    rw [hnone]
    exact createNodeIdEntry_full hlen hp hvalid hder h

/-- **Changes of many contacts**, each with an id of its own. -/
theorem guardDrops_full (hlen : ∀ b, 0 < getBucketPrefixLength t b) {f : Contact → Contact}
    {l : List Contact} {entries : NodeId → Option NodeIdEntry} (hp : self.Prefixed)
    (hnodup : (l.map Contact.id).Nodup) (htrans : ∀ c ∈ l, Transition c (f c))
    (hknown : ∀ c ∈ l, c.state ≠ .unknown) (hready : ∀ c ∈ l, Ready cfg (f c))
    (hentry : ∀ c ∈ l, self.full c.id = entryOf cfg c)
    (hmem : ∀ c ∈ l, entries c.id = entryOf cfg (f c))
    (hothers : ∀ id, id ∉ l.map Contact.id → entries id = self.full id)
    (h : handleEvents cfg t (l.flatMap fun c ↦ guardDrop c (f c)) self = .ok self') :
    self'.Prefixed ∧ self'.full = entries := by
  induction l generalizing self with
  | nil =>
    obtain rfl : self = self' := ok.inj h
    exact ⟨hp, funext fun id ↦ (hothers id (by simp)).symm⟩
  | cons c l ih =>
    obtain ⟨hnot, hnodup⟩ := List.nodup_cons.1 hnodup
    rw [List.flatMap_cons] at h
    obtain ⟨between, hfirst, h⟩ := handleEvents_append h
    obtain ⟨hp', hfull⟩ := guardDrop_full hlen hp (htrans c List.mem_cons_self)
      (hknown c List.mem_cons_self) (hready c List.mem_cons_self) (hentry c List.mem_cons_self)
      hfirst
    have hrest : ∀ {x}, x ∈ l → x ∈ c :: l := List.mem_cons_of_mem c
    refine ih hp' hnodup (fun d hd ↦ htrans d (hrest hd)) (fun d hd ↦ hknown d (hrest hd))
      (fun d hd ↦ hready d (hrest hd)) ?_ (fun d hd ↦ hmem d (hrest hd)) ?_ h
    · intro d hd
      have hne : d.id ≠ c.id := fun heq ↦ hnot (heq ▸ List.mem_map_of_mem hd)
      rw [hfull, Function.update_of_ne hne]
      exact hentry d (hrest hd)
    · intro id hnotin
      rw [hfull]
      by_cases hc : id = c.id
      · subst hc
        rw [Function.update_self, hmem c List.mem_cons_self]
      · rw [Function.update_of_ne hc]
        exact hothers id (by simpa [hc] using hnotin)

end Handlers

end DeriveFwdTableEntries

/-! ## Contents and entries -/

/-- The entries that go with the contents of a table. -/
def entriesOf (cfg : FwdConfig) (m : Contents) (id : NodeId) : Option NodeIdEntry :=
  (m id).bind (DeriveFwdTableEntries.entryOf cfg)

theorem entriesOf_store (cfg : FwdConfig) (m : Contents) (id : NodeId) (c : Contact) :
    entriesOf cfg (Function.update m id (some c)) =
      Function.update (entriesOf cfg m) id (DeriveFwdTableEntries.entryOf cfg c) := by
  funext i
  by_cases hi : i = id
  · simp [entriesOf, hi]
  · simp [entriesOf, hi]

theorem entriesOf_erase (cfg : FwdConfig) (m : Contents) (id : NodeId) :
    entriesOf cfg (Function.update m id none) = Function.update (entriesOf cfg m) id none := by
  funext i
  by_cases hi : i = id
  · simp [entriesOf, hi]
  · simp [entriesOf, hi]

variable {m : Contents} {c : Contact}

theorem entriesOf_underway (cfg : FwdConfig) {m₁ : Contents}
    (h : Underway m c m₁) : entriesOf cfg m₁ = entriesOf cfg m := by
  cases h with
  | unchanged => rfl
  | dropped hold hinvalid =>
    have hnone : entriesOf cfg m c.id = none := by
      simp [entriesOf, hold, DeriveFwdTableEntries.entryOf, hinvalid]
    rw [entriesOf_erase, ← hnone, Function.update_eq_self]

theorem contact_of_underway {m₁ : Contents} (h : Underway m c m₁) {id : NodeId}
    {x : Contact} (hx : m₁ id = some x) : m id = some x := by
  cases h with
  | unchanged => exact hx
  | dropped =>
    by_cases hid : id = c.id
    · simp [hid] at hx
    · simpa [hid] using hx

/-- What is stored has a path, and is in a state that says something about it. -/
def Usable (m : Contents) : Prop :=
  ∀ id c, m id = some c → c.path.isSome = true ∧ c.state ≠ .unknown

theorem Usable.store (h : Usable m) (hpath : c.path.isSome = true)
    (hstate : c.state ≠ .unknown) (id : NodeId) : Usable (Function.update m id (some c)) := by
  intro i x hx
  by_cases hi : i = id
  · subst hi
    rw [Function.update_self, Option.some.injEq] at hx
    exact hx ▸ ⟨hpath, hstate⟩
  · rw [Function.update_of_ne hi] at hx
    exact h i x hx

theorem Usable.erase (h : Usable m) (id : NodeId) :
    Usable (Function.update m id none) := by
  intro i x hx
  by_cases hi : i = id
  · simp [hi] at hx
  · rw [Function.update_of_ne hi] at hx
    exact h i x hx

theorem Usable.transition (h : Usable m) {id : NodeId} {old new : Contact}
    (hold : m id = some old) (htrans : Transition old new) :
    new.path.isSome = true ∧ new.state ≠ .unknown :=
  ⟨htrans.hasPath (h id old hold).1, htrans.known (h id old hold).2⟩

theorem Usable.underway {m₁ : Contents} (h : Usable m) (hunder : Underway m c m₁) :
    Usable m₁ :=
  fun id x hx ↦ h id x (contact_of_underway hunder hx)

/-! ## Operations -/

section Suits

variable {T : Type} {k : Nat} [RoutingTable T k] {cfg : FwdConfig}

/-- The underlay neighbour table suits what is stored. -/
structure Suits (cfg : FwdConfig) (t : T) : Prop where
  hopsCovered : HopsCovered cfg t
  neighborsDirect : NeighborsDirect cfg t

instance (t : T) : Decidable (Suits cfg t) :=
  decidable_of_iff (∀ c ∈ iter t, ∀ path ∈ c.path, (cfg.ulnTable path.first).isSome = true ∧
      ((cfg.ulnTable c.id).isSome = true → path.size = 1))
    ⟨fun h ↦ ⟨fun c hc path hpath ↦ (h c hc path hpath).1,
      fun c hc path hpath ↦ (h c hc path hpath).2⟩,
      fun h c hc path hpath ↦ ⟨h.1 c hc path hpath, h.2 c hc path hpath⟩⟩

theorem Suits.ready {t : T} (h : Suits cfg t) {c : Contact} (hc : c ∈ iter t)
    (hpath : c.path.isSome = true) : DeriveFwdTableEntries.Ready cfg c := by
  intro _
  obtain ⟨path, hpath⟩ := Option.isSome_iff_exists.1 hpath
  obtain ⟨nextHop, hhop⟩ := Option.isSome_iff_exists.1 (h.hopsCovered c hc path hpath)
  refine ⟨path, nextHop, hpath, hhop, fun hsome ↦ ?_⟩
  exact (Contact.isUln_iff c).2 ⟨path, hpath, h.neighborsDirect c hc path hpath hsome⟩

end Suits

section Operations

open DeriveFwdTableEntries UNSStrategy

variable {T : Type} {k : Nat} [RoutingTable T k] [LawfulRoutingTable T k] {cfg : FwdConfig}
  {t t' : T} {fwd fwd' : DeriveFwdTableEntries}

/-- The entries of contacts are those that go with the contents of the table. -/
structure InStep (cfg : FwdConfig) (t : T) (fwd : DeriveFwdTableEntries) : Prop where
  tidy : Tidy t
  usable : Usable (contact t)
  prefixed : fwd.Prefixed
  full_eq : fwd.full = entriesOf cfg (contact t)

namespace InStep

variable {id : NodeId} {c : Contact} {observed : ObservableRoutingTable T}

theorem entry_eq (h : InStep cfg t fwd) (hc : contact t id = some c) :
    fwd.full c.id = entryOf cfg c := by
  rw [h.full_eq, contact_id h.tidy hc]
  simp [entriesOf, hc]

theorem known (h : InStep cfg t fwd) (hc : contact t id = some c) :
    c.state ≠ .unknown :=
  (h.usable id c hc).2

theorem remove (hlen : ∀ b, 0 < getBucketPrefixLength t' b) (h : InStep cfg t fwd)
    (ht' : Tidy t') (hcontact : contact t' = Function.update (contact t) id none)
    (hev : handleEvents cfg t' ((contact t id).toList.map .removedContact) fwd = .ok fwd') :
    InStep cfg t' fwd' := by
  have husable : Usable (contact t') := hcontact ▸ h.usable.erase id
  cases hc : contact t id with
  | none =>
    rw [hc] at hev
    obtain rfl : fwd = fwd' := ok.inj hev
    rw [← hc, Function.update_eq_self] at hcontact
    exact ⟨ht', husable, h.prefixed, hcontact ▸ h.full_eq⟩
  | some c =>
    rw [hc] at hev
    obtain ⟨r, hev⟩ := handleEvents_singleton hev
    obtain ⟨hp, hfull⟩ := removeNodeIdEntry_full hlen h.prefixed hev
    refine ⟨ht', husable, hp, ?_⟩
    rw [hfull, h.full_eq, hcontact, contact_id h.tidy hc, entriesOf_erase]

theorem write (hlen : ∀ b, 0 < getBucketPrefixLength t' b) (h : InStep cfg t fwd)
    (hsuits : Suits cfg t') {old new : Contact} (hold : contact t id = some old)
    (htrans : Transition old new) (ht' : Tidy t')
    (hcontact : contact t' = Contents.written (contact t) id new)
    (hev : handleEvents cfg t' (guardDrop old new) fwd = .ok fwd') : InStep cfg t' fwd' := by
  obtain rfl : old.id = id := contact_id h.tidy hold
  obtain ⟨hpath, hknown⟩ := h.usable.transition hold htrans
  rw [Contents.written_self _ htrans.id_eq] at hcontact
  have hnew : contact t' old.id = some new := by simp [hcontact]
  have hmem : new ∈ iter t' := mem_of_contact hnew
  obtain ⟨hp, hfull⟩ := guardDrop_full hlen h.prefixed htrans (h.known hold)
    (hsuits.ready hmem hpath) (h.entry_eq hold) hev
  refine ⟨ht', hcontact ▸ h.usable.store hpath hknown old.id, hp, ?_⟩
  rw [hfull, h.full_eq, hcontact, entriesOf_store]

theorem displace (hlen : ∀ b, 0 < getBucketPrefixLength t' b) (h : InStep cfg t fwd)
    (hsuits : Suits cfg t') {old new : Contact} (hnone : contact t new.id = none)
    (hold : Displaceable t new old) (hdead : old.state ≠ .dead) (ht' : Tidy t')
    (hcontact : contact t' = Contents.written (contact t) old.id new)
    (hev : handleEvents cfg t' (guardDrop old new) fwd = .ok fwd') : InStep cfg t' fwd' := by
  obtain ⟨path, oldPath, hpath, holdPath, -, hlt⟩ := hold.shorter
  have hstored := (hold.fits h.tidy hnone).1
  have hvalid : new.state = .valid := (Contact.isValid_iff new).1 hold.valid
  have hid : new.id ≠ old.id := by
    intro heq
    simp [heq, hstored] at hnone
  have hne : new.path ≠ old.path := by
    intro heq
    rw [hpath, holdPath, Option.some.injEq] at heq
    exact absurd (heq ▸ hlt) (Nat.lt_irrefl _)
  have hsome : new.path.isSome = true := by simp [hpath]
  have hnew : contact t' new.id = some new := by simp [hcontact, Contents.written]
  have hmem : new ∈ iter t' := mem_of_contact hnew
  obtain ⟨hp, hfull⟩ := displaced_full hlen hsuits.hopsCovered h.prefixed hid hne hvalid hdead
    (h.known hstored) (hsuits.ready hmem hsome) (h.entry_eq hstored) hev
  refine ⟨ht', ?_, hp, ?_⟩
  · rw [hcontact, Contents.written]
    exact (h.usable.erase _).store hsome (by simp [hvalid]) _
  · rw [hfull, h.full_eq, hcontact, Contents.written, entriesOf_store, entriesOf_erase]

theorem iterMut (hlen : ∀ b, 0 < getBucketPrefixLength t' b) (h : InStep cfg t fwd)
    (hsuits : Suits cfg t') {f : Contact → Contact} (htrans : ∀ c ∈ iter t, Transition c (f c))
    (heq : t' = RoutingTable.iterMut t f)
    (hev : handleEvents cfg t' ((iter t).flatMap fun c ↦ guardDrop c (f c)) fwd = .ok fwd') :
    InStep cfg t' fwd' := by
  obtain ⟨ht', hcontact⟩ := iterMut_effect h.tidy fun c hc ↦ (htrans c hc).id_eq
  rw [← heq] at ht' hcontact
  have hstored : ∀ c ∈ iter t, contact t c.id = some c := fun c hc ↦ contact_of_mem h.tidy hc
  have husable : ∀ c ∈ iter t, (f c).path.isSome = true ∧ (f c).state ≠ .unknown :=
    fun c hc ↦ h.usable.transition (hstored c hc) (htrans c hc)
  have hmem : ∀ c ∈ iter t, f c ∈ iter t' := by
    intro c hc
    rw [heq, (mem_iterMut t f).2]
    exact List.mem_map_of_mem hc
  have hentries : ∀ c ∈ iter t, entriesOf cfg (contact t') c.id = entryOf cfg (f c) := by
    intro c hc
    simp [entriesOf, hcontact, hstored c hc]
  have hothers : ∀ id, id ∉ (iter t).map Contact.id →
      entriesOf cfg (contact t') id = fwd.full id := by
    intro id hid
    have hnone : contact t id = none := by
      refine Option.eq_none_iff_forall_ne_some.2 fun c hc ↦ hid ?_
      obtain ⟨hmem, rfl⟩ := (contact_eq_some_iff h.tidy).1 hc
      exact List.mem_map_of_mem hmem
    simp [h.full_eq, entriesOf, hcontact, hnone]
  obtain ⟨hp, hfull⟩ := guardDrops_full hlen h.prefixed (nodup_iter h.tidy) htrans
    (fun c hc ↦ h.known (hstored c hc))
    (fun c hc ↦ hsuits.ready (hmem c hc) (husable c hc).1)
    (fun c hc ↦ h.entry_eq (hstored c hc)) hentries hothers hev
  refine ⟨ht', ?_, hp, hfull⟩
  intro id c' hc'
  rw [hcontact, Option.map_eq_some_iff] at hc'
  obtain ⟨c, hc, rfl⟩ := hc'
  exact husable c (mem_of_contact hc)

/-- The table refuses a contact.  It may have split buckets before, and let go of a contact that has
no entry. -/
theorem refused (hlen : ∀ b, 0 < getBucketPrefixLength t' b) (h : InStep cfg t fwd)
    (href : Refused (ObservableRoutingTable.ofTable t) c observed)
    (hev : handleEvents cfg t' observed.events fwd = .ok fwd') :
    InStep cfg observed.inner fwd' := by
  have ht : Tidy (ObservableRoutingTable.ofTable t) := h.tidy
  obtain ⟨htidy, hunder, -⟩ := href.underway ht
  have hevents : ∀ e ∈ observed.events, e.isBucket = true := by
    cases href with
    | untried => exact fun e he ↦ absurd he List.not_mem_nil
    | tried _ hins =>
      obtain ⟨buckets, hbuckets, heq⟩ := ObservableRoutingTable.insert_events hins
      rw [List.append_nil] at heq
      exact heq ▸ hbuckets
  obtain ⟨hp, hfull⟩ := handleEvents_buckets_full hlen h.prefixed hevents hev
  refine ⟨htidy, h.usable.underway hunder, hp, ?_⟩
  rw [hfull, h.full_eq]
  exact (entriesOf_underway cfg hunder).symm

theorem store (hlen : ∀ b, 0 < getBucketPrefixLength t' b) (h : InStep cfg t fwd)
    (hsuits : Suits cfg t') (hvalid : c.state = .valid) (hpath : c.path.isSome = true)
    (hins : RoutingTable.insert (ObservableRoutingTable.ofTable t) c = .ok (.ok (), observed))
    (heq : t' = observed.inner) (hev : handleEvents cfg t' observed.events fwd = .ok fwd') :
    InStep cfg t' fwd' := by
  obtain ⟨buckets, hbuckets, hevents⟩ := ObservableRoutingTable.insert_events hins
  have ht : Tidy (ObservableRoutingTable.ofTable t) := h.tidy
  obtain ⟨ht', heff⟩ := insert_effect ht hins
  have hcontact : contact t' = Function.update (contact t) c.id (some c) := by
    rw [heq]
    show contact observed = _
    generalize contact observed = m' at heff
    cases heff with
    | stored => rfl
  have hstored : contact t' c.id = some c := by simp [hcontact]
  have hmem : c ∈ iter t' := mem_of_contact hstored
  rw [show observed.events = buckets ++ [.newContact c] from hevents] at hev
  obtain ⟨between, hfirst, hev⟩ := handleEvents_append hev
  obtain ⟨hp, hfull⟩ := handleEvents_buckets_full hlen h.prefixed hbuckets hfirst
  obtain ⟨r, hev⟩ := handleEvents_singleton hev
  obtain ⟨path, nextHop, hder⟩ := hsuits.ready hmem hpath hvalid
  obtain ⟨hp', hfull'⟩ := createNodeIdEntry_full hlen hp hvalid hder hev
  refine ⟨heq ▸ ht', hcontact ▸ h.usable.store hpath (by simp [hvalid]) c.id, hp', ?_⟩
  rw [hfull', hfull, h.full_eq, hcontact, entriesOf_store]

/-- **An insertion through the strategy**, if no dead contact is displaced. -/
theorem insert (hlen : ∀ b, 0 < getBucketPrefixLength t' b) (h : InStep cfg t fwd)
    (hsuits : Suits cfg t') {call : Call} (hdead : ∀ c err t₁ old, c.id = call.contact.id →
      RoutingTable.insert t c = .ok (.error err, t₁) → Displaceable t₁ c old →
      old.state ≠ .dead)
    (hcall : call.apply (ObservableRoutingTable.ofTable t) = .ok observed)
    (heq : t' = observed.inner) (hev : handleEvents cfg t' observed.events fwd = .ok fwd') :
    InStep cfg t' fwd' := by
  obtain ⟨res, hins⟩ := Call.apply_eq_ok hcall
  have ht : Tidy (ObservableRoutingTable.ofTable t) := h.tidy
  rcases insert_cases hins with ⟨-, rfl⟩ | ⟨path, c, hadm, hprep, hout⟩
  · obtain rfl : fwd = fwd' := ok.inj hev
    exact heq ▸ h
  obtain ⟨path', rfl, -, -, -⟩ := prepare_cases hprep
  cases hout with
  | stored hknown hstored =>
    have hvalid : (call.contact.setPath path').state = .valid :=
      (Contact.isValid_iff call.contact).1 (hadm.state.resolve_right hknown)
    exact h.store hlen hsuits hvalid rfl hstored heq hev
  | kept href => exact heq ▸ h.refused hlen href hev
  | @updated _ o₁ existing existing' href hc hid hup =>
    rw [ObservableRoutingTable.write_events hc] at hev
    obtain ⟨between, hfirst, hev⟩ := handleEvents_append hev
    have hbetween := h.refused hlen href hfirst
    obtain ⟨ht', hcontact⟩ := write_effect hbetween.tidy hc (.inl (hup.id_eq.trans hid))
    exact hbetween.write hlen hsuits hc hup.transition (heq ▸ ht') (heq ▸ hcontact) hev
  | @replaced o₁ err old oldStored hknown hfail herr hold hc =>
    have hold' : Displaceable o₁.inner (call.contact.setPath path') old :=
      ⟨hold.mem, hold.full, hold.absent, hold.valid, hold.shorter⟩
    have hnone := contact_eq_none_of_insert ht hfail herr
    have htidy := (insert_effect ht hfail).1
    obtain ⟨hstored, hfits⟩ := hold.fits htidy hnone
    obtain rfl := Option.some.inj (hstored.symm.trans hc)
    rw [ObservableRoutingTable.write_events hc] at hev
    obtain ⟨between, hfirst, hev⟩ := handleEvents_append hev
    have hbetween := h.refused hlen (.tried hknown hfail) hfirst
    obtain ⟨ht', hcontact⟩ := write_effect htidy hc hfits
    exact hbetween.displace hlen hsuits hnone hold'
      (hdead (call.contact.setPath path') err o₁.inner old rfl
        (ObservableRoutingTable.insert_inner hfail) hold')
      (heq ▸ ht') (heq ▸ hcontact) hev

end InStep

end Operations

/-! ## Runs -/

section Runs

open DeriveFwdTableEntries UNSStrategy UnlimitedULNRoutingTable

variable {k acc : Nat} {cfg : FwdConfig} {t t' : UnlimitedULNRoutingTable k acc}
  {fwd fwd' : DeriveFwdTableEntries}

theorem prefixLength_pos (t : UnlimitedULNRoutingTable k acc) (b : Nat) :
    0 < getBucketPrefixLength t b :=
  Nat.lt_of_lt_of_le t.inner.acc_pos (Nat.le_add_right ..)

/-- No dead contact is in the way: if the bucket of the contact is full, then of contacts that are
not dead. -/
def NodeOp.NoneDead (t : UnlimitedULNRoutingTable k acc) : NodeOp → Prop
  | .insert call => (bucket t call.contact.id).isFull = true →
      ∀ x ∈ (bucket t call.contact.id).contacts, x.state ≠ .dead
  | _ => True

theorem NodeOp.NoneDead.displaceable (ht : t.Tidy) {call : Call}
    (h : NodeOp.NoneDead t (.insert call)) {c old : Contact} (hid : c.id = call.contact.id)
    {err : InsertionError} (hins : RoutingTable.insert t c = .ok (.error err, t'))
    (hold : Displaceable t' c old) : old.state ≠ .dead := by
  obtain ⟨-, hsplits⟩ := insert_refused hins
  rw [NodeOp.NoneDead, ← hid] at h
  exact h (hsplits.isFull ht.inner hold.full) old (hsplits.mem_bucket ht.inner hold.mem)

theorem InStep.step {node node' : ForwardingNode (UnlimitedULNRoutingTable k acc)} {op : NodeOp}
    (h : InStep cfg node.table node.fwd) (hsuits : Suits cfg node'.table)
    (hdead : op.NoneDead node.table) (hstep : node.step cfg op = .ok node') :
    InStep cfg node'.table node'.fwd := by
  obtain ⟨observed, hop, heq, hev⟩ := ForwardingNode.step_cases hstep
  have hlen := prefixLength_pos node'.table
  have ht : Tidy (ObservableRoutingTable.ofTable node.table) := h.tidy
  -- what a write guard does is the same for a change of state and for a new path
  have hwrite : ∀ {α : Type} {id : NodeId} {a : Option α} {f : Contact → Run (α × Contact)},
      (∀ c a c', f c = .ok (a, c') → Transition c c') →
      contactMut (ObservableRoutingTable.ofTable node.table) id f = .ok (a, observed) →
      InStep cfg node'.table node'.fwd := by
    intro α id a f hf hmut
    rcases contactMut_cases hmut with ⟨-, -, rfl⟩ | ⟨c, a', c', hc, hfc, -, rfl⟩
    · obtain hfwd : node.fwd = node'.fwd := ok.inj hev
      rw [← hfwd, heq]
      exact h
    · have htrans := hf c a' c' hfc
      obtain ⟨ht', hcontact⟩ := write_effect ht hc (.inl (htrans.id_eq.trans (contact_id ht hc)))
      rw [ObservableRoutingTable.write_events hc] at hev
      exact h.write hlen hsuits hc htrans (heq ▸ ht') (heq ▸ hcontact) hev
  cases op with
  | insert call =>
    exact h.insert hlen hsuits (fun c err t₁ old hid ↦ hdead.displaceable h.tidy hid) hop heq hev
  | remove id =>
    obtain rfl :
        (RoutingTable.remove (ObservableRoutingTable.ofTable node.table) id).2 = observed :=
      by simpa [NodeOp.apply] using hop
    obtain ⟨-, hinner, hevents⟩ :=
      ObservableRoutingTable.remove_cases (ObservableRoutingTable.ofTable node.table) id
    obtain ⟨hremoved, ht', hcontact⟩ := remove_effect h.tidy id
    rw [heq.trans hinner] at hlen hev ⊢
    refine h.remove hlen ht' hcontact ?_
    rw [← hremoved]
    exact (congrArg (fun events ↦ handleEvents cfg _ events node.fwd) hevents).symm.trans hev
  | change id stateChange =>
    obtain ⟨⟨a, o₁⟩, hmut, hop⟩ := of_bind hop
    cases hop
    refine hwrite ?_ hmut
    intro c a c' hc
    obtain rfl : stateChange.apply c = c' := by simpa using hc
    exact stateChange.transition c
  | changeAll select =>
    obtain rfl : RoutingTable.iterMut (ObservableRoutingTable.ofTable node.table)
        (StateChange.applySelected select) = observed := by simpa [NodeOp.apply] using hop
    exact h.iterMut hlen hsuits (fun c _ ↦ StateChange.applySelected_transition select c) heq hev
  | assess id order now pathCandidate =>
    obtain ⟨⟨a, o₁⟩, hmut, hop⟩ := of_bind hop
    cases hop
    refine hwrite ?_ hmut
    intro c a c' hc
    exact (Contact.assess_cases hc).transition

/-- No dead contact is in the way, and after the operation the underlay neighbour table suits what
is stored. -/
structure NodeOp.Followed (cfg : FwdConfig)
    (node : ForwardingNode (UnlimitedULNRoutingTable k acc)) (op : NodeOp) : Prop where
  noneDead : op.NoneDead node.table
  suits : ∀ node', node.step cfg op = .ok node' → Suits cfg node'.table

theorem inStep_start (cfg : FwdConfig) (root : NodeId) (acc_pos : 0 < acc) (acc_lt : acc < 64) :
    InStep cfg (new root acc_pos acc_lt : UnlimitedULNRoutingTable k acc) .start ∧
      Suits cfg (new root acc_pos acc_lt : UnlimitedULNRoutingTable k acc) := by
  have hnone :
      ∀ id, (new root acc_pos acc_lt : UnlimitedULNRoutingTable k acc).contact id = none := by
    intro id
    refine Option.eq_none_iff_forall_ne_some.2 fun c hc ↦ ?_
    have hmem := (((tidy_new root acc_pos acc_lt).contact_eq_some_iff id c).1 hc).1
    simp at hmem
  refine ⟨⟨tidy_new root acc_pos acc_lt, ?_, ?_, ?_⟩, ?_, ?_⟩
  · intro id c hc
    exact absurd ((hnone id).symm.trans hc) (by simp)
  · intro b subnet hlook
    simp [DeriveFwdTableEntries.start] at hlook
  · funext id
    rw [entriesOf, show RoutingTable.contact _ id = none from hnone id]
    simp [full, DeriveFwdTableEntries.start]
  · intro c hc
    simp [RoutingTable.iter] at hc
  · intro c hc
    simp [RoutingTable.iter] at hc

/-- The entry of a contact on this path. -/
def pathEntry (cfg : FwdConfig) (id : NodeId) (nextHop : UnderlayNeighborId) (path : Path) :
    NodeIdEntry :=
  if path.size = 1 then .forward (.new id) nextHop
  else .encapsulate (.new id) nextHop (cfg.hash path.ids)

theorem entryOf_eq_pathEntry {c : Contact} {path : Path} {nextHop : UnderlayNeighborId}
    (hvalid : c.isValid = true) (hpath : c.path = some path)
    (hhop : cfg.ulnTable path.first = some nextHop) :
    entryOf cfg c = some (pathEntry cfg c.id nextHop path) := by
  simp [entryOf, pathEntry, entryTo, Contact.isUln, hvalid, hpath, hhop]

/-- **The entries of contacts are exactly those of the valid contacts**, after every operation of a
run in which no dead contact is in the way. -/
theorem entries_exact {root : NodeId} {acc_pos : 0 < acc} {acc_lt : acc < 64}
    {node : ForwardingNode (UnlimitedULNRoutingTable k acc)}
    (h : Reachable (ForwardingNode.step cfg) (NodeOp.Followed cfg)
      (.start (.new root acc_pos acc_lt)) node) :
    (∀ c ∈ node.table.iter, c.isValid = true → ∃ path nextHop, c.path = some path ∧
      cfg.ulnTable path.first = some nextHop ∧
      node.fwd.nodeIdTable.lookup (.new c.id) = some (pathEntry cfg c.id nextHop path)) ∧
    (∀ id, (node.fwd.nodeIdTable.lookup (.new id)).isSome = true →
      ∃ c ∈ node.table.iter, c.id = id ∧ c.isValid = true) := by
  let I (node : ForwardingNode (UnlimitedULNRoutingTable k acc)) : Prop :=
    InStep cfg node.table node.fwd ∧ Suits cfg node.table
  obtain ⟨hin, hsuits⟩ : I node :=
    h.invariant (I := I) (inStep_start cfg root acc_pos acc_lt) fun _ _ _ hs hop hstep ↦
      ⟨hs.1.step (hop.suits _ hstep) hop.noneDead hstep, hop.suits _ hstep⟩
  refine ⟨?_, ?_⟩
  · intro c hc hvalid
    have hstored := contact_of_mem hin.tidy hc
    obtain ⟨path, hpath⟩ := Option.isSome_iff_exists.1 (hin.usable _ c hstored).1
    obtain ⟨nextHop, hhop⟩ := Option.isSome_iff_exists.1 (hsuits.hopsCovered c hc path hpath)
    refine ⟨path, nextHop, hpath, hhop, ?_⟩
    rw [← entryOf_eq_pathEntry hvalid hpath hhop]
    exact hin.entry_eq hstored
  · intro id hsome
    have hsome : (entriesOf cfg (node.table.contact) id).isSome = true := hin.full_eq ▸ hsome
    obtain ⟨entry, hentry⟩ := Option.isSome_iff_exists.1 hsome
    obtain ⟨c, hc, hentry⟩ := Option.bind_eq_some_iff.1 hentry
    obtain ⟨hmem, hid⟩ := (contact_eq_some_iff hin.tidy).1 hc
    refine ⟨c, hmem, hid, ?_⟩
    by_contra hvalid
    simp [entryOf, hvalid] at hentry

/-- The first contact of a node, and its entry. -/
theorem entry_of_first_contact :
    ∃ node : ForwardingNode (UnlimitedULNRoutingTable 1 1),
      ForwardingNode.step .overThree (.start (.new 0 (by decide) (by decide)))
        (insertOverThree [4] 9) = .ok node ∧
      ∃ c ∈ node.table.iter, c.id = 9 ∧ ∃ path nextHop, c.path = some path ∧
        node.fwd.nodeIdTable.lookup (.new 9) = some (pathEntry .overThree 9 nextHop path) := by
  refine exists_ok (p := fun node ↦ Suits .overThree node.table ∧
    ∃ c ∈ node.table.iter, c.id = 9 ∧ c.isValid = true) ⟨_, rfl, by decide +kernel⟩ ?_
  rintro node hstep ⟨hsuits, c, hc, hid, hvalid⟩
  have hreached : Reachable (ForwardingNode.step .overThree) (NodeOp.Followed .overThree)
      (.start (.new 0 (by decide) (by decide))) node := by
    refine .step .start ?_ hstep
    refine ⟨fun _ x hx ↦ absurd hx List.not_mem_nil, fun node' hstep' ↦ ?_⟩
    obtain rfl := ok.inj (hstep.symm.trans hstep')
    exact hsuits
  obtain ⟨path, nextHop, hpath, -, hentry⟩ := (entries_exact hreached).1 c hc hvalid
  exact ⟨c, hc, hid, path, nextHop, hpath, hid ▸ hentry⟩

/-- **An entry is missing.**  A contact dies, and another one takes its place. -/
theorem no_entry_after_displacement :
    ∃ (nodes : List (ForwardingNode (UnlimitedULNRoutingTable 1 1)))
      (node : ForwardingNode (UnlimitedULNRoutingTable 1 1)),
      traceAll (ForwardingNode.step .overThree) (.start (.new 0 (by decide) (by decide)))
        [insertOverThree [4] (farId 1), .change (farId 1) (.setInvalid (fun _ ↦ 0) .empty),
          .change (farId 1) (.startRediscovering .empty [] 1 1), .change (farId 1) .setDead,
          insertOverThree [] (farId 2)] = .ok nodes ∧
      (∀ node ∈ nodes, Suits .overThree node.table) ∧ nodes.getLast? = some node ∧
      (node.table.contact (farId 2)).map Contact.isValid = some true ∧
      node.fwd.nodeIdTable.lookup (.new (farId 2)) = none := by
  exact ⟨_, _, rfl, by decide +kernel, rfl, by decide +kernel, by decide +kernel⟩

end Runs

end Kira
