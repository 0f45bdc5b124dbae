import Kira.R2Kad.Node
import Kira.UseCases.PathProbing

/-!
# Which contacts are probed

The look through the table is to find the two contacts of each bucket that have not been heard of
for the longest time.  They are sorted by the time at which they were last heard of, and then the
order is reversed, which puts those to the front that were heard of last.  So the two contacts
probed are the oldest ones only if there is nothing to choose from: `oldest_probed_iff`.
-/

set_option autoImplicit false

namespace Kira

open Run RoutingTable

namespace PathProbing

variable {T : Type} {k : Nat}

/-- The contacts of a bucket that may be probed. -/
def eligible (clock : Readings) (probeAge : Duration) (bucket : Bucket k) : List Contact :=
  bucket.contacts.filter fun contact ↦
    probeAge ≤ (clock.part contact.id.toNat).now - contact.lastSeen && contact.isValid &&
      !contact.isUln

/-- Of the contacts that may be probed, two are, if there are two; and those that are left over have
not been heard of less recently. -/
def OldestProbed (eligible probed : List Contact) : Prop :=
  probed.length = min 2 eligible.length ∧ ∃ rest, (probed ++ rest).Perm eligible ∧
    ∀ c ∈ probed, ∀ left ∈ rest, c.lastSeen ≤ left.lastSeen

instance (tie : NodeId → Nat) : Std.Total (seenBefore tie) where
  total a b := by
    rcases Nat.lt_trichotomy a.lastSeen b.lastSeen with hlt | heq | hgt
    · exact .inl (.inl hlt)
    · exact (Nat.le_total (tie a.id) (tie b.id)).imp (fun h ↦ .inr ⟨heq, h⟩) fun h ↦
        .inr ⟨heq.symm, h⟩
    · exact .inr (.inl hgt)

instance (tie : NodeId → Nat) : IsTrans Contact (seenBefore tie) where
  trans a b c hab hbc := by
    rcases hab with hab | ⟨hab, htie⟩ <;> rcases hbc with hbc | ⟨hbc, htie'⟩
    · exact .inl (Nat.lt_trans hab hbc)
    · exact .inl (hbc ▸ hab)
    · exact .inl (hab ▸ hbc)
    · exact .inr ⟨hab.trans hbc, htie.trans htie'⟩

theorem seenBefore.le {tie : NodeId → Nat} {a b : Contact} (h : seenBefore tie a b) :
    a.lastSeen ≤ b.lastSeen :=
  h.elim Nat.le_of_lt fun h ↦ Nat.le_of_eq h.1

theorem oldestProbed_take_iff {l : List Contact}
    (h : l.Pairwise fun a b ↦ b.lastSeen ≤ a.lastSeen) :
    OldestProbed l (l.take 2) ↔ l.length ≤ 2 ∨ ∀ a ∈ l, ∀ b ∈ l, a.lastSeen = b.lastSeen := by
  constructor
  · rintro ⟨-, rest, hperm, hrest⟩
    match l, h with
    | [], _ => exact .inl (Nat.zero_le _)
    | [_], _ => exact .inl (by simp)
    | first :: second :: others, h =>
      rcases List.eq_nil_or_concat' others with rfl | ⟨init, last, rfl⟩
      · exact .inl (by simp)
      · -- the first is the one heard of last, and the last is left over
        have hleft : last ∈ rest := by
          have hperm' : rest.Perm (init ++ [last]) :=
            (List.perm_append_left_iff [first, second]).1 hperm
          exact hperm'.mem_iff.2 (by simp)
        have hle := hrest first (by simp) last hleft
        have hfirst : ∀ c ∈ first :: second :: (init ++ [last]), c.lastSeen ≤ first.lastSeen := by
          intro c hc
          rcases List.mem_cons.1 hc with rfl | hc
          · exact Nat.le_refl _
          · exact (List.pairwise_cons.1 h).1 c hc
        have hlast : ∀ c ∈ first :: second :: (init ++ [last]), last.lastSeen ≤ c.lastSeen := by
          intro c hc
          rw [← List.cons_append, ← List.cons_append] at h hc
          rcases List.mem_append.1 hc with hc | hc
          · exact (List.pairwise_append.1 h).2.2 c hc last (by simp)
          · exact Nat.le_of_eq (by rw [List.mem_singleton.1 hc])
        refine .inr fun a ha b hb ↦ Nat.le_antisymm ?_ ?_
        · exact (hfirst a ha).trans (hle.trans (hlast b hb))
        · exact (hfirst b hb).trans (hle.trans (hlast a ha))
  · intro hcases
    refine ⟨List.length_take, l.drop 2, by rw [List.take_append_drop], fun c hc left hleft ↦ ?_⟩
    rcases hcases with hshort | hequal
    · rw [List.drop_eq_nil_of_le hshort] at hleft
      cases hleft
    · exact (hequal c (List.mem_of_mem_take hc) left (List.mem_of_mem_drop hleft)).le

theorem OldestProbed.congr {eligible eligible' probed : List Contact}
    (h : eligible.Perm eligible') :
    OldestProbed eligible probed ↔ OldestProbed eligible' probed := by
  rw [OldestProbed, OldestProbed, h.length_eq]
  simp only [h.congr_right]

theorem oldestProbed_considered_iff (clock : Readings) (tie : NodeId → Nat) (probeAge : Duration)
    (bucket : Bucket k) :
    OldestProbed (eligible clock probeAge bucket) (consideredContacts clock tie probeAge bucket) ↔
      (eligible clock probeAge bucket).length ≤ 2 ∨
        ∀ a ∈ eligible clock probeAge bucket, ∀ b ∈ eligible clock probeAge bucket,
          a.lastSeen = b.lastSeen := by
  have hperm := (List.reverse_perm _).trans
    (List.perm_insertionSort (seenBefore tie) (eligible clock probeAge bucket))
  have hsorted := List.pairwise_reverse.2
    (List.pairwise_insertionSort (seenBefore tie) (eligible clock probeAge bucket))
  have hiff := oldestProbed_take_iff (hsorted.imp seenBefore.le)
  rw [OldestProbed.congr hperm, hperm.length_eq] at hiff
  simp only [hperm.mem_iff] at hiff
  exact hiff

variable [RoutingTable T k] {debug : Bool} {self self' : PathProbing} {ctx ctx' : UseCaseContext T}
  {clock : Readings} {draws : ProbingDraws}

/-- What leaves the node for a request: one message to the first hop, if that is a neighbour. -/
def outputs (ctx : UseCaseContext T) (sent : SentProbe) : List Effect :=
  if sent.probe.path.first = ctx.rootId then []
  else (ctx.ulnTable.map.lookup sent.probe.path.first).toList.map fun uln ↦
    .sendMessageVia (probeReq ctx sent.nonce sent.probe.path) (.underlayNeighbor uln.1)

theorem outputs_congr (htable : ctx'.routingTable = ctx.routingTable)
    (huln : ctx'.ulnTable = ctx.ulnTable) : outputs ctx' = outputs ctx := by
  obtain ⟨routingTable, ulnTable, runtime, events, queue⟩ := ctx
  obtain ⟨_, _, runtime', events', queue'⟩ := ctx'
  obtain rfl : _ = routingTable := htable
  obtain rfl : _ = ulnTable := huln
  rfl

/-- The use case has sent requests for these contacts, and the messages have left the node. -/
structure Probed (ctx ctx' : UseCaseContext T) (contacts : List Contact) (sent : List SentProbe) :
    Prop where
  contacts_eq : sent.map (fun s ↦ (s.probe.contactId, some s.probe.path)) =
    contacts.map fun c ↦ (c.id, c.path)
  outputQueue : ctx'.outputQueue = ctx.outputQueue ++ sent.flatMap (outputs ctx)

theorem outputQueue_sendProbe {nonce : Nonce} {path : Path}
    (h : ctx.sendMessage (probeReq ctx nonce path) = .ok ctx') (timerId : TimerId) (id : NodeId)
    (now : Timestamp) :
    ctx'.outputQueue = ctx.outputQueue ++ outputs ctx ⟨timerId, nonce, ⟨id, path, now⟩⟩ := by
  have hroute : (probeReq ctx nonce path).sourceRoute = some (.new ctx.rootId path) := rfl
  rw [UseCaseContext.sendMessage, sendMessage_of_route hroute (SourceRoute.currentHop_new _ _),
    ok_bind] at h
  cases h
  rw [outputs]
  split
  · simp [UseCaseContext.emit, UseCaseContext.broadcastEvent]
  · cases ctx.ulnTable.map.lookup path.first <;> simp [UseCaseContext.emit]

theorem sendProbeReq_probed {now : Timestamp} {nonces : Nat → Nonce} {rounds : Nat}
    {contact : Contact} {sent : SentProbe}
    (h : self.sendProbeReq debug now nonces rounds ctx contact = .ok (sent, self', ctx')) :
    Probed ctx ctx' [contact] [sent] ∧ outputs ctx' = outputs ctx := by
  unfold sendProbeReq at h
  split at h
  · obtain ⟨nonce, -, h⟩ := of_bind h
    obtain ⟨path, hpath, h⟩ := of_bind h
    obtain ⟨mid, hmid, h⟩ := of_bind h
    obtain ⟨⟨timer, last⟩, htimer, h⟩ := of_bind h
    cases h
    obtain ⟨runtime, -, rfl⟩ := UseCaseContext.registerTimer_cases htimer
    have hsame := UseCaseContext.sameState_sendMessage hmid
    refine ⟨⟨by simp [expect_eq_ok.1 hpath], ?_⟩, ?_⟩
    · rw [List.flatMap_singleton]
      exact outputQueue_sendProbe hmid _ _ _
    · exact outputs_congr hsame.routingTable hsame.ulnTable
  · cases h

theorem sendAll_probed {contacts : List Contact} {j : Nat} {sent : List SentProbe}
    (h : sendAll debug clock draws j contacts self ctx = .ok (sent, self', ctx')) :
    Probed ctx ctx' contacts sent := by
  induction contacts generalizing j self ctx sent self' ctx' with
  | nil =>
    cases h
    exact ⟨rfl, (List.append_nil _).symm⟩
  | cons contact contacts ih =>
    obtain ⟨⟨first, mid, midCtx⟩, hfirst, h⟩ := of_bind h
    obtain ⟨⟨rest, last, lastCtx⟩, hrest, h⟩ := of_bind h
    cases h
    obtain ⟨hone, hsame⟩ := sendProbeReq_probed hfirst
    have hothers := ih hrest
    refine ⟨?_, ?_⟩
    · rw [List.map_cons, List.map_cons, hothers.contacts_eq]
      exact congrArg (· ++ _) hone.contacts_eq
    · rw [hothers.outputQueue, hone.outputQueue, hsame, List.append_assoc, List.flatMap_singleton,
        List.flatMap_cons]

/-- **When the two oldest contacts of each bucket are probed.**  A look through the table sends a
request for each contact chosen in a bucket and for nobody else; these are the messages that leave
the node, to the first hops of the paths.  In a bucket the choice is the right one if and only if no
more than two contacts may be probed, or all of them were last heard of at the same time. -/
theorem oldest_probed_iff [BucketIter T k] {sent : List SentProbe}
    (h : self.sendProbeReqs debug clock draws ctx = .ok (sent, self', ctx')) :
    Probed ctx ctx' ((BucketIter.bucketIter ctx.routingTable).flatMap
      (consideredContacts (clock.part 0) draws.tie self.config.probeAge)) sent ∧
    ∀ bucket : Bucket k,
      OldestProbed (eligible (clock.part 0) self.config.probeAge bucket)
          (consideredContacts (clock.part 0) draws.tie self.config.probeAge bucket) ↔
        (eligible (clock.part 0) self.config.probeAge bucket).length ≤ 2 ∨
          ∀ a ∈ eligible (clock.part 0) self.config.probeAge bucket,
          ∀ b ∈ eligible (clock.part 0) self.config.probeAge bucket, a.lastSeen = b.lastSeen :=
  ⟨sendAll_probed h, oldestProbed_considered_iff _ _ _⟩

/-! ### The node 0 has heard of the nodes 2, 3 and 4, in this order -/

/-- The contact with this id, over the node 1 and last heard of at this time. -/
def heardOf (id : NodeId) (time : Timestamp) : Contact :=
  { Contact.ofIds [1, id] (by simp) .MIN with lastSeen := time }

/-- The node 0 knows these contacts. -/
def knows (contacts : List Contact) : UseCaseContext (UnlimitedULNRoutingTable 20 1) where
  routingTable :=
    match runAll TableOp.apply R2Kad.nodeZero (contacts.map .add) with
    | .ok table => table
    | .panic _ => R2Kad.nodeZero
  ulnTable := (InMemoryULNTable.new.insert 1 ⟨1, 1⟩).2
  runtime := .withStartupTime 0
  eventQueue := []
  outputQueue := []

def started : PathProbing := ⟨.running ⟨0, ∅, ∅, ∅, none⟩, .default⟩

/-- Every nonce is drawn once. -/
def countedDraws : ProbingDraws := ⟨fun j _ ↦ .ofNat 64 j, fun j _ ↦ .ofNat 64 j, 1, fun _ ↦ 0, 1⟩

def aMinute : Readings := fun _ ↦ 60000000000

/-- The destinations of the messages that are to leave the node. -/
def destinations (ctx : UseCaseContext T) : List NodeId :=
  ctx.outputQueue.filterMap fun effect ↦ effect.message.destination

/-- With two contacts there is no choice. -/
theorem oldest_probed_two : ∃ sent after ctx, started.sendProbeReqs true aMinute countedDraws
      (knows [heardOf 2 1, heardOf 3 2]) = .ok (sent, after, ctx) ∧ destinations ctx = [3, 2] ∧
    OldestProbed (eligible (aMinute.part 0) started.config.probeAge
        (bucket (knows [heardOf 2 1, heardOf 3 2]).routingTable 2))
      (consideredContacts (aMinute.part 0) countedDraws.tie started.config.probeAge
        (bucket (knows [heardOf 2 1, heardOf 3 2]).routingTable 2)) := by
  refine ⟨_, _, _, rfl, by decide +kernel, ?_⟩
  have hlook : started.sendProbeReqs true aMinute countedDraws
    (knows [heardOf 2 1, heardOf 3 2]) = .ok (_, _, _) := rfl
  exact ((oldest_probed_iff hlook).2 _).2 (.inl (by decide +kernel))

/-- **The oldest contact is passed over.**  The node 2 has not been heard of for the longest time,
and requests to the nodes 4 and 3 leave the node. -/
theorem oldest_passed_over : ∃ sent after ctx, started.sendProbeReqs true aMinute countedDraws
      (knows [heardOf 2 1, heardOf 3 2, heardOf 4 3]) = .ok (sent, after, ctx) ∧
    destinations ctx = [4, 3] ∧
    (eligible (aMinute.part 0) started.config.probeAge
      (bucket (knows [heardOf 2 1, heardOf 3 2, heardOf 4 3]).routingTable 2)).map
        (fun c ↦ (c.id, c.lastSeen)) = [(2, 1), (3, 2), (4, 3)] :=
  ⟨_, _, _, rfl, by decide +kernel, by decide +kernel⟩

end PathProbing

end Kira
