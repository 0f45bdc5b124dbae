import Kira.Domain.RoutingTable.UnlimitedULNLawful
import Kira.R2Kad.Moves

/-!
# The first hops of valid contacts

A message to a contact goes to the first hop of the contact's path, and it can only be sent if that
hop is in the table of underlay neighbours.  The two tables are kept by different use cases, and
nothing but the order of what they do makes them fit together.

They do not always fit.  A neighbour that makes itself known is learned as a contact before the
discovery of the vicinity has a look at the message, and that use case ignores messages from
interfaces that it does not know to be up.  Then the contact is valid and its first hop, the node
itself, is not in the table: `stranger_is_valid`.  And if a contact is removed that was not reached
directly, but whose id is that of an underlay neighbour, then the neighbour is removed without a
look at the contacts that are reached over it.

In a run in which neighbours make themselves known over interfaces that are up, and in which
contacts are removed that were neighbours themselves or over which no valid contact is reached,
every valid contact has an underlay neighbour as its first hop (`first_hops_known`).
-/

set_option autoImplicit false

namespace Kira

open Run RoutingTable LawfulRoutingTable

/-! ## Contacts -/

/-- If the contact is valid, it is reached over one of these first hops. -/
def Contact.Anchored (hop : NodeId → Prop) (c : Contact) : Prop :=
  c.isValid = true → ∃ path, c.path = some path ∧ hop path.first

theorem ProbeChange.firstHop (c : Contact) (change : ProbeChange)
    (h : (change.apply c).isValid = true) :
    c.isValid = true ∧ (change.apply c).path.map Path.first = c.path.map Path.first := by
  rcases change.apply_cases c with ⟨clock, nvs, heq⟩ | ⟨-, hstate, hpath⟩
  · simp [heq] at h
  · rw [Contact.isValid, hstate] at h
    refine ⟨h, ?_⟩
    rcases hpath with hpath | ⟨now, hpath⟩
    · rw [hpath]
    · rw [hpath, Option.map_map]
      rfl

/-- Changing a contact does not make it valid, nor does it give a valid contact another first hop.
-/
theorem Change.firstHop {c d : Contact} (h : Change c d) (hvalid : d.isValid = true) :
    c.isValid = true ∧ d.path.map Path.first = c.path.map Path.first := by
  cases h with
  | unchanged | propose => exact ⟨hvalid, rfl⟩
  | setInvalid => simp at hvalid
  | progress | die => simp [Contact.isValid, Contact.setState] at hvalid
  | probe change => exact change.firstHop c hvalid

theorem Change.anchored {hop : NodeId → Prop} {c d : Contact} (h : Change c d)
    (hc : c.Anchored hop) : d.Anchored hop := by
  intro hvalid
  obtain ⟨hcvalid, hfirst⟩ := h.firstHop hvalid
  obtain ⟨path, hpath, hhop⟩ := hc hcvalid
  rw [hpath] at hfirst
  obtain ⟨path', hpath', heq⟩ := Option.map_eq_some_iff.1 hfirst
  exact ⟨path', hpath', heq ▸ hhop⟩

/-! ## Learning a contact -/

namespace UNSStrategy

variable {T : Type} {k : Nat} [RoutingTable T k] [LawfulRoutingTable T k] {hop : NodeId → Prop}

/-- A path that is simplified begins with what it began with, with an underlay neighbour, or with
the first hop of a valid contact. -/
theorem first_of_simplified {t : T} {ulnContains : NodeId → Bool} {path path' : Path}
    (huln : ∀ id, ulnContains id = true → hop id) (hfirst : hop path.first)
    (ht : ∀ c ∈ iter t, c.Anchored hop)
    (h : ShortestFirstPathSimplifier.Simplified t ulnContains path path') : hop path'.first := by
  cases h with
  | @shortened i hids hor =>
    rcases hor with rfl | ⟨destId, hi, hdest⟩
    · rw [Path.first_eq_of_head? (by rw [hids, List.drop_zero, path.head?_ids])]
      exact hfirst
    · rw [Path.first_eq_of_head? (by rw [hids, List.head?_drop, hi])]
      exact huln destId hdest
  | @spliced index via known h =>
    obtain ⟨destId, -, hstored⟩ := h.stored
    obtain ⟨active, hactive, hhop⟩ := ht via (mem_of_contact hstored) h.valid
    obtain rfl := Option.some.inj (h.path_eq.symm.trans hactive)
    rw [Path.first_eq_of_head?
      (by rw [h.ids_eq, List.head?_append_of_ne_nil _ known.ids_ne, known.head?_ids])]
    exact hhop

/-- What is stored after an insertion is reached over these first hops, if that was so before, the
contact comes over one of them, and all underlay neighbours are among them. -/
theorem anchored_insert {ctx : Context} {t t' : T} {c : Contact} {path : Path}
    {res : InsertionStrategyResult} (huln : ∀ id, ctx.ulnContains id = true → hop id)
    (hpath : c.path = some path) (hfirst : hop path.first) (ht : ∀ x ∈ iter t, x.Anchored hop)
    (h : insert ctx c t = .ok (res, t')) : ∀ x ∈ iter t', x.Anchored hop := by
  rcases insert_cases h with ⟨-, rfl⟩ | ⟨path₁, prepared, hadm, hprep, hout⟩
  · exact ht
  obtain rfl := Option.some.inj (hpath.symm.trans hadm.path_eq)
  obtain ⟨path', rfl, hsimp, -, -⟩ := prepare_cases hprep
  have hfirst' : hop path'.first :=
    first_of_simplified huln (by rwa [Path.removeCyclesInPlace_first]) ht hsimp
  refine hout.forall_iter (fun _ ↦ ⟨path', rfl, hfirst'⟩) ht ?_
  rintro _ existing existing' ⟨⟩ - hexisting h
  cases h with
  | @activated _ active _ _ hactive hids =>
    refine fun _ ↦ ⟨active, hactive, ?_⟩
    rw [Path.first_eq_of_head? (by rw [hids, Path.head?_ids])]
    exact hfirst'
  | proposed => exact hexisting

end UNSStrategy

/-! ## The table of underlay neighbours -/

theorem ULNOp.contains_apply {t : InMemoryULNTable} {op : ULNOp}
    {observed : ObservableULNTable InMemoryULNTable}
    (h : op.apply (ObservableULNTable.new t) = .ok observed) {id : NodeId}
    (hid : t.contains id = true) (hop : op ≠ .remove id) : observed.inner.contains id = true := by
  have hstepped := (ULNOp.apply_cases h).1
  generalize observed.inner = t' at hstepped
  have hid : (t.map.lookup id).isSome = true := hid
  show (t'.map.lookup id).isSome = true
  cases hstepped with
  | known | confirmedBefore => exact hid
  | inserted | confirmed =>
    rw [KeyMap.lookup_insert_eq]
    split
    · rfl
    · exact hid
  | @removed other | @disconnected other =>
    rw [KeyMap.lookup_erase_eq, if_neg (by rintro rfl; exact hop rfl)]
    exact hid

theorem ULNOp.contains_confirm {t : InMemoryULNTable} {id : NodeId} {ulnid : UnderlayNeighborId}
    {observed : ObservableULNTable InMemoryULNTable}
    (h : (ULNOp.confirm id ulnid).apply (ObservableULNTable.new t) = .ok observed) :
    observed.inner.contains id = true := by
  have hstepped := (ULNOp.apply_cases h).1
  generalize observed.inner = t' at hstepped
  cases hstepped with
  | confirmedBefore hlook =>
    have hlook : t.map.lookup id = some (ulnid, .bidirectional) := hlook
    show (t.map.lookup id).isSome = true
    rw [hlook]
    rfl
  | confirmed => simp [InMemoryULNTable.contains]

/-! ## Moves -/

namespace UseCaseContext

variable {T : Type} {k : Nat} [RoutingTable T k] [LawfulRoutingTable T k]

/-- Every valid contact is reached over an underlay neighbour, or over one of these nodes. -/
def Anchored (extra : NodeId → Prop) (ctx : UseCaseContext T) : Prop :=
  ∀ c ∈ iter ctx.routingTable,
    c.Anchored fun id ↦ ctx.ulnTable.contains id = true ∨ extra id

variable {cause : Cause} {extra : NodeId → Prop} {ctx ctx' : UseCaseContext T}

omit [LawfulRoutingTable T k] in
/-- If each valid contact comes from a valid contact with the same first hop, then nothing is
reached over a node that was not before. -/
theorem Avoids.of_firstHop {id : NodeId} (h : ctx.Avoids id)
    (hfrom : ∀ d ∈ iter ctx'.routingTable, d.isValid = true → ∃ c ∈ iter ctx.routingTable,
      c.isValid = true ∧ d.path.map Path.first = c.path.map Path.first) : ctx'.Avoids id := by
  intro d hd hvalid
  obtain ⟨c, hc, hcvalid, hfirst⟩ := hfrom d hd hvalid
  rw [hfirst]
  exact h c hc hcvalid

theorem Move.anchored (hextra : ∀ id, cause.announced id → id ≠ ctx.rootId → extra id)
    (hlearns : cause.learns → ∀ id, ¬ cause.departed id) (h : Move cause ctx ctx')
    (hctx : ctx.Anchored extra) (hgone : ∀ id, cause.departed id → ctx.Avoids id) :
    ctx'.Anchored extra ∧ ∀ id, cause.departed id → ctx'.Avoids id := by
  cases h with
  | raise | register | registerPeriodic => exact ⟨hctx, hgone⟩
  | @change id c d hc h =>
    have hmem := mem_of_contact hc
    refine ⟨fun x hx ↦ ?_, fun gone hdeparted ↦ (hgone gone hdeparted).of_firstHop fun x hx hv ↦ ?_⟩
    · rcases (mem_write _ _ _).2 x hx with rfl | hx
      · exact h.anchored (hctx c hmem)
      · exact hctx x hx
    · rcases (mem_write _ _ _).2 x hx with rfl | hx
      · exact ⟨c, hmem, h.firstHop hv⟩
      · exact ⟨x, hx, hv, rfl⟩
  | @changeAll f h =>
    have hiter : iter (ctx.iterMut f).routingTable = (iter ctx.routingTable).map f :=
      (mem_iterMut ctx.routingTable f).2
    refine ⟨fun x hx ↦ ?_, fun gone hdeparted ↦ (hgone gone hdeparted).of_firstHop fun x hx hv ↦ ?_⟩
    · rw [hiter] at hx
      obtain ⟨c, hc, rfl⟩ := List.mem_map.1 hx
      exact (h c).anchored (hctx c hc)
    · rw [hiter] at hx
      obtain ⟨c, hc, rfl⟩ := List.mem_map.1 hx
      exact ⟨c, hc, (h c).firstHop hv⟩
  | @search id c retries wait hc _ nvs via =>
    have hnot : (c.startRediscovering nvs via retries wait).isValid = false := rfl
    refine ⟨fun x hx ↦ ?_, fun gone hdeparted ↦ (hgone gone hdeparted).of_firstHop fun x hx hv ↦ ?_⟩
    · rcases (mem_write _ _ _).2 x hx with rfl | hx
      · intro hv
        simp [hnot] at hv
      · exact hctx x hx
    · rcases (mem_write _ _ _).2 x hx with rfl | hx
      · simp [hnot] at hv
      · exact ⟨x, hx, hv, rfl⟩
  | @remove id =>
    have hsub : ∀ x ∈ iter (ctx.removeContact id).routingTable, x ∈ iter ctx.routingTable := by
      rw [routingTable_removeContact]
      exact (mem_remove _ _).2
    exact ⟨fun x hx ↦ hctx x (hsub x hx),
      fun gone hdeparted ↦ (hgone gone hdeparted).of_firstHop fun x hx hv ↦ ⟨x, hsub x hx, hv, rfl⟩⟩
  | @learn strategy c path res observed hlearn huln hpath hfirst h =>
    refine ⟨?_, fun gone hdeparted ↦ absurd hdeparted (hlearns hlearn gone)⟩
    refine UNSStrategy.anchored_insert (t := ObservableRoutingTable.ofTable ctx.routingTable) ?_
      hpath ?_ hctx h
    · intro id hid
      rw [huln] at hid
      exact .inl hid
    · exact hfirst.imp_right fun hann ↦ hextra _ hann.1 hann.2
  | @uln op observed hop h =>
    refine ⟨fun x hx hv ↦ ?_, hgone⟩
    obtain ⟨path, hpath, hhop⟩ := hctx x hx hv
    refine ⟨path, hpath, hhop.imp_left fun hcontains ↦ ULNOp.contains_apply h hcontains ?_⟩
    rintro rfl
    have havoids : ctx.Avoids path.first := (hop _ rfl).elim id fun hdeparted ↦ hgone _ hdeparted
    exact havoids x hx hv (by rw [hpath]; rfl)

theorem Moves.anchored (hextra : ∀ id, cause.announced id → id ≠ ctx.rootId → extra id)
    (hlearns : cause.learns → ∀ id, ¬ cause.departed id) (h : Moves cause ctx ctx')
    (ht : Tidy ctx.routingTable) (hctx : ctx.Anchored extra)
    (hgone : ∀ id, cause.departed id → ctx.Avoids id) : ctx'.Anchored extra := by
  have hall := h.invariant (I := fun mid ↦ (Tidy mid.routingTable ∧ mid.rootId = ctx.rootId) ∧
      mid.Anchored extra ∧ ∀ id, cause.departed id → mid.Avoids id)
    (fun a b ha hmove ↦ ⟨⟨(hmove.tidy ha.1.1).1, (hmove.tidy ha.1.1).2.trans ha.1.2⟩,
      hmove.anchored (fun id ↦ ha.1.2 ▸ hextra id) hlearns ha.2.1 ha.2.2⟩)
    ⟨⟨ht, rfl⟩, hctx, hgone⟩
  exact hall.2.1

end UseCaseContext

/-! ## Neighbours that make themselves known -/

section Announcements

variable {T : Type} {k : Nat} [RoutingTable T k] {ctx ctx' : UseCaseContext T} {debug : Bool}
  {message : ProtocolMessage}

open ForwardProtocolMessage

theorem Act.apply_ulnTable {act : Act} (h : act.apply debug ctx = .ok ctx') :
    ctx'.ulnTable = ctx.ulnTable := by
  cases act with
  | probe id change =>
    obtain ⟨⟨found, mid⟩, hmut, h⟩ := of_bind h
    obtain ⟨⟨found', observed⟩, -, hmut⟩ := of_bind hmut
    cases hmut
    cases h
    rfl
  | registerTimer duration =>
    obtain ⟨⟨id, mid⟩, hreg, h⟩ := of_bind h
    obtain ⟨runtime, -, rfl⟩ := UseCaseContext.registerTimer_cases hreg
    cases h
    rfl
  | registerPeriodicTimer duration =>
    obtain ⟨⟨id, runtime⟩, -, h⟩ := of_bind h
    cases h
    rfl
  | sendMessage message => exact (UseCaseContext.sameState_sendMessage h).ulnTable
  | vicinityChanged | broadcastMessage message =>
    cases h
    rfl

theorem Act.runAll_ulnTable {acts : List Act} (h : runAll (Act.apply debug) ctx acts = .ok ctx') :
    ctx'.ulnTable = ctx.ulnTable := by
  induction acts generalizing ctx with
  | nil =>
    cases h
    rfl
  | cons act acts ih =>
    obtain ⟨mid, hmid, h⟩ := of_bind h
    exact (ih h).trans (Act.apply_ulnTable hmid)

theorem notHandled_of_isULNDisc {order : PathOrder} {clock : Readings} {res : HandlingResult}
    {source : UnderlayNeighborSource} (hdisc : isULNDisc message = true)
    (hsource : message.source ≠ ctx.rootId)
    (h : handleEvent order clock ctx (.message message source) = .ok (res, ctx')) :
    res = .notHandled := by
  obtain ⟨hroute, hnotVia⟩ : message.sourceRoute = none ∧ message.notVia = none := by
    cases message with
    | ulnDiscReq req | ulnDiscRsp rsp => exact ⟨rfl, rfl⟩
    | _ => simp [isULNDisc] at hdisc
  -- without a route there is nothing to forward
  have hforward : ∀ {ctx ctx' : UseCaseContext T}, forward ctx message = .ok (res, ctx') →
      res = .notHandled := by
    intro ctx ctx' h
    obtain ⟨⟨result, effects⟩, hforwarding, h⟩ := of_bind h
    rw [handleForwarding, hroute] at hforwarding
    cases hforwarding
    cases h
    rfl
  simp only [handleEvent, hroute] at h
  obtain ⟨⟨info, learned⟩, hinfo, h⟩ := of_bind h
  rcases info with (_ | _) | ⟨⟩
  case ok | error.fwdErrIgnore => exact hforward h
  case error.fwdErrDropMessage =>
    -- only the node's own messages are dropped
    exfalso
    obtain ⟨⟨found, mid⟩, hfound, hinfo⟩ := of_bind hinfo
    rw [hnotVia] at hfound
    have hdrop : found = .error .fwdErrDropMessage := by
      cases found with
      | error err =>
        obtain ⟨herr, -⟩ := ok_mk_inj hinfo
        exact congrArg Except.error (Except.error.inj herr)
      | ok contact =>
        obtain ⟨data, -, hinfo⟩ := of_bind hinfo
        cases (ok_mk_inj hinfo).1
    unfold extractSourceInformation at hfound
    split at hfound
    · obtain ⟨hignore, -⟩ := ok_mk_inj hfound
      rw [hdrop] at hignore
      cases hignore
    · obtain ⟨path, hpath, hfound⟩ := of_bind hfound
      split at hfound
      · cases hfound
      · obtain ⟨hignore, -⟩ := ok_mk_inj hfound
        rw [hdrop] at hignore
        cases hignore
      · dsimp only at hfound
        split at hfound
        · rename_i hown
          exact hsource ((first_extractPathToSource hdisc hpath).symm.trans hown)
        · rw [if_neg (by simp [hdisc])] at hfound
          obtain ⟨updated, -, hfound⟩ := of_bind hfound
          obtain ⟨hok, -⟩ := ok_mk_inj hfound
          rw [hdrop] at hok
          cases hok

theorem UnderlayNeighborDiscovery.contains_source {interfaces interfaces' : List Nat}
    {ulnid : UnderlayNeighborId} (hdisc : isULNDisc message = true)
    (hup : interfaces.contains ulnid.interfaceId = true)
    (h : handleEvent interfaces ctx (.message message (.underlayNeighbor ulnid)) =
      .ok (interfaces', ctx')) : ctx'.ulnTable.contains message.source = true := by
  have hconfirm : ∀ {ctx ctx' : UseCaseContext T} {id : NodeId},
      ctx.ulnOp (.confirm id ulnid) = .ok ctx' → ctx'.ulnTable.contains id = true := by
    intro ctx ctx' id h
    obtain ⟨observed, hobserved, h⟩ := of_bind h
    cases h
    exact ULNOp.contains_confirm hobserved
  simp only [handleEvent, hup, if_true] at h
  obtain ⟨mid, hmid, h⟩ := of_bind h
  cases h
  cases message with
  | ulnDiscReq req =>
    obtain ⟨inserted, -, hmid⟩ := of_bind hmid
    exact hconfirm hmid
  | ulnDiscRsp rsp => exact hconfirm hmid
  | _ => simp [isULNDisc] at hdisc

end Announcements

/-! ## Runs -/

namespace R2Kad

open ForwardProtocolMessage UseCaseContext

variable {T : Type} {k : Nat} [RoutingTable T k]

/-- A neighbour makes itself known over an interface that is up.  A contact that is gone was a
neighbour itself, or no valid contact is reached over it. -/
def Orderly (node : R2Kad T) : UseCaseEvent → Prop
  | .message message source => isULNDisc message = true → message.source ≠ node.context.rootId →
      ∃ ulnid, source = .underlayNeighbor ulnid ∧ node.interfaces.contains ulnid.interfaceId = true
  | .contact (.removed c) => c.path.map Path.ids = some [c.id] ∨ node.context.Avoids c.id
  | _ => True

variable [CloseContacts T] [LawfulRoutingTable T k] {debug : Bool} {node node' : R2Kad T}
  {occurrence : Occurrence} {event : UseCaseEvent}

theorem anchored_processEvent (h : node.processEvent debug occurrence event = .ok node')
    (ht : Tidy node.context.routingTable) (horderly : node.Orderly event)
    (hctx : node.context.Anchored fun _ ↦ False) : node'.context.Anchored fun _ ↦ False := by
  have hmoves := moves_processEvent h ht
  have hlearns : (event.cause node.failureHandling.config.maxRetryRounds).learns →
      ∀ id, ¬ (event.cause node.failureHandling.config.maxRetryRounds).departed id := by
    rintro ⟨message, source, rfl⟩ id ⟨c, hc, -⟩
    cases hc
  have hgone : ∀ id, (event.cause node.failureHandling.config.maxRetryRounds).departed id →
      node.context.Avoids id := by
    rintro id ⟨c, rfl, rfl, hdirect⟩
    exact horderly.resolve_left hdirect
  by_cases hdisc : ∃ message source, event = .message message source ∧
      isULNDisc message = true ∧ message.source ≠ node.context.rootId
  · -- until the sender is in the table, contacts may be reached over it as well
    obtain ⟨message, source, rfl, hdisc, hsource⟩ := hdisc
    obtain ⟨ulnid, rfl, hup⟩ := horderly hdisc hsource
    have hextra : node'.context.Anchored (· = message.source) := by
      refine hmoves.anchored ?_ hlearns ht (fun c hc hvalid ↦ ?_) hgone
      · rintro id ⟨message', source', heq, -, rfl⟩ -
        obtain ⟨rfl, -⟩ := UseCaseEvent.message.inj heq
        rfl
      · obtain ⟨path, hpath, hhop⟩ := hctx c hc hvalid
        exact ⟨path, hpath, hhop.imp_right False.elim⟩
    have hcontains : node'.context.ulnTable.contains message.source = true := by
      obtain ⟨⟨reached, ctx⟩, huntil, h⟩ := of_bind h
      cases reached with
      | false =>
        obtain ⟨managed, hbefore, huntil⟩ := of_bind huntil
        have hmanaged : Moves (UseCaseEvent.api.cause 0) node.context managed :=
          Act.moves_all hbefore
        have hpath : UseCaseEvent.isPathManagement (.message message (.underlayNeighbor ulnid)) =
            false := by
          cases message with
          | pathSetupReq | pathTeardownReq => simp [isULNDisc] at hdisc
          | _ => rfl
        rw [hpath, Bool.and_false, if_neg Bool.false_ne_true] at huntil
        obtain ⟨⟨result, learned⟩, hforward, huntil⟩ := of_bind huntil
        obtain rfl := notHandled_of_isULNDisc hdisc (by rwa [hmanaged.rootId_eq ht]) hforward
        obtain ⟨between, -, huntil⟩ := of_bind huntil
        obtain ⟨updated, -, huntil⟩ := of_bind huntil
        cases (ok_mk_inj huntil).1
      | true =>
        obtain ⟨⟨res, failureHandling, handled⟩, -, h⟩ := of_bind h
        obtain ⟨amid, -, h⟩ := of_bind h
        obtain ⟨⟨interfaces, discovered⟩, hdiscovered, h⟩ := of_bind h
        obtain ⟨after, hafter, h⟩ := of_bind h
        cases h
        show after.ulnTable.contains message.source = true
        rw [Act.runAll_ulnTable hafter]
        exact UnderlayNeighborDiscovery.contains_source hdisc hup hdiscovered
    intro c hc hvalid
    obtain ⟨path, hpath, hhop⟩ := hextra c hc hvalid
    refine ⟨path, hpath, .inl ?_⟩
    rcases hhop with hhop | hhop
    · exact hhop
    · rw [hhop]
      exact hcontains
  · refine hmoves.anchored ?_ hlearns ht hctx hgone
    rintro id ⟨message, source, heq, hmessage, rfl⟩ hroot
    exact hdisc ⟨message, source, heq, hmessage, hroot⟩

theorem anchored_step {op : Step} (h : node.step debug op = .ok node')
    (ht : Tidy node.context.routingTable)
    (horderly : ∀ event, node.nextEvent op = some event → node.Orderly event)
    (hctx : node.context.Anchored fun _ ↦ False) : node'.context.Anchored fun _ ↦ False := by
  cases op with
  | input input occurrence => exact anchored_processEvent h ht (horderly _ rfl) hctx
  | timer occurrence =>
    obtain ⟨⟨due, runtime⟩, -, h⟩ := of_bind h
    cases due with
    | none =>
      cases h
      exact hctx
    | some id => exact anchored_processEvent h ht trivial hctx
  | queued occurrence =>
    simp only [step] at h
    split at h
    · cases h
      exact hctx
    · rename_i event events hqueue
      have hnext : node.nextEvent (.queued occurrence) = some event := by
        rw [nextEvent, hqueue]
        rfl
      have horderly := horderly event hnext
      refine anchored_processEvent h ht ?_ hctx
      cases event with
      | message => exact horderly
      | contact event =>
        cases event with
        | removed => exact horderly
        | _ => trivial
      | _ => trivial
  | setCurrentTime now =>
    cases h
    exact hctx

/-- **The first hop of every valid contact is an underlay neighbour**, in every run in which the
events are orderly. -/
theorem first_hops_known {k : Nat} {debug : Bool} {root : NodeId} {startupTime : Instant}
    {node : R2Kad (UnlimitedULNRoutingTable k 1)}
    (h : Reachable (step debug) (fun node op ↦ ∀ event, node.nextEvent op = some event →
      node.Orderly event) (start (.new root (by decide) (by decide)) startupTime) node)
    {c : Contact} (hc : c ∈ iter node.context.routingTable) (hvalid : c.isValid = true) :
    ∃ path, c.path = some path ∧ node.context.ulnTable.contains path.first = true := by
  have ht := (UnlimitedULNRoutingTable.healthy_new (k := k) root (by decide : 0 < 1)
    (by decide : 1 < 64)).tidy
  have hall := h.invariant
    (I := fun node ↦ Tidy node.context.routingTable ∧ node.context.Anchored fun _ ↦ False)
    ⟨ht, fun c hc ↦ absurd hc (UnlimitedULNRoutingTable.not_mem_iter_new c)⟩
    fun node op node' hnode hop hstep ↦
      ⟨step_tidy hnode.1 hstep, anchored_step hstep hnode.1 hop hnode.2⟩
  obtain ⟨path, hpath, hhop⟩ := hall.2 c hc hvalid
  exact ⟨path, hpath, hhop.resolve_right id⟩

/-- The node 1 makes itself known over an interface that is up. -/
theorem first_hop_of_neighbor :
    ∃ node : R2Kad (UnlimitedULNRoutingTable 20 1), ∃ c ∈ iter node.context.routingTable,
      c.isValid = true ∧
        ∃ path, c.path = some path ∧ node.context.ulnTable.contains path.first = true := by
  obtain ⟨up, hup, hinterface⟩ : ∃ up, step true (start nodeZero 0)
      (.input (.underlayUpdate (.interfaceUp 1)) (quiet 1)) = .ok up ∧ up.interfaces = [1] :=
    ⟨_, rfl, rfl⟩
  have hfirst : Reachable (step true) (fun node op ↦ ∀ event, node.nextEvent op = some event →
      node.Orderly event) (start nodeZero 0) up := by
    refine .step .start (fun event hevent ↦ ?_) hup
    cases hevent
    trivial
  obtain ⟨node, hnode, c, hc, hvalid⟩ : ∃ node : R2Kad (UnlimitedULNRoutingTable 20 1),
      step true up (.input (.message (greeting 1) ⟨1, 1⟩) (quiet 2)) = .ok node ∧
        ∃ c ∈ iter node.context.routingTable, c.isValid = true := by
    cases hup
    exact ⟨_, rfl, _, List.mem_singleton.2 rfl, rfl⟩
  refine ⟨node, c, hc, hvalid, first_hops_known (.step hfirst (fun event hevent ↦ ?_) hnode) hc
    hvalid⟩
  cases hevent
  exact fun _ _ ↦ ⟨⟨1, 1⟩, rfl, by rw [hinterface]; rfl⟩

/-- The node 1 makes itself known over an interface that has just gone down. -/
def lateGreeting : List Step :=
  [ .input (.underlayUpdate (.interfaceUp 1)) (quiet 1),
    .input (.underlayUpdate (.interfaceDown 1)) (quiet 2),
    .input (.message (greeting 1) ⟨1, 1⟩) (quiet 3), .queued (quiet 4) ]

/-- **A contact is valid, but its first hop is no neighbour**, and there is nothing left to be done.
-/
theorem stranger_is_valid :
    ∃ node : R2Kad (UnlimitedULNRoutingTable 20 1),
      Reachable (step true) (fun _ _ ↦ True) (start nodeZero 0) node ∧
      node.context.eventQueue = [] ∧
      ∃ c ∈ iter node.context.routingTable, c.isValid = true ∧
        ∃ path, c.path = some path ∧ node.context.ulnTable.contains path.first = false :=
  ⟨_, reachable_of_steps lateGreeting rfl, rfl, _, List.mem_singleton.2 rfl, rfl, _, rfl, rfl⟩

end R2Kad

end Kira
