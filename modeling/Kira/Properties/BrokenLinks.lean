import Kira.Domain.RoutingTable.UnlimitedULNLawful
import Kira.UseCases.Moves

/-!
# Broken links that a message reports

A message tells of broken links in two ways.  An error names the one link on which a message could
not be passed on; and any message may carry a list of links that are known to be broken, each with
the time since then.  Contacts that are reached over such a link become invalid.

For the error this is all that happens after the source has been learned, and the source is no
exception: if it was learned on a path with the failed link, it is invalidated right away
(`failed_link_avoided`).

The entries of a list are applied to a contact one after the other, and the first one that concerns
it marks its path as just seen.  So the entries that follow do not count any more: the contact keeps
the first of the links, whichever that is (`second_link_lost`).  `links_kept_iff` says that this is
the only thing that goes wrong, as soon as two of the links are on one path.
-/

set_option autoImplicit false

namespace Kira

open Run RoutingTable LawfulRoutingTable

namespace ForwardProtocolMessage

variable {T : Type} {k : Nat} [RoutingTable T k] [LawfulRoutingTable T k] {order : PathOrder}
  {clock : Readings} {ctx ctx' : UseCaseContext T}

/-! ## The root stays -/

theorem root_insert {strategy : UNSStrategy.Context} {t t' : T} {c : Contact}
    {res : InsertionStrategyResult} (h : UNSStrategy.insert strategy c t = .ok (res, t')) :
    root t' = root t := by
  rcases UNSStrategy.insert_cases h with ⟨-, rfl⟩ | ⟨path, prepared, -, -, hout⟩
  · rfl
  · exact hout.mem.1

theorem rootId_updateContact {c : Contact} (h : updateContact order clock ctx c = .ok ctx') :
    ctx'.rootId = ctx.rootId := by
  unfold updateContact at h
  split at h
  · cases h
    rfl
  · obtain ⟨⟨result, observed⟩, hinsert, h⟩ := of_bind h
    have hroot : (ctx.withTable observed).rootId = ctx.rootId :=
      root_insert (t := ObservableRoutingTable.ofTable ctx.routingTable) hinsert
    have hstored : (let isUln := ((RoutingTable.contact (ctx.withTable observed).routingTable
          c.id).map Contact.isUln).getD false
        if (ctx.withTable observed).ulnTable.contains c.id && !isUln then
          (ctx.withTable observed).ulnRemove c.id
        else return ctx.withTable observed) = .ok ctx' → ctx'.rootId = ctx.rootId := by
      intro h
      dsimp only at h
      split at h
      · rw [← hroot]
        exact congrArg root (UseCaseContext.routingTable_ulnRemove h)
      · cases h
        exact hroot
    cases result with
    | needsValidation | dropped =>
      cases h
      exact hroot
    | inserted | replaced old | updated => exact hstored h

theorem rootId_extractSourceInformation {message : ProtocolMessage}
    {res : Except ForwardingError Contact}
    (h : extractSourceInformation order clock ctx message = .ok (res, ctx')) :
    ctx'.rootId = ctx.rootId := by
  unfold extractSourceInformation at h
  split at h
  · cases h
    rfl
  · obtain ⟨path, -, h⟩ := of_bind h
    split at h
    · cases h
    · cases h
      rfl
    · dsimp only at h
      split at h
      · cases h
        rfl
      · split at h
        · cases h
          rfl
        · obtain ⟨updated, hupdated, h⟩ := of_bind h
          cases h
          exact rootId_updateContact hupdated

/-! ## The link that failed -/

/-- The table after the list of broken links and the source have been learned from the message. -/
def LearnedFrom (order : PathOrder) (clock : Readings) (ctx : UseCaseContext T)
    (message : ProtocolMessage) (learned : UseCaseContext T) : Prop :=
  ∃ sourceContact, extractSourceInformation order (clock.part 1)
    (match message.notVia with
      | some notVia => extractNotViaData (clock.part 0) ctx notVia
      | none => ctx) message = .ok (.ok sourceContact, learned)

/-- What becomes of a contact when a link has failed. -/
structure Spared (link : Link) (before after : Contact) : Prop where
  id_eq : after.id = before.id
  over_eq : isReachedOver link after = isReachedOver link before
  same : isReachedOver link before = false → after = before
  invalid : isReachedOver link before = true → after.isValid = false

theorem spared_invalidateFailed (failed : NotViaState) (c : Contact) :
    Spared failed.link c (invalidateFailed clock failed c) := by
  unfold invalidateFailed
  split
  · rename_i path hpath
    split
    · rename_i hlink
      refine ⟨rfl, ?_, fun hnot ↦ ?_, fun _ ↦ Contact.setInvalid_isValid ..⟩
      · simp only [isReachedOver, Contact.setInvalid_path, hpath, Option.map_some]
        rfl
      · simp [isReachedOver, hpath, hlink] at hnot
    · rename_i hlink
      exact ⟨rfl, rfl, fun _ ↦ rfl, fun hover ↦ by simp [isReachedOver, hpath, hlink] at hover⟩
  · rename_i hpath
    exact ⟨rfl, rfl, fun _ ↦ rfl, fun hover ↦ by simp [isReachedOver, hpath] at hover⟩

theorem iter_extractFailedContact {request : ReqRspMessage ErrorData} {link : Link}
    {source : NodeId} (hdata : request.data = .segmentFailure link source)
    (hroot : link.contains ctx.rootId = false) :
    ∃ f, iter (extractFailedContact clock ctx request).routingTable =
        (iter ctx.routingTable).map f ∧ ∀ c, Spared link c (f c) := by
  refine ⟨fun c ↦ invalidateFailed ((clock.part 1).part c.id.toNat) ⟨link, (clock.part 0).now⟩ c,
    ?_, fun c ↦ spared_invalidateFailed ⟨link, (clock.part 0).now⟩ c⟩
  rw [extractFailedContact, hdata]
  dsimp only
  rw [if_neg (by simp [hroot])]
  exact (mem_iterMut ctx.routingTable _).2

/-- **No valid contact is left that is reached over the failed link**, in either direction, and the
contacts that are reached otherwise are as they were when the source had been learned. -/
theorem failed_link_avoided {request : ReqRspMessage ErrorData} {link : Link} {source : NodeId}
    (hdata : request.data = .segmentFailure link source) (hroot : link.contains ctx.rootId = false)
    (h : extractMessageInfo order clock ctx (.error request) = .ok (.ok (), ctx')) :
    (∀ c ∈ iter ctx'.routingTable, c.isValid = true → ∀ path, c.path = some path →
      ∀ a b, [a, b] <:+: path.ids → Link.new a b ≠ link) ∧
      ∃ learned, LearnedFrom order clock ctx (.error request) learned ∧
        List.Forall₂ (Spared link) (iter learned.routingTable) (iter ctx'.routingTable) := by
  simp only [extractMessageInfo] at h
  obtain ⟨⟨res, learned⟩, hsource, h⟩ := of_bind h
  cases res with
  | error err => cases (ok_mk_inj h).1
  | ok sourceContact =>
    obtain ⟨extracted, hextracted, h⟩ := of_bind h
    cases h
    cases hextracted
    have hkept : learned.rootId = ctx.rootId := by
      refine (rootId_extractSourceInformation hsource).trans ?_
      split
      · exact (mem_iterMut ctx.routingTable _).1
      · rfl
    obtain ⟨f, hiter, hspared⟩ :=
      iter_extractFailedContact hdata (hkept.symm ▸ hroot)
    rw [hiter]
    refine ⟨fun c hc hvalid path hpath a b hab heq ↦ ?_, learned, ⟨sourceContact, hsource⟩, ?_⟩
    · obtain ⟨before, -, rfl⟩ := List.mem_map.1 hc
      have hover : isReachedOver link (f before) = true := by
        rw [isReachedOver, hpath, ← heq]
        exact Path.containsLink_of_infix hab
      rw [(hspared before).invalid ((hspared before).over_eq.symm.trans hover)] at hvalid
      cases hvalid
    · rw [List.forall₂_map_right_iff]
      exact List.forall₂_same.2 fun c _ ↦ hspared c

end ForwardProtocolMessage

namespace R2Kad

open ForwardProtocolMessage

/-- The node 3 is heard of through the neighbour 1, which reaches it through 2. -/
def heardFar : List Step :=
  [ .input (.underlayUpdate (.interfaceUp 1)) (quiet 1),
    .input (.message (greeting 1) ⟨1, 1⟩) (quiet 2), .queued (quiet 3), .queued (quiet 3),
    .input (.message (.probeReq
      { commonHeader := .new .probeReq 3 0 5 (.value .MIN) 1
        data := ⟨⟩
        notVia := none
        sourceRoute := ⟨[3, 2, 1, 0], 3, by decide⟩ }) ⟨1, 1⟩) (quiet 6) ]

/-- The node 1 reports that the link from 2 to 3 has failed. -/
def linkFailed : ReqRspMessage ErrorData where
  commonHeader := .new .error 1 0 5 (.value .MIN) 1
  data := .segmentFailure (.new 2 3) 2
  notVia := none
  sourceRoute := fromOne

/-- The contact 3 is reached over the link that has failed; the contact 1 is not. -/
theorem failed_link_avoided_far :
    ∃ (node : R2Kad (UnlimitedULNRoutingTable 20 1))
      (ctx : UseCaseContext (UnlimitedULNRoutingTable 20 1)),
      extractMessageInfo (quiet 9).order (quiet 9).clock node.context (.error linkFailed) =
        .ok (.ok (), ctx) ∧
      (∃ c ∈ iter node.context.routingTable, c.isValid = true ∧
        isReachedOver (.new 2 3) c = true) ∧
      ∀ c ∈ iter ctx.routingTable, c.isValid = true → ∀ path, c.path = some path →
        ∀ a b, [a, b] <:+: path.ids → Link.new a b ≠ .new 2 3 := by
  obtain ⟨node, -, hroot, ctx, hctx, hover⟩ : ∃ node : R2Kad (UnlimitedULNRoutingTable 20 1),
      runAll (step true) (start nodeZero 0) heardFar = .ok node ∧
      node.context.rootId = 0 ∧ ∃ ctx,
        extractMessageInfo (quiet 9).order (quiet 9).clock node.context (.error linkFailed) =
          .ok (.ok (), ctx) ∧
        ∃ c ∈ iter node.context.routingTable, c.isValid = true ∧
          isReachedOver (.new 2 3) c = true := by
    refine ⟨_, rfl, rfl, _, rfl, ?_⟩
    decide +kernel
  refine ⟨node, ctx, hctx, hover, (failed_link_avoided rfl ?_ hctx).1⟩
  rw [hroot]
  decide

end R2Kad

namespace ForwardProtocolMessage

variable {T : Type} {k : Nat} [RoutingTable T k] [LawfulRoutingTable T k] {clock : Readings}

/-! ## A list of broken links -/

/-- The entry concerns the contact: its link is on the path, which was last validated before the
link broke.  What is a reading of the clock at `now` decides when that was. -/
def Concerns (now : Timestamp) (entry : NotVia) (c : Contact) : Prop :=
  ∃ path lastValidated, c.path = some path ∧ path.lastValidated = some lastValidated ∧
    lastValidated < Timestamp.ofAge now entry.age ∧ path.containsLink entry.link = true

/-- The entries of the list that are not about links of this node, with their places. -/
def relevant (rootId : NodeId) (listed : NotViaList) : List (NotVia × Nat) :=
  (listed.entries.filter fun notVia ↦ !notVia.link.contains rootId).zipIdx

/-- What the list is to do to a contact. -/
structure Heeded (clock : Readings) (rootId : NodeId) (listed : NotViaList)
    (before after : Contact) : Prop where
  /-- A contact that was valid is invalid if and only if an entry concerns it. -/
  invalid_iff : before.isValid = true → (after.isValid = false ↔
    ∃ entry ∈ relevant rootId listed,
      Concerns (((clock.part before.id.toNat).part entry.2).clock 0) entry.1 before)
  /-- Its links are kept, all of them. -/
  links : before.isValid = true → ∀ entry ∈ relevant rootId listed,
    Concerns (((clock.part before.id.toNat).part entry.2).clock 0) entry.1 before →
    ∃ links, after.state = .invalid links ∧ entry.1.link ∈ links.nvsList.map NotViaState.link
  same : (before.isValid = true → ∀ entry ∈ relevant rootId listed,
    ¬ Concerns (((clock.part before.id.toNat).part entry.2).clock 0) entry.1 before) →
      after = before

variable {c : Contact}

variable {entry : NotVia} {entries : List (NotVia × Nat)}

theorem applyNotVia_of_concerns (h : Concerns (clock.clock 0) entry c) :
    applyNotVia clock c entry = c.setInvalid (clock.part 2).clock
      (.singleton ⟨entry.link, Timestamp.ofAge (clock.clock 1) entry.age⟩) := by
  obtain ⟨path, lastValidated, hpath, hlast, hlt, hlink⟩ := h
  simp [applyNotVia, hpath, hlast, hlt, hlink]

theorem applyNotVia_of_not_concerns (h : ¬ Concerns (clock.clock 0) entry c) :
    applyNotVia clock c entry = c := by
  unfold applyNotVia
  split
  · rename_i path hpath
    split
    · rename_i lastValidated hlast
      split
      · rename_i hboth
        obtain ⟨hlt, hlink⟩ := (Bool.and_eq_true _ _).mp hboth
        exact absurd ⟨path, lastValidated, hpath, hlast, by simpa using hlt, hlink⟩ h
      · rfl
    · rfl
  · rfl

theorem applyNotVia_links {links : NotViaStateList} (h : c.state = .invalid links) :
    ∃ links', (applyNotVia clock c entry).state = .invalid links' ∧
      links.nvsList.map NotViaState.link ⊆ links'.nvsList.map NotViaState.link := by
  by_cases hconcerns : Concerns (clock.clock 0) entry c
  · rw [applyNotVia_of_concerns hconcerns]
    refine ⟨links.insert ⟨entry.link, _⟩, by rw [Contact.setInvalid, h]; rfl, ?_⟩
    unfold NotViaStateList.insert
    split
    · exact List.Subset.refl _
    · exact List.subset_cons_of_subset _ (List.Subset.refl _)
  · rw [applyNotVia_of_not_concerns hconcerns]
    exact ⟨links, h, List.Subset.refl _⟩

/-- The entries one after the other, with their places. -/
def applyAll (clock : Readings) (entries : List (NotVia × Nat)) (c : Contact) : Contact :=
  entries.foldl (fun c entry ↦ applyNotVia (clock.part entry.2) c entry.1) c

theorem applyAll_of_none
    (h : ∀ entry ∈ entries, ¬ Concerns ((clock.part entry.2).clock 0) entry.1 c) :
    applyAll clock entries c = c := by
  induction entries with
  | nil => rfl
  | cons entry entries ih =>
    rw [applyAll, List.foldl_cons, applyNotVia_of_not_concerns (h entry List.mem_cons_self)]
    exact ih fun other hother ↦ h other (List.mem_cons_of_mem _ hother)

theorem applyAll_links {links : NotViaStateList} (h : c.state = .invalid links) :
    ∃ links', (applyAll clock entries c).state = .invalid links' ∧
      links.nvsList.map NotViaState.link ⊆ links'.nvsList.map NotViaState.link := by
  induction entries generalizing c links with
  | nil => exact ⟨links, h, List.Subset.refl _⟩
  | cons entry entries ih =>
    obtain ⟨mid, hmid, hsub⟩ : ∃ mid, (applyNotVia (clock.part entry.2) c entry.1).state =
        .invalid mid ∧ links.nvsList.map NotViaState.link ⊆ mid.nvsList.map NotViaState.link :=
      applyNotVia_links h
    obtain ⟨links', hlinks', hsub'⟩ := ih hmid
    exact ⟨links', hlinks', List.Subset.trans hsub hsub'⟩

theorem setInvalid_state_of_isValid (now : Nat → Timestamp) (nvs : NotViaStateList)
    (hvalid : c.isValid = true) : (c.setInvalid now nvs).state = .invalid nvs := by
  rw [Contact.isValid_iff] at hvalid
  rw [Contact.setInvalid, hvalid]

/-- The first entry that concerns a valid contact is heeded. -/
theorem applyAll_of_concerns {entry : NotVia × Nat}
    (hvalid : c.isValid = true) (hentry : entry ∈ entries)
    (hconcerns : Concerns ((clock.part entry.2).clock 0) entry.1 c) :
    ∃ first ∈ entries, Concerns ((clock.part first.2).clock 0) first.1 c ∧
      ∃ links, (applyAll clock entries c).state = .invalid links ∧
        first.1.link ∈ links.nvsList.map NotViaState.link := by
  induction entries with
  | nil => cases hentry
  | cons head entries ih =>
    by_cases hhead : Concerns ((clock.part head.2).clock 0) head.1 c
    · refine ⟨head, List.mem_cons_self, hhead, ?_⟩
      obtain ⟨time, hstate⟩ : ∃ time, (applyNotVia (clock.part head.2) c head.1).state =
          .invalid (.singleton ⟨head.1.link, time⟩) := by
        rw [applyNotVia_of_concerns hhead]
        exact ⟨_, setInvalid_state_of_isValid _ _ hvalid⟩
      obtain ⟨links, hlinks, hsub⟩ := applyAll_links hstate
      exact ⟨links, hlinks, hsub (List.mem_singleton.2 rfl)⟩
    · have hrest : entry ∈ entries := by
        rcases List.mem_cons.1 hentry with rfl | hrest
        · exact absurd hconcerns hhead
        · exact hrest
      obtain ⟨first, hfirst, hfirstConcerns, hstate⟩ := ih hrest
      refine ⟨first, List.mem_cons_of_mem _ hfirst, hfirstConcerns, ?_⟩
      rw [applyAll, List.foldl_cons, applyNotVia_of_not_concerns hhead]
      exact hstate

/-- The clock stands still. -/
def frozen (now : Timestamp) : Readings := fun _ ↦ now

/-- While the clock stands still, the first entry is the only one that is heeded. -/
theorem applyAll_frozen {now : Timestamp}
    {entry : NotVia × Nat} (hvalid : c.isValid = true) (hentry : entry ∈ entries)
    (hconcerns : Concerns now entry.1 c) :
    ∃ nvs, (applyAll (frozen now) entries c).state = .invalid (.singleton nvs) := by
  induction entries with
  | nil => cases hentry
  | cons head entries ih =>
    by_cases hhead : Concerns (((frozen now).part head.2).clock 0) head.1 c
    · rw [applyAll, List.foldl_cons, applyNotVia_of_concerns hhead]
      -- the path counts as validated now, which is not before any of the links broke
      have hlater : ∀ nvs, ∀ other ∈ entries, ¬ Concerns (((frozen now).part other.2).clock 0)
          other.1 (c.setInvalid (((frozen now).part head.2).part 2).clock nvs) := by
        rintro nvs other - ⟨path, lastValidated, hpath, hlast, hlt, -⟩
        rw [Contact.setInvalid_path] at hpath
        obtain ⟨active, -, rfl⟩ := Option.map_eq_some_iff.1 hpath
        cases hlast
        exact absurd hlt (Nat.not_lt.2 (Nat.sub_le _ _))
      rw [show List.foldl _ _ entries = _ from applyAll_of_none (hlater _)]
      exact ⟨_, setInvalid_state_of_isValid _ _ hvalid⟩
    · have hrest : entry ∈ entries := by
        rcases List.mem_cons.1 hentry with rfl | hrest
        · exact absurd hconcerns hhead
        · exact hrest
      obtain ⟨nvs, hstate⟩ := ih hrest
      refine ⟨nvs, ?_⟩
      rw [applyAll, List.foldl_cons, applyNotVia_of_not_concerns hhead]
      exact hstate

theorem iter_extractNotViaData (clock : Readings) (ctx : UseCaseContext T) (listed : NotViaList) :
    iter (extractNotViaData clock ctx listed).routingTable = (iter ctx.routingTable).map fun c ↦
      if c.isValid then applyAll (clock.part c.id.toNat) (relevant ctx.rootId listed) c else c :=
  (mem_iterMut ctx.routingTable _).2

/-- If there is one link at most that can concern a contact, the list is heeded. -/
theorem heeded_of_unique {rootId : NodeId} {listed : NotViaList}
    (h : c.isValid = true → ∀ a ∈ relevant rootId listed, ∀ b ∈ relevant rootId listed,
      ∀ nowA nowB, Concerns nowA a.1 c → Concerns nowB b.1 c → a.1.link = b.1.link) :
    Heeded clock rootId listed c (if c.isValid then
      applyAll (clock.part c.id.toNat) (relevant rootId listed) c else c) := by
  by_cases hvalid : c.isValid = true
  · rw [if_pos hvalid]
    refine ⟨fun _ ↦ ⟨fun hafter ↦ ?_, ?_⟩, fun _ entry hentry hconcerns ↦ ?_, fun hnone ↦ ?_⟩
    · by_contra hnone
      rw [applyAll_of_none fun entry hentry hconcerns ↦ hnone ⟨entry, hentry, hconcerns⟩,
        hvalid] at hafter
      cases hafter
    · rintro ⟨entry, hentry, hconcerns⟩
      obtain ⟨-, -, -, links, hlinks, -⟩ := applyAll_of_concerns hvalid hentry hconcerns
      simp [Contact.isValid, hlinks]
    · obtain ⟨first, hfirst, hfirstConcerns, links, hlinks, hmem⟩ :=
        applyAll_of_concerns hvalid hentry hconcerns
      exact ⟨links, hlinks, h hvalid entry hentry first hfirst _ _ hconcerns hfirstConcerns ▸ hmem⟩
    · exact applyAll_of_none (hnone hvalid)
  · rw [if_neg hvalid]
    exact ⟨fun h ↦ absurd h hvalid, fun h ↦ absurd h hvalid, fun _ ↦ rfl⟩

theorem exists_mem_relevant {rootId : NodeId} {listed : NotViaList} :
    (∃ i, (entry, i) ∈ relevant rootId listed) ↔
      entry ∈ listed.entries ∧ entry.link.contains rootId = false := by
  have hmem : ∀ l : List NotVia, (∃ i, (entry, i) ∈ l.zipIdx) ↔ entry ∈ l := by
    intro l
    constructor
    · rintro ⟨i, hi⟩
      exact List.fst_mem_of_mem_zipIdx hi
    · intro h
      obtain ⟨i, hi⟩ := List.mem_iff_getElem?.1 h
      exact ⟨i, List.mem_zipIdx_iff_getElem?.2 hi⟩
  rw [relevant, hmem, List.mem_filter]
  simp

/-- **When a list of broken links is heeded in full**, whatever the order of its entries and at any
time: if and only if no valid contact has two of the links on its path. -/
theorem links_kept_iff (ctx : UseCaseContext T) (notVia : NotViaList) :
    (∀ (clock : Readings) (listed : NotViaList), listed.entries.Perm notVia.entries →
      List.Forall₂ (Heeded clock ctx.rootId listed) (iter ctx.routingTable)
        (iter (extractNotViaData clock ctx listed).routingTable)) ↔
    ∀ c ∈ iter ctx.routingTable, c.isValid = true → ∀ path lastValidated, c.path = some path →
      path.lastValidated = some lastValidated →
      ∀ a ∈ notVia.entries, ∀ b ∈ notVia.entries,
        a.link.contains ctx.rootId = false → b.link.contains ctx.rootId = false →
        path.containsLink a.link = true → path.containsLink b.link = true → a.link = b.link := by
  constructor
  · intro hall c hc hvalid path lastValidated hpath hlast a ha b hb haroot hbroot halink hblink
    -- at a time when both links are known to have broken after the path was validated
    obtain ⟨now, hnow⟩ : ∃ now, ∀ entry : NotVia, entry.age.toNat ≤ a.age.toNat + b.age.toNat →
        lastValidated < Timestamp.ofAge now entry.age := by
      refine ⟨lastValidated + 1 + (a.age.toNat + b.age.toNat) * 1000000, fun entry hage ↦ ?_⟩
      refine Timestamp.lt_ofAge_iff.2 (Nat.add_lt_add_of_lt_of_le (Nat.lt_succ_self _) ?_)
      exact Nat.mul_le_mul_right _ hage
    have hconcerns : ∀ entry : NotVia, entry.age.toNat ≤ a.age.toNat + b.age.toNat →
        path.containsLink entry.link = true → Concerns now entry c := fun entry hage hlink ↦
      ⟨path, lastValidated, hpath, hlast, hnow entry hage, hlink⟩
    obtain ⟨i, hi⟩ := exists_mem_relevant.2 ⟨ha, haroot⟩
    obtain ⟨j, hj⟩ := exists_mem_relevant.2 ⟨hb, hbroot⟩
    have hA := hconcerns a (Nat.le_add_right _ _) halink
    have hB := hconcerns b (Nat.le_add_left _ _) hblink
    have hheeded := hall (frozen now) notVia (.refl _)
    rw [iter_extractNotViaData, List.forall₂_map_right_iff] at hheeded
    have hc := List.forall₂_same.1 hheeded c hc
    rw [if_pos hvalid] at hc
    obtain ⟨nvs, hstate⟩ := applyAll_frozen hvalid hi hA
    have hlink : ∀ entry ∈ relevant ctx.rootId notVia, Concerns now entry.1 c →
        entry.1.link = nvs.link := by
      intro entry hentry hentryConcerns
      obtain ⟨links, hlinks, hmem⟩ := hc.links hvalid entry hentry hentryConcerns
      obtain rfl := ContactState.invalid.inj (hstate.symm.trans hlinks)
      exact List.mem_singleton.1 hmem
    exact (hlink _ hi hA).trans (hlink _ hj hB).symm
  · intro hunique clock listed hperm
    rw [iter_extractNotViaData, List.forall₂_map_right_iff]
    refine List.forall₂_same.2 fun c hc ↦ heeded_of_unique fun hvalid a ha b hb nowA nowB hA hB ↦ ?_
    obtain ⟨path, lastValidated, hpath, hlast, -, halink⟩ := hA
    obtain ⟨path', -, hpath', -, -, hblink⟩ := hB
    obtain rfl := Option.some.inj (hpath.symm.trans hpath')
    obtain ⟨ha, haroot⟩ := exists_mem_relevant.1 ⟨a.2, ha⟩
    obtain ⟨hb, hbroot⟩ := exists_mem_relevant.1 ⟨b.2, hb⟩
    exact hunique c hc hvalid path lastValidated hpath hlast a.1 (hperm.mem_iff.1 ha) b.1
      (hperm.mem_iff.1 hb) haroot hbroot halink hblink

end ForwardProtocolMessage

namespace R2Kad

open ForwardProtocolMessage

/-- Both links of the path to 3 that are not its own, broken for a millisecond. -/
def bothLinks : NotViaList := (NotViaList.empty.insert ⟨.new 1 2, 1⟩).insert ⟨.new 2 3, 1⟩

/-- **The second link is lost.**  The contact is reached over both links, and was validated before
they broke. -/
theorem second_link_lost :
    ∃ node : R2Kad (UnlimitedULNRoutingTable 20 1),
      Reachable (step true) (fun _ _ ↦ True) (start nodeZero 0) node ∧
      ∃ c ∈ iter node.context.routingTable, c.isValid = true ∧
        (∀ entry ∈ bothLinks.entries, Concerns 2000000 entry c) ∧
        ∃ d ∈ iter (extractNotViaData (frozen 2000000) node.context bothLinks).routingTable,
          d.id = c.id ∧ d.state = .invalid (.singleton ⟨.new 1 2, 1000000⟩) := by
  refine ⟨_, reachable_of_steps heardFar rfl, _, List.mem_cons_of_mem _ (List.mem_singleton.2 rfl),
    rfl, fun entry hentry ↦ ⟨_, _, rfl, rfl, ?_, ?_⟩, ?_⟩
  · revert entry
    decide +kernel
  · revert entry
    decide +kernel
  · decide +kernel

end R2Kad

end Kira
