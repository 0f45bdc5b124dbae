import Kira.R2Kad.Node
import Kira.UseCases.ExplicitPathManagement

/-!
# The next hops of paths that were set up

For each path that others have set up, the next hop is in two places: in the entry that the
forwarding tables were given last, and in the notes of the use case, which decide what is removed
when a neighbour is gone.

The two are the same when a path is registered for the first time.  When it is registered again then
the forwarding tables get the next hop as it is now, while the notes keep the old one.  If the
neighbour has got another underlay id in the meantime then the entry outlives the neighbour
(`entry_outlives_neighbor`).  As long as that does not happen all is well: `next_hops_recorded`.
-/

set_option autoImplicit false

namespace Kira

open Run RoutingTable

/-- Where packets go next, unless they have arrived. -/
def PathIdEntry.nextHop {P : Type} : PathIdEntry P → Option UnderlayNeighborId
  | .forward _ _ nextHop => some nextHop
  | .decapsulate _ (.underlayNeighbor ulnid) => some ulnid
  | .decapsulate _ .local => none

namespace ExplicitPathManagement

variable {T P : Type} {k : Nat} [RoutingTable T k] [DecidableEq P]

/-! ## What is installed -/

/-- Takes an update over, whatever there is. -/
def install (table : KeyMap P (PathIdEntry P)) : PathIdTableUpdate P → KeyMap P (PathIdEntry P)
  | .create entry | .update entry | .createOrUpdate entry => table.insert entry.inPathId entry
  | .remove pathId => table.erase pathId

/-- For each id the entry that was last handed over, unless it was removed since. -/
def installed (updates : List (PathIdTableUpdate P)) : KeyMap P (PathIdEntry P) :=
  updates.foldl install ∅

theorem installed_append (updates more : List (PathIdTableUpdate P)) :
    installed (updates ++ more) = more.foldl install (installed updates) :=
  List.foldl_append

theorem lookup_install_removes (table : KeyMap P (PathIdEntry P)) (ids : List P) (id : P) :
    ((ids.map PathIdTableUpdate.remove).foldl install table).lookup id =
      if id ∈ ids then none else table.lookup id := by
  rw [List.foldl_map]
  exact KeyMap.lookup_foldl_erase table ids id

/-! ## What the functions do -/

/-- The notes have the paths that are installed, with their next hops. -/
def Agrees (sent : List (PathIdTableUpdate P)) (paths : KeyMap P (Entry P)) : Prop :=
  ∀ id, ((installed sent).lookup id).map PathIdEntry.nextHop =
    (paths.lookup id).map fun entry ↦ some entry.via

variable {sent : List (PathIdTableUpdate P)} {paths : KeyMap P (Entry P)}
  {self : ExplicitPathManagement P}

theorem Agrees.removeAll
    (h : Agrees sent paths) (ids : List P) :
    Agrees (sent ++ (removeAll paths ids).2) (removeAll paths ids).1 := by
  intro id
  rw [installed_append]
  show (((ids.map PathIdTableUpdate.remove).foldl install (installed sent)).lookup id).map _ =
    ((ids.foldl (fun m id ↦ m.erase id) paths).lookup id).map _
  rw [lookup_install_removes, KeyMap.lookup_foldl_erase]
  split
  · rfl
  · exact h id

theorem Agrees.insert
    (h : Agrees sent paths) {inPathId outPathId : P} {nextHop : UnderlayNeighborId}
    {entry : Entry P} (hvia : entry.via = nextHop) {update : PathIdTableUpdate P}
    (hupdate : ∀ table, install table update =
      table.insert inPathId (.forward inPathId outPathId nextHop)) :
    Agrees (sent ++ [update]) (paths.insert inPathId entry) := by
  intro id
  rw [installed_append, List.foldl_cons, List.foldl_nil, hupdate, KeyMap.lookup_insert_eq,
    KeyMap.lookup_insert_eq]
  split
  · simp [PathIdEntry.nextHop, hvia]
  · exact h id

/-- What is noted goes with what was handed over; before the start that is nothing. -/
def Noted (sent : List (PathIdTableUpdate P)) : Option (KeyMap P (Entry P)) → Prop
  | some paths => Agrees sent paths
  | none => sent = []

/-- A path that is registered again still has the next hop that was noted. -/
def SameHop (self : ExplicitPathManagement P) (context : UseCaseContext T) (event : UseCaseEvent) :
    Prop :=
  ∀ route inPath outPath paths occupied nextHop state, registers event = some route →
    route.remainingPath = .ok inPath → Path.collect (inPath.ids.drop 1) = some outPath →
    self.paths = some paths → paths.lookup (self.config.hasher inPath.ids) = some occupied →
    context.ulnTable.map.lookup outPath.first = some (nextHop, state) → nextHop = occupied.via

theorem Turn.noted {context : UseCaseContext T}
    {event : UseCaseEvent} {paths' : Option (KeyMap P (Entry P))}
    {updates : List (PathIdTableUpdate P)} (hturn : Turn self context event paths' updates)
    (h : Noted sent self.paths) (hhop : SameHop self context event) :
    Noted (sent ++ updates) paths' := by
  cases hturn with
  | same =>
    rw [List.append_nil]
    exact h
  | removed hpaths ids hids =>
    rw [hpaths] at h
    exact Agrees.removeAll h ids
  | created hpaths hroute hin hsize hout hlookup hvacant hvia =>
    rw [hpaths] at h
    exact Agrees.insert h hvia fun table ↦ rfl
  | updated hpaths hroute hin hsize hout hlookup hoccupied hvia =>
    have hsame := hhop _ _ _ _ _ _ _ hroute hin hout hpaths hoccupied hlookup
    rw [hpaths] at h
    exact Agrees.insert h (hvia.trans hsame.symm) fun table ↦ rfl

theorem updates_invalidateAllOverInterfaces (hpaths : self.paths = some paths)
    (ulnid : UnderlayNeighborId) :
    ∃ ids : List P, (self.invalidateAllOverInterfaces ulnid).2 = ids.map .remove ∧
      ∀ id, id ∈ ids ↔ ∃ entry, paths.lookup id = some entry ∧ entry.via = ulnid := by
  unfold ExplicitPathManagement.paths at hpaths
  unfold invalidateAllOverInterfaces
  split at hpaths
  · cases hpaths
    refine ⟨_, rfl, fun id ↦ ?_⟩
    simp only [List.mem_map, List.mem_filter, decide_eq_true_eq]
    constructor
    · rintro ⟨⟨key, entry⟩, ⟨hmem, hvia⟩, rfl⟩
      exact ⟨entry, AList.mem_lookup_iff.2 hmem, hvia⟩
    · rintro ⟨entry, hlookup, hvia⟩
      exact ⟨⟨id, entry⟩, ⟨AList.mem_lookup_iff.1 hlookup, hvia⟩, rfl⟩
  · cases hpaths

theorem updates_invalidateAllOverInterfaces_of_none
    (hpaths : self.paths = none) (ulnid : UnderlayNeighborId) :
    (self.invalidateAllOverInterfaces ulnid).2 = [] := by
  unfold ExplicitPathManagement.paths at hpaths
  unfold invalidateAllOverInterfaces
  split at hpaths
  · cases hpaths
  · rfl

/-! ## Runs -/

/-- The use case, what it works with, and all that the forwarding tables were given. -/
structure System (T P : Type) where
  management : ExplicitPathManagement P
  context : UseCaseContext T
  sent : List (PathIdTableUpdate P)

/-- What can happen to the use case. -/
inductive Op (T P : Type) where
  | start
  | event (event : UseCaseEvent) (draws : EPMDraws P)
  | context (context : UseCaseContext T)

namespace System

/-- The use case handles what happens. -/
def step (debug : Bool) (s : System T P) : Op T P → Run (System T P)
  | .start => do
    let (_, management, context) ← s.management.start debug s.context
    return { s with management, context }
  | .event event draws => do
    let (_, management, context, updates) ← s.management.handleEvent debug draws s.context event
    return { management, context, sent := s.sent ++ updates }
  | .context context => return { s with context }

/-- Nothing has been sent yet. -/
def initial (config : EPMConfig P) (context : UseCaseContext T) : System T P where
  management := .new config
  context := context
  sent := []

/-- No path is registered again with another next hop. -/
def Settled (s : System T P) : Op T P → Prop
  | .event event _ => SameHop s.management s.context event
  | _ => True

/-- The books of the use case agree with what was sent. -/
def Kept (s : System T P) : Prop := Noted s.sent s.management.paths

variable {debug : Bool} {s s' : System T P}

theorem kept_initial (config : EPMConfig P) (context : UseCaseContext T) :
    (initial config context).Kept :=
  show [] = [] from rfl

theorem Kept.step {op : Op T P} (hs : s.Kept) (hop : Settled s op) (h : s.step debug op = .ok s') :
    s'.Kept := by
  unfold Kept at hs ⊢
  cases op <;> simp only [System.step] at h
  case start =>
    obtain ⟨⟨res, management, context⟩, hstart, h⟩ := of_bind h
    cases h
    rcases (paths_start hstart).2 with hsame | ⟨hnone, hempty⟩
    · exact hsame ▸ hs
    · rw [hnone] at hs
      show Noted s.sent management.paths
      rw [hempty, show s.sent = [] from hs]
      exact fun id ↦ rfl
  case event event draws =>
    obtain ⟨⟨res, management, context, updates⟩, hevent, h⟩ := of_bind h
    cases h
    exact (turn_handleEvent hevent).2.noted hs hop
  case context context =>
    cases h
    exact hs

/-- What the notes and the forwarding tables have when a neighbour has gone. -/
theorem Kept.neighborDown (hs : s.Kept) {ulnid : UnderlayNeighborId}
    {draws : EPMDraws P}
    (h : s.step debug (.event (.underlayUpdate (.underlayNeighborDown ulnid)) draws) = .ok s') :
    (∀ id entry, (installed s'.sent).lookup id = some entry → entry.nextHop ≠ some ulnid) ∧
      ∀ id entry, (installed s.sent).lookup id = some entry → entry.nextHop ≠ some ulnid →
        (installed s'.sent).lookup id = some entry := by
  have hsent : s'.sent = s.sent ++ (s.management.invalidateAllOverInterfaces ulnid).2 := by
    rw [← ok.inj h]
    rfl
  rw [hsent]
  unfold Kept at hs
  cases hpaths : s.management.paths with
  | none =>
    rw [hpaths] at hs
    rw [updates_invalidateAllOverInterfaces_of_none hpaths, show s.sent = [] from hs]
    exact ⟨nofun, nofun⟩
  | some paths =>
    rw [hpaths] at hs
    obtain ⟨ids, hupdates, hids⟩ := updates_invalidateAllOverInterfaces hpaths ulnid
    rw [hupdates, installed_append]
    simp only [lookup_install_removes]
    -- what is installed under an id has the next hop that is noted
    have hvia : ∀ id entry, (installed s.sent).lookup id = some entry →
        ∃ noted, paths.lookup id = some noted ∧ entry.nextHop = some noted.via := by
      intro id entry hentry
      have hagrees := hs id
      rw [hentry, Option.map_some] at hagrees
      obtain ⟨noted, hnoted, heq⟩ := Option.map_eq_some_iff.1 hagrees.symm
      exact ⟨noted, hnoted, heq.symm⟩
    constructor
    · intro id entry hentry
      split at hentry
      · cases hentry
      · rename_i hkept
        obtain ⟨noted, hnoted, hhop⟩ := hvia id entry hentry
        rw [hhop]
        exact fun heq ↦ hkept ((hids id).2 ⟨noted, hnoted, Option.some.inj heq⟩)
    · intro id entry hentry hother
      obtain ⟨noted, hnoted, hhop⟩ := hvia id entry hentry
      rw [if_neg, hentry]
      intro hid
      obtain ⟨noted', hnoted', rfl⟩ := (hids id).1 hid
      obtain rfl := Option.some.inj (hnoted.symm.trans hnoted')
      exact hother hhop

/-- **The next hops are noted as they are installed.**  In every run in which no path is registered
again with another next hop, the notes have the next hop of the entry that was last handed over for
a path; and when a neighbour is gone then exactly the entries over this neighbour are removed. -/
theorem next_hops_recorded {config : EPMConfig P} {context : UseCaseContext T}
    (hs : Reachable (step debug) Settled (initial config context) s) :
    (∀ paths id entry, s.management.paths = some paths → paths.lookup id = some entry →
      ∃ last, (installed s.sent).lookup id = some last ∧ last.nextHop = some entry.via) ∧
    ∀ ulnid draws s',
      s.step debug (.event (.underlayUpdate (.underlayNeighborDown ulnid)) draws) = .ok s' →
      (∀ id entry, (installed s'.sent).lookup id = some entry → entry.nextHop ≠ some ulnid) ∧
        ∀ id entry, (installed s.sent).lookup id = some entry → entry.nextHop ≠ some ulnid →
          (installed s'.sent).lookup id = some entry := by
  have hkept : s.Kept :=
    hs.invariant (kept_initial config context) fun _ _ _ hkept hop h ↦ hkept.step hop h
  refine ⟨fun paths id entry hpaths hentry ↦ ?_, fun ulnid draws s' h ↦ hkept.neighborDown h⟩
  unfold Kept at hkept
  rw [hpaths] at hkept
  have hagrees := hkept id
  rw [hentry, Option.map_some] at hagrees
  exact Option.map_eq_some_iff.1 hagrees

/-! ### The node 0 is on a path from 9 to 3 -/

/-- What the node 0 works with when its neighbour 1 has this underlay id. -/
def neighborOver (ulnid : UnderlayNeighborId) : UseCaseContext (UnlimitedULNRoutingTable 20 1) where
  routingTable := R2Kad.nodeZero
  ulnTable := (InMemoryULNTable.new.insert 1 ulnid).2
  runtime := .withStartupTime 0
  eventQueue := []
  outputQueue := []

/-- The use case of the node 0 before it starts.  The id of a path is the path itself. -/
def nodeZero : System (UnlimitedULNRoutingTable 20 1) (List NodeId) :=
  initial (.default id) (neighborOver ⟨1, 1⟩)

/-- A request to set the path from 9 to 3 up has come to 0. -/
def setup : Op (UnlimitedULNRoutingTable 20 1) (List NodeId) :=
  .event (.message (.pathSetupReq
    { commonHeader := .new .pathSetupReq 9 3 0 .invalid 2
      data := ⟨⟩
      notVia := none
      sourceRoute := .new 9 (.ofIds [0, 1, 2, 3] (by decide)) }) (.underlayNeighbor ⟨1, 9⟩))
        ⟨fun _ ↦ 0, fun _ ↦ 0⟩

/-- A neighbour is lost. -/
def down (ulnid : UnderlayNeighborId) : Op (UnlimitedULNRoutingTable 20 1) (List NodeId) :=
  .event (.underlayUpdate (.underlayNeighborDown ulnid)) ⟨fun _ ↦ 0, fun _ ↦ 0⟩

/-- The path has been set up, and its next hop is what is noted. -/
theorem next_hops_recorded_setup : ∃ s, runAll (step true) nodeZero [.start, setup] = .ok s ∧
    ∃ last, (installed s.sent).lookup [0, 1, 2, 3] = some last ∧ last.nextHop = some ⟨1, 1⟩ := by
  obtain ⟨started, hstarted, hempty⟩ :
      ∃ started, step true nodeZero .start = .ok started ∧ started.management.paths = some ∅ :=
    ⟨_, rfl, rfl⟩
  obtain ⟨s, hs, paths, entry, hpaths, hentry, hvia⟩ :
      ∃ s, step true started setup = .ok s ∧ ∃ paths entry, s.management.paths = some paths ∧
        paths.lookup [0, 1, 2, 3] = some entry ∧ entry.via = ⟨1, 1⟩ := by
    cases hstarted
    exact ⟨_, rfl, _, _, rfl, rfl, rfl⟩
  have hsettled : Settled started setup := by
    intro _ _ _ paths _ _ _ _ _ _ hpaths hoccupied
    obtain rfl := Option.some.inj (hempty.symm.trans hpaths)
    cases hoccupied
  have hstart : Reachable (step true) Settled nodeZero started :=
    .step .start (show Settled nodeZero .start from trivial) hstarted
  refine ⟨s, ?_,
    hvia ▸ (next_hops_recorded (hstart.step hsettled hs)).1 paths _ entry hpaths hentry⟩
  simp only [runAll, hstarted, ok_bind, hs]

/-- The neighbour 1 gets another underlay id before the path is set up once more.  When it is gone
then its entry is not removed. -/
theorem entry_outlives_neighbor : ∃ s, Reachable (step true) (fun _ _ ↦ True) nodeZero s ∧
    (∃ paths entry last, s.management.paths = some paths ∧ paths.lookup [0, 1, 2, 3] = some entry ∧
      (installed s.sent).lookup [0, 1, 2, 3] = some last ∧
      entry.via = ⟨1, 1⟩ ∧ last.nextHop = some ⟨1, 2⟩) ∧
    ∃ s' last, step true s (down ⟨1, 2⟩) = .ok s' ∧
      (installed s'.sent).lookup [0, 1, 2, 3] = some last ∧ last.nextHop = some ⟨1, 2⟩ :=
  ⟨_, reachable_of_runAll [.start, setup, .context (neighborOver ⟨1, 2⟩), setup] rfl,
    ⟨_, _, _, rfl, rfl, rfl, rfl, rfl⟩, _, _, rfl, rfl, rfl⟩

end System

end ExplicitPathManagement

end Kira
