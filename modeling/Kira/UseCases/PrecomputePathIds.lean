import Kira.Forwarding.PathIdTable
import Kira.UseCases.VicinityContext

/-!
# The path ids of the vicinity

The paths in the vicinity need not be set up.  Each node computes all of them from its vicinity
graph, and hands the entries for their ids over to the forwarding tables: whenever the vicinity has
changed, or after some time, if the configuration has an interval for that.

The entries that were handed over are remembered.  When they are computed again then those that are
gone are removed, and after that the new ones are handed over.  A hash set is a list without
repetitions here.
-/

set_option autoImplicit false

namespace Kira

open Run RoutingTable

structure PrecomputePathIdsConfig (P : Type) where
  /-- Without an interval the entries are computed with each change of the vicinity. -/
  updateInterval : Option Duration
  hasher : List NodeId → P

/-- Whether a computation is due. -/
inductive PrecomputeState where
  | idle
  | waiting (resyncTimer : TimerId)
  deriving DecidableEq

structure PrecomputePathIds (P : Type) where
  state : PrecomputeState
  config : PrecomputePathIdsConfig P
  oldEntries : List (PathIdEntry P)

namespace PrecomputePathIds

variable [Petgraph NodeId] {T P : Type} {k : Nat} [RoutingTable T k] [DecidableEq P]

def new (config : PrecomputePathIdsConfig P) : PrecomputePathIds P := ⟨.idle, config, []⟩

/-- The entry for a path, if it has a next hop and if this is an underlay neighbour. -/
def entryOf (config : PrecomputePathIdsConfig P) (ulnTable : InMemoryULNTable) (inPath : Path) :
    Option (PathIdEntry P) := do
  let outPath ← Path.collect (inPath.ids.drop 1)
  let (ulnid, _) ← ulnTable.map.lookup outPath.first
  return .forward (config.hasher inPath.ids) (config.hasher outPath.ids) ulnid

def insertEntry (debug : Bool) (config : PrecomputePathIdsConfig P) (context : VicinityContext T)
    (entries : List (PathIdEntry P)) (inPath : Path) : Run (List (PathIdEntry P)) := do
  assert (!debug || inPath.size ≤ VICINITY_RADIUS)
    "VicinityGraph should only generate Paths inside the Vicinity Radius"
  assert (!debug || inPath.first = context.rootId)
    "in_path does not contain own NodeID as first element"
  match entryOf config context.ulnTable inPath with
  | some entry => return entries.insert entry
  | none => return entries

def genEntriesFromGraph (debug : Bool) (self : PrecomputePathIds P) (context : VicinityContext T) :
    Run (List (PathIdEntry P)) :=
  context.vicinityGraph.vicinityPaths.foldlM (insertEntry debug self.config context) []

/-- What has to be handed over when the entries have changed. -/
def changes (oldEntries graphEntries : List (PathIdEntry P)) : List (PathIdTableUpdate P) :=
  ((oldEntries.filter (· ∉ graphEntries)).map PathIdEntry.inPathId).map .remove ++
    (graphEntries.filter (· ∉ oldEntries)).map .createOrUpdate

def precomputePathsAndIds (debug : Bool) (self : PrecomputePathIds P)
    (context : VicinityContext T) :
    Run (PrecomputePathIds P × VicinityContext T × List (PathIdTableUpdate P)) := do
  let graphEntries ← self.genEntriesFromGraph debug context
  let vicinityGraph := context.vicinityGraph.vicinityProcessed
  return ({ self with oldEntries := graphEntries }, { context with vicinityGraph },
    changes self.oldEntries graphEntries)

def handleEvent (debug : Bool) (self : PrecomputePathIds P) (context : VicinityContext T) :
    UseCaseEvent → Run (PrecomputePathIds P × VicinityContext T × List (PathIdTableUpdate P))
  | .vicinity .changed =>
    if self.config.updateInterval.isNone then self.precomputePathsAndIds debug context
    else return (self, context, [])
  | .timer timerId =>
    match self.state with
    | .waiting ownId =>
      if timerId = ownId then self.precomputePathsAndIds debug context
      else return (self, context, [])
    | .idle => return (self, context, [])
  | _ => return (self, context, [])

def start (debug : Bool) (self : PrecomputePathIds P) (context : VicinityContext T) :
    Run (PrecomputePathIds P × VicinityContext T) :=
  match self.config.updateInterval with
  | some duration => do
    let (timerId, runtime) ← context.runtime.registerPeriodicTimer debug duration
    return ({ self with state := .waiting timerId }, { context with runtime })
  | none => return (self, context)

/-! ## What an event can do to the entries -/

variable {debug : Bool} {self self' : PrecomputePathIds P} {context context' : VicinityContext T}
  {updates : List (PathIdTableUpdate P)}

omit [DecidableEq P] in
theorem start_effect (h : self.start debug context = .ok (self', context')) :
    self'.config = self.config ∧ self'.oldEntries = self.oldEntries := by
  unfold start at h
  split at h
  · obtain ⟨⟨timerId, runtime⟩, -, h⟩ := of_bind h
    cases h
    exact ⟨rfl, rfl⟩
  · cases h
    exact ⟨rfl, rfl⟩

variable {config : PrecomputePathIdsConfig P} {entries : List (PathIdEntry P)}

omit [DecidableEq P] [Petgraph NodeId] in
theorem inPathId_of_entryOf {ulnTable : InMemoryULNTable}
    {inPath : Path} {entry : PathIdEntry P} (h : entryOf config ulnTable inPath = some entry) :
    entry.inPathId = config.hasher inPath.ids := by
  obtain ⟨outPath, -, h⟩ := Option.bind_eq_some_iff.1 h
  obtain ⟨⟨ulnid, state⟩, -, h⟩ := Option.bind_eq_some_iff.1 h
  cases h
  rfl

omit [DecidableEq P] [Petgraph NodeId] in
theorem entryOf_congr (config : PrecomputePathIdsConfig P) (ulnTable : InMemoryULNTable)
    {inPath other : Path} (h : inPath.ids = other.ids) :
    entryOf config ulnTable inPath = entryOf config ulnTable other := by
  unfold entryOf
  rw [h]

theorem mem_insertEntry {entries' : List (PathIdEntry P)}
    {inPath : Path} (h : insertEntry debug config context entries inPath = .ok entries')
    (entry : PathIdEntry P) :
    entry ∈ entries' ↔ entry ∈ entries ∨ entryOf config context.ulnTable inPath = some entry := by
  obtain ⟨_, _, h⟩ := of_bind h
  obtain ⟨_, _, h⟩ := of_bind h
  split at h
  · rename_i first hfirst
    cases h
    rw [List.mem_insert_iff, hfirst, Option.some_inj, eq_comm, or_comm]
  · rename_i hnone
    cases h
    simp [hnone]

theorem mem_foldlM_insertEntry {paths : List Path} {entries' : List (PathIdEntry P)}
    (h : paths.foldlM (insertEntry debug config context) entries = .ok entries')
    (entry : PathIdEntry P) :
    entry ∈ entries' ↔
      entry ∈ entries ∨ ∃ inPath ∈ paths, entryOf config context.ulnTable inPath = some entry := by
  induction paths generalizing entries with
  | nil =>
    cases h
    simp
  | cons path paths ih =>
    rw [List.foldlM_cons] at h
    obtain ⟨mid, hmid, h⟩ := of_bind h
    rw [ih h, mem_insertEntry hmid, List.exists_mem_cons_iff, or_assoc]

/-- **The entries of the vicinity.**  There is one for each path whose first hop is an underlay
neighbour. -/
theorem mem_genEntriesFromGraph
    (h : self.genEntriesFromGraph debug context = .ok entries) (entry : PathIdEntry P) :
    entry ∈ entries ↔ ∃ inPath ∈ context.vicinityGraph.vicinityPaths,
      entryOf self.config context.ulnTable inPath = some entry := by
  rw [mem_foldlM_insertEntry h]
  simp

theorem handleEvent_cases {event : UseCaseEvent}
    (h : self.handleEvent debug context event = .ok (self', context', updates)) :
    (self' = self ∧ context' = context ∧ updates = []) ∨
      ∃ entries, self.genEntriesFromGraph debug context = .ok entries ∧
        self' = { self with oldEntries := entries } ∧
          updates = changes self.oldEntries entries := by
  have hsame (h : Run.ok (self, context, []) = .ok (self', context', updates)) :
      self' = self ∧ context' = context ∧ updates = [] := by
    simp only [ok.injEq, Prod.mk.injEq] at h
    exact ⟨h.1.symm, h.2.1.symm, h.2.2.symm⟩
  have hagain (h : self.precomputePathsAndIds debug context = .ok (self', context', updates)) :
      ∃ entries, self.genEntriesFromGraph debug context = .ok entries ∧
        self' = { self with oldEntries := entries } ∧
        updates = changes self.oldEntries entries := by
    obtain ⟨entries, hentries, h⟩ := of_bind h
    obtain ⟨rfl, hrest⟩ := ok_mk_inj h
    exact ⟨entries, hentries, rfl, (Prod.mk.inj hrest).2.symm⟩
  unfold handleEvent at h
  split at h
  · split at h
    · exact .inr (hagain h)
    · exact .inl (hsame h)
  · split at h
    · split at h
      · exact .inr (hagain h)
      · exact .inl (hsame h)
    · exact .inl (hsame h)
  · exact .inl (hsame h)

end PrecomputePathIds

end Kira
