import Kira.Lib.FinGraph
import Kira.UseCases.DeriveFwdTableEntries
import Kira.UseCases.ExplicitPathManagement
import Kira.UseCases.PrecomputePathIds
import Kira.R2Kad.Node

/-!
# Three writers of one table

The table of path ids is written by three use cases that do not know of each other.  One of them
creates an entry for the node itself when it starts, another one keeps the entries of the paths in
the vicinity, and the third one those of the paths that were set up by others.  None of them looks
at the table: an entry is created when the use case does not remember it, and updated or removed
when it does.

The table is as the use cases think it is, since the paths have different lengths: one node, two or
three nodes, and more than that.  If different paths have different ids then no update ever fails,
and the keys of the table are those that the use cases remember (`tables_agree`).
-/

set_option autoImplicit false

namespace Kira

open Run

namespace PathIds

open RoutingTable InMemoryFwdTables

variable {T P : Type} {k : Nat} [RoutingTable T k] [DecidableEq P]

/-! ## The keys of the table -/

/-- What the use cases remember, and the table that goes with it. -/
structure Shown (hash : List NodeId → P) (rootId : NodeId) (entries : List (PathIdEntry P))
    (paths : KeyMap P (ExplicitPathManagement.Entry P)) (table : InMemoryFwdTables P) : Prop where
  /-- The paths in the vicinity have two or three nodes. -/
  computed : ∀ entry ∈ entries, ∃ ids : List NodeId, entry.inPathId = hash ids ∧ 2 ≤ ids.length ∧
    ids.length ≤ VICINITY_RADIUS
  /-- There is one entry for a path. -/
  unique : ∀ entry ∈ entries, ∀ other ∈ entries, entry.inPathId = other.inPathId → entry = other
  /-- The paths that were set up have more nodes. -/
  explicit : ∀ id, (paths.lookup id).isSome → ∃ ids : List NodeId, id = hash ids ∧
    VICINITY_RADIUS < ids.length
  keys : ∀ id, table.contains id = true ↔
    id = hash [rootId] ∨ id ∈ entries.map PathIdEntry.inPathId ∨ (paths.lookup id).isSome
  arrived : table.pathIdTable.lookup (hash [rootId]) = some (.decapsulate (hash [rootId]) .local)
  installed : ∀ entry ∈ entries, table.pathIdTable.lookup entry.inPathId = some entry

namespace Shown

variable {hash : List NodeId → P} {rootId : NodeId} {entries : List (PathIdEntry P)}
  {paths : KeyMap P (ExplicitPathManagement.Entry P)} {table : InMemoryFwdTables P}

theorem disjoint (h : Shown hash rootId entries paths table) (hhash : Function.Injective hash) :
    hash [rootId] ∉ entries.map PathIdEntry.inPathId ∧ paths.lookup (hash [rootId]) = none ∧
      ∀ id ∈ entries.map PathIdEntry.inPathId, paths.lookup id = none := by
  have hlong : ∀ ids : List NodeId, ids.length ≤ VICINITY_RADIUS →
    paths.lookup (hash ids) = none := by
    intro ids hlength
    by_contra hne
    obtain ⟨ids', hids, hlong⟩ := h.explicit _ (Option.isSome_iff_ne_none.2 hne)
    obtain rfl := hhash hids
    omega
  have hcomputed : ∀ id ∈ entries.map PathIdEntry.inPathId, ∃ ids : List NodeId, id = hash ids ∧
      2 ≤ ids.length ∧ ids.length ≤ VICINITY_RADIUS := by
    intro id hid
    obtain ⟨entry, hentry, rfl⟩ := List.mem_map.1 hid
    exact h.computed entry hentry
  refine ⟨fun hroot ↦ ?_, hlong [rootId] (by simp [VICINITY_RADIUS]), fun id hid ↦ ?_⟩
  · obtain ⟨ids, hids, htwo, -⟩ := hcomputed _ hroot
    obtain rfl := hhash hids
    simp at htwo
  · obtain ⟨ids, rfl, -, hlength⟩ := hcomputed id hid
    exact hlong ids hlength

theorem vacant (h : Shown hash rootId entries paths table) (hhash : Function.Injective hash)
    {ids : List NodeId} (hlong : VICINITY_RADIUS < ids.length)
    (hnone : paths.lookup (hash ids) = none) : ¬ table.contains (hash ids) = true := by
  rw [h.keys]
  rintro (hroot | hmem | hsome)
  · obtain rfl := hhash hroot
    simp [VICINITY_RADIUS] at hlong
  · obtain ⟨entry, hentry, heq⟩ := List.mem_map.1 hmem
    obtain ⟨ids', hids', -, hlength⟩ := h.computed entry hentry
    obtain rfl := hhash (heq.symm.trans hids')
    omega
  · simp [hnone] at hsome

theorem removeAll (h : Shown hash rootId entries paths table) (hhash : Function.Injective hash)
    {ids : List P} (hids : ∀ id ∈ ids, (paths.lookup id).isSome = true) :
    ∃ table', table.replay (ids.map .remove) = .ok table' ∧
      Shown hash rootId entries (ids.foldl (fun paths id ↦ paths.erase id) paths) table' := by
  obtain ⟨table', htable', hlookup⟩ := replay_removes table ids
  obtain ⟨hroot, hrootPath, hentries⟩ := h.disjoint hhash
  have hnotRoot : hash [rootId] ∉ ids := fun hmem ↦ by simpa [hrootPath] using hids _ hmem
  have hnotEntry : ∀ id ∈ entries.map PathIdEntry.inPathId, id ∉ ids :=
    fun id hid hmem ↦ by simpa [hentries id hid] using hids id hmem
  refine ⟨table', htable', h.computed, h.unique, fun id hid ↦ ?_, fun id ↦ ?_, ?_,
    fun entry hentry ↦ ?_⟩
  · rw [KeyMap.lookup_foldl_erase] at hid
    split at hid
    · cases hid
    · exact h.explicit id hid
  · rw [InMemoryFwdTables.contains, hlookup, KeyMap.lookup_foldl_erase]
    split
    · rename_i hid
      have hne : id ≠ hash [rootId] := fun heq ↦ hnotRoot (heq ▸ hid)
      have hother : id ∉ entries.map PathIdEntry.inPathId := fun hmem ↦ hnotEntry id hmem hid
      simp [hne, hother]
    · exact h.keys id
  · rw [hlookup, if_neg hnotRoot, h.arrived]
  · rw [hlookup, if_neg (hnotEntry _ (List.mem_map_of_mem hentry)), h.installed entry hentry]

theorem register (h : Shown hash rootId entries paths table) (hhash : Function.Injective hash)
    {ids : List NodeId} (hlong : VICINITY_RADIUS < ids.length)
    (noted : ExplicitPathManagement.Entry P) {entry : PathIdEntry P}
    (hentry : entry.inPathId = hash ids) :
    Shown hash rootId entries (paths.insert (hash ids) noted) (table.insert entry) := by
  refine ⟨h.computed, h.unique, fun id hid ↦ ?_, fun id ↦ ?_, ?_, fun other hother ↦ ?_⟩
  · rw [KeyMap.lookup_insert_eq] at hid
    split at hid
    · rename_i heq
      exact ⟨ids, heq, hlong⟩
    · exact h.explicit id hid
  · rw [contains_insert, h.keys, hentry, KeyMap.lookup_insert_eq]
    by_cases hid : id = hash ids
    · simp [hid]
    · simp [hid]
  · rw [lookup_insert, hentry, if_neg, h.arrived]
    intro heq
    rw [← hhash heq] at hlong
    simp [VICINITY_RADIUS] at hlong
  · rw [lookup_insert, hentry, if_neg, h.installed other hother]
    intro heq
    obtain ⟨ids', hids', -, hlength⟩ := h.computed other hother
    obtain rfl := hhash (heq.symm.trans hids')
    omega

/-- What the changes do to an id.  Either there is a new entry for it; or else it is removed if the
old entry for it is gone, and it is left alone if there is none. -/
theorem replay_changes (table : InMemoryFwdTables P) (entries entries' : List (PathIdEntry P)) :
    ∃ table', table.replay (PrecomputePathIds.changes entries entries') = .ok table' ∧
      ∀ id, (∃ entry ∈ entries', entry.inPathId = id ∧
          table'.pathIdTable.lookup id = some entry) ∨
        (∀ entry ∈ entries', entry.inPathId = id → entry ∈ entries) ∧
          ((∃ entry ∈ entries, entry ∉ entries' ∧ entry.inPathId = id) ∧
              table'.pathIdTable.lookup id = none ∨
            (∀ entry ∈ entries, entry.inPathId = id → entry ∈ entries') ∧
              table'.pathIdTable.lookup id = table.pathIdTable.lookup id) := by
  obtain ⟨mid, hmid, hremoved⟩ := replay_removes table
    ((entries.filter (· ∉ entries')).map PathIdEntry.inPathId)
  obtain ⟨table', htable', hcreated⟩ := replay_createOrUpdates mid (entries'.filter (· ∉ entries))
  refine ⟨table', ?_, fun id ↦ ?_⟩
  · rw [PrecomputePathIds.changes, replay_append, hmid]
    exact htable'
  rcases hcreated id with ⟨entry, hentry, heq⟩ | ⟨hnot, hlookup⟩
  · exact .inl ⟨entry, (List.mem_filter.1 hentry).1, heq⟩
  · refine .inr ⟨fun entry hentry heq ↦ ?_, ?_⟩
    · by_contra hold
      exact hnot (List.mem_map.2 ⟨entry, List.mem_filter.2 ⟨hentry, by simpa using hold⟩, heq⟩)
    · rw [hlookup, hremoved]
      split
      · rename_i hdeleted
        obtain ⟨entry, hentry, heq⟩ := List.mem_map.1 hdeleted
        obtain ⟨hentry, hgone⟩ := List.mem_filter.1 hentry
        exact .inl ⟨⟨entry, hentry, by simpa using hgone, heq⟩, rfl⟩
      · rename_i hkept
        refine .inr ⟨fun entry hentry heq ↦ ?_, rfl⟩
        by_contra hgone
        exact hkept (List.mem_map.2 ⟨entry, List.mem_filter.2 ⟨hentry, by simpa using hgone⟩, heq⟩)

theorem changes (h : Shown hash rootId entries paths table) (hhash : Function.Injective hash)
    {entries' : List (PathIdEntry P)}
    (hcomputed : ∀ entry ∈ entries', ∃ ids : List NodeId, entry.inPathId = hash ids ∧
      2 ≤ ids.length ∧ ids.length ≤ VICINITY_RADIUS)
    (hunique : ∀ entry ∈ entries', ∀ other ∈ entries', entry.inPathId = other.inPathId →
      entry = other) :
    ∃ table', table.replay (PrecomputePathIds.changes entries entries') = .ok table' ∧
      Shown hash rootId entries' paths table' := by
  obtain ⟨table', htable', hlookup⟩ := replay_changes table entries entries'
  obtain ⟨hroot, hrootPath, hentries⟩ := h.disjoint hhash
  refine ⟨table', htable', hcomputed, hunique, h.explicit, fun id ↦ ?_, ?_, fun entry hentry ↦ ?_⟩
  · rw [InMemoryFwdTables.contains]
    rcases hlookup id with ⟨entry, hentry, rfl, hnow⟩ | ⟨hold, ⟨hgone, hnow⟩ | ⟨hstill, hnow⟩⟩
    · simp [hnow, List.mem_map_of_mem hentry]
    · -- the old entry is gone, and with it the id
      obtain ⟨entry, hentry, hnot, rfl⟩ := hgone
      have hmem := List.mem_map_of_mem (f := PathIdEntry.inPathId) hentry
      have hne : entry.inPathId ≠ hash [rootId] := fun heq ↦ hroot (heq ▸ hmem)
      have hnew : entry.inPathId ∉ entries'.map PathIdEntry.inPathId := by
        intro hmem'
        obtain ⟨other, hother, heq⟩ := List.mem_map.1 hmem'
        obtain rfl := h.unique other (hold other hother heq) entry hentry heq
        exact hnot hother
      simp [hnow, hne, hnew, hentries _ hmem]
    · have hsame : id ∈ entries'.map PathIdEntry.inPathId ↔
          id ∈ entries.map PathIdEntry.inPathId := by
        simp only [List.mem_map]
        constructor
        · rintro ⟨e, he, heq⟩
          exact ⟨e, hold e he heq, heq⟩
        · rintro ⟨e, he, heq⟩
          exact ⟨e, hstill e he heq, heq⟩
      rw [hnow, hsame]
      exact h.keys id
  · rcases hlookup (hash [rootId]) with
      ⟨entry, hentry, heq, -⟩ | ⟨-, ⟨⟨entry, hentry, -, heq⟩, -⟩ | ⟨-, hnow⟩⟩
    · obtain ⟨ids, hids, htwo, -⟩ := hcomputed entry hentry
      obtain rfl := hhash (heq.symm.trans hids)
      simp at htwo
    · exact absurd (List.mem_map.2 ⟨entry, hentry, heq⟩) hroot
    · rw [hnow, h.arrived]
  · rcases hlookup entry.inPathId with
      ⟨other, hother, heq, hnow⟩ | ⟨hold, ⟨⟨other, hother, hnot, heq⟩, -⟩ | ⟨-, hnow⟩⟩
    · rw [hnow, hunique other hother entry hentry heq]
    · obtain rfl := h.unique other hother entry (hold entry hentry rfl) heq
      exact absurd hentry hnot
    · rw [hnow, h.installed entry (hold entry hentry rfl)]

/-- **What the third use case does** with an event keeps the table in order. -/
theorem turn (h : Shown hash rootId entries paths table) (hhash : Function.Injective hash)
    {management : ExplicitPathManagement P} (hpaths : management.paths = some paths)
    (hhasher : management.config.hasher = hash) {context : UseCaseContext T} {event : UseCaseEvent}
    {paths' : Option (KeyMap P (ExplicitPathManagement.Entry P))}
    {updates : List (PathIdTableUpdate P)}
    (hturn : ExplicitPathManagement.Turn management context event paths' updates) :
    ∃ after table', paths' = some after ∧ table.replay updates = .ok table' ∧
      Shown hash rootId entries after table' := by
  cases hturn with
  | same => exact ⟨paths, table, hpaths, rfl, h⟩
  | removed hnow ids hids =>
    obtain rfl := Option.some.inj (hpaths.symm.trans hnow)
    obtain ⟨table', htable', h⟩ := h.removeAll hhash hids
    exact ⟨_, table', rfl, htable', h⟩
  | created hnow hroute hin hsize hout hhop hvacant hvia =>
    obtain rfl := Option.some.inj (hpaths.symm.trans hnow)
    subst hhasher
    exact ⟨_, _, rfl, replay_cons_of_apply (apply_create (h.vacant hhash hsize hvacant)) [],
      h.register hhash hsize _ rfl⟩
  | updated hnow hroute hin hsize hout hhop hoccupied hvia =>
    obtain rfl := Option.some.inj (hpaths.symm.trans hnow)
    subst hhasher
    refine ⟨_, _, rfl, replay_cons_of_apply (apply_update ?_) [], h.register hhash hsize _ rfl⟩
    exact (h.keys _).2 (.inr (.inr (by simp [PathIdEntry.inPathId, hoccupied])))

variable [Petgraph NodeId]

/-- **What the second use case does** with an event keeps the table in order. -/
theorem precompute (h : Shown hash rootId entries paths table) (hhash : Function.Injective hash)
    {debug : Bool} {self self' : PrecomputePathIds P} (hentries : self.oldEntries = entries)
    (hhasher : self.config.hasher = hash) {context context' : VicinityContext T}
    {event : UseCaseEvent} {updates : List (PathIdTableUpdate P)}
    (hevent : self.handleEvent debug context event = .ok (self', context', updates)) :
    self'.config = self.config ∧ ∃ table', table.replay updates = .ok table' ∧
      Shown hash rootId self'.oldEntries paths table' := by
  subst hentries hhasher
  rcases PrecomputePathIds.handleEvent_cases hevent with
    ⟨rfl, -, rfl⟩ | ⟨entries', hgen, rfl, rfl⟩
  · exact ⟨rfl, table, rfl, h⟩
  · have hmem := PrecomputePathIds.mem_genEntriesFromGraph hgen
    refine ⟨rfl, h.changes hhash (fun entry hentry ↦ ?_) fun entry hentry other hother heq ↦ ?_⟩
    · obtain ⟨inPath, hpath, hof⟩ := (hmem entry).1 hentry
      obtain ⟨-, -, -, -, htwo, hlength⟩ := PetVicinityGraph.mem_vicinityPaths.1 hpath
      exact ⟨inPath.ids, PrecomputePathIds.inPathId_of_entryOf hof, htwo, hlength⟩
    · obtain ⟨inPath, -, hof⟩ := (hmem entry).1 hentry
      obtain ⟨otherPath, -, hofOther⟩ := (hmem other).1 hother
      rw [PrecomputePathIds.inPathId_of_entryOf hof,
        PrecomputePathIds.inPathId_of_entryOf hofOther] at heq
      rw [PrecomputePathIds.entryOf_congr _ _ (hhash heq), hofOther] at hof
      exact (Option.some.inj hof).symm

end Shown

/-! ## Runs -/

variable [Petgraph NodeId]

/-- The two use cases that write the table again and again, what they work with, and all updates so
far. -/
structure System (T P : Type) where
  rootId : NodeId
  precompute : PrecomputePathIds P
  management : ExplicitPathManagement P
  context : VicinityContext T
  updates : List (PathIdTableUpdate P)

/-- What happens to the node. -/
inductive Op (T P : Type) where
  /-- An event is handled.  Unless this ends before, the use cases after the first one find the
  given context, which those in between may have changed. -/
  | event (event : UseCaseEvent) (draws : EPMDraws P) (delegated : Option (VicinityContext T))
  /-- The other use cases change the context. -/
  | context (context : VicinityContext T)

namespace System

/-- The node starts.  All use cases have the same hash. -/
def startup (debug : Bool) (hash : List NodeId → P) (precomputeConfig : PrecomputePathIdsConfig P)
    (managementConfig : EPMConfig P) (context : VicinityContext T) : Run (System T P) := do
  let precompute := PrecomputePathIds.new { precomputeConfig with hasher := hash }
  let management := ExplicitPathManagement.new { managementConfig with hasher := hash }
  let (precompute, context) ← precompute.start debug context
  let (_, management, shared) ← management.start debug context.toUseCaseContext
  return {
    rootId := context.rootId
    precompute
    management
    context := { context with toUseCaseContext := shared }
    updates := [DeriveFwdTableEntries.startUpdate hash context.rootId] }

/-- An event that the first use case does not handle goes to the second one. -/
def step (debug : Bool) (s : System T P) : Op T P → Run (System T P)
  | .event event draws delegated => do
    let (result, management, shared, updates) ←
      s.management.handleEvent debug draws s.context.toUseCaseContext event
    let s := { s with
      management
      context := { s.context with toUseCaseContext := shared }
      updates := s.updates ++ updates }
    match result, delegated with
    | .notHandled, some context =>
      let (precompute, context, updates) ← s.precompute.handleEvent debug context event
      return { s with precompute, context, updates := s.updates ++ updates }
    | _, _ => return s
  | .context context => return { s with context }

/-- What the use cases remember fits the table that one gets from the updates. -/
structure Kept (hash : List NodeId → P) (s : System T P) : Prop where
  precomputeHash : s.precompute.config.hasher = hash
  managementHash : s.management.config.hasher = hash
  shown : ∃ paths table, s.management.paths = some paths ∧ empty.replay s.updates = .ok table ∧
    Shown hash s.rootId s.precompute.oldEntries paths table

variable {debug : Bool} {hash : List NodeId → P} {precomputeConfig : PrecomputePathIdsConfig P}
  {managementConfig : EPMConfig P} {context : VicinityContext T} {s s' : System T P}

theorem kept_startup
    (h : startup debug hash precomputeConfig managementConfig context = .ok s) : s.Kept hash := by
  obtain ⟨⟨precompute, mid⟩, hprecompute, h⟩ := of_bind h
  obtain ⟨⟨result, management, shared⟩, hmanagement, h⟩ := of_bind h
  cases h
  obtain ⟨hprecomputeConfig, hentries⟩ := PrecomputePathIds.start_effect hprecompute
  obtain ⟨hconfig, hpaths⟩ := ExplicitPathManagement.paths_start_new hmanagement
  have hempty : precompute.oldEntries = [] := hentries
  refine ⟨congrArg (·.hasher) hprecomputeConfig, congrArg (·.hasher) hconfig, ∅,
    empty.insert (.decapsulate (hash [mid.rootId]) .local), hpaths, rfl, ?_⟩
  show Shown hash mid.rootId precompute.oldEntries _ _
  rw [hempty]
  refine ⟨by simp, by simp, fun id hid ↦ (by cases hid), fun id ↦ ?_, ?_, by simp⟩
  · rw [contains_insert]
    simp [PathIdEntry.inPathId, InMemoryFwdTables.contains, empty]
  · exact (lookup_insert _ _ _).trans (if_pos rfl)

theorem Kept.step (hs : s.Kept hash) (hhash : Function.Injective hash) {op : Op T P}
    (h : s.step debug op = .ok s') : s'.Kept hash ∧ s'.rootId = s.rootId := by
  cases op <;> simp only [System.step] at h
  case event event draws delegated =>
    obtain ⟨⟨result, management, shared, updates⟩, hmanagement, h⟩ := of_bind h
    obtain ⟨hconfig, hturn⟩ := ExplicitPathManagement.turn_handleEvent hmanagement
    obtain ⟨paths, table, hpaths, htable, hshown⟩ := hs.shown
    obtain ⟨after, mid, hafter, hmid, hshown⟩ :=
      hshown.turn hhash hpaths hs.managementHash hturn
    have hreplay : empty.replay (s.updates ++ updates) = .ok mid := by
      rw [replay_append, htable]
      exact hmid
    have hhasher : management.config.hasher = hash := by rw [hconfig, hs.managementHash]
    dsimp only at h
    split at h
    · obtain ⟨⟨precompute, context, more⟩, hprecompute, h⟩ := of_bind h
      cases h
      obtain ⟨hprecomputeConfig, last, hlast, hshown⟩ :=
        hshown.precompute hhash rfl hs.precomputeHash hprecompute
      refine ⟨⟨by rw [hprecomputeConfig]; exact hs.precomputeHash, hhasher, after, last, hafter, ?_,
        hshown⟩, rfl⟩
      rw [replay_append, hreplay]
      exact hlast
    · cases h
      exact ⟨⟨hs.precomputeHash, hhasher, after, mid, hafter, hreplay, hshown⟩, rfl⟩
  case context context =>
    cases h
    exact ⟨⟨hs.precomputeHash, hs.managementHash, hs.shown⟩, rfl⟩

theorem kept_of_reachable (hhash : Function.Injective hash) {s₀ : System T P}
    (h₀ : startup debug hash precomputeConfig managementConfig context = .ok s₀)
    (hs : Reachable (step debug) (fun _ _ ↦ True) s₀ s) : s.Kept hash ∧ s.rootId = s₀.rootId :=
  hs.invariant (I := fun s ↦ s.Kept hash ∧ s.rootId = s₀.rootId) ⟨kept_startup h₀, rfl⟩
    fun _ _ _ hs _ h ↦ ⟨(hs.1.step hhash h).1, (hs.1.step hhash h).2.trans hs.2⟩

/-- **The table of path ids is as the use cases remember it.**  If different paths have different
ids then in every run the updates can be replayed without an error, and the keys of the table that
one gets are the id of the node itself, those of the remembered paths in the vicinity and those of
the paths that were set up by others.  No key is of two kinds. -/
theorem tables_agree (hhash : Function.Injective hash) {s₀ : System T P}
    (h₀ : startup debug hash precomputeConfig managementConfig context = .ok s₀)
    (hs : Reachable (step debug) (fun _ _ ↦ True) s₀ s) :
    ∃ paths table, s.management.paths = some paths ∧ empty.replay s.updates = .ok table ∧
      (∀ id, table.contains id = true ↔ id = hash [s₀.rootId] ∨
        id ∈ s.precompute.oldEntries.map PathIdEntry.inPathId ∨ (paths.lookup id).isSome) ∧
      hash [s₀.rootId] ∉ s.precompute.oldEntries.map PathIdEntry.inPathId ∧
      paths.lookup (hash [s₀.rootId]) = none ∧
      ∀ id ∈ s.precompute.oldEntries.map PathIdEntry.inPathId, paths.lookup id = none := by
  obtain ⟨hkept, hroot⟩ := kept_of_reachable hhash h₀ hs
  obtain ⟨paths, table, hpaths, htable, hshown⟩ := hkept.shown
  rw [hroot] at hshown
  exact ⟨paths, table, hpaths, htable, hshown.keys, hshown.disjoint hhash⟩

end System

end PathIds

/-! ### The table of the node 0 -/

namespace PathIds.System

open InMemoryFwdTables

/-- The node 0 has the neighbour 1, and 2 is a neighbour of 1.  A path is its own id. -/
def nodeZero : VicinityContext (UnlimitedULNRoutingTable 20 1) where
  routingTable := R2Kad.nodeZero
  ulnTable := (InMemoryULNTable.new.insert 1 ⟨1, 1⟩).2
  runtime := .withStartupTime 0
  eventQueue := []
  outputQueue := []
  vicinityGraph :=
    { rootId := 0
      graph := (((FinGraph.new.addNode 0).addEdge 0 1).2.addEdge 1 2).2
      entries := ∅
      graphChanged := true }

def started : Run (System (UnlimitedULNRoutingTable 20 1) (List NodeId)) :=
  startup true id ⟨none, id⟩ (.default id) nodeZero

def fixedDraws : EPMDraws (List NodeId) := ⟨fun _ ↦ 0, fun _ ↦ 0⟩

/-- The vicinity has changed, and then a path through 0 to 3 is set up. -/
def setup : List (Op (UnlimitedULNRoutingTable 20 1) (List NodeId)) :=
  [.event (.vicinity .changed) fixedDraws (some nodeZero),
    .event (.message (.pathSetupReq
      { commonHeader := .new .pathSetupReq 9 3 0 .invalid 2
        data := ⟨⟩
        notVia := none
        sourceRoute := .new 9 (.via 0 [1, 2, 3]) }) (.underlayNeighbor ⟨1, 9⟩))
      fixedDraws (some nodeZero)]

/-- One path of each length. -/
theorem tables_agree_setup : ∃ s₀ s table, started = .ok s₀ ∧
    runAll (step true) s₀ setup = .ok s ∧ empty.replay s.updates = .ok table ∧
    ∀ id, table.contains id = true ↔
      id = [0] ∨ id = [0, 1] ∨ id = [0, 1, 2] ∨ id = [0, 1, 2, 3] := by
  obtain ⟨s₀, h₀, s, hs, hroot, hentries, paths, hpaths, hkeys⟩ : ∃ s₀, started = .ok s₀ ∧
      ∃ s, runAll (step true) s₀ setup = .ok s ∧ s₀.rootId = 0 ∧
        s.precompute.oldEntries.map PathIdEntry.inPathId = [[0, 1], [0, 1, 2]] ∧
        ∃ paths, s.management.paths = some paths ∧ paths.keys = [[0, 1, 2, 3]] :=
    ⟨_, rfl, _, rfl, rfl, rfl, _, rfl, rfl⟩
  obtain ⟨paths', table, hpaths', htable, hcontains, -⟩ :=
    tables_agree Function.injective_id h₀ (reachable_of_runAll setup hs)
  obtain rfl := Option.some.inj (hpaths.symm.trans hpaths')
  refine ⟨s₀, s, table, h₀, hs, htable, fun id ↦ ?_⟩
  rw [hcontains, hentries, hroot, AList.lookup_isSome, AList.mem_keys, hkeys]
  simp only [id_eq, List.mem_cons, List.not_mem_nil, or_false]
  tauto

end PathIds.System

end Kira
