import Kira.Runtime

/-!
# Requests in flight

A use case that waits for the answers to its requests keeps them in two maps: by the timer that ends
the waiting, and by the nonce that the answer will carry.  The two maps hold the same requests, and
the program asserts this where it removes one.  That is `Agree`; every operation keeps it, and with
it no assertion fails.
-/

set_option autoImplicit false

namespace Kira

open Run

/-- The requests in flight, by timer and by nonce. -/
structure InflightReqMap where
  timerToNode : KeyMap TimerId (NodeId × Nonce)
  nonceToId : KeyMap Nonce (NodeId × TimerId)

namespace InflightReqMap

inductive InsertionError where
  | duplicateTimer
  | duplicateNonce
  deriving DecidableEq

inductive ModificationError where
  | duplicateTimerError
  | duplicateNonceError
  | nonceDoesNotExistError
  deriving DecidableEq

def empty : InflightReqMap := ⟨∅, ∅⟩

def insert (self : InflightReqMap) (nodeId : NodeId) (timerId : TimerId) (nonce : Nonce) :
    Except InsertionError InflightReqMap :=
  if (self.timerToNode.lookup timerId).isSome then .error .duplicateTimer
  else if (self.nonceToId.lookup nonce).isSome then .error .duplicateNonce
  else
    .ok
      { timerToNode := self.timerToNode.insert timerId (nodeId, nonce)
        nonceToId := self.nonceToId.insert nonce (nodeId, timerId) }

def nonceExists (self : InflightReqMap) (nonce : Nonce) : Bool :=
  (self.nonceToId.lookup nonce).isSome

def timerExists (self : InflightReqMap) (timerId : TimerId) : Bool :=
  (self.timerToNode.lookup timerId).isSome

def nodeExists (self : InflightReqMap) (nodeId : NodeId) : Bool :=
  self.nonceToId.values.any fun entry ↦ entry.1 == nodeId

def removeByNonce (self : InflightReqMap) (nonce : Nonce) :
    Run (Option (NodeId × TimerId) × InflightReqMap) := do
  match self.nonceToId.lookup nonce with
  | none => return (none, self)
  | some (nodeId, timerId) =>
    let self := { self with nonceToId := self.nonceToId.erase nonce }
    match self.timerToNode.lookup timerId with
    | none => return (none, self)
    | some (nodeIdT, nonceT) =>
      assert (nodeId == nodeIdT) "assertion `left == right` failed"
      assert (nonce == nonceT) "assertion `left == right` failed"
      return (some (nodeId, timerId), { self with timerToNode := self.timerToNode.erase timerId })

def removeByTimer (self : InflightReqMap) (timerId : TimerId) :
    Run (Option (NodeId × Nonce) × InflightReqMap) := do
  match self.timerToNode.lookup timerId with
  | none => return (none, self)
  | some (nodeIdT, nonce) =>
    let self := { self with timerToNode := self.timerToNode.erase timerId }
    match self.nonceToId.lookup nonce with
    | none => return (none, self)
    | some (nodeId, timerIdN) =>
      assert (nodeId == nodeIdT) "assertion `left == right` failed"
      assert (timerId == timerIdN) "assertion `left == right` failed"
      return (some (nodeId, nonce), { self with nonceToId := self.nonceToId.erase nonce })

def removeById (self : InflightReqMap) (nodeId : NodeId) : InflightReqMap where
  timerToNode := self.timerToNode.retain fun entry ↦ entry.1 ≠ nodeId
  nonceToId := self.nonceToId.retain fun entry ↦ entry.1 ≠ nodeId

/-- Lets another timer end the waiting for a request. -/
def replaceTimerForNonce (self : InflightReqMap) (nonce : Nonce) (newTimerId : TimerId) :
    Run (Except ModificationError (Option TimerId) × InflightReqMap) := do
  if self.timerExists newTimerId then return (.error .duplicateTimerError, self)
  else
    match self.nonceToId.lookup nonce with
    | none => return (.error .nonceDoesNotExistError, self)
    | some (nodeId, oldTimerId) =>
      let self := { self with nonceToId := self.nonceToId.insert nonce (nodeId, newTimerId) }
      let (nodeId, mappedNonce) ← expect (self.timerToNode.lookup oldTimerId)
        "nonce exists, therefore its timer has to be tracked"
      assert (mappedNonce == nonce) "assertion `left == right` failed"
      let timerToNode := (self.timerToNode.erase oldTimerId).insert newTimerId (nodeId, nonce)
      return (.ok (some oldTimerId), { self with timerToNode := timerToNode })

/-! ## The two maps -/

/-- The two maps hold the same requests. -/
def Agree (self : InflightReqMap) : Prop :=
  ∀ timerId nodeId nonce, self.timerToNode.lookup timerId = some (nodeId, nonce) ↔
    self.nonceToId.lookup nonce = some (nodeId, timerId)

variable {self self' : InflightReqMap} {nodeId : NodeId} {timerId : TimerId} {nonce : Nonce}

theorem agree_empty : empty.Agree := by
  simp [Agree, empty]

theorem agree_insert (hagree : self.Agree) (htimer : self.timerToNode.lookup timerId = none)
    (hnonce : self.nonceToId.lookup nonce = none) :
    Agree ⟨self.timerToNode.insert timerId (nodeId, nonce),
      self.nonceToId.insert nonce (nodeId, timerId)⟩ := by
  intro t x n
  simp only [KeyMap.lookup_insert_eq]
  by_cases ht : t = timerId
  · subst ht
    by_cases hn : n = nonce
    · simp [hn]
    · have hnot : self.nonceToId.lookup n ≠ some (x, t) := by
        rw [ne_eq, ← hagree, htimer]
        simp
      simp [hn, hnot, Ne.symm hn]
  · by_cases hn : n = nonce
    · subst hn
      have hnot : self.timerToNode.lookup t ≠ some (x, n) := by
        rw [ne_eq, hagree, hnonce]
        simp
      simp [ht, hnot, Ne.symm ht]
    · simpa [ht, hn] using hagree t x n

theorem insert_eq_ok (hagree : self.Agree) (h : self.insert nodeId timerId nonce = .ok self') :
    self'.Agree ∧ self'.timerToNode = self.timerToNode.insert timerId (nodeId, nonce) := by
  unfold insert at h
  split at h
  · cases h
  rename_i htimer
  split at h
  · cases h
  rename_i hnonce
  cases h
  exact ⟨agree_insert hagree (by simpa using htimer) (by simpa using hnonce), rfl⟩

theorem insert_eq_error {err : InsertionError}
    (h : self.insert nodeId timerId nonce = .error err) :
    (err = .duplicateTimer ∧ self.timerExists timerId = true) ∨
      (err = .duplicateNonce ∧ self.nonceExists nonce = true) := by
  unfold insert at h
  split at h
  · rename_i htimer
    exact .inl ⟨(Except.error.inj h).symm, htimer⟩
  · split at h
    · rename_i hnonce
      exact .inr ⟨(Except.error.inj h).symm, hnonce⟩
    · cases h

theorem agree_erase (hagree : self.Agree)
    (hlook : self.timerToNode.lookup timerId = some (nodeId, nonce)) :
    Agree ⟨self.timerToNode.erase timerId, self.nonceToId.erase nonce⟩ := by
  intro t x n
  have hiff := hagree t x n
  have hnonce := (hagree timerId nodeId nonce).1 hlook
  simp only [KeyMap.lookup_erase_eq]
  by_cases ht : t = timerId
  · subst ht
    by_cases hn : n = nonce
    · simp [hn]
    · have hne : self.timerToNode.lookup t ≠ some (x, n) := by simp [hlook, Ne.symm hn]
      simp [hn, ← hiff, hne]
  · by_cases hn : n = nonce
    · subst hn
      have hne : self.nonceToId.lookup n ≠ some (x, t) := by simp [hnonce, Ne.symm ht]
      simp [ht, hiff, hne]
    · simpa [ht, hn] using hiff

theorem removeByNonce_eq (hagree : self.Agree) (nonce : Nonce) :
    ∃ self', self.removeByNonce nonce = .ok (self.nonceToId.lookup nonce, self') ∧ self'.Agree ∧
      ∀ t, self'.timerToNode.lookup t =
        (self.timerToNode.lookup t).filter fun entry ↦ entry.2 ≠ nonce := by
  -- a request of another timer has another nonce
  have hother : ∀ t, (∀ x, self.timerToNode.lookup t ≠ some (x, nonce)) →
      self.timerToNode.lookup t =
        (self.timerToNode.lookup t).filter fun entry ↦ entry.2 ≠ nonce := by
    intro t ht
    cases hentry : self.timerToNode.lookup t with
    | none => rfl
    | some entry =>
      obtain ⟨x, n⟩ := entry
      have hne : n ≠ nonce := by
        rintro rfl
        exact ht x hentry
      simp [Option.filter_some, hne]
  unfold removeByNonce
  cases hlook : self.nonceToId.lookup nonce with
  | none =>
    refine ⟨self, rfl, hagree, fun t ↦ hother t fun x hx ↦ ?_⟩
    simp [(hagree t x nonce).1 hx] at hlook
  | some entry =>
    obtain ⟨nodeId, timerId⟩ := entry
    have htimer := (hagree timerId nodeId nonce).2 hlook
    simp only [htimer, beq_self_eq_true, assert_true, ok_bind, pure_eq]
    refine ⟨_, rfl, agree_erase hagree htimer, fun t ↦ ?_⟩
    rw [KeyMap.lookup_erase_eq]
    split
    · rename_i ht
      rw [ht, htimer, Option.filter_some]
      simp
    · rename_i ht
      refine hother t fun x hx ↦ ht ?_
      have hsame := (hagree t x nonce).1 hx
      rw [hlook] at hsame
      exact (Prod.mk.inj (Option.some.inj hsame)).2.symm

theorem removeByTimer_eq (hagree : self.Agree) (timerId : TimerId) :
    ∃ self', self.removeByTimer timerId = .ok (self.timerToNode.lookup timerId, self') ∧
      self'.Agree ∧ ∀ t, self'.timerToNode.lookup t =
        if t = timerId then none else self.timerToNode.lookup t := by
  unfold removeByTimer
  cases hlook : self.timerToNode.lookup timerId with
  | none =>
    refine ⟨self, rfl, hagree, fun t ↦ ?_⟩
    split
    · rename_i ht
      rw [ht, hlook]
    · rfl
  | some entry =>
    obtain ⟨nodeId, nonce⟩ := entry
    have hnonce := (hagree timerId nodeId nonce).1 hlook
    simp only [hnonce, beq_self_eq_true, assert_true, ok_bind, pure_eq]
    exact ⟨_, rfl, agree_erase hagree hlook, KeyMap.lookup_erase_eq _ _⟩

theorem replaceTimerForNonce_eq (hagree : self.Agree) (nonce : Nonce) (newTimerId : TimerId) :
    ∃ res self', self.replaceTimerForNonce nonce newTimerId = .ok (res, self') ∧ self'.Agree ∧
      ∀ err, res = .error err → self' = self := by
  unfold replaceTimerForNonce
  split
  · exact ⟨_, self, rfl, hagree, fun _ _ ↦ rfl⟩
  rename_i hfree
  cases hlook : self.nonceToId.lookup nonce with
  | none => exact ⟨_, self, rfl, hagree, fun _ _ ↦ rfl⟩
  | some entry =>
    obtain ⟨nodeId, oldTimerId⟩ := entry
    have htimer := (hagree oldTimerId nodeId nonce).2 hlook
    have hfree : self.timerToNode.lookup newTimerId = none := by simpa [timerExists] using hfree
    simp only [htimer, expect_some, beq_self_eq_true, assert_true, ok_bind, pure_eq]
    refine ⟨_, _, rfl, ?_, nofun⟩
    -- the request is taken out of both maps and comes back with the new timer
    have herased := agree_erase hagree htimer
    have hfree : (self.timerToNode.erase oldTimerId).lookup newTimerId = none := by
      simp [KeyMap.lookup_erase_eq, hfree]
    intro t x n
    have hiff := @agree_insert _ nodeId _ nonce herased hfree (by simp) t x n
    simp only [KeyMap.lookup_insert_eq, KeyMap.lookup_erase_eq] at hiff ⊢
    rw [hiff]
    by_cases hn : n = nonce <;> simp [hn]

theorem agree_removeById (hagree : self.Agree) (nodeId : NodeId) :
    (self.removeById nodeId).Agree := by
  intro t x n
  simp only [removeById, KeyMap.lookup_retain, Option.filter_eq_some_iff, hagree t x n]

theorem lookup_removeById (self : InflightReqMap) (nodeId : NodeId) (t : TimerId) :
    (self.removeById nodeId).timerToNode.lookup t =
      (self.timerToNode.lookup t).filter fun entry ↦ entry.1 ≠ nodeId :=
  KeyMap.lookup_retain ..

theorem nodeExists_iff (hagree : self.Agree) :
    self.nodeExists nodeId = true ↔ ∃ t n, self.timerToNode.lookup t = some (nodeId, n) := by
  simp only [nodeExists, List.any_eq_true, beq_iff_eq]
  constructor
  · rintro ⟨⟨x, t⟩, hmem, rfl⟩
    obtain ⟨n, hn⟩ := KeyMap.mem_values.1 hmem
    exact ⟨t, n, (hagree t x n).2 hn⟩
  · rintro ⟨t, n, h⟩
    exact ⟨(nodeId, t), KeyMap.mem_values.2 ⟨n, (hagree t nodeId n).1 h⟩, rfl⟩

/-! ## Sequences of calls -/

inductive Call where
  | insert (nodeId : NodeId) (timerId : TimerId) (nonce : Nonce)
  | removeByNonce (nonce : Nonce)
  | removeByTimer (timerId : TimerId)
  | removeById (nodeId : NodeId)
  | replaceTimerForNonce (nonce : Nonce) (newTimerId : TimerId)

/-- The maps after a call, and whether it has returned an error. -/
def call (self : InflightReqMap) : Call → Run (Bool × InflightReqMap)
  | .insert nodeId timerId nonce =>
    match self.insert nodeId timerId nonce with
    | .ok self' => .ok (false, self')
    | .error _ => .ok (true, self)
  | .removeByNonce nonce => do
    let (_, self') ← self.removeByNonce nonce
    return (false, self')
  | .removeByTimer timerId => do
    let (_, self') ← self.removeByTimer timerId
    return (false, self')
  | .removeById nodeId => .ok (false, self.removeById nodeId)
  | .replaceTimerForNonce nonce newTimerId => do
    match ← self.replaceTimerForNonce nonce newTimerId with
    | (.ok _, self') => return (false, self')
    | (.error _, self') => return (true, self')

theorem call_eq (hagree : self.Agree) (c : Call) :
    ∃ failed self', self.call c = .ok (failed, self') ∧ self'.Agree ∧
      (failed = true → self' = self) := by
  cases c with
  | insert nodeId timerId nonce =>
    cases hins : self.insert nodeId timerId nonce with
    | ok self' => exact ⟨false, self', by simp [call, hins], (insert_eq_ok hagree hins).1, nofun⟩
    | error err => exact ⟨true, self, by simp [call, hins], hagree, fun _ ↦ rfl⟩
  | removeByNonce nonce =>
    obtain ⟨self', h, hagree', -⟩ := removeByNonce_eq hagree nonce
    exact ⟨false, self', by simp [call, h], hagree', nofun⟩
  | removeByTimer timerId =>
    obtain ⟨self', h, hagree', -⟩ := removeByTimer_eq hagree timerId
    exact ⟨false, self', by simp [call, h], hagree', nofun⟩
  | removeById nodeId => exact ⟨false, _, rfl, agree_removeById hagree nodeId, nofun⟩
  | replaceTimerForNonce nonce newTimerId =>
    obtain ⟨res, self', h, hagree', hsame⟩ := replaceTimerForNonce_eq hagree nonce newTimerId
    cases res with
    | ok old => exact ⟨false, self', by simp [call, h], hagree', nofun⟩
    | error err => exact ⟨true, self', by simp [call, h], hagree', fun _ ↦ hsame err rfl⟩

/-- The requests that the map of the timers holds. -/
def requestsByTimer (self : InflightReqMap) : Set (NodeId × TimerId × Nonce) :=
  {req | self.timerToNode.lookup req.2.1 = some (req.1, req.2.2)}

/-- The requests that the map of the nonces holds. -/
def requestsByNonce (self : InflightReqMap) : Set (NodeId × TimerId × Nonce) :=
  {req | self.nonceToId.lookup req.2.2 = some (req.1, req.2.1)}

theorem runAll_agree (hagree : self.Agree) (calls : List Call) :
    ∃ self', runAll (fun self c ↦ Prod.snd <$> self.call c) self calls = .ok self' ∧
      self'.Agree := by
  induction calls generalizing self with
  | nil => exact ⟨self, rfl, hagree⟩
  | cons c calls ih =>
    obtain ⟨failed, self₁, h, hagree₁, -⟩ := call_eq hagree c
    simpa [runAll, h] using ih hagree₁

/-- **The two maps hold the same requests.**  No sequence of calls fails an assertion, after each
one the maps describe the same requests, and a call that then returns an error changes neither map.
-/
theorem same_requests (calls : List Call) :
    ∃ self, runAll (fun self c ↦ Prod.snd <$> self.call c) empty calls = .ok self ∧
      self.requestsByTimer = self.requestsByNonce ∧
      ∀ c, ∃ failed self', self.call c = .ok (failed, self') ∧ (failed = true → self' = self) := by
  obtain ⟨self, h, hagree⟩ := runAll_agree agree_empty calls
  refine ⟨self, h, Set.ext fun req ↦ hagree _ _ _, fun c ↦ ?_⟩
  obtain ⟨failed, self', hcall, -, hsame⟩ := call_eq hagree c
  exact ⟨failed, self', hcall, hsame⟩

end InflightReqMap

end Kira
