-- The locks of the pending shards. A drain holds the locks that it took and did not
-- give back, so at most one drain has events in its hands at a time: the one that
-- has the last lock.
import StatsigCore.EventLogging.ShardedQueue

open Function

namespace statsig_rust.event_logging

variable {shard_count : Nat} {Q D : Type}

/-! ## Who holds the locks -/

/-- The drain that holds the lock. -/
def Guard.drainer : Guard Q D → Option D
  | .drain drainer => some drainer
  | _ => none

/-- The lock belongs to an add. -/
def Guard.of_add : Guard Q D → Bool
  | .free | .drain _ => false
  | _ => true

/-- The locks that a drain holds. -/
def Drain.holds : Drain shard_count Q → Fin shard_count → Prop
  | .idle, _ => False
  | .collecting collected, shard => shard < collected
  | .taken _, _ => True
  | .releasing released _, shard => released ≤ shard

/-- Each drain holds the locks that it took and did not give back. -/
def locks_owned (queue : ShardedQueue shard_count Q D) : Prop :=
  ∀ drainer shard, (queue.guards shard).drainer = some drainer ↔ (queue.drains drainer).holds shard

section Locks

variable {queue after : ShardedQueue shard_count Q D}

theorem update_drainer_self (guards : Fin shard_count → Guard Q D) (shard : Fin shard_count)
    (guard : Guard Q D) : (update guards shard guard shard).drainer = guard.drainer := by
  rw [update_self]

theorem update_keeps_drainers {shard : Fin shard_count} {guard : Guard Q D}
    (h : guard.drainer = (queue.guards shard).drainer) (other : Fin shard_count) :
    (update queue.guards shard guard other).drainer = (queue.guards other).drainer := by
  by_cases hother : other = shard
  · subst hother
    rw [update_self, h]
  · rw [update_of_ne hother]

/-- An add never touches the lock of a drain. -/
theorem add_keeps_drainers [NeZero shard_count] {action : ShardAction shard_count Q D}
    (h : AddStep queue action after) :
    after.drains = queue.drains ∧
      ∀ shard, (after.guards shard).drainer = (queue.guards shard).drainer := by
  cases h with
  | begin_add => exact ⟨rfl, fun _ => rfl⟩
  | lock _ hguard | stamp hguard | push hguard | count hguard | pop hguard | pass hguard
  | lower hguard | leave hguard =>
    exact ⟨rfl, update_keeps_drainers (by rw [hguard]; rfl)⟩

theorem add_keeps_locks [NeZero shard_count] {action : ShardAction shard_count Q D}
    (hlocks : locks_owned queue) (h : AddStep queue action after) : locks_owned after := by
  obtain ⟨hdrains, hguards⟩ := add_keeps_drainers h
  intro drainer shard
  rw [hdrains, hguards]
  exact hlocks drainer shard

variable [DecidableEq D] {drainer : D} {phase : Drain shard_count Q}

/-- A drain moves on and holds the same locks as before. -/
theorem locks_owned_of_phase (hlocks : locks_owned queue)
    (hphase : ∀ shard, (queue.drains drainer).holds shard ↔ phase.holds shard)
    (hguards : after.guards = queue.guards)
    (hdrains : after.drains = update queue.drains drainer phase) : locks_owned after := by
  intro other shard
  rw [hguards, hdrains, hlocks]
  by_cases hother : other = drainer
  · subst hother
    rw [update_self]
    exact hphase shard
  · rw [update_of_ne hother]

/-- A drain moves on, and one lock goes to it or comes back from it. -/
theorem locks_owned_of_lock {shard : Fin shard_count} {guard : Guard Q D}
    (hlocks : locks_owned queue)
    (hmine : ∀ other ≠ drainer, (queue.guards shard).drainer ≠ some other ∧
      guard.drainer ≠ some other)
    (hshard : guard.drainer = some drainer ↔ phase.holds shard)
    (hrest : ∀ place ≠ shard, (queue.drains drainer).holds place ↔ phase.holds place)
    (hguards : after.guards = update queue.guards shard guard)
    (hdrains : after.drains = update queue.drains drainer phase) : locks_owned after := by
  intro other place
  rw [hguards, hdrains]
  by_cases hother : other = drainer <;> by_cases hplace : place = shard
  · subst hother hplace
    rw [update_self, update_self]
    exact hshard
  · subst hother
    rw [update_self, update_of_ne hplace, hlocks]
    exact hrest place hplace
  · subst hplace
    rw [update_self, update_of_ne hother]
    refine iff_of_false (hmine other hother).2 fun hholds => ?_
    exact (hmine other hother).1 ((hlocks other place).mpr hholds)
  · rw [update_of_ne hother, update_of_ne hplace]
    exact hlocks other place

theorem drain_keeps_locks (hlocks : locks_owned queue) (h : DrainStep queue after) :
    locks_owned after := by
  cases h with
  | begin_drain hdrain =>
    refine locks_owned_of_phase hlocks (fun shard => ?_) rfl rfl
    rw [hdrain]
    exact iff_of_false id (Nat.not_lt_zero _)
  | @collect drainer shard hdrain hguard =>
    refine locks_owned_of_lock hlocks (fun other hother => ?_) ?_ (fun place hplace => ?_) rfl rfl
    · rw [hguard]
      exact ⟨nofun, fun heq => hother (Option.some.inj heq).symm⟩
    · exact iff_of_true rfl (Nat.lt_succ_self _)
    · have hne : place.val ≠ shard.val := fun heq => hplace (Fin.ext heq)
      rw [hdrain]
      show place.val < shard.val ↔ place.val < shard.val + 1
      omega
  | take hdrain hall =>
    refine locks_owned_of_phase hlocks (fun shard => ?_) rfl rfl
    rw [hdrain]
    exact iff_of_true (Nat.lt_of_lt_of_le shard.isLt hall) trivial
  | lower hdrain =>
    refine locks_owned_of_phase hlocks (fun shard => ?_) rfl rfl
    rw [hdrain]
    exact iff_of_true trivial (Nat.zero_le _)
  | @release drainer shard buffers hdrain hmore =>
    have hmine : (queue.guards shard).drainer = some drainer := by
      rw [hlocks, hdrain]
      exact Nat.le_refl _
    refine locks_owned_of_lock hlocks (fun other hother => ?_) ?_ (fun place hplace => ?_) rfl rfl
    · rw [hmine]
      exact ⟨fun heq => hother (Option.some.inj heq).symm, nofun⟩
    · exact iff_of_false nofun (Nat.not_succ_le_self _)
    · have hne : place.val ≠ shard.val := fun heq => hplace (Fin.ext heq)
      rw [hdrain]
      show shard.val ≤ place.val ↔ shard.val + 1 ≤ place.val
      omega
  | @finish drainer shard buffers hdrain hlast =>
    have hmine : (queue.guards shard).drainer = some drainer := by
      rw [hlocks, hdrain]
      exact Nat.le_refl _
    refine locks_owned_of_lock hlocks (fun other hother => ?_) ?_ (fun place hplace => ?_) rfl rfl
    · rw [hmine]
      exact ⟨fun heq => hother (Option.some.inj heq).symm, nofun⟩
    · exact iff_of_false nofun id
    · have hne : place.val ≠ shard.val := fun heq => hplace (Fin.ext heq)
      rw [hdrain]
      refine iff_of_false (fun hholds : shard.val ≤ place.val => ?_) id
      omega

end Locks

/-! ## The buffers that a drain has taken -/

/-- The buffers that a drain took and did not return yet. -/
def Drain.carried : Drain shard_count Q → Fin shard_count → List (SequencedEvent Q)
  | .taken buffers | .releasing _ buffers => buffers
  | .idle | .collecting _ => fun _ => []

/-- The number of events that a drain took and did not take off the count yet. -/
def Drain.uncounted : Drain shard_count Q → Nat
  | .taken buffers => ShardedQueue.drained_count buffers
  | _ => 0

section SameAdds

variable {queue : ShardedQueue shard_count Q D}

/-- The locks differ at most between free ones and those of drains. -/
def same_adds (before guards : Fin shard_count → Guard Q D) : Prop :=
  ∀ shard, guards shard = before shard ∨
    (guards shard).of_add = false ∧ (before shard).of_add = false

theorem same_adds_refl (guards : Fin shard_count → Guard Q D) : same_adds guards guards :=
  fun _ => .inl rfl

theorem same_adds_update {shard : Fin shard_count} {guard : Guard Q D}
    (hold : (queue.guards shard).of_add = false) (hnew : guard.of_add = false) :
    same_adds queue.guards (update queue.guards shard guard) := by
  intro other
  by_cases hother : other = shard
  · subst hother
    rw [update_self]
    exact .inr ⟨hnew, hold⟩
  · rw [update_of_ne hother]
    exact .inl rfl

theorem not_of_add_of_drainer {guard : Guard Q D} {drainer : D} (h : guard.drainer = some drainer) :
    guard.of_add = false := by
  cases guard with
  | drain => rfl
  | _ => cases h

end SameAdds

section Carrier

variable [NeZero shard_count]

def last_shard (shard_count : Nat) [NeZero shard_count] : Fin shard_count := Fin.rev 0

theorem le_last_shard (shard : Fin shard_count) : shard ≤ last_shard shard_count := by
  have hlast : (last_shard shard_count).val = shard_count - (0 + 1) := Fin.val_rev 0
  show shard.val ≤ (last_shard shard_count).val
  omega

/-- The drain that holds the last lock. No other drain has any buffers: they are taken
under all the locks, and the last lock is given back with the return. -/
def last_holder (guards : Fin shard_count → Guard Q D) (drains : D → Drain shard_count Q) :
    Drain shard_count Q :=
  match (guards (last_shard shard_count)).drainer with
  | some drainer => drains drainer
  | none => .idle

def ShardedQueue.carrier (queue : ShardedQueue shard_count Q D) : Drain shard_count Q :=
  last_holder queue.guards queue.drains

/-- What a step of a drain does, as far as the adds and the buffers are concerned. -/
inductive DrainEffect (queue : ShardedQueue shard_count Q D) : ShardedQueue shard_count Q D → Prop
  | quiet (guards : Fin shard_count → Guard Q D) (drains : D → Drain shard_count Q)
      (hguards : same_adds queue.guards guards)
      (hcarried : (last_holder guards drains).carried = queue.carrier.carried)
      (huncounted : (last_holder guards drains).uncounted = queue.carrier.uncounted) :
      DrainEffect queue { queue with guards, drains }
  | take (drains : D → Drain shard_count Q) (hguards : ∀ shard, (queue.guards shard).of_add = false)
      (hbefore : queue.carrier.carried = fun _ => []) (hnone : queue.carrier.uncounted = 0)
      (hcarrier : last_holder queue.guards drains = .taken queue.pending_shards) :
      DrainEffect queue { queue with drains, pending_shards := fun _ => [] }
  | lower (drains : D → Drain shard_count Q)
      (hcarried : (last_holder queue.guards drains).carried = queue.carrier.carried)
      (hnone : (last_holder queue.guards drains).uncounted = 0) :
      DrainEffect queue
        { queue with drains, pending_count := queue.pending_count - queue.carrier.uncounted }
  | finish (guards : Fin shard_count → Guard Q D) (drains : D → Drain shard_count Q)
      (hguards : same_adds queue.guards guards) (hnone : queue.carrier.uncounted = 0)
      (hcarrier : last_holder guards drains = .idle) :
      DrainEffect queue { queue with
        guards, drains, outputs := queue.outputs ++ [ShardedQueue.sorted queue.carrier.carried] }

section LastHolder

variable {guards : Fin shard_count → Guard Q D} {drains : D → Drain shard_count Q} {drainer : D}

theorem last_holder_eq (h : (guards (last_shard shard_count)).drainer = some drainer) :
    last_holder guards drains = drains drainer := by
  unfold last_holder
  rw [h]

theorem last_holder_none (h : (guards (last_shard shard_count)).drainer = none) :
    last_holder guards drains = .idle := by
  unfold last_holder
  rw [h]

/-- The last lock is not with the drain that moves on. -/
theorem last_holder_other [DecidableEq D]
    (h : (guards (last_shard shard_count)).drainer ≠ some drainer) (phase : Drain shard_count Q) :
    last_holder guards (update drains drainer phase) = last_holder guards drains := by
  cases hlast : (guards (last_shard shard_count)).drainer with
  | none => rw [last_holder_none hlast, last_holder_none hlast]
  | some other =>
    have hother : other ≠ drainer := fun heq => h (heq ▸ hlast)
    rw [last_holder_eq hlast, last_holder_eq hlast, update_of_ne hother]

end LastHolder

variable {queue after : ShardedQueue shard_count Q D}

theorem add_keeps_carrier {action : ShardAction shard_count Q D} (h : AddStep queue action after) :
    after.carrier = queue.carrier := by
  obtain ⟨hdrains, hguards⟩ := add_keeps_drainers h
  unfold ShardedQueue.carrier last_holder
  rw [hdrains, hguards]

variable [DecidableEq D] {drainer : D} {shard : Fin shard_count}
  {buffers : Fin shard_count → List (SequencedEvent Q)}

theorem collect_is_quiet (hlocks : locks_owned queue)
    (hdrain : queue.drains drainer = .collecting shard) (hguard : queue.guards shard = .free) :
    DrainEffect queue ((queue.hold shard (queue.pending_shards shard) (.drain drainer)).set_drain
      drainer (.collecting (shard + 1))) := by
  rw [ShardedQueue.hold_same]
  have hadds : same_adds queue.guards (update queue.guards shard (.drain drainer)) :=
    same_adds_update (by rw [hguard]; rfl) rfl
  have hsame : (last_holder (update queue.guards shard (.drain drainer))
        (update queue.drains drainer (.collecting (shard + 1)))).carried = queue.carrier.carried ∧
      (last_holder (update queue.guards shard (.drain drainer))
        (update queue.drains drainer (.collecting (shard + 1)))).uncounted =
          queue.carrier.uncounted := by
    unfold ShardedQueue.carrier
    by_cases hlast : last_shard shard_count = shard
    · -- the drain now has the last lock, and nothing in its hands
      subst hlast
      rw [last_holder_eq (update_drainer_self queue.guards _ (.drain drainer)), update_self,
        last_holder_none (by rw [hguard]; rfl)]
      exact ⟨rfl, rfl⟩
    · have hother : (update queue.guards shard (.drain drainer) (last_shard _)).drainer ≠
          some drainer := by
        rw [update_of_ne hlast, ne_eq, hlocks, hdrain]
        exact Nat.not_lt.mpr (le_last_shard shard)
      rw [last_holder_other hother]
      unfold last_holder
      rw [update_of_ne hlast]
      exact ⟨rfl, rfl⟩
  exact .quiet _ _ hadds hsame.1 hsame.2

theorem release_is_quiet (hlocks : locks_owned queue)
    (hdrain : queue.drains drainer = .releasing shard buffers) (hmore : shard + 1 < shard_count) :
    DrainEffect queue ((queue.hold shard (queue.pending_shards shard) .free).set_drain drainer
      (.releasing (shard + 1) buffers)) := by
  rw [ShardedQueue.hold_same]
  have hmine (place) (hplace : shard ≤ place) : (queue.guards place).drainer = some drainer := by
    rw [hlocks, hdrain]
    exact hplace
  have hlast : last_shard shard_count ≠ shard := by
    rintro heq
    have hnext := le_last_shard ⟨shard + 1, hmore⟩
    rw [heq] at hnext
    exact Nat.not_succ_le_self _ hnext
  have hadds : same_adds queue.guards (update queue.guards shard .free) :=
    same_adds_update (not_of_add_of_drainer (hmine shard (le_refl _))) rfl
  have hbefore : queue.carrier = .releasing shard buffers :=
    (last_holder_eq (hmine _ (le_last_shard shard))).trans hdrain
  have hafter : (update queue.guards shard .free (last_shard _)).drainer = some drainer := by
    rw [update_of_ne hlast, hmine _ (le_last_shard shard)]
  refine .quiet (update queue.guards shard .free)
    (update queue.drains drainer (.releasing (shard + 1) buffers)) hadds ?_ ?_
  · rw [last_holder_eq hafter, update_self, hbefore]
    rfl
  · rw [last_holder_eq hafter, update_self, hbefore]
    rfl

theorem finish_returns_the_buffers (hlocks : locks_owned queue)
    (hdrain : queue.drains drainer = .releasing shard buffers) (hlast : shard + 1 = shard_count) :
    DrainEffect queue
      { (queue.hold shard (queue.pending_shards shard) .free).set_drain drainer .idle with
        outputs := queue.outputs ++ [ShardedQueue.sorted buffers] } := by
  rw [ShardedQueue.hold_same]
  have hmine : (queue.guards shard).drainer = some drainer := by
    rw [hlocks, hdrain]
    exact Nat.le_refl _
  have hshard : last_shard shard_count = shard := by
    refine le_antisymm ?_ (le_last_shard shard)
    show (last_shard shard_count).val ≤ shard.val
    have hless := (last_shard shard_count).isLt
    omega
  have hcarrier : queue.carrier = .releasing shard buffers :=
    (last_holder_eq (hshard ▸ hmine)).trans hdrain
  have hbuffers : buffers = queue.carrier.carried := by
    rw [hcarrier]
    rfl
  rw [hbuffers]
  refine .finish (update queue.guards shard .free) (update queue.drains drainer .idle)
    (same_adds_update (not_of_add_of_drainer hmine) rfl) ?_ (last_holder_none ?_)
  · rw [hcarrier]
    rfl
  · rw [hshard]
    exact update_drainer_self queue.guards shard .free

theorem drain_effect (hlocks : locks_owned queue) (h : DrainStep queue after) :
    DrainEffect queue after := by
  cases h with
  | @begin_drain drainer hdrain =>
    have hother : (queue.guards (last_shard shard_count)).drainer ≠ some drainer := by
      rw [ne_eq, hlocks, hdrain]
      exact id
    refine .quiet queue.guards (update queue.drains drainer (.collecting 0))
      (same_adds_refl _) ?_ ?_
    · exact congrArg Drain.carried (last_holder_other hother _)
    · exact congrArg Drain.uncounted (last_holder_other hother _)
  | collect hdrain hguard => exact collect_is_quiet hlocks hdrain hguard
  | @take drainer taken hdrain hall =>
    have hmine (shard) : (queue.guards shard).drainer = some drainer := by
      rw [hlocks, hdrain]
      exact Nat.lt_of_lt_of_le shard.isLt hall
    have hcarrier : queue.carrier = .collecting taken := (last_holder_eq (hmine _)).trans hdrain
    refine .take (update queue.drains drainer (.taken queue.pending_shards))
      (fun shard => not_of_add_of_drainer (hmine shard)) ?_ ?_ ?_
    · rw [hcarrier]
      rfl
    · rw [hcarrier]
      rfl
    · rw [last_holder_eq (hmine _), update_self]
  | @lower drainer buffers hdrain =>
    have hmine : (queue.guards (last_shard shard_count)).drainer = some drainer := by
      rw [hlocks, hdrain]
      trivial
    have hcarrier : queue.carrier = .taken buffers := (last_holder_eq hmine).trans hdrain
    have huncounted : ShardedQueue.drained_count buffers = queue.carrier.uncounted := by
      rw [hcarrier]
      rfl
    rw [huncounted]
    refine .lower (update queue.drains drainer (.releasing 0 buffers)) ?_ ?_
    · rw [last_holder_eq hmine, update_self, hcarrier]
      rfl
    · rw [last_holder_eq hmine, update_self]
      rfl
  | release hdrain hmore => exact release_is_quiet hlocks hdrain hmore
  | finish hdrain hlast => exact finish_returns_the_buffers hlocks hdrain hlast

end Carrier

end statsig_rust.event_logging
