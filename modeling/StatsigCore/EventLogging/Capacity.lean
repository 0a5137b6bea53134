-- How many events the shards can hold. An event that an add is sure to evict again
-- does not count: the others never exceed the limit by more than one per shard, and
-- they do not exceed it at all when the adds come one after the other.
import Mathlib.Algebra.Order.BigOperators.Group.Finset
import StatsigCore.EventLogging.Interleaving

open Function machine

namespace statsig_rust.event_logging

variable {shard_count : Nat} {Q D : Type}

/-- The length of a shard, less the one event that its add has not counted yet or is
about to evict. -/
def settled (max_pending_events : Nat) (guard : Guard Q D) (events : List (SequencedEvent Q)) :
    Nat :=
  match guard with
  | .pushed => events.length - 1
  | .counted total =>
    if total > max_pending_events ∧ 1 < events.length then events.length - 1 else events.length
  | _ => events.length

def ShardedQueue.settled (queue : ShardedQueue shard_count Q D) (shard : Fin shard_count) : Nat :=
  event_logging.settled queue.max_pending_events (queue.guards shard) (queue.pending_shards shard)

/-! ## Sums -/

theorem sum_one_more (f : Fin shard_count → Nat) (shard : Fin shard_count) :
    ∑ other, update f shard (f shard + 1) other = ∑ other, f other + 1 := by
  rw [Finset.sum_update_of_mem (Finset.mem_univ shard), add_right_comm,
    ← Finset.sum_eq_add_sum_sdiff_singleton_of_mem (Finset.mem_univ shard)]

/-- At most all the other shards are raised to one event. -/
theorem sum_at_least_one {f : Fin shard_count → Nat} {shard : Fin shard_count} (h : 1 ≤ f shard) :
    ∑ other, max (f other) 1 + 1 ≤ ∑ other, f other + shard_count := by
  have heach (other : Fin shard_count) :
      max (f other) 1 + (if other = shard then 1 else 0) ≤ f other + 1 := by
    split
    next heq =>
      rw [heq]
      omega
    next => omega
  have hsum := Finset.sum_le_sum fun other (_ : other ∈ Finset.univ) => heach other
  rw [Finset.sum_add_distrib, Finset.sum_add_distrib, Finset.sum_ite_eq' Finset.univ shard,
    if_pos (Finset.mem_univ shard), Finset.sum_const, Finset.card_univ, Fintype.card_fin,
    smul_eq_mul, mul_one] at hsum
  exact hsum

/-! ## The steps -/

section Steps

variable [NeZero shard_count] {queue after : ShardedQueue shard_count Q D}
  {action : ShardAction shard_count Q D}

omit [NeZero shard_count] in
theorem settled_le_counted {max_pending_events : Nat} {guard : Guard Q D}
    {events : List (SequencedEvent Q)} (hfit : guard.fits events) :
    (settled max_pending_events guard events : Int) ≤ counted guard events := by
  unfold settled counted Guard.slack
  cases guard with
  | pushed =>
    have hpos := List.length_pos_of_ne_nil hfit
    dsimp only
    omega
  | counted total =>
    dsimp only
    split <;> omega
  | _ =>
    dsimp only
    omega

theorem settled_le_count (hledger : Ledger queue) :
    (∑ shard, queue.settled shard : Nat) ≤ queue.pending_count := by
  rw [hledger.count, Nat.cast_sum]
  refine le_add_of_le_of_nonneg ?_ (Int.natCast_nonneg _)
  exact Finset.sum_le_sum fun shard _ => settled_le_counted (hledger.fit shard)

omit [NeZero shard_count] in
theorem settled_hold {shard : Fin shard_count} {guard : Guard Q D}
    {events : List (SequencedEvent Q)}
    (h : settled queue.max_pending_events guard events = queue.settled shard) :
    (queue.hold shard events guard).settled = queue.settled := by
  funext other
  unfold ShardedQueue.settled
  dsimp only [ShardedQueue.hold]
  by_cases hother : other = shard
  · subst hother
    rw [update_self, update_self]
    exact h
  · rw [update_of_ne hother, update_of_ne hother]

/-- Only the step that counts an event can settle it. -/
theorem add_keeps_settled (h : AddStep queue action after)
    (hcount : ∀ shard, action = .advance shard → queue.guards shard ≠ .pushed) :
    after.settled = queue.settled := by
  cases h with
  | begin_add => rfl
  | lock _ hguard | stamp hguard | lower hguard | leave hguard =>
    exact settled_hold (by unfold ShardedQueue.settled; rw [hguard]; rfl)
  | push hguard =>
    refine settled_hold ?_
    unfold ShardedQueue.settled
    rw [hguard]
    exact congrArg (· - 1) List.length_append
  | count hguard => exact absurd hguard (hcount _ rfl)
  | pop hguard hevents hrest hfull =>
    refine settled_hold ?_
    have hpos := List.length_pos_of_ne_nil hrest
    unfold ShardedQueue.settled
    rw [hguard, hevents]
    exact (if_pos ⟨hfull, Nat.succ_lt_succ hpos⟩).symm
  | pass hguard hroom =>
    refine settled_hold ?_
    unfold ShardedQueue.settled
    rw [hguard]
    exact (if_neg fun hfull => Nat.not_lt_of_le (hroom hfull.1) hfull.2).symm

omit [NeZero shard_count] in
/-- An event that is counted stays if the limit allows it or if it is the only one of
its shard. Otherwise an older one is going to be evicted. -/
theorem count_settles {shard : Fin shard_count} (hguard : queue.guards shard = .pushed)
    (hfit : guards_fit queue)
    (hafter : after = { queue.hold shard (queue.pending_shards shard)
      (.counted (queue.pending_count + 1)) with pending_count := queue.pending_count + 1 }) :
    (after.settled = queue.settled ∧ 1 ≤ queue.settled shard) ∨
    (after.settled = update queue.settled shard (queue.settled shard + 1) ∧
      (after.pending_count ≤ queue.max_pending_events ∨ queue.settled shard = 0)) := by
  have hbefore : queue.settled shard = (queue.pending_shards shard).length - 1 := by
    unfold ShardedQueue.settled
    rw [hguard]
    rfl
  have hpos : 0 < (queue.pending_shards shard).length := by
    have hshard := hfit shard
    rw [hguard] at hshard
    exact List.length_pos_of_ne_nil hshard
  have hothers (other) (hother : other ≠ shard) : after.settled other = queue.settled other := by
    rw [hafter]
    unfold ShardedQueue.settled
    dsimp only [ShardedQueue.hold]
    rw [update_of_ne hother, update_of_ne hother]
  have hself : after.settled shard =
      if queue.pending_count + 1 > queue.max_pending_events ∧ 1 < (queue.pending_shards shard).length
      then (queue.pending_shards shard).length - 1 else (queue.pending_shards shard).length := by
    rw [hafter]
    unfold ShardedQueue.settled
    dsimp only [ShardedQueue.hold]
    rw [update_self, update_self]
    rfl
  split at hself
  next hfull =>
    refine .inl ⟨funext fun other => ?_, by omega⟩
    by_cases hother : other = shard
    · rw [hother, hself, hbefore]
    · exact hothers other hother
  next hstays =>
    refine .inr ⟨funext fun other => ?_, ?_⟩
    · by_cases hother : other = shard
      · rw [hother, hself, update_self]
        omega
      · rw [update_of_ne hother]
        exact hothers other hother
    · have hcount : after.pending_count = queue.pending_count + 1 := by rw [hafter]
      omega

theorem advance_pushed [DecidableEq D] {shard : Fin shard_count}
    (hguard : queue.guards shard = .pushed) (h : queue.step (.advance shard) = some after) :
    after = { queue.hold shard (queue.pending_shards shard)
      (.counted (queue.pending_count + 1)) with pending_count := queue.pending_count + 1 } := by
  change queue.advance shard = some after at h
  unfold ShardedQueue.advance at h
  rw [hguard] at h
  exact (Option.some.inj h).symm

theorem settled_of_drain {max_pending_events : Nat} {guard : Guard Q D} (h : guard.of_add = false)
    (events : List (SequencedEvent Q)) :
    settled max_pending_events guard events = events.length := by
  cases guard with
  | free | drain => rfl
  | _ => cases h

theorem drain_settles (h : DrainEffect queue after) :
    after.settled = queue.settled ∨ ∀ shard, after.settled shard = 0 := by
  cases h with
  | quiet guards drains hguards | finish guards drains hguards =>
    refine .inl (funext fun shard => ?_)
    unfold ShardedQueue.settled
    dsimp only
    rcases hguards shard with heq | ⟨hafter, hbefore⟩
    · rw [heq]
    · rw [settled_of_drain hafter, settled_of_drain hbefore]
  | take drains hguards => exact .inr fun shard => settled_of_drain (hguards shard) []
  | lower => exact .inl rfl

theorem limit_stays [DecidableEq D] (h : queue.step action = some after) :
    after.max_pending_events = queue.max_pending_events := by
  rcases step_cases h with hadd | hdrain
  · cases hadd with
    | _ => rfl
  · cases hdrain with
    | _ => rfl

/-! ## The limit under any interleaving -/

/-- The limit, and one event that is never evicted by its own add. -/
def ShardedQueue.capacity (queue : ShardedQueue shard_count Q D) : Nat :=
  max queue.max_pending_events 1

def within_capacity (queue : ShardedQueue shard_count Q D) : Prop :=
  ∑ shard, max (queue.settled shard) 1 + 1 ≤ queue.capacity + shard_count

theorem within_capacity_of_count (hledger : Ledger after) (shard : Fin shard_count)
    (hshard : 1 ≤ after.settled shard) (hcount : after.pending_count ≤ after.max_pending_events) :
    within_capacity after := by
  have hsettled := settled_le_count hledger
  have hsum := sum_at_least_one hshard
  unfold within_capacity ShardedQueue.capacity
  omega

omit [NeZero shard_count] in
theorem within_capacity_of_empty (hzero : ∀ shard, queue.settled shard = 0) :
    within_capacity queue := by
  have hsum : ∑ shard, max (queue.settled shard) 1 = shard_count := by
    rw [Finset.sum_congr rfl fun shard _ => congrArg (max · 1) (hzero shard)]
    exact (Finset.sum_const 1).trans ((Nat.mul_one _).trans (Finset.card_fin _))
  unfold within_capacity ShardedQueue.capacity
  omega

/-- The limit is exceeded by at most one event per shard but one. -/
theorem step_keeps_capacity [DecidableEq D] (hledger : Ledger queue) (hcap : within_capacity queue)
    (h : queue.step action = some after) : within_capacity after := by
  have hlimit := limit_stays h
  have hsame (heq : ∀ shard, max (after.settled shard) 1 = max (queue.settled shard) 1) :
      within_capacity after := by
    unfold within_capacity ShardedQueue.capacity at hcap ⊢
    rw [hlimit, Finset.sum_congr rfl fun shard _ => heq shard]
    exact hcap
  rcases step_cases h with hadd | hdrain
  · by_cases hcount : ∀ shard, action = .advance shard → queue.guards shard ≠ .pushed
    · exact hsame fun shard => by rw [add_keeps_settled hadd hcount]
    · push Not at hcount
      obtain ⟨shard, rfl, hguard⟩ := hcount
      rcases count_settles hguard hledger.fit (advance_pushed hguard h) with
        ⟨heq, -⟩ | ⟨heq, hroom | hempty⟩
      · exact hsame fun shard => by rw [heq]
      · refine within_capacity_of_count (step_keeps_ledger hledger h) shard ?_ ?_
        · rw [heq, update_self]
          exact Nat.succ_pos _
        · rw [hlimit]
          exact hroom
      · refine hsame fun other => ?_
        rw [heq]
        by_cases hother : other = shard
        · rw [hother, update_self, hempty]
          rfl
        · rw [update_of_ne hother]
  · rcases drain_settles (drain_effect hledger.locks hdrain) with heq | hzero
    · exact hsame fun shard => by rw [heq]
    · exact within_capacity_of_empty hzero

/-! ## The limit when the adds come one after the other -/

/-- An add whose event is not counted yet. -/
def Guard.undecided : Guard Q D → Bool
  | .locked _ | .stamped _ _ | .pushed => true
  | _ => false

/-- Where the adds are: `done` of them have counted their events, and at most one more
has begun. -/
inductive Turn (queue : ShardedQueue shard_count Q D) (done : Nat) : Prop
  | between (hnext : queue.next_shard = done) (hwaiting : queue.waiting = [])
      (hguards : ∀ shard, (queue.guards shard).undecided = false)
  | waiting (pending_event : Q) (hnext : queue.next_shard = done + 1)
      (hwaiting : queue.waiting = [(Fin.ofNat shard_count done, pending_event)])
      (hguards : ∀ shard, (queue.guards shard).undecided = false)
  | inside (hnext : queue.next_shard = done + 1) (hwaiting : queue.waiting = [])
      (hguards : ∀ shard,
        (queue.guards shard).undecided = true ↔ shard = Fin.ofNat shard_count done)

/-- An add begins when no other add is under way. -/
def one_at_a_time (queue : ShardedQueue shard_count Q D) :
    ShardAction shard_count Q D → Prop
  | .begin_add _ => queue.waiting = [] ∧ ∀ shard, (queue.guards shard).of_add = false
  | _ => True

theorem turn_of_same {done : Nat} (hturn : Turn queue done)
    (hnext : after.next_shard = queue.next_shard) (hwaiting : after.waiting = queue.waiting)
    (hguards : ∀ shard, (after.guards shard).undecided = (queue.guards shard).undecided) :
    Turn after done := by
  cases hturn with
  | between hnext' hwaiting' hguards' =>
    exact .between (hnext.trans hnext') (hwaiting.trans hwaiting') fun shard =>
      (hguards shard).trans (hguards' shard)
  | waiting pending_event hnext' hwaiting' hguards' =>
    exact .waiting pending_event (hnext.trans hnext') (hwaiting.trans hwaiting') fun shard =>
      (hguards shard).trans (hguards' shard)
  | inside hnext' hwaiting' hguards' =>
    refine .inside (hnext.trans hnext') (hwaiting.trans hwaiting') fun shard => ?_
    rw [hguards shard]
    exact hguards' shard

omit [NeZero shard_count] in
theorem undecided_update {shard : Fin shard_count} {guard : Guard Q D}
    (h : guard.undecided = (queue.guards shard).undecided) (other : Fin shard_count) :
    (update queue.guards shard guard other).undecided = (queue.guards other).undecided := by
  by_cases hother : other = shard
  · subst hother
    rw [update_self, h]
  · rw [update_of_ne hother]

theorem undecided_of_drain {guard : Guard Q D} (h : guard.of_add = false) :
    guard.undecided = false := by
  cases guard with
  | free | drain => rfl
  | _ => cases h

theorem drain_keeps_turn {done : Nat} (hturn : Turn queue done) (h : DrainEffect queue after) :
    Turn after done := by
  cases h with
  | quiet guards drains hguards | finish guards drains hguards =>
    refine turn_of_same hturn rfl rfl fun shard => ?_
    rcases hguards shard with heq | ⟨hafter, hbefore⟩
    · exact congrArg Guard.undecided heq
    · exact (undecided_of_drain hafter).trans (undecided_of_drain hbefore).symm
  | take | lower => exact turn_of_same hturn rfl rfl fun _ => rfl

theorem add_keeps_turn {done : Nat} (hturn : Turn queue done) (halone : one_at_a_time queue action)
    (h : AddStep queue action after)
    (hcount : ∀ shard, action = .advance shard → queue.guards shard ≠ .pushed) :
    Turn after done := by
  cases h with
  | begin_add pending_event =>
    obtain ⟨hwaiting, hguards⟩ := halone
    cases hturn with
    | between hnext _ hundecided =>
      refine .waiting pending_event (congrArg (· + 1) hnext) ?_ hundecided
      show queue.waiting ++ [(Fin.ofNat shard_count queue.next_shard, pending_event)] = _
      rw [hwaiting, hnext]
      rfl
    | waiting _ _ hwaiting' =>
      rw [hwaiting] at hwaiting'
      cases hwaiting'
    | inside _ _ hundecided =>
      have hdecided := undecided_of_drain (hguards (Fin.ofNat shard_count done))
      rw [(hundecided _).mpr rfl] at hdecided
      cases hdecided
  | @lock add shard pending_event hwait hguard =>
    cases hturn with
    | between _ hwaiting | inside _ hwaiting =>
      rw [hwaiting] at hwait
      cases hwait
    | waiting _ hnext hwaiting hundecided =>
      rw [hwaiting] at hwait
      cases add with
      | succ => cases hwait
      | zero =>
        cases hwait
        refine .inside hnext ?_ fun other => ?_
        · show queue.waiting.eraseIdx 0 = []
          rw [hwaiting]
          rfl
        · show (update queue.guards _ (.locked _) other).undecided = true ↔ _
          by_cases hother : other = Fin.ofNat shard_count done
          · rw [hother, update_self]
            exact iff_of_true rfl rfl
          · rw [update_of_ne hother, hundecided]
            exact iff_of_false Bool.false_ne_true hother
  | stamp hguard | push hguard | pop hguard | pass hguard | lower hguard | leave hguard =>
    exact turn_of_same hturn rfl rfl (undecided_update (by rw [hguard]; rfl))
  | count hguard => exact absurd hguard (hcount _ rfl)

/-- The add that counts its event was the one under way, and it is done then. -/
theorem count_ends_turn {done : Nat} {shard : Fin shard_count} (hturn : Turn queue done)
    (hguard : queue.guards shard = .pushed)
    (hafter : after = { queue.hold shard (queue.pending_shards shard)
      (.counted (queue.pending_count + 1)) with pending_count := queue.pending_count + 1 }) :
    shard = Fin.ofNat shard_count done ∧ Turn after (done + 1) := by
  have hundecided : (queue.guards shard).undecided = true := by
    rw [hguard]
    rfl
  cases hturn with
  | between _ _ hguards | waiting _ _ _ hguards =>
    rw [hguards shard] at hundecided
    cases hundecided
  | inside hnext hwaiting hguards =>
    have hshard := (hguards shard).mp hundecided
    refine ⟨hshard, ?_⟩
    rw [hafter]
    refine .between hnext hwaiting fun other => ?_
    show (update queue.guards shard (.counted _) other).undecided = false
    by_cases hother : other = shard
    · rw [hother, update_self]
      rfl
    · rw [update_of_ne hother, ← Bool.not_eq_true, hguards, ← hshard]
      exact hother

/-- The last adds went to shards that have an event still: as many adds as there are
events. -/
structure Spread (queue : ShardedQueue shard_count Q D) (done : Nat) : Prop where
  turn : Turn queue done
  limit : ∑ shard, queue.settled shard ≤ queue.capacity
  begun : ∑ shard, queue.settled shard ≤ done
  last : ∀ ticket < done, done ≤ ticket + ∑ shard, queue.settled shard →
    1 ≤ queue.settled (Fin.ofNat shard_count ticket)

/-- With an event for each shard, the shard of the next add has one: its last add is
among the last ones. -/
theorem spread_reaches_next {done : Nat} (hspread : Spread queue done)
    (h : shard_count ≤ ∑ shard, queue.settled shard) :
    1 ≤ queue.settled (Fin.ofNat shard_count done) := by
  have hpos := Nat.pos_of_ne_zero (NeZero.ne shard_count)
  have hdone := hspread.begun
  have hticket := hspread.last (done - shard_count) (by omega) (by omega)
  have hsame : Fin.ofNat shard_count (done - shard_count) = Fin.ofNat shard_count done :=
    Fin.ext (Nat.mod_eq_sub_mod (by omega)).symm
  rwa [hsame] at hticket

theorem spread_of_same {done : Nat} (hspread : Spread queue done) (hturn : Turn after done)
    (hlimit : after.max_pending_events = queue.max_pending_events)
    (hsettled : after.settled = queue.settled) : Spread after done := by
  have hcapacity : after.capacity = queue.capacity := congrArg (max · 1) hlimit
  refine ⟨hturn, ?_, ?_, ?_⟩ <;> rw [hsettled]
  · rw [hcapacity]
    exact hspread.limit
  · exact hspread.begun
  · exact hspread.last

theorem spread_of_empty {done : Nat} (hturn : Turn queue done)
    (hzero : ∀ shard, queue.settled shard = 0) : Spread queue done := by
  have hsum : ∑ shard, queue.settled shard = 0 := Finset.sum_eq_zero fun shard _ => hzero shard
  refine ⟨hturn, ?_, ?_, ?_⟩ <;> rw [hsum]
  · exact Nat.zero_le _
  · exact Nat.zero_le _
  · intro ticket hless hlast
    omega

/-- An add evicted an older event for its own. -/
theorem spread_of_evict {done : Nat} (hspread : Spread queue done) (hturn : Turn after (done + 1))
    (hlimit : after.max_pending_events = queue.max_pending_events)
    (hsettled : after.settled = queue.settled)
    (hshard : 1 ≤ queue.settled (Fin.ofNat shard_count done)) : Spread after (done + 1) := by
  have hcapacity : after.capacity = queue.capacity := congrArg (max · 1) hlimit
  refine ⟨hturn, ?_, ?_, ?_⟩ <;> rw [hsettled]
  · rw [hcapacity]
    exact hspread.limit
  · exact Nat.le_succ_of_le hspread.begun
  · intro ticket hless hlast
    rcases Nat.lt_succ_iff_lt_or_eq.mp hless with hbefore | rfl
    · exact hspread.last ticket hbefore (by omega)
    · exact hshard

/-- An add left its event in addition to those that were there. -/
theorem spread_of_more {done : Nat} (hspread : Spread queue done) (hturn : Turn after (done + 1))
    (hlimit : ∑ shard, after.settled shard ≤ after.capacity)
    (hsettled : after.settled = update queue.settled (Fin.ofNat shard_count done)
      (queue.settled (Fin.ofNat shard_count done) + 1)) : Spread after (done + 1) := by
  have hsum : ∑ shard, after.settled shard = ∑ shard, queue.settled shard + 1 := by
    rw [hsettled]
    exact sum_one_more _ _
  refine ⟨hturn, hlimit, ?_, ?_⟩
  · rw [hsum]
    exact Nat.succ_le_succ hspread.begun
  · intro ticket hless hlast
    rw [hsettled]
    by_cases hticket : Fin.ofNat shard_count ticket = Fin.ofNat shard_count done
    · rw [hticket, update_self]
      exact Nat.succ_pos _
    · rw [update_of_ne hticket]
      have hne : ticket ≠ done := fun heq => hticket (congrArg _ heq)
      exact hspread.last ticket (by omega) (by omega)

theorem step_keeps_spread [DecidableEq D] {done : Nat} (hledger : Ledger queue)
    (hshards : shard_count ≤ queue.capacity) (hspread : Spread queue done)
    (halone : one_at_a_time queue action) (h : queue.step action = some after) :
    ∃ done, Spread after done := by
  have hlimit := limit_stays h
  rcases step_cases h with hadd | hdrain
  · by_cases hcount : ∀ shard, action = .advance shard → queue.guards shard ≠ .pushed
    · exact ⟨done, spread_of_same hspread (add_keeps_turn hspread.turn halone hadd hcount) hlimit
        (add_keeps_settled hadd hcount)⟩
    · push Not at hcount
      obtain ⟨shard, rfl, hguard⟩ := hcount
      have hafter := advance_pushed hguard h
      obtain ⟨rfl, hturn⟩ := count_ends_turn hspread.turn hguard hafter
      refine ⟨done + 1, ?_⟩
      rcases count_settles hguard hledger.fit hafter with ⟨heq, hshard⟩ | ⟨heq, hroom⟩
      · exact spread_of_evict hspread hturn hlimit heq hshard
      · refine spread_of_more hspread hturn ?_ heq
        have hcapacity : after.capacity = queue.capacity := congrArg (max · 1) hlimit
        rcases hroom with hroom | hempty
        · have hsettled := settled_le_count (step_keeps_ledger hledger h)
          unfold ShardedQueue.capacity
          omega
        · -- a full queue has an event in each shard, and this one had none
          have hsum : ∑ shard, after.settled shard = ∑ shard, queue.settled shard + 1 := by
            rw [heq]
            exact sum_one_more _ _
          have hshort : ∑ shard, queue.settled shard < shard_count := by
            by_contra hfull
            have hnext := spread_reaches_next hspread (Nat.le_of_not_lt hfull)
            omega
          omega
  · have heffect := drain_effect hledger.locks hdrain
    have hturn := drain_keeps_turn hspread.turn heffect
    rcases drain_settles heffect with heq | hzero
    · exact ⟨done, spread_of_same hspread hturn hlimit heq⟩
    · exact ⟨done, spread_of_empty hturn hzero⟩

end Steps

/-! ## Every run -/

namespace ShardedQueue

/-- No add is under way, and no drain has a lock. -/
def at_rest (queue : ShardedQueue shard_count Q D) : Prop :=
  queue.waiting = [] ∧ ∀ shard, queue.guards shard = .free

/-- The pending events, shard by shard. -/
def pending (queue : ShardedQueue shard_count Q D) : List (SequencedEvent Q) :=
  (List.ofFn queue.pending_shards).flatten

instance [DecidableEq Q] [DecidableEq D] (queue : ShardedQueue shard_count Q D) :
    Decidable queue.at_rest := inferInstanceAs (Decidable (_ ∧ _))

end ShardedQueue

instance [DecidableEq Q] (queue : ShardedQueue shard_count Q D)
    (action : ShardAction shard_count Q D) :
    Decidable (one_at_a_time queue action) :=
  match action with
  | .begin_add _ => inferInstanceAs (Decidable (_ ∧ _))
  | .lock _ | .advance _ | .begin_drain _ | .drain _ => isTrue trivial

section Rest

variable {queue : ShardedQueue shard_count Q D}

theorem pending_eq_gathered (queue : ShardedQueue shard_count Q D) :
    (queue.pending : Multiset (SequencedEvent Q)) = gathered queue.pending_shards :=
  (gathered_eq_flatten _).symm

theorem pending_length (queue : ShardedQueue shard_count Q D) :
    queue.pending.length = ∑ shard, (queue.pending_shards shard).length := by
  rw [← Multiset.coe_card, pending_eq_gathered]
  exact map_sum Multiset.cardHom _ _

theorem not_of_add_at_rest (hrest : queue.at_rest) (shard : Fin shard_count) :
    (queue.guards shard).of_add = false := by
  rw [hrest.2]
  rfl

theorem settled_at_rest (hrest : queue.at_rest) :
    ∑ shard, queue.settled shard = queue.pending.length := by
  rw [pending_length]
  exact Finset.sum_congr rfl fun shard _ => settled_of_drain (not_of_add_at_rest hrest shard) _

variable [NeZero shard_count]

theorem carrier_at_rest (hrest : queue.at_rest) : queue.carrier = .idle :=
  last_holder_none (by rw [hrest.2]; rfl)

theorem count_at_rest (hledger : Ledger queue) (hrest : queue.at_rest) :
    queue.pending_count = queue.pending.length := by
  rw [hledger.count, carrier_at_rest hrest, pending_length, Nat.cast_sum,
    tally_drained (F := counted) (fun _ _ => rfl) (not_of_add_at_rest hrest)]
  exact (add_zero _).trans (Finset.sum_congr rfl fun _ _ => add_zero _)

theorem places_at_rest (hledger : Ledger queue) (hrest : queue.at_rest) :
    queue.added.Perm (queue.pending ++ queue.outputs.flatten ++ queue.reported) := by
  have hplaces := hledger.places
  unfold events_have_places at hplaces
  rw [placed_drained (not_of_add_at_rest hrest), carrier_at_rest hrest,
    show gathered Drain.idle.carried = _ from gathered_empty, add_zero, ← pending_eq_gathered,
    Multiset.coe_add, Multiset.coe_add] at hplaces
  exact Multiset.coe_eq_coe.mp hplaces

theorem adds_at_rest (hledger : Ledger queue) (hrest : queue.at_rest) :
    queue.begun.Perm (queue.added.map Prod.snd) := by
  have hadds := hledger.adds
  unfold adds_have_events at hadds
  rw [hrest.1, tally_drained (F := unpushed) (fun _ _ => rfl) (not_of_add_at_rest hrest),
    show ∑ shard, unpushed (.free : Guard Q D) _ = 0 from Finset.sum_const_zero] at hadds
  exact Multiset.coe_eq_coe.mp (hadds.trans (zero_add _))

omit [NeZero shard_count] in
theorem capacity_at_rest (hcap : within_capacity queue) (hrest : queue.at_rest) :
    queue.pending.length + 1 ≤ max queue.max_pending_events 1 + shard_count := by
  have hsum : ∑ shard, queue.settled shard ≤ ∑ shard, max (queue.settled shard) 1 :=
    Finset.sum_le_sum fun shard _ => Nat.le_max_left _ _
  rw [settled_at_rest hrest] at hsum
  exact Nat.le_trans (Nat.succ_le_succ hsum) hcap

theorem outputs_in_order (hledger : Ledger queue) :
    (queue.outputs.flatten.map Prod.fst).Pairwise (· < ·) :=
  List.pairwise_map.mpr (List.pairwise_append.mp hledger.order.increasing).1

end Rest

section Runs

variable [DecidableEq D] {batch_size max_queue_size : Nat}
  {actions : List (ShardAction (EventQueue.shard_count (batch_size * max_queue_size)) Q D)}
  {queue : ShardedQueue (EventQueue.shard_count (batch_size * max_queue_size)) Q D}

theorem run_keeps_capacity (hrun : run ShardedQueue.step (.new batch_size max_queue_size) actions =
      some queue) :
    Ledger queue ∧ within_capacity queue ∧
      queue.max_pending_events = batch_size * max_queue_size := by
  refine run_invariant (I := fun queue => Ledger queue ∧ within_capacity queue ∧
    queue.max_pending_events = batch_size * max_queue_size) ?_ ?_ hrun
  · rintro before action after ⟨hledger, hcap, hlimit⟩ hstep
    exact ⟨step_keeps_ledger hledger hstep, step_keeps_capacity hledger hcap hstep,
      (limit_stays hstep).trans hlimit⟩
  · exact ⟨ledger_of_start _ _, within_capacity_of_empty fun _ => rfl, rfl⟩

theorem run_keeps_spread (hrun : run ShardedQueue.step (.new batch_size max_queue_size) actions =
      some queue)
    (halone : Along ShardedQueue.step one_at_a_time (.new batch_size max_queue_size) actions) :
    ∃ done, Spread queue done := by
  have hshards : EventQueue.shard_count (batch_size * max_queue_size) ≤
      max (batch_size * max_queue_size) 1 := by
    unfold EventQueue.shard_count
    omega
  refine And.left (run_invariant_along (C := one_at_a_time)
    (I := fun queue => (∃ done, Spread queue done) ∧ Ledger queue ∧
      queue.max_pending_events = batch_size * max_queue_size) ?_ halone ?_ hrun)
  · rintro before action after ⟨⟨done, hspread⟩, hledger, hlimit⟩ halone hstep
    refine ⟨?_, step_keeps_ledger hledger hstep, (limit_stays hstep).trans hlimit⟩
    refine step_keeps_spread hledger ?_ hspread halone hstep
    rw [ShardedQueue.capacity, hlimit]
    exact hshards
  · exact ⟨⟨0, spread_of_empty (.between rfl rfl fun _ => rfl) fun _ => rfl⟩,
      ledger_of_start _ _, rfl⟩

/-- For any queue sizes and any interleaving of adds and drains: the count never falls
below zero, the drains return the events in the order of their numbers, and no number is
given twice. Whenever no add is under way and no drain has a lock, the count is the
number of pending events, every event of an add is pending, was returned by one drain or
was evicted and reported, and the limit is exceeded by less than the number of shards.
With the adds one after the other it is not exceeded. A limit of zero counts as one,
since no add evicts its own event. -/
theorem interleaved_adds_and_drains_keep_the_events
    (hrun : run ShardedQueue.step (.new batch_size max_queue_size) actions = some queue) :
    0 ≤ queue.pending_count ∧
    (queue.outputs.flatten.map Prod.fst).Pairwise (· < ·) ∧
    (queue.added.map Prod.fst).Nodup ∧
    (queue.at_rest →
      queue.pending_count = queue.pending.length ∧
      queue.begun.Perm (queue.added.map Prod.snd) ∧
      queue.added.Perm (queue.pending ++ queue.outputs.flatten ++ queue.reported) ∧
      (queue.results.map QueueAddResult.dropped).sum = queue.reported.length ∧
      queue.pending.length ≤ max (batch_size * max_queue_size) 1 +
        EventQueue.shard_count (batch_size * max_queue_size) - 1 ∧
      (Along ShardedQueue.step one_at_a_time (.new batch_size max_queue_size) actions →
        queue.pending.length ≤ max (batch_size * max_queue_size) 1)) := by
  obtain ⟨hledger, hcap, hlimit⟩ := run_keeps_capacity hrun
  refine ⟨Int.le_trans (Int.natCast_nonneg _) (settled_le_count hledger), outputs_in_order hledger,
    seqs_nodup hledger.sequence, fun hrest => ?_⟩
  refine ⟨count_at_rest hledger hrest, adds_at_rest hledger hrest, places_at_rest hledger hrest,
    hledger.reports, ?_, fun halone => ?_⟩
  · have hpending := capacity_at_rest hcap hrest
    rw [hlimit] at hpending
    exact Nat.le_sub_of_add_le hpending
  · obtain ⟨done, hspread⟩ := run_keeps_spread hrun halone
    have hpending := hspread.limit
    rw [settled_at_rest hrest, ShardedQueue.capacity, hlimit] at hpending
    exact hpending

end Runs

/-- All the steps of an add that finds its lock free and evicts nothing. -/
def whole_add (shard : Fin shard_count) (pending_event : Q) : List (ShardAction shard_count Q D) :=
  [.begin_add pending_event, .lock 0] ++ List.replicate 5 (.advance shard)

/-- Two shards, and room for two events. A drain begins to collect the locks before the
second add, the third add waits for it, and the fifth one evicts the third event. -/
def drain_between_adds : List (ShardAction (EventQueue.shard_count (1 * 2)) Nat Unit) :=
  whole_add 0 10 ++ [.begin_drain (), .drain ()] ++ whole_add 1 11 ++
    [.drain (), .drain (), .begin_add 12, .drain (), .drain (), .lock 0, .drain ()] ++
    List.replicate 5 (.advance 0) ++ whole_add 1 13 ++ whole_add 0 14 ++ [.advance 0]

theorem drain_between_adds_keeps_the_events :
    ∃ queue, run ShardedQueue.step (.new 1 2) drain_between_adds = some queue ∧
      queue.outputs = [[(0, 10), (1, 11)]] ∧ queue.reported = [(2, 12)] ∧
      0 ≤ queue.pending_count ∧ (queue.outputs.flatten.map Prod.fst).Pairwise (· < ·) ∧
      queue.pending_count = queue.pending.length ∧
      queue.added.Perm (queue.pending ++ queue.outputs.flatten ++ queue.reported) ∧
      queue.pending.length ≤ 2 := by
  have hvalue : (run ShardedQueue.step (.new 1 2) drain_between_adds).map
      (fun queue => (decide queue.at_rest, queue.outputs, queue.reported)) =
        some (true, [[(0, 10), (1, 11)]], [(2, 12)]) := by decide +kernel
  have halone : Along ShardedQueue.step one_at_a_time (.new 1 2) drain_between_adds := by
    decide +kernel
  obtain ⟨queue, hrun, hqueue⟩ := Option.map_eq_some_iff.mp hvalue
  obtain ⟨hrest, hqueue⟩ := Prod.mk.inj hqueue
  obtain ⟨houtputs, hreported⟩ := Prod.mk.inj hqueue
  obtain ⟨hcount, horder, -, hkept⟩ := interleaved_adds_and_drains_keep_the_events hrun
  obtain ⟨hlength, -, hplaces, -, -, hlimit⟩ := hkept (of_decide_eq_true hrest)
  exact ⟨queue, hrun, houtputs, hreported, hcount, horder, hlength, hplaces, hlimit halone⟩

/-- A queue with a limit of zero has one shard, and it keeps the event of its only add. -/
theorem empty_limit_keeps_an_event :
    ∃ actions queue, run ShardedQueue.step (.new 10 0) actions = some queue ∧
      Along ShardedQueue.step one_at_a_time (.new 10 0 : ShardedQueue _ Nat Unit) actions ∧
      queue.at_rest ∧ 10 * 0 + EventQueue.shard_count (10 * 0) - 1 < queue.pending.length ∧
      10 * 0 < queue.pending.length := by
  have hvalue : (run ShardedQueue.step (.new 10 0 : ShardedQueue _ Nat Unit) (whole_add 0 7)).map
      (fun queue => (decide queue.at_rest, queue.pending.length)) = some (true, 1) := by
    decide +kernel
  obtain ⟨queue, hrun, hqueue⟩ := Option.map_eq_some_iff.mp hvalue
  obtain ⟨hrest, hlength⟩ := Prod.mk.inj hqueue
  refine ⟨_, queue, hrun, by decide +kernel, of_decide_eq_true hrest, ?_⟩
  rw [hlength]
  decide

end statsig_rust.event_logging
