-- The invariants of the pending shards, in any interleaving of adds and drains.
-- Each event is in one place, and the count of pending events follows the shards.
-- What an add has done and not yet accounted for is read off its lock.
import Mathlib.Tactic.Abel
import StatsigCore.EventLogging.ShardLocks

open Function

namespace statsig_rust.event_logging

variable {shard_count : Nat} {Q D : Type}

/-! ## Sums over the shards -/

/-- The sum of a function of the locks and the shards. -/
def tally {M : Type} [AddCommMonoid M] (F : Guard Q D → List (SequencedEvent Q) → M)
    (guards : Fin shard_count → Guard Q D)
    (shards : Fin shard_count → List (SequencedEvent Q)) : M :=
  ∑ shard, F (guards shard) (shards shard)

/-- A function of a shard that does not tell the locks of drains from free ones. -/
def blind {M : Type} (F : Guard Q D → List (SequencedEvent Q) → M) : Prop :=
  ∀ drainer events, F (.drain drainer) events = F .free events

section Tally

variable {M : Type} [AddCancelCommMonoid M] {F : Guard Q D → List (SequencedEvent Q) → M}
  {guards : Fin shard_count → Guard Q D} {shards : Fin shard_count → List (SequencedEvent Q)}
  {shard : Fin shard_count} {guard : Guard Q D} {events : List (SequencedEvent Q)}

theorem tally_update :
    tally F (update guards shard guard) (update shards shard events) +
        F (guards shard) (shards shard) =
      tally F guards shards + F guard events := by
  have hrest : ∑ other ∈ Finset.univ.erase shard,
        F (update guards shard guard other) (update shards shard events other) =
      ∑ other ∈ Finset.univ.erase shard, F (guards other) (shards other) := by
    refine Finset.sum_congr rfl fun other hother => ?_
    have hne := Finset.ne_of_mem_erase hother
    rw [update_of_ne hne, update_of_ne hne]
  unfold tally
  rw [← Finset.add_sum_erase _ _ (Finset.mem_univ shard), hrest, update_self, update_self,
    ← Finset.add_sum_erase _ (fun other => F (guards other) (shards other)) (Finset.mem_univ shard)]
  abel

/-- What the shard of a step loses and gains, the whole sum does. -/
theorem tally_move (loss gain : M)
    (h : F guard events + loss = F (guards shard) (shards shard) + gain) :
    tally F (update guards shard guard) (update shards shard events) + loss =
      tally F guards shards + gain := by
  refine add_right_cancel (b := F (guards shard) (shards shard)) ?_
  rw [add_right_comm, tally_update, add_assoc, h]
  abel

theorem tally_gain (gain : M) (h : F guard events = F (guards shard) (shards shard) + gain) :
    tally F (update guards shard guard) (update shards shard events) =
      tally F guards shards + gain := by
  have hmove := tally_move 0 gain ((add_zero _).trans h)
  rwa [add_zero] at hmove

theorem tally_same (h : F guard events = F (guards shard) (shards shard)) :
    tally F (update guards shard guard) (update shards shard events) = tally F guards shards := by
  rw [tally_gain 0 (h.trans (add_zero _).symm), add_zero]

end Tally

section Blind

variable {M : Type} {F : Guard Q D → List (SequencedEvent Q) → M}
  {before guards : Fin shard_count → Guard Q D}
  {shards : Fin shard_count → List (SequencedEvent Q)}

theorem blind_eq {guard : Guard Q D} (hF : blind F) (h : guard.of_add = false)
    (events : List (SequencedEvent Q)) : F guard events = F .free events := by
  cases guard with
  | free => rfl
  | drain drainer => exact hF drainer events
  | _ => cases h

variable [AddCommMonoid M]

theorem tally_quiet (hF : blind F) (hguards : same_adds before guards) :
    tally F guards shards = tally F before shards := by
  refine Finset.sum_congr rfl fun shard _ => ?_
  rcases hguards shard with heq | ⟨hafter, hbefore⟩
  · rw [heq]
  · rw [blind_eq hF hafter, blind_eq hF hbefore]

/-- Without an add, only the events of the shards count. -/
theorem tally_drained (hF : blind F) (h : ∀ shard, (guards shard).of_add = false) :
    tally F guards shards = ∑ shard, F .free (shards shard) :=
  Finset.sum_congr rfl fun shard _ => blind_eq hF (h shard) _

theorem tally_start (hF : F .free [] = 0) :
    tally F (fun _ : Fin shard_count => .free) (fun _ => []) = 0 :=
  Finset.sum_eq_zero fun _ _ => hF

end Blind

/-! ## The count of pending events -/

/-- How far the count is from the length of the shard, between the steps of an add. -/
def Guard.slack : Guard Q D → Int
  | .pushed => -1
  | .popped _ => 1
  | _ => 0

/-- What the count has for a shard. -/
def counted (guard : Guard Q D) (events : List (SequencedEvent Q)) : Int :=
  events.length + guard.slack

/-- An event that an add has popped and not yet reported. -/
def Guard.evicted : Guard Q D → List (SequencedEvent Q)
  | .popped oldest => [oldest]
  | .leaving _ dropped => dropped.toList
  | _ => []

/-- The event of an add that is not in the shard yet. -/
def Guard.unpushed : Guard Q D → List Q
  | .locked pending_event | .stamped _ pending_event => [pending_event]
  | _ => []

/-- The sequence number of an event that is not in the shard yet. -/
def Guard.drawn : Guard Q D → List Nat
  | .stamped seq _ => [seq]
  | _ => []

/-- The events of a shard, with the one that its add has popped. -/
def placed (guard : Guard Q D) (events : List (SequencedEvent Q)) : Multiset (SequencedEvent Q) :=
  events + guard.evicted

def unpushed (guard : Guard Q D) (_ : List (SequencedEvent Q)) : Multiset Q := guard.unpushed

def drawn (guard : Guard Q D) (_ : List (SequencedEvent Q)) : Multiset Nat := guard.drawn

/-- The events of the buffers. -/
def gathered (buffers : Fin shard_count → List (SequencedEvent Q)) : Multiset (SequencedEvent Q) :=
  ∑ shard, (buffers shard : Multiset (SequencedEvent Q))

theorem gathered_eq_flatten {n : Nat} (buffers : Fin n → List (SequencedEvent Q)) :
    gathered buffers = (List.ofFn buffers).flatten := by
  induction n with
  | zero => rfl
  | succ n ih =>
    have hrest := ih fun shard => buffers shard.succ
    unfold gathered at hrest ⊢
    rw [Fin.sum_univ_succ, hrest, List.ofFn_succ, List.flatten_cons, Multiset.coe_add]

theorem sorted_keeps_events (buffers : Fin shard_count → List (SequencedEvent Q)) :
    (ShardedQueue.sorted buffers : Multiset (SequencedEvent Q)) = gathered buffers := by
  rw [gathered_eq_flatten]
  exact Multiset.coe_eq_coe.mpr (List.perm_insertionSort _ _)

theorem gathered_empty : gathered (fun _ : Fin shard_count => ([] : List (SequencedEvent Q))) = 0 :=
  Finset.sum_const_zero

/-- Without an add, the events are those of the shards. -/
theorem placed_drained {guards : Fin shard_count → Guard Q D}
    (hguards : ∀ shard, (guards shard).of_add = false)
    (shards : Fin shard_count → List (SequencedEvent Q)) :
    tally placed guards shards = gathered shards := by
  rw [tally_drained (fun _ _ => rfl) hguards]
  exact Finset.sum_congr rfl fun shard _ => add_zero _

theorem sorted_empty :
    ShardedQueue.sorted (fun _ : Fin shard_count => ([] : List (SequencedEvent Q))) = [] := by
  unfold ShardedQueue.sorted
  rw [List.ofFn_const, List.flatten_replicate_nil, List.insertionSort_nil]

theorem mem_sorted {buffers : Fin shard_count → List (SequencedEvent Q)} {event : SequencedEvent Q}
    (h : event ∈ ShardedQueue.sorted buffers) : ∃ shard, event ∈ buffers shard := by
  obtain ⟨events, hevents, hevent⟩ := List.mem_flatten.mp ((List.mem_insertionSort _).mp h)
  obtain ⟨shard, rfl⟩ := List.mem_ofFn.mp hevents
  exact ⟨shard, hevent⟩

/-- Sorting events with different numbers leaves them in strict order. -/
theorem sorted_increasing {buffers : Fin shard_count → List (SequencedEvent Q)}
    (h : ((gathered buffers).map Prod.fst).Nodup) :
    (ShardedQueue.sorted buffers).Pairwise fun first second => first.1 < second.1 := by
  have : Std.Total fun first second : SequencedEvent Q => first.1 ≤ second.1 :=
    ⟨fun first second => Nat.le_total first.1 second.1⟩
  have : IsTrans (SequencedEvent Q) fun first second => first.1 ≤ second.1 :=
    ⟨fun _ _ _ hfirst hsecond => Nat.le_trans hfirst hsecond⟩
  rw [← sorted_keeps_events, Multiset.map_coe, Multiset.coe_nodup] at h
  have hsorted : (ShardedQueue.sorted buffers).Pairwise fun first second => first.1 ≤ second.1 :=
    List.pairwise_insertionSort _ _
  exact hsorted.imp₂ (fun _ _ hle hne => Nat.lt_of_le_of_ne hle hne) (List.pairwise_map.mp h)

section Steps

variable [NeZero shard_count] {queue after : ShardedQueue shard_count Q D}
  {action : ShardAction shard_count Q D}

def count_follows (queue : ShardedQueue shard_count Q D) : Prop :=
  queue.pending_count =
    tally counted queue.guards queue.pending_shards + queue.carrier.uncounted

theorem add_keeps_count (hcount : count_follows queue) (h : AddStep queue action after) :
    count_follows after := by
  unfold count_follows at hcount ⊢
  rw [add_keeps_carrier h]
  cases h with
  | begin_add => exact hcount
  | lock _ hguard | stamp hguard | pass hguard | leave hguard =>
    dsimp only [ShardedQueue.hold]
    rw [tally_same (by rw [hguard]; rfl)]
    exact hcount
  | push hguard =>
    dsimp only [ShardedQueue.hold]
    rw [tally_same (by simp [counted, Guard.slack, hguard])]
    exact hcount
  | count hguard =>
    dsimp only [ShardedQueue.hold]
    rw [tally_gain 1 (by simp [counted, Guard.slack, hguard])]
    omega
  | pop hguard hevents =>
    dsimp only [ShardedQueue.hold]
    rw [tally_same (by simp [counted, Guard.slack, hguard, hevents])]
    exact hcount
  | lower hguard =>
    dsimp only [ShardedQueue.hold]
    rw [tally_gain (-1) (by simp [counted, Guard.slack, hguard])]
    omega

theorem drain_keeps_count (hcount : count_follows queue) (h : DrainEffect queue after) :
    count_follows after := by
  have hblind : blind (counted (Q := Q) (D := D)) := fun _ _ => rfl
  unfold count_follows at hcount ⊢
  cases h with
  | quiet guards drains hguards hcarried huncounted =>
    show queue.pending_count =
      tally counted guards queue.pending_shards + (last_holder guards drains).uncounted
    rw [tally_quiet hblind hguards, huncounted]
    exact hcount
  | take drains hguards hbefore hnone hcarrier =>
    show queue.pending_count =
      tally counted queue.guards (fun _ => []) + (last_holder queue.guards drains).uncounted
    rw [hcarrier, hcount, hnone, tally_drained hblind hguards, tally_drained hblind hguards]
    simp [counted, Guard.slack, Drain.uncounted, ShardedQueue.drained_count]
  | lower drains hcarried hnone =>
    show queue.pending_count - queue.carrier.uncounted =
      tally counted queue.guards queue.pending_shards + (last_holder queue.guards drains).uncounted
    rw [hnone, hcount]
    omega
  | finish guards drains hguards hnone hcarrier =>
    show queue.pending_count =
      tally counted guards queue.pending_shards + (last_holder guards drains).uncounted
    rw [tally_quiet hblind hguards, hcarrier, hcount, hnone]
    rfl

/-! ## Where the events are -/

/-- Every event that was pushed is in a shard, with an add, with a drain, returned by a
drain or reported. -/
def events_have_places (queue : ShardedQueue shard_count Q D) : Prop :=
  (queue.added : Multiset (SequencedEvent Q)) =
    tally placed queue.guards queue.pending_shards + gathered queue.carrier.carried +
      queue.outputs.flatten + queue.reported

theorem add_keeps_places (hplaces : events_have_places queue) (h : AddStep queue action after) :
    events_have_places after := by
  unfold events_have_places at hplaces ⊢
  rw [add_keeps_carrier h]
  cases h with
  | begin_add => exact hplaces
  | lock _ hguard | stamp hguard | count hguard | pass hguard | lower hguard =>
    dsimp only [ShardedQueue.hold]
    rw [tally_same (by rw [hguard]; rfl)]
    exact hplaces
  | @push shard seq pending_event hguard =>
    dsimp only [ShardedQueue.hold]
    rw [tally_gain {(seq, pending_event)} (by simp [placed, Guard.evicted, hguard]; rfl),
      ← Multiset.coe_add, hplaces, Multiset.coe_singleton]
    abel
  | @pop shard total oldest rest hguard hevents =>
    dsimp only [ShardedQueue.hold]
    have hshard : placed (.popped oldest : Guard Q D) rest =
        placed (queue.guards shard) (queue.pending_shards shard) := by
      rw [hguard, hevents]
      exact (add_comm _ _).trans (add_zero _).symm
    rw [tally_same hshard]
    exact hplaces
  | @leave shard result dropped hguard =>
    dsimp only [ShardedQueue.hold]
    have hshard : placed (.free : Guard Q D) (queue.pending_shards shard) + dropped.toList =
        placed (queue.guards shard) (queue.pending_shards shard) + 0 := by
      rw [hguard, add_zero]
      exact congrArg (· + _) (add_zero _)
    rw [hplaces, ← Multiset.coe_add, ← add_zero (tally _ _ _), ← tally_move _ _ hshard]
    abel

theorem drain_keeps_places (hplaces : events_have_places queue) (h : DrainEffect queue after) :
    events_have_places after := by
  have hblind : blind (placed (Q := Q) (D := D)) := fun _ _ => rfl
  unfold events_have_places at hplaces ⊢
  cases h with
  | quiet guards drains hguards hcarried huncounted =>
    dsimp only [ShardedQueue.carrier]
    rw [tally_quiet hblind hguards, hcarried]
    exact hplaces
  | take drains hguards hbefore hnone hcarrier =>
    dsimp only [ShardedQueue.carrier]
    rw [hplaces, hbefore, hcarrier, placed_drained hguards, placed_drained hguards]
    exact congrArg (· + _ + _) (add_comm _ _)
  | lower drains hcarried hnone =>
    dsimp only [ShardedQueue.carrier]
    rw [hcarried]
    exact hplaces
  | finish guards drains hguards hnone hcarrier =>
    have houtputs : ((queue.outputs ++ [ShardedQueue.sorted queue.carrier.carried]).flatten :
        Multiset (SequencedEvent Q)) = queue.outputs.flatten + gathered queue.carrier.carried := by
      rw [List.flatten_append, List.flatten_singleton, ← Multiset.coe_add, sorted_keeps_events]
    have hempty : gathered (last_holder guards drains).carried = 0 := by
      rw [hcarrier]
      exact gathered_empty
    show (queue.added : Multiset (SequencedEvent Q)) =
      tally placed guards queue.pending_shards + gathered (last_holder guards drains).carried +
        (queue.outputs ++ [ShardedQueue.sorted queue.carrier.carried]).flatten + queue.reported
    rw [tally_quiet hblind hguards, hempty, hplaces, houtputs]
    abel

/-- The event of every add waits for its lock, is on its way to the shard or was pushed. -/
def adds_have_events (queue : ShardedQueue shard_count Q D) : Prop :=
  (queue.begun : Multiset Q) =
    queue.waiting.map Prod.snd + tally unpushed queue.guards queue.pending_shards +
      queue.added.map Prod.snd

theorem add_keeps_events_of_adds (hadds : adds_have_events queue)
    (h : AddStep queue action after) : adds_have_events after := by
  unfold adds_have_events at hadds ⊢
  cases h with
  | begin_add pending_event =>
    dsimp only
    rw [List.map_append, ← Multiset.coe_add, ← Multiset.coe_add, hadds]
    exact (add_right_comm _ _ _).trans (congrArg (· + _) (add_right_comm _ _ _))
  | @lock add shard pending_event hwait hguard =>
    dsimp only [ShardedQueue.hold]
    obtain ⟨hless, helem⟩ := List.getElem?_eq_some_iff.mp hwait
    have hwaiting : (queue.waiting.map Prod.snd : Multiset Q) =
        {pending_event} + (queue.waiting.eraseIdx add).map Prod.snd := by
      have hperm := (List.getElem_cons_eraseIdx_perm hless).map Prod.snd
      rw [helem] at hperm
      exact (Multiset.coe_eq_coe.mpr hperm).symm
    rw [tally_gain {pending_event} (by rw [hguard]; rfl), hadds, hwaiting]
    abel
  | stamp hguard | count hguard | pop hguard | pass hguard | lower hguard | leave hguard =>
    dsimp only [ShardedQueue.hold]
    rw [tally_same (by rw [hguard]; rfl)]
    exact hadds
  | @push shard seq pending_event hguard =>
    dsimp only [ShardedQueue.hold]
    have hshard (events) : unpushed (.pushed : Guard Q D) events + {pending_event} =
        unpushed (queue.guards shard) (queue.pending_shards shard) + 0 := by
      rw [hguard]
      rfl
    rw [hadds, ← add_zero (tally _ _ _), ← tally_move _ _ (hshard _), List.map_append,
      ← Multiset.coe_add]
    show _ = _ + _ + (_ + {pending_event})
    abel

theorem drain_keeps_events_of_adds (hadds : adds_have_events queue)
    (h : DrainEffect queue after) : adds_have_events after := by
  unfold adds_have_events at hadds ⊢
  cases h with
  | quiet guards drains hguards | finish guards drains hguards =>
    dsimp only
    rw [tally_quiet (fun _ _ => rfl) hguards]
    exact hadds
  | take | lower => exact hadds

/-- Each sequence number that was drawn belongs to one event. -/
def sequence_drawn (queue : ShardedQueue shard_count Q D) : Prop :=
  (queue.added.map Prod.fst + tally drawn queue.guards queue.pending_shards : Multiset Nat) =
    Multiset.range queue.next_seq

theorem add_keeps_sequence (hseq : sequence_drawn queue) (h : AddStep queue action after) :
    sequence_drawn after := by
  unfold sequence_drawn at hseq ⊢
  cases h with
  | begin_add => exact hseq
  | stamp hguard =>
    dsimp only [ShardedQueue.hold]
    rw [tally_gain {queue.next_seq} (by rw [hguard]; rfl), ← add_assoc, hseq, Multiset.range_succ,
      add_comm, Multiset.singleton_add]
  | @push shard seq pending_event hguard =>
    dsimp only [ShardedQueue.hold]
    have hshard (events) : drawn (.pushed : Guard Q D) events + {seq} =
        drawn (queue.guards shard) (queue.pending_shards shard) + 0 := by
      rw [hguard]
      rfl
    rw [← hseq, ← add_zero (tally _ _ _), ← add_zero (tally _ queue.guards _),
      ← tally_move _ _ (hshard _), List.map_append, ← Multiset.coe_add]
    show _ + {seq} + _ = _
    abel
  | lock _ hguard | count hguard | pop hguard | pass hguard | lower hguard | leave hguard =>
    dsimp only [ShardedQueue.hold]
    rw [tally_same (by rw [hguard]; rfl)]
    exact hseq

theorem drain_keeps_sequence (hseq : sequence_drawn queue) (h : DrainEffect queue after) :
    sequence_drawn after := by
  unfold sequence_drawn at hseq ⊢
  cases h with
  | quiet guards drains hguards | finish guards drains hguards =>
    dsimp only
    rw [tally_quiet (fun _ _ => rfl) hguards]
    exact hseq
  | take | lower => exact hseq

/-! ## What the adds report -/

/-- An add that has pushed sees its own event. One that leaves reports what it popped. -/
def Guard.fits : Guard Q D → List (SequencedEvent Q) → Prop
  | .pushed, events => events ≠ []
  | .leaving result dropped, _ => result.dropped = dropped.toList.length
  | _, _ => True

def guards_fit (queue : ShardedQueue shard_count Q D) : Prop :=
  ∀ shard, (queue.guards shard).fits (queue.pending_shards shard)

def reports_add_up (queue : ShardedQueue shard_count Q D) : Prop :=
  (queue.results.map QueueAddResult.dropped).sum = queue.reported.length

omit [NeZero shard_count] in
/-- What holds of every shard still does after a step that makes it hold of its own. -/
theorem forall_update {P : Guard Q D → List (SequencedEvent Q) → Prop}
    {guards : Fin shard_count → Guard Q D} {shards : Fin shard_count → List (SequencedEvent Q)}
    {shard : Fin shard_count} {guard : Guard Q D} {events : List (SequencedEvent Q)}
    (hall : ∀ other, P (guards other) (shards other)) (h : P guard events)
    (other : Fin shard_count) :
    P (update guards shard guard other) (update shards shard events other) := by
  by_cases hother : other = shard
  · subst hother
    rw [update_self, update_self]
    exact h
  · rw [update_of_ne hother, update_of_ne hother]
    exact hall other

theorem add_keeps_fit (hfit : guards_fit queue) (h : AddStep queue action after) :
    guards_fit after := by
  cases h with
  | begin_add => exact hfit
  | lock | stamp | count | pop | leave => exact forall_update hfit trivial
  | push => exact forall_update hfit (List.append_ne_nil_of_right_ne_nil _ (List.cons_ne_nil _ _))
  | pass _ _ hresult => exact forall_update hfit hresult
  | lower => exact forall_update hfit rfl

theorem fits_of_drain {guard : Guard Q D} (h : guard.of_add = false)
    (events : List (SequencedEvent Q)) : guard.fits events := by
  cases guard with
  | free | drain => trivial
  | _ => cases h

theorem drain_keeps_fit (hfit : guards_fit queue) (h : DrainEffect queue after) :
    guards_fit after := by
  intro shard
  cases h with
  | quiet guards drains hguards | finish guards drains hguards =>
    rcases hguards shard with heq | ⟨hafter, -⟩
    · show (guards shard).fits (queue.pending_shards shard)
      rw [heq]
      exact hfit shard
    · exact fits_of_drain hafter _
  | take drains hguards => exact fits_of_drain (hguards shard) _
  | lower => exact hfit shard

theorem add_keeps_reports (hfit : guards_fit queue) (hreports : reports_add_up queue)
    (h : AddStep queue action after) : reports_add_up after := by
  cases h with
  | @leave shard result dropped hguard =>
    have hdropped := hfit shard
    rw [hguard] at hdropped
    show (List.map _ (queue.results ++ [result])).sum = (queue.reported ++ dropped.toList).length
    rw [List.map_append, List.sum_append, List.length_append, ← hreports]
    exact congrArg (_ + ·) hdropped
  | _ => exact hreports

theorem drain_keeps_reports (hreports : reports_add_up queue) (h : DrainEffect queue after) :
    reports_add_up after := by
  cases h with
  | _ => exact hreports

/-! ## The order of the drains -/

/-- The events that the drains returned or have in their hands, in order. -/
def gone (queue : ShardedQueue shard_count Q D) : List (SequencedEvent Q) :=
  queue.outputs.flatten ++ ShardedQueue.sorted queue.carrier.carried

/-- The event is older than those of the shard, also than the one on its way there. -/
def older (event : SequencedEvent Q) (guard : Guard Q D) (events : List (SequencedEvent Q)) :
    Prop :=
  (∀ other ∈ events, event.1 < other.1) ∧ ∀ seq ∈ guard.drawn, event.1 < seq

theorem drawn_of_drain {guard : Guard Q D} (h : guard.of_add = false) : guard.drawn = [] := by
  cases guard with
  | free | drain => rfl
  | _ => cases h

theorem older_same_adds {before guard : Guard Q D} {event : SequencedEvent Q}
    {events : List (SequencedEvent Q)}
    (h : guard = before ∨ guard.of_add = false ∧ before.of_add = false)
    (holder : older event before events) : older event guard events := by
  rcases h with rfl | ⟨hguard, -⟩
  · exact holder
  · exact ⟨holder.1, by rw [drawn_of_drain hguard]; exact nofun⟩

structure DrainsInOrder (queue : ShardedQueue shard_count Q D) : Prop where
  increasing : (gone queue).Pairwise fun first second => first.1 < second.1
  drawn : ∀ event ∈ gone queue, event.1 < queue.next_seq
  older : ∀ event ∈ gone queue, ∀ shard,
    older event (queue.guards shard) (queue.pending_shards shard)

theorem placed_le_added (hplaces : events_have_places queue) :
    tally placed queue.guards queue.pending_shards ≤ queue.added := by
  rw [hplaces, add_assoc, add_assoc]
  exact Multiset.le_add_right _ _

theorem add_keeps_gone (h : AddStep queue action after) : gone after = gone queue := by
  unfold gone
  rw [add_keeps_carrier h]
  cases h with
  | _ => rfl

theorem add_keeps_order (horder : DrainsInOrder queue) (h : AddStep queue action after) :
    DrainsInOrder after := by
  have hgone := add_keeps_gone h
  refine ⟨hgone ▸ horder.increasing, ?_, ?_⟩
  all_goals
    rw [hgone]
    intro event hevent
  · have hless := horder.drawn event hevent
    cases h with
    | stamp => exact Nat.lt_succ_of_lt hless
    | _ => exact hless
  · have holder := horder.older event hevent
    cases h with
    | begin_add => exact holder
    | lock | count | pass | lower | leave => exact forall_update holder ⟨(holder _).1, nofun⟩
    | stamp =>
      refine forall_update holder ⟨(holder _).1, fun seq hseq => ?_⟩
      rw [List.mem_singleton.mp hseq]
      exact horder.drawn event hevent
    | @push shard seq pending_event hguard =>
      refine forall_update holder ⟨fun other hother => ?_, nofun⟩
      rcases List.mem_append.mp hother with hold | hnew
      · exact (holder shard).1 other hold
      · rw [List.mem_singleton.mp hnew]
        refine (holder shard).2 seq ?_
        rw [hguard]
        exact List.mem_singleton_self seq
    | @pop shard total oldest rest hguard hevents =>
      refine forall_update holder ⟨fun other hother => ?_, nofun⟩
      refine (holder shard).1 other ?_
      rw [hevents]
      exact List.mem_cons_of_mem _ hother

omit [NeZero shard_count] in
theorem seqs_nodup (hseq : sequence_drawn queue) :
    (queue.added.map Prod.fst : Multiset Nat).Nodup :=
  Multiset.nodup_of_le (Multiset.le_add_right _ _) (hseq ▸ Multiset.nodup_range _)

omit [NeZero shard_count] in
theorem seq_lt_next (hseq : sequence_drawn queue) {event : SequencedEvent Q}
    (h : event ∈ queue.added) : event.1 < queue.next_seq := by
  refine Multiset.mem_range.mp (hseq ▸ Multiset.mem_add.mpr (.inl ?_))
  exact Multiset.mem_coe.mpr (List.mem_map_of_mem h)

/-- A step that takes no event and keeps those to come later than the ones that went. -/
theorem order_of_same_gone (horder : DrainsInOrder queue) (hgone : gone after = gone queue)
    (hnext : after.next_seq = queue.next_seq)
    (holder : ∀ event shard, older event (queue.guards shard) (queue.pending_shards shard) →
      older event (after.guards shard) (after.pending_shards shard)) : DrainsInOrder after where
  increasing := hgone ▸ horder.increasing
  drawn event hevent := by
    rw [hnext]
    exact horder.drawn event (hgone ▸ hevent)
  older event hevent shard := holder event shard (horder.older event (hgone ▸ hevent) shard)

theorem drain_keeps_order (hplaces : events_have_places queue) (hseq : sequence_drawn queue)
    (horder : DrainsInOrder queue) (h : DrainEffect queue after) : DrainsInOrder after := by
  cases h with
  | quiet guards drains hguards hcarried huncounted =>
    refine order_of_same_gone horder ?_ rfl fun event shard => older_same_adds (hguards shard)
    exact congrArg (_ ++ ShardedQueue.sorted ·) hcarried
  | take drains hguards hbefore hnone hcarrier => 
    have hgone : gone queue = queue.outputs.flatten := by
      unfold gone
      rw [hbefore, sorted_empty, List.append_nil]
    have hadded (event) (hevent : event ∈ ShardedQueue.sorted queue.pending_shards) :
        event ∈ queue.added := by
      have hle := placed_le_added hplaces
      rw [placed_drained hguards, ← sorted_keeps_events] at hle
      exact Multiset.mem_coe.mp (Multiset.mem_of_le hle (Multiset.mem_coe.mpr hevent))
    have hafter : gone { queue with drains, pending_shards := fun _ => [] } =
        queue.outputs.flatten ++ ShardedQueue.sorted queue.pending_shards :=
      congrArg (fun phase => _ ++ ShardedQueue.sorted (Drain.carried phase)) hcarrier
    have hnodup : ((gathered queue.pending_shards).map Prod.fst).Nodup := by
      rw [← placed_drained hguards]
      exact Multiset.nodup_of_le (Multiset.map_le_map (placed_le_added hplaces)) (seqs_nodup hseq)
    refine ⟨?_, ?_, ?_⟩
    all_goals rw [hafter]
    · refine List.pairwise_append.mpr ⟨hgone ▸ horder.increasing, sorted_increasing hnodup, ?_⟩
      intro first hfirst second hsecond
      obtain ⟨shard, hshard⟩ := mem_sorted hsecond
      exact (horder.older first (hgone ▸ hfirst) shard).1 second hshard
    · intro event hevent
      rcases List.mem_append.mp hevent with hout | htaken
      · exact horder.drawn event (hgone ▸ hout)
      · exact seq_lt_next hseq (hadded event htaken)
    · intro event _ shard
      exact ⟨nofun, by rw [drawn_of_drain (hguards shard)]; exact nofun⟩
  | lower drains hcarried hnone =>
    refine order_of_same_gone horder ?_ rfl fun _ _ => id
    exact congrArg (_ ++ ShardedQueue.sorted ·) hcarried
  | finish guards drains hguards hnone hcarrier =>
    refine order_of_same_gone horder ?_ rfl fun event shard => older_same_adds (hguards shard)
    show (queue.outputs ++ [_]).flatten ++
      ShardedQueue.sorted (last_holder guards drains).carried = _
    rw [hcarrier, List.flatten_append, List.flatten_singleton]
    exact (congrArg (_ ++ ·) sorted_empty).trans (List.append_nil _)

/-! ## All of it, in every run -/

structure Ledger (queue : ShardedQueue shard_count Q D) : Prop where
  locks : locks_owned queue
  count : count_follows queue
  places : events_have_places queue
  adds : adds_have_events queue
  sequence : sequence_drawn queue
  fit : guards_fit queue
  reports : reports_add_up queue
  order : DrainsInOrder queue

theorem ledger_of_start (batch_size max_pending_events : Nat) :
    Ledger ({ batch_size, max_pending_events } : ShardedQueue shard_count Q D) where
  locks _ _ := iff_of_false nofun id
  count := by
    unfold count_follows
    rw [tally_start rfl]
    rfl
  places := by
    unfold events_have_places
    rw [tally_start rfl]
    exact congrArg (0 + · + 0 + 0) gathered_empty.symm
  adds := by
    unfold adds_have_events
    rw [tally_start rfl]
    rfl
  sequence := by
    unfold sequence_drawn
    rw [tally_start rfl]
    rfl
  fit _ := trivial
  reports := rfl
  order := by
    have hgone : gone ({ batch_size, max_pending_events } : ShardedQueue shard_count Q D) = [] :=
      sorted_empty
    refine ⟨?_, ?_, ?_⟩ <;> rw [hgone]
    · exact .nil
    · exact nofun
    · exact nofun

theorem step_keeps_ledger [DecidableEq D] (hledger : Ledger queue)
    (h : queue.step action = some after) : Ledger after := by
  rcases step_cases h with hadd | hdrain
  · exact
    { locks := add_keeps_locks hledger.locks hadd
      count := add_keeps_count hledger.count hadd
      places := add_keeps_places hledger.places hadd
      adds := add_keeps_events_of_adds hledger.adds hadd
      sequence := add_keeps_sequence hledger.sequence hadd
      fit := add_keeps_fit hledger.fit hadd
      reports := add_keeps_reports hledger.fit hledger.reports hadd
      order := add_keeps_order hledger.order hadd }
  · have heffect := drain_effect hledger.locks hdrain
    exact
    { locks := drain_keeps_locks hledger.locks hdrain
      count := drain_keeps_count hledger.count heffect
      places := drain_keeps_places hledger.places heffect
      adds := drain_keeps_events_of_adds hledger.adds heffect
      sequence := drain_keeps_sequence hledger.sequence heffect
      fit := drain_keeps_fit hledger.fit heffect
      reports := drain_keeps_reports hledger.reports heffect
      order := drain_keeps_order hledger.places hledger.sequence hledger.order heffect }

end Steps

end statsig_rust.event_logging
