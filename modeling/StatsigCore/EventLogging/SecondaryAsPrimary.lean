-- Secondary exposures that are logged as primary ones (`event_logging/event_logger.rs`). The list
-- that an event is sent with is chosen when it is converted, and chosen again when its exposures
-- are taken from it. The law here is when the two choices are one.
import StatsigCore.EventLogging.ExposureDedupe
import StatsigCore.EventLogging.QueuedEvents

namespace statsig_rust.event_logging.event_queue

open evaluation
open spec_store (GlobalConfigs)

/-! ## Operations -/

/-- The trait: what the sampling asks of an operation, and the event that it becomes. -/
structure EnqueueOperation where
  as_exposure : Option QueuedExposure
  into_queued_event : EvtSamplingDecision → QueuedEvent

structure EnqueueSecondaryExposureAsPrimaryOp where
  user : StatsigUserLoggable
  secondary_exposure : InternedExposure
  exposure_time : Nat

namespace EnqueueSecondaryExposureAsPrimaryOp

def create_exposure_sampling_key (hashing : Hashing) (op : EnqueueSecondaryExposureAsPrimaryOp) :
    ExposureSamplingKey :=
  event_logging.EnqueueSecondaryExposureAsPrimaryOp.create_exposure_sampling_key hashing
    ⟨op.user.data, op.secondary_exposure, op.exposure_time⟩

def into_queued_event (op : EnqueueSecondaryExposureAsPrimaryOp)
    (sampling_decision : EvtSamplingDecision) : QueuedEvent :=
  .SecondaryExposureAsPrimary
    { user := op.user
      secondary_exposure := op.secondary_exposure
      exposure_time := op.exposure_time
      sampling_decision }

def operation (hashing : Hashing) (op : EnqueueSecondaryExposureAsPrimaryOp) :
    EnqueueOperation where
  as_exposure := some
    { key := op.create_exposure_sampling_key hashing
      rule_id := op.secondary_exposure.rule_id.text }
  into_queued_event := op.into_queued_event

end EnqueueSecondaryExposureAsPrimaryOp

/-! ## The logger -/

/-- A secondary exposure that was offered to the sampling, and the answer. -/
structure Offer where
  op : EnqueueSecondaryExposureAsPrimaryOp
  decision : EvtSamplingDecision

/-- What an offer adds to the queue. -/
def Offer.logged (offer : Offer) : Option QueuedEvent :=
  if offer.decision.should_log then
    some (offer.op.into_queued_event offer.decision)
  else none

/-- The sampling of the logger, with a record of the offers and of the events that the queue was
given. -/
structure EventLogger where
  event_sampler : ExposureSampling
  offered : List Offer := []
  added : List QueuedEvent := []

namespace EventLogger

variable (hashing : Hashing) (configs : GlobalConfigs)

def add_pending_event (self : EventLogger) (pending_event : QueuedEvent) : EventLogger :=
  { self with added := self.added ++ [pending_event] }

/-- One turn of the loop over the exposures that were taken. -/
def offer (self : EventLogger) (op : EnqueueSecondaryExposureAsPrimaryOp) : EventLogger :=
  let (decision, event_sampler) :=
    self.event_sampler.get_sampling_decision configs (op.operation hashing).as_exposure false
  let self := { self with event_sampler, offered := self.offered ++ [⟨op, decision⟩] }
  if decision.should_log then
    self.add_pending_event ((op.operation hashing).into_queued_event decision)
  else self

def enqueue_event_with_secondary_exposures_as_primary (self : EventLogger)
    (pending_event : QueuedEvent) (should_log_parent : Bool) : EventLogger :=
  match pending_event.exposure_time with
  | none => if should_log_parent then self.add_pending_event pending_event else self
  | some exposure_time =>
    let (secondary_exposures, pending_event) :=
      pending_event.take_secondary_exposures_for_primary_logging
    let logged := if should_log_parent then self.add_pending_event pending_event else self
    if secondary_exposures.isEmpty then logged
    else
      match pending_event.user_for_secondary_exposures with
      | none => logged
      | some user =>
        secondary_exposures.foldl (fun self secondary_exposure =>
          self.offer hashing configs { user, secondary_exposure, exposure_time }) logged

/-- With the experiment on, an event that is not logged itself still has its exposures offered. -/
def enqueue (self : EventLogger) (disable_all_logging sec_expo_as_primary_active : Bool)
    (operation : EnqueueOperation) : EventLogger :=
  if disable_all_logging then self
  else
    let (decision, event_sampler) := self.event_sampler.get_sampling_decision configs
      operation.as_exposure sec_expo_as_primary_active
    let self := { self with event_sampler }
    if sec_expo_as_primary_active then
      self.enqueue_event_with_secondary_exposures_as_primary hashing configs
        (operation.into_queued_event decision) decision.should_log
    else if !decision.should_log then self
    else self.add_pending_event (operation.into_queued_event decision)

/-! ## What a call does -/

/-- A turn records its offer, and adds what the offer logs. -/
theorem offer_eq (self : EventLogger) (op : EnqueueSecondaryExposureAsPrimaryOp) :
    ∃ offer : Offer, offer.op = op ∧
      (self.offer hashing configs op).offered = self.offered ++ [offer] ∧
      (self.offer hashing configs op).added = self.added ++ offer.logged.toList := by
  unfold EventLogger.offer
  generalize self.event_sampler.get_sampling_decision configs
    (op.operation hashing).as_exposure false = answer
  obtain ⟨decision, event_sampler⟩ := answer
  refine ⟨⟨op, decision⟩, rfl, ?_⟩
  dsimp only
  unfold Offer.logged
  split
  · exact ⟨rfl, rfl⟩
  · exact ⟨rfl, (List.append_nil _).symm⟩

/-- The loop offers each exposure once, in order. -/
theorem offers_eq (user : StatsigUserLoggable) (exposure_time : Nat)
    (secondary_exposures : List InternedExposure) (self : EventLogger) :
    ∃ offers : List Offer,
      offers.map Offer.op = secondary_exposures.map (⟨user, ·, exposure_time⟩) ∧
      (secondary_exposures.foldl (fun self secondary_exposure =>
        self.offer hashing configs { user, secondary_exposure, exposure_time }) self).offered =
          self.offered ++ offers ∧
      (secondary_exposures.foldl (fun self secondary_exposure =>
        self.offer hashing configs { user, secondary_exposure, exposure_time }) self).added =
          self.added ++ offers.filterMap Offer.logged := by
  induction secondary_exposures generalizing self with
  | nil => exact ⟨[], rfl, by simp, by simp⟩
  | cons secondary_exposure rest ih =>
    obtain ⟨offer, hop, hoffered, hadded⟩ :=
      self.offer_eq hashing configs ⟨user, secondary_exposure, exposure_time⟩
    obtain ⟨offers, hops, hoffers, hadds⟩ := ih (self.offer hashing configs
      ⟨user, secondary_exposure, exposure_time⟩)
    refine ⟨offer :: offers, ?_, ?_, ?_⟩
    · rw [List.map_cons, List.map_cons, hop, hops]
    · rw [List.foldl_cons, hoffers, hoffered, List.append_assoc]
      rfl
    · rw [List.foldl_cons, hadds, hadded, List.append_assoc]
      cases h : offer.logged <;> simp [h]

/-- A call for an exposure is the loop, after the event that is left was logged. -/
theorem enqueue_event_is_loop (self : EventLogger) {event : QueuedEvent}
    (hkind : event.IsExposure) (should_log_parent : Bool) :
    self.enqueue_event_with_secondary_exposures_as_primary hashing configs event
        should_log_parent =
      event.take_secondary_exposures_for_primary_logging.1.foldl
        (fun self secondary_exposure => self.offer hashing configs
          { user := event.into_statsig_event_internal.user
            secondary_exposure
            exposure_time := event.into_statsig_event_internal.time })
        (if should_log_parent then
          self.add_pending_event event.take_secondary_exposures_for_primary_logging.2
        else self) := by
  unfold enqueue_event_with_secondary_exposures_as_primary
  rw [hkind.exposure_time]
  dsimp only
  rw [event.user_of_left, hkind.user]
  split
  · rename_i hempty
    rw [List.isEmpty_iff.mp hempty]
    rfl
  · rfl

/-- A call for an exposure logs the event that is left, and offers what was taken. -/
theorem enqueue_event_eq (self : EventLogger) {event : QueuedEvent} (hkind : event.IsExposure)
    (should_log_parent : Bool) :
    let after := self.enqueue_event_with_secondary_exposures_as_primary hashing configs event
      should_log_parent
    let taken := event.take_secondary_exposures_for_primary_logging
    let sent := event.into_statsig_event_internal
    ∃ offers : List Offer,
      offers.map Offer.op = taken.1.map (⟨sent.user, ·, sent.time⟩) ∧
      after.offered = self.offered ++ offers ∧
      after.added = self.added ++ (if should_log_parent then [taken.2] else []) ++
        offers.filterMap Offer.logged := by
  intro after taken sent
  have hafter := self.enqueue_event_is_loop hashing configs hkind should_log_parent
  obtain ⟨offers, hops, hoffers, hadds⟩ := offers_eq hashing configs sent.user sent.time taken.1
    (if should_log_parent then self.add_pending_event taken.2 else self)
  rw [← hafter] at hoffers hadds
  refine ⟨offers, hops, ?_, ?_⟩
  · rw [hoffers]
    cases should_log_parent <;> rfl
  · rw [hadds]
    cases should_log_parent
    · exact congrArg (· ++ _) (List.append_nil _).symm
    · rfl

end EventLogger

/-! ## The two choices -/

namespace ExposureData

variable (data : ExposureData)

/-- A layer exposure without the name of its parameter, and with no explicit parameter of the
empty name. -/
def LacksParameter : Prop :=
  data.event_name = LAYER_EXPOSURE_EVENT_NAME ∧ data.parameter_name = none ∧
    ¬ data.explicit_params.any ("" ∈ ·)

theorem lacksParameter_iff :
    data.LacksParameter ↔ data.sends_undelegated = true ∧ data.parameter_name = none := by
  unfold LacksParameter sends_undelegated is_explicit
  constructor
  · rintro ⟨hlayer, hname, hexplicit⟩
    simp [hlayer, hname, or_empty, hexplicit]
  · rintro ⟨hsends, hname⟩
    simpa [hname, or_empty] using hsends

end ExposureData

namespace QueuedExposureEvent

variable (event : QueuedExposureEvent)

/-- The take chooses as the conversion does, where there is a parameter name. -/
theorem should_use_undelegated_eq :
    event.should_use_undelegated_secondary_exposures =
      (event.data.sends_undelegated && event.data.parameter_name.isSome) := by
  unfold should_use_undelegated_secondary_exposures ExposureData.sends_undelegated
    ExposureData.is_explicit
  by_cases hlayer : event.data.event_name = LAYER_EXPOSURE_EVENT_NAME
  · cases event.data.parameter_name with
    | none => simp [hlayer]
    | some parameter_name =>
      rw [if_neg (not_not.mpr hlayer), hlayer]
      exact (Bool.and_true _).symm
  · simp [hlayer]

/-- Where the choices are one, all that is sent is taken. -/
theorem taken_of_same_choice
    (h : event.should_use_undelegated_secondary_exposures = event.data.sends_undelegated) :
    event.take_secondary_exposures_for_primary_logging.1 =
        event.into_statsig_event_internal.secondary_exposures.getD [] ∧
      event.take_secondary_exposures_for_primary_logging.2.into_statsig_event_internal =
        event.into_statsig_event_internal.emptied := by
  unfold StatsigEventInternal.emptied
  rw [sent_exposures]
  cases hsends : event.data.sends_undelegated
  · rw [take_delegated (h.trans hsends)]
    refine ⟨rfl, ?_⟩
    have hsent := event.sent_with (event.data.secondary_exposures.map fun _ => [])
      event.data.undelegated_secondary_exposures
    rwa [hsends] at hsent
  · rw [take_undelegated (h.trans hsends)]
    refine ⟨rfl, ?_⟩
    have hsent := event.sent_with event.data.secondary_exposures
      (event.data.undelegated_secondary_exposures.map fun _ => [])
    rwa [hsends] at hsent

/-- Without its parameter name a layer exposure loses the delegated exposures, and is sent with
the others. -/
theorem taken_of_lacksParameter (h : event.data.LacksParameter) :
    event.take_secondary_exposures_for_primary_logging.1 =
        event.data.secondary_exposures.getD [] ∧
      event.take_secondary_exposures_for_primary_logging.2.into_statsig_event_internal =
        event.into_statsig_event_internal ∧
      event.into_statsig_event_internal.secondary_exposures =
        event.data.undelegated_secondary_exposures := by
  obtain ⟨hsends, hname⟩ := event.data.lacksParameter_iff.mp h
  have htake : event.should_use_undelegated_secondary_exposures = false := by
    rw [should_use_undelegated_eq, hname]
    exact Bool.and_false _
  rw [take_delegated htake, sent_exposures, if_pos hsends]
  refine ⟨rfl, ?_, rfl⟩
  have hsent := event.sent_with (event.data.secondary_exposures.map fun _ => [])
    event.data.undelegated_secondary_exposures
  have hself := event.sent_with event.data.secondary_exposures
    event.data.undelegated_secondary_exposures
  rw [if_pos hsends] at hsent hself
  exact hsent.trans hself.symm

end QueuedExposureEvent

/-- The taken exposures are the ones that are sent. A layer exposure that lacks its parameter name
has the two lists mixed up: nothing shows where they are the same, and where they are empty if the
event itself is logged. -/
def QueuedEvent.TakesWhatIsSent (event : QueuedEvent) (should_log_parent : Bool) : Prop :=
  match event with
  | .Exposure event => event.data.LacksParameter →
      event.data.secondary_exposures.getD [] =
          event.data.undelegated_secondary_exposures.getD [] ∧
        (should_log_parent = true → event.data.undelegated_secondary_exposures.getD [] = [])
  | _ => True

/-- Exactly then the take is right, and what is left is the event without exposures. -/
theorem QueuedEvent.takesWhatIsSent_iff {event : QueuedEvent} (hkind : event.IsExposure)
    (should_log_parent : Bool) :
    event.TakesWhatIsSent should_log_parent ↔
      event.take_secondary_exposures_for_primary_logging.1 = event.attached ∧
        (should_log_parent = true →
          event.take_secondary_exposures_for_primary_logging.2.into_statsig_event_internal =
            event.into_statsig_event_internal.emptied) := by
  cases event with
  | Passthrough event => cases hkind
  | Exposure event =>
    by_cases hlacks : event.data.LacksParameter
    · obtain ⟨htaken, hleft, hsent⟩ := event.taken_of_lacksParameter hlacks
      have hattached : (Exposure event).attached =
          event.data.undelegated_secondary_exposures.getD [] := congrArg (Option.getD · []) hsent
      have hsame : event.into_statsig_event_internal = event.into_statsig_event_internal.emptied ↔
          event.data.undelegated_secondary_exposures.getD [] = [] := by
        rw [← hattached]
        exact StatsigEventInternal.eq_emptied_iff _
      unfold TakesWhatIsSent take_secondary_exposures_for_primary_logging
      dsimp only
      rw [htaken, hattached]
      have hinto : (Exposure event.take_secondary_exposures_for_primary_logging.2
          ).into_statsig_event_internal = event.into_statsig_event_internal := hleft
      rw [hinto]
      exact ⟨fun h => ⟨(h hlacks).1, fun hlog => hsame.mpr ((h hlacks).2 hlog)⟩,
        fun h _ => ⟨h.1, fun hlog => hsame.mp (h.2 hlog)⟩⟩
    · have hchoice : event.should_use_undelegated_secondary_exposures =
          event.data.sends_undelegated := by
        rw [event.should_use_undelegated_eq]
        rw [event.data.lacksParameter_iff] at hlacks
        cases hsends : event.data.sends_undelegated
        · rfl
        · exact Option.isSome_iff_ne_none.mpr fun hname => hlacks ⟨hsends, hname⟩
      obtain ⟨htaken, hleft⟩ := event.taken_of_same_choice hchoice
      exact iff_of_true (fun h => absurd h hlacks) ⟨htaken, fun _ => hleft⟩
  | GateExposure event =>
    simp only [take_secondary_exposures_for_primary_logging, take_non_empty_eq]
    exact iff_of_true trivial ⟨rfl, fun _ => rfl⟩
  | ConfigExposure event =>
    simp only [take_secondary_exposures_for_primary_logging, take_non_empty_eq]
    refine iff_of_true trivial ⟨rfl, fun _ => ?_⟩
    exact StatsigEventInternal.emptied_some _ _ _ event.secondary_exposures
  | ExperimentExposure event =>
    simp only [take_secondary_exposures_for_primary_logging, take_non_empty_eq]
    refine iff_of_true trivial ⟨rfl, fun _ => ?_⟩
    exact StatsigEventInternal.emptied_some _ _ _ event.secondary_exposures
  | LayerParamExposure event =>
    simp only [take_secondary_exposures_for_primary_logging, take_non_empty_eq]
    refine iff_of_true trivial ⟨rfl, fun _ => ?_⟩
    exact StatsigEventInternal.emptied_some _ _ _ event.secondary_exposures
  | SecondaryExposureAsPrimary event => exact iff_of_true trivial ⟨rfl, fun _ => rfl⟩

/-! ## Nothing lost, nothing twice -/

/-- A gate exposure of its own, with the user and the time of the event that it was taken from. -/
structure SentAsGate (exposure : InternedExposure) (parent sent : StatsigEventInternal) :
    Prop where
  event_name : sent.event_data.event_name = GATE_EXPOSURE_EVENT_NAME
  metadata : sent.event_data.metadata = some [
    ("gate", .string exposure.gate.text),
    ("gateValue", .string exposure.gate_value.text),
    ("ruleID", .string exposure.rule_id.text)]
  user : sent.user = parent.user
  time : sent.time = parent.time
  secondary_exposures : sent.secondary_exposures = some []

def Offer.sent (offer : Offer) : StatsigEventInternal :=
  (offer.op.into_queued_event offer.decision).into_statsig_event_internal

/-- The exposures of an event were offered, each once and in order. The event itself was logged
without them, or not at all. -/
def LogsSecondaryExposures (before after : EventLogger) (event : QueuedEvent)
    (should_log_parent : Bool) : Prop :=
  ∃ (offers : List Offer) (parent : QueuedEvent),
    after.offered = before.offered ++ offers ∧
    offers.map (fun offer => offer.op.secondary_exposure) = event.attached ∧
    (∀ offer ∈ offers, SentAsGate offer.op.secondary_exposure event.into_statsig_event_internal
      offer.sent) ∧
    after.added = before.added ++ (if should_log_parent then [parent] else []) ++
      offers.filterMap Offer.logged ∧
    (should_log_parent = true → parent.into_statsig_event_internal =
      event.into_statsig_event_internal.emptied)

theorem sent_as_gate {event : QueuedEvent} {offer : Offer} {exposure : InternedExposure}
    (h : offer.op = ⟨event.into_statsig_event_internal.user, exposure,
      event.into_statsig_event_internal.time⟩) :
    SentAsGate offer.op.secondary_exposure event.into_statsig_event_internal offer.sent := by
  unfold Offer.sent
  rw [h]
  constructor <;> rfl

/-- The call does what is asked of it when the take does. -/
theorem logs_iff_taken (hashing : Hashing) (configs : GlobalConfigs) (logger : EventLogger)
    {event : QueuedEvent} (hkind : event.IsExposure) (should_log_parent : Bool) :
    LogsSecondaryExposures logger
        (logger.enqueue_event_with_secondary_exposures_as_primary hashing configs event
          should_log_parent) event should_log_parent ↔
      event.take_secondary_exposures_for_primary_logging.1 = event.attached ∧
        (should_log_parent = true →
          event.take_secondary_exposures_for_primary_logging.2.into_statsig_event_internal =
            event.into_statsig_event_internal.emptied) := by
  obtain ⟨offers, hops, hoffered, hadded⟩ :=
    logger.enqueue_event_eq hashing configs hkind should_log_parent
  have hexposures : offers.map (fun offer => offer.op.secondary_exposure) =
      event.take_secondary_exposures_for_primary_logging.1 := by
    have h := congrArg (List.map EnqueueSecondaryExposureAsPrimaryOp.secondary_exposure) hops
    rw [List.map_map, List.map_map] at h
    exact h.trans (List.map_id _)
  constructor
  · rintro ⟨others, parent, hothers, hattached, -, hparent, hemptied⟩
    have hsame : others = offers := List.append_cancel_left (hothers.symm.trans hoffered)
    subst hsame
    refine ⟨hexposures.symm.trans hattached, fun hlog => ?_⟩
    have hleft : parent = event.take_secondary_exposures_for_primary_logging.2 := by
      have h := List.append_cancel_left (List.append_cancel_right (hparent.symm.trans hadded))
      rw [hlog] at h
      exact List.head_eq_of_cons_eq h
    rw [← hleft]
    exact hemptied hlog
  · rintro ⟨htaken, hemptied⟩
    refine ⟨offers, event.take_secondary_exposures_for_primary_logging.2, hoffered,
      hexposures.trans htaken, ?_, hadded, hemptied⟩
    intro offer hoffer
    have hmem := List.mem_map_of_mem (f := Offer.op) hoffer
    rw [hops] at hmem
    obtain ⟨exposure, -, hop⟩ := List.mem_map.mp hmem
    exact sent_as_gate hop.symm

/-- The exposures of an event are logged as primary ones, without loss and without repetition,
exactly if those are taken that are sent. -/
theorem secondary_exposures_are_logged_iff (hashing : Hashing) (configs : GlobalConfigs)
    (logger : EventLogger) (event : QueuedEvent) (hkind : event.IsExposure)
    (should_log_parent : Bool) :
    LogsSecondaryExposures logger
        (logger.enqueue_event_with_secondary_exposures_as_primary hashing configs event
          should_log_parent) event should_log_parent ↔
      event.TakesWhatIsSent should_log_parent :=
  (logs_iff_taken hashing configs logger hkind should_log_parent).trans
    (QueuedEvent.takesWhatIsSent_iff hkind should_log_parent).symm

/-- So it is for the operations of a logger with the experiment on. -/
theorem enqueue_as_primary_iff (hashing : Hashing) (configs : GlobalConfigs)
    (logger : EventLogger) (operation : EnqueueOperation) :
    let decision :=
      (logger.event_sampler.get_sampling_decision configs operation.as_exposure true).1
    (operation.into_queued_event decision).IsExposure →
    (LogsSecondaryExposures logger (logger.enqueue hashing configs false true operation)
        (operation.into_queued_event decision) decision.should_log ↔
      (operation.into_queued_event decision).TakesWhatIsSent decision.should_log) := by
  intro decision hkind
  exact (logs_iff_taken hashing configs
    { logger with event_sampler :=
        (logger.event_sampler.get_sampling_decision configs operation.as_exposure true).2 }
    hkind decision.should_log).trans
    (QueuedEvent.takesWhatIsSent_iff hkind decision.should_log).symm

/-- With the experiment off an event that is logged keeps its exposures. -/
theorem enqueue_inactive (hashing : Hashing) (configs : GlobalConfigs) (logger : EventLogger)
    (operation : EnqueueOperation) :
    let decision :=
      (logger.event_sampler.get_sampling_decision configs operation.as_exposure false).1
    let after := logger.enqueue hashing configs false false operation
    after.offered = logger.offered ∧
      after.added = logger.added ++
        if decision.should_log then [operation.into_queued_event decision] else [] := by
  intro decision after
  unfold after EventLogger.enqueue
  cases hlog : decision.should_log
  · have hnot : (logger.event_sampler.get_sampling_decision configs operation.as_exposure
        false).1.should_log = false := hlog
    simp [hnot]
  · have hlogged : (logger.event_sampler.get_sampling_decision configs operation.as_exposure
        false).1.should_log = true := hlog
    simp [hlogged, EventLogger.add_pending_event, decision]

/-- The ways in which the source makes a unified operation. -/
inductive Made : EnqueueExposureOp → Prop where
  | gate (call : ExposureCall) : Made (.gate_exposure call)
  | dynamic_config (call : ExposureCall) : Made (.dynamic_config_exposure call)
  | experiment (call : ExposureCall) : Made (.experiment_exposure call)
  | layer_param (parameter_name : Interned) (call : ExposureCall) :
      Made (.layer_param_exposure parameter_name call)
  | partial_raw (parameter_name : Interned) (trigger : ExposureTrigger)
      (partial_raw : PartialLayerRaw) (exposure_time : Nat) :
      Made (.layer_param_exposure_from_partial_raw parameter_name trigger partial_raw
        exposure_time)

/-- A layer exposure that the source makes itself has the name of its parameter. -/
theorem Made.takes_what_is_sent {op : EnqueueExposureOp} (hmade : Made op)
    (user : StatsigUserLoggable) (held undelegated : Option (List InternedExposure))
    (sampling_decision : EvtSamplingDecision) (exposure_info : Option ExtraExposureInfo)
    (should_log_parent : Bool) :
    (QueuedEvent.Exposure (exposure_event_of user held sampling_decision undelegated exposure_info
      op)).TakesWhatIsSent should_log_parent := by
  rintro ⟨hlayer, hname, -⟩
  have hgate : GATE_EXPOSURE_EVENT_NAME ≠ LAYER_EXPOSURE_EVENT_NAME := by decide
  have hconfig : CONFIG_EXPOSURE_EVENT_NAME ≠ LAYER_EXPOSURE_EVENT_NAME := by decide
  cases hmade with
  | gate call => exact absurd hlayer hgate
  | dynamic_config call => exact absurd hlayer hconfig
  | experiment call => exact absurd hlayer hconfig
  | layer_param parameter_name call => cases hname
  | partial_raw parameter_name trigger partial_raw exposure_time => cases hname

/-! ## Examples -/

def checkout_user : StatsigUserLoggable where
  data := { user_id := some { string_value := some ⟨"anna", "anna"⟩ } }

def passed_gate (name : String) : InternedExposure where
  gate := .stored name
  gate_value := .stored "true"
  rule_id := .stored "everyone"

/-- A gate with two nested gates. -/
def checkout_gate : QueuedEvent := .GateExposure
  { user := checkout_user
    gate_name := .stored "checkout"
    value := true
    rule_id := .stored "everyone"
    secondary_exposures := some [passed_gate "employees", passed_gate "beta"]
    evaluation_details := { reason := "Network:Recognized" }
    version := none
    exposure_trigger := .Auto
    sampling_decision := .ForceSampled
    override_config_name := none
    exposure_time := 1700000000000 }

/-- A layer exposure without the name of a parameter. Of its layer the experiment has one gate, and
the layer itself another one. -/
def nameless_layer : QueuedEvent := .Exposure
  { user := checkout_user
    sampling_decision := .ForceSampled
    data :=
      { event_name := LAYER_EXPOSURE_EVENT_NAME
        spec_name := .stored "checkout_layer"
        exposure_time := 1700000000000
        trigger := .Manual
        evaluation_details := { reason := "Network:Recognized" }
        secondary_exposures := some [passed_gate "employees"]
        undelegated_secondary_exposures := some [passed_gate "beta"] } }

def fresh_logger : EventLogger where
  event_sampler := .with_max_keys 1700000000000 none

/-- The two nested gates are logged, if the gate itself is deduplicated too. -/
theorem nested_gates_are_logged :
    LogsSecondaryExposures fresh_logger
      (fresh_logger.enqueue_event_with_secondary_exposures_as_primary .by_length {} checkout_gate
        false) checkout_gate false :=
  (secondary_exposures_are_logged_iff .by_length {} fresh_logger checkout_gate trivial false).mpr
    trivial

/-- The gate of the experiment is logged, which the event is not sent with, and the gate of the
layer is not. -/
theorem nameless_layer_is_mixed_up :
    ¬ LogsSecondaryExposures fresh_logger
      (fresh_logger.enqueue_event_with_secondary_exposures_as_primary .by_length {} nameless_layer
        true) nameless_layer true := by
  have hkind : nameless_layer.IsExposure := trivial
  rw [logs_iff_taken .by_length {} fresh_logger hkind true]
  rintro ⟨htaken, -⟩
  have hgate := congrArg (List.map fun exposure => exposure.gate.text) htaken
  exact absurd hgate (by decide)

end statsig_rust.event_logging.event_queue
