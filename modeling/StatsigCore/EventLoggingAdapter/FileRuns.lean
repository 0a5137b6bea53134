-- Runs of the processes that share one file of events: which events are still in the file, are
-- being sent, were sent, were dropped on purpose, or are lost. Of the requests of one sending that
-- fail only the first one goes back to the file.
import StatsigCore.EventLoggingAdapter.LocalFileEvents

namespace statsig_rust.event_logging_adapter

open event_logging event_logging.event_queue id_lists_adapter machine

abbrev Events := List StatsigEventInternal

/-- `sending` has the requests of each `send_pending_events` whose answers are awaited. The other
fields record what became of the events. -/
structure Spool where
  file : Option Text := none
  sending : List (List Events) := []
  logged : Events := []
  delivered : Events := []
  merged : Events := []
  unsampled : Events := []
  lost : Events := []

inductive Action where
  | log (batch : Events)
  | send (draws : Draws)
  /-- The answers to all the requests of one sending. The file opens, or not, for the request that
  goes back to it. -/
  | answers (sender : Nat) (results : List Bool) (opens : Bool)

/-- The requests with the one result. -/
def requests_with (result : Bool) (requests : List Events) (results : List Bool) : List Events :=
  ((requests.zip results).filter fun answered => answered.2 == result).map Prod.fst

section Step

variable (env : Env)

/-- The requests of one sending, of a thousand events each. -/
def requests_of (draws : Draws) (text : Text) : List Events :=
  chunks 1000 (process_events env draws text)

def answered (s : Spool) (sender : Nat) (delivered : Events) : Spool :=
  { s with sending := s.sending.eraseIdx sender, delivered := s.delivered ++ delivered }

def step (s : Spool) : Action → Option Spool
  | .log batch =>
    some { s with file := append_line env s.file batch, logged := s.logged ++ batch }
  | .send draws =>
    match s.file with
    | none => some s
    | some text =>
      some { s with
        file := some []
        sending := s.sending ++ [requests_of env draws text]
        merged := s.merged ++ merged_away env draws text
        unsampled := s.unsampled ++ unsampled draws 0 (file_events env text) }
  | .answers sender results opens =>
    match s.sending[sender]? with
    | none => none
    | some requests =>
      if results.length = requests.length then
        let s := answered s sender (requests_with true requests results).flatten
        match requests_with false requests results with
        | [] => some s
        | first :: others =>
          if opens then
            some { s with
              file := append_line env s.file first
              lost := s.lost ++ others.flatten }
          else some { s with lost := s.lost ++ (first :: others).flatten }
      else none

/-- The batch that a step writes to the file. -/
def written (s : Spool) : Action → Option Events
  | .log batch => some batch
  | .send _ => none
  | .answers sender results opens =>
    if opens then (requests_with false ((s.sending[sender]?).getD []) results).head? else none

/-- `serde_json` does its work on what the step writes. -/
def Readable (s : Spool) (a : Action) : Prop :=
  ∀ batch, written s a = some batch → env.serde_json.Writes batch

end Step

/-! ## The requests of one sending -/

theorem requests_perm {requests : List Events} {results : List Bool}
    (h : results.length = requests.length) :
    (requests_with true requests results ++ requests_with false requests results).Perm
      requests := by
  have hfst : (requests.zip results).map Prod.fst = requests :=
    List.map_fst_zip (by omega)
  conv_rhs => rw [← hfst]
  unfold requests_with
  rw [← List.map_append]
  apply List.Perm.map
  have hnot : (fun answered : Events × Bool => answered.2 == false) =
      fun answered => !(answered.2 == true) := by
    funext answered
    cases answered.2 <;> rfl
  rw [hnot]
  exact List.filter_append_perm _ _

theorem length_failed {requests : List Events} {results : List Bool}
    (h : results.length = requests.length) :
    (requests_with false requests results).length = results.count false := by
  have hsnd : (requests.zip results).map Prod.snd = results := List.map_snd_zip (by omega)
  conv_rhs => rw [← hsnd]
  unfold requests_with
  rw [List.length_map, List.count_eq_countP, List.countP_map, List.countP_eq_length_filter]
  rfl

theorem requests_with_subset {result : Bool} {requests : List Events} {results : List Bool}
    {request : Events} (h : request ∈ requests_with result requests results) :
    request ∈ requests := by
  obtain ⟨⟨request', result'⟩, hmem, rfl⟩ := List.mem_map.mp h
  exact (List.of_mem_zip (List.mem_filter.mp hmem).1).1

/-! ## What became of every event -/

variable {env : Env}

/-- The events that the file holds. -/
def pending (env : Env) (s : Spool) : Events := file_events env (s.file.getD [])

/-- Everything that is somewhere. -/
def accounted (env : Env) (s : Spool) : Multiset StatsigEventInternal :=
  (pending env s : Multiset StatsigEventInternal) + (s.sending.flatten.flatten : Events) +
    s.delivered + s.merged + s.unsampled + s.lost

/-- No event is missing, when the step that is being taken has some in its hands. -/
structure Conserved (env : Env) (s : Spool) (held : Events) : Prop where
  line_end : AtLineEnd (s.file.getD [])
  reread : ∀ event ∈ pending env s ++ s.sending.flatten.flatten ++ held,
    event.reread env.std = event
  all : ((s.logged.map (StatsigEventInternal.reread env.std) : Events) :
    Multiset StatsigEventInternal) = accounted env s + held

theorem map_reread_self {events : Events} (h : ∀ event ∈ events, event.reread env.std = event) :
    events.map (StatsigEventInternal.reread env.std) = events := by
  conv_rhs => rw [← List.map_id events]
  exact List.map_congr_left h

theorem pending_append {s : Spool} (hline : AtLineEnd (s.file.getD [])) {batch : Events}
    (hwrites : env.serde_json.Writes batch) :
    AtLineEnd ((append_line env s.file batch).getD []) ∧
      file_events env ((append_line env s.file batch).getD []) =
        pending env s ++ batch.map (StatsigEventInternal.reread env.std) := by
  unfold pending
  rw [append_line, Option.getD_some]
  refine ⟨AtLineEnd.append hline (at_line_end_line batch), ?_⟩
  rw [file_events_append hline, file_events_line hwrites]

section Kept

variable {s : Spool} {held : Events}

theorem Conserved.log (hs : Conserved env s held) {batch : Events}
    (hwrites : env.serde_json.Writes batch) :
    Conserved env
      { s with file := append_line env s.file batch, logged := s.logged ++ batch } held := by
  obtain ⟨hline, hpending⟩ := pending_append hs.line_end hwrites
  refine ⟨hline, ?_, ?_⟩
  · intro event hevent
    unfold pending at hevent
    rw [hpending] at hevent
    simp only [List.mem_append] at hevent
    rcases hevent with ((hevent | hevent) | hevent) | hevent
    · exact hs.reread event (by simp [hevent])
    · obtain ⟨event, -, rfl⟩ := List.mem_map.mp hevent
      exact reread_event_twice env.std event
    · exact hs.reread event (List.mem_append_left _ (List.mem_append_right _ hevent))
    · exact hs.reread event (List.mem_append_right _ hevent)
  · have hall := hs.all
    unfold accounted at hall ⊢
    rw [pending, hpending, List.map_append, ← Multiset.coe_add, ← Multiset.coe_add, hall]
    abel

/-- What the step has in its hands goes back to the file. -/
theorem Conserved.write_back {batch : Events} (hs : Conserved env s (batch ++ held))
    (hwrites : env.serde_json.Writes batch) :
    Conserved env { s with file := append_line env s.file batch } held := by
  obtain ⟨hline, hpending⟩ := pending_append hs.line_end hwrites
  rw [map_reread_self fun event hevent => hs.reread event
    (List.mem_append_right _ (List.mem_append_left _ hevent))] at hpending
  refine ⟨hline, ?_, ?_⟩
  · intro event hevent
    unfold pending at hevent
    rw [hpending] at hevent
    simp only [List.mem_append] at hevent
    refine hs.reread event ?_
    simp only [List.mem_append]
    tauto
  · have hall := hs.all
    unfold accounted at hall ⊢
    rw [pending, hpending, ← Multiset.coe_add, hall, ← Multiset.coe_add]
    abel

theorem Conserved.lose {gone : Events} (hs : Conserved env s (gone ++ held)) :
    Conserved env { s with lost := s.lost ++ gone } held := by
  refine ⟨hs.line_end, ?_, ?_⟩
  · intro event hevent
    refine hs.reread event ?_
    rw [List.mem_append] at hevent ⊢
    exact hevent.imp_right (List.mem_append_right _)
  · have hall := hs.all
    unfold accounted at hall ⊢
    rw [hall, ← Multiset.coe_add, ← Multiset.coe_add]
    change (pending env s : Multiset StatsigEventInternal) + _ + _ + _ + _ + _ + _ =
      (pending env s : Multiset StatsigEventInternal) + _ + _ + _ + _ + _ + _
    abel

theorem Conserved.send (hs : Conserved env s held) {text : Text} (hfile : s.file = some text)
    (draws : Draws) :
    Conserved env { s with
      file := some []
      sending := s.sending ++ [requests_of env draws text]
      merged := s.merged ++ merged_away env draws text
      unsampled := s.unsampled ++ unsampled draws 0 (file_events env text) } held := by
  have hpending : pending env s = file_events env text := by
    unfold pending
    rw [hfile]
    rfl
  have hflatten : (s.sending ++ [requests_of env draws text]).flatten.flatten =
      s.sending.flatten.flatten ++ process_events env draws text := by
    rw [List.flatten_append, List.flatten_append, List.flatten_singleton, requests_of,
      flatten_chunks]
  refine ⟨.inl rfl, ?_, ?_⟩
  · intro event hevent
    rw [hflatten] at hevent
    change event ∈ [] ++ (_ ++ _) ++ _ at hevent
    rw [List.nil_append, List.mem_append, List.mem_append] at hevent
    refine hs.reread event ?_
    rw [List.mem_append, List.mem_append]
    rcases hevent with (hevent | hevent) | hevent
    · exact .inl (.inr hevent)
    · refine .inl (.inl (hpending ▸ ?_))
      exact (processed_perm env draws text).subset
        (List.mem_append_left _ (List.mem_append_left _ hevent))
    · exact .inr hevent
  · have hall := hs.all
    unfold accounted at hall ⊢
    have hperm : (file_events env text : Multiset StatsigEventInternal) =
        process_events env draws text + merged_away env draws text +
          unsampled draws 0 (file_events env text) :=
      (Multiset.coe_eq_coe.mpr (processed_perm env draws text)).symm
    rw [hall, hpending, hflatten, hperm, ← Multiset.coe_add, ← Multiset.coe_add,
      ← Multiset.coe_add]
    change _ = (0 : Multiset StatsigEventInternal) + _ + _ + _ + _ + _ + _
    abel

/-- The requests that failed are in the hands of the step, and those that did not are
delivered. -/
theorem Conserved.answered (hs : Conserved env s []) {sender : Nat} {requests : List Events}
    {results : List Bool} (hrequests : s.sending[sender]? = some requests)
    (hlength : results.length = requests.length) :
    Conserved env (answered s sender (requests_with true requests results).flatten)
      (requests_with false requests results).flatten := by
  obtain ⟨hlt, hget⟩ := List.getElem?_eq_some_iff.mp hrequests
  have hsending : ((requests_with true requests results).flatten ++
      (requests_with false requests results).flatten ++
      (s.sending.eraseIdx sender).flatten.flatten).Perm s.sending.flatten.flatten := by
    rw [← List.flatten_append, ← List.flatten_append]
    refine List.Perm.flatten ?_
    refine ((requests_perm hlength).append_right _).trans ?_
    rw [← List.flatten_cons, ← hget]
    exact (List.getElem_cons_eraseIdx_perm hlt).flatten
  refine ⟨hs.line_end, ?_, ?_⟩
  · intro event hevent
    refine hs.reread event ?_
    rw [List.append_nil, List.mem_append]
    rw [List.mem_append, List.mem_append] at hevent
    rcases hevent with (hevent | hevent) | hevent
    · exact .inl hevent
    · exact .inr (hsending.subset (List.mem_append_right _ hevent))
    · exact .inr (hsending.subset (List.mem_append_left _ (List.mem_append_right _ hevent)))
  · have hall := hs.all
    unfold accounted at hall ⊢
    rw [← Multiset.coe_eq_coe.mpr hsending] at hall
    change _ = (pending env s : Multiset StatsigEventInternal) +
      ((s.sending.eraseIdx sender).flatten.flatten : Events) +
      ((s.delivered ++ _ : Events) : Multiset StatsigEventInternal) + s.merged + s.unsampled +
      s.lost + _
    change ((s.logged.map _ : Events) : Multiset StatsigEventInternal) = _
    rw [hall, ← Multiset.coe_add, ← Multiset.coe_add, ← Multiset.coe_add, Multiset.coe_nil]
    abel

end Kept

theorem Conserved.step {s s' : Spool} (hs : Conserved env s []) {a : Action}
    (hreadable : Readable env s a) (h : step env s a = some s') : Conserved env s' [] := by
  cases a with
  | log batch =>
    rw [← Option.some.inj h]
    exact hs.log (hreadable batch rfl)
  | send draws =>
    cases hfile : s.file with
    | none =>
      simp only [event_logging_adapter.step, hfile] at h
      rwa [← Option.some.inj h]
    | some text =>
      simp only [event_logging_adapter.step, hfile] at h
      rw [← Option.some.inj h]
      exact hs.send hfile draws
  | answers sender results opens =>
    unfold event_logging_adapter.step at h
    cases hrequests : s.sending[sender]? with
    | none => simp [hrequests] at h
    | some requests =>
      simp only [hrequests] at h
      split at h
      case isFalse => cases h
      case isTrue hlength =>
        have hanswered := hs.answered hrequests hlength
        cases hfailed : requests_with false requests results with
        | nil =>
          simp only [hfailed] at h
          rw [hfailed] at hanswered
          rwa [← Option.some.inj h]
        | cons first others =>
          simp only [hfailed] at h
          rw [hfailed, List.flatten_cons] at hanswered
          cases opens with
          | false =>
            rw [if_neg Bool.false_ne_true] at h
            rw [← Option.some.inj h]
            rw [← List.append_nil (first ++ others.flatten)] at hanswered
            exact hanswered.lose
          | true =>
            rw [if_pos rfl] at h
            rw [← Option.some.inj h]
            have hwrites : env.serde_json.Writes first := by
              apply hreadable first
              simp only [written, ↓reduceIte, hrequests, Option.getD_some, hfailed,
                List.head?_cons]
            rw [← List.append_nil others.flatten] at hanswered
            exact (hanswered.write_back hwrites).lose

/-- Whatever the processes do, and in whatever order, every event that was logged is in the file,
is being sent, was sent, was dropped because of the same exposure before it or as a diagnostics
event that is not sampled, or is lost. None is there twice. -/
theorem every_event_is_accounted_for {labels : List Action} {s : Spool}
    (hreadable : Along (step env) (Readable env) {} labels)
    (hrun : run (step env) {} labels = some s) :
    ((s.logged.map (StatsigEventInternal.reread env.std) : Events) :
      Multiset StatsigEventInternal) =
      (file_events env (s.file.getD []) : Multiset StatsigEventInternal) +
        (s.sending.flatten.flatten : Events) + s.delivered + s.merged + s.unsampled + s.lost := by
  have hstart : Conserved env {} [] := ⟨.inl rfl, fun _ hevent => (nomatch hevent), rfl⟩
  have hs := run_invariant_along (I := fun s => Conserved env s [])
    (fun s a s' hs hreadable h => hs.step hreadable h) hreadable hstart hrun
  have hall := hs.all
  rwa [Multiset.coe_nil, add_zero] at hall

/-- The event is logged and sent. -/
def one_event_run : List Action :=
  [.log [one_event], .send fun _ => 0, .answers 0 [true] false]

set_option maxRecDepth 8000 in
theorem every_event_is_accounted_for_once_sent : ∃ s,
    run (step one_event_env) {} one_event_run = some s ∧ s.delivered = [one_event] ∧
    ((s.logged.map (StatsigEventInternal.reread one_event_env.std) : Events) :
      Multiset StatsigEventInternal) =
      (file_events one_event_env (s.file.getD []) : Multiset StatsigEventInternal) +
        (s.sending.flatten.flatten : Events) + s.delivered + s.merged + s.unsampled + s.lost := by
  obtain ⟨s, hrun, hdelivered⟩ : ∃ s, run (step one_event_env) {} one_event_run = some s ∧
      s.delivered = [one_event] := ⟨_, rfl, rfl⟩
  have hreadable : Along (step one_event_env) (Readable one_event_env) {} one_event_run := by
    refine ⟨fun batch h => ?_, fun _ _ => ⟨fun _ h => (nomatch h), fun _ _ =>
      ⟨fun _ h => (nomatch h), fun _ _ => trivial⟩⟩⟩
    rw [← Option.some.inj h]
    exact one_event_writes
  exact ⟨s, hrun, hdelivered, every_event_is_accounted_for hreadable hrun⟩

/-! ## What is lost -/

/-- Of the requests that are answered together at most one fails, and then the file opens. -/
def OneFailure (s : Spool) : Action → Prop
  | .answers sender results opens =>
    ∀ requests, s.sending[sender]? = some requests → results.length = requests.length →
      results.count false ≤ 1 ∧ (false ∈ results → opens = true)
  | _ => True

theorem answers_spec {s s' : Spool} {sender : Nat} {results : List Bool} {opens : Bool}
    (h : step env s (.answers sender results opens) = some s') :
    ∃ requests, s.sending[sender]? = some requests ∧ results.length = requests.length ∧
      s'.sending = s.sending.eraseIdx sender ∧
      s'.lost = s.lost ++ (if opens then (requests_with false requests results).tail
        else requests_with false requests results).flatten := by
  unfold step at h
  cases hrequests : s.sending[sender]? with
  | none => simp [hrequests] at h
  | some requests =>
    simp only [hrequests] at h
    split at h
    case isFalse => cases h
    case isTrue hlength =>
      refine ⟨requests, rfl, hlength, ?_⟩
      cases hfailed : requests_with false requests results with
      | nil =>
        simp only [hfailed] at h
        rw [← Option.some.inj h]
        exact ⟨rfl, by simp [answered]⟩
      | cons first others =>
        simp only [hfailed] at h
        cases opens with
        | false =>
          rw [if_neg Bool.false_ne_true] at h
          rw [← Option.some.inj h]
          exact ⟨rfl, rfl⟩
        | true =>
          rw [if_pos rfl] at h
          rw [← Option.some.inj h]
          exact ⟨rfl, rfl⟩

/-- No request is without events. -/
def NonemptyRequests (s : Spool) : Prop :=
  ∀ requests ∈ s.sending, ∀ request ∈ requests, request ≠ []

theorem nonempty_step {s s' : Spool} {a : Action} (hs : NonemptyRequests s)
    (h : step env s a = some s') : NonemptyRequests s' := by
  cases a with
  | log batch =>
    rw [← Option.some.inj h]
    exact hs
  | send draws =>
    cases hfile : s.file with
    | none =>
      simp only [step, hfile] at h
      rwa [← Option.some.inj h]
    | some text =>
      simp only [step, hfile] at h
      rw [← Option.some.inj h]
      intro requests hmem
      rcases List.mem_append.mp hmem with hmem | hmem
      · exact hs requests hmem
      · rw [List.mem_singleton.mp hmem]
        exact fun request hrequest => chunks_ne_nil hrequest
  | answers sender results opens =>
    obtain ⟨-, -, -, hsending, -⟩ := answers_spec h
    intro requests hmem
    rw [hsending] at hmem
    exact hs requests (List.mem_of_mem_eraseIdx hmem)

theorem flatten_eq_nil_of_nonempty {requests : List Events}
    (h : ∀ request ∈ requests, request ≠ []) : requests.flatten = [] ↔ requests = [] := by
  rw [List.flatten_eq_nil_iff]
  constructor
  · intro hnil
    cases requests with
    | nil => rfl
    | cons request requests =>
      exact absurd (hnil request List.mem_cons_self) (h request List.mem_cons_self)
  · rintro rfl _ hmem
    cases hmem

theorem lost_step_iff {s s' : Spool} {a : Action} (hs : NonemptyRequests s) (hlost : s.lost = [])
    (h : step env s a = some s') : s'.lost = [] ↔ OneFailure s a := by
  cases a with
  | log batch =>
    rw [← Option.some.inj h]
    exact iff_of_true hlost trivial
  | send draws =>
    refine iff_of_true ?_ trivial
    cases hfile : s.file with
    | none =>
      simp only [step, hfile] at h
      rwa [← Option.some.inj h]
    | some text =>
      simp only [step, hfile] at h
      rw [← Option.some.inj h]
      exact hlost
  | answers sender results opens =>
    obtain ⟨requests, hrequests, hlength, -, hlater⟩ := answers_spec h
    have hcount := length_failed hlength
    have hone : OneFailure s (.answers sender results opens) ↔
        results.count false ≤ 1 ∧ (false ∈ results → opens = true) :=
      ⟨fun hone => hone requests hrequests hlength, fun hone _ _ _ => hone⟩
    have hne : ∀ request ∈ requests_with false requests results, request ≠ [] := fun request hmem =>
      hs requests (List.mem_of_getElem? hrequests) request (requests_with_subset hmem)
    rw [hone, ← List.count_pos_iff, ← hcount, hlater, hlost, List.nil_append]
    cases opens with
    | false =>
      rw [if_neg Bool.false_ne_true, flatten_eq_nil_of_nonempty hne, ← List.length_eq_zero_iff]
      grind
    | true =>
      rw [if_pos rfl, flatten_eq_nil_of_nonempty fun request hmem =>
        hne request (List.mem_of_mem_tail hmem), ← List.length_eq_zero_iff, List.length_tail]
      grind

theorem one_failure_of_refused {s : Spool} {a : Action} (h : step env s a = none) :
    OneFailure s a := by
  cases a with
  | log batch => trivial
  | send draws => trivial
  | answers sender results opens =>
    intro requests hrequests hlength
    unfold step at h
    simp only [hrequests, hlength, ↓reduceIte] at h
    split at h
    · cases h
    · split at h <;> cases h

/-- Events are lost just when two requests of one sending fail, or one fails and the file does
not open for it. -/
theorem nothing_is_lost_iff (env : Env) (labels : List Action) :
    (∀ n s, run (step env) {} (labels.take n) = some s → s.lost = []) ↔
      Along (step env) OneFailure {} labels := by
  have hnonempty : NonemptyRequests {} := fun requests h => nomatch h
  have hiff : (∀ n s, run (step env) {} (labels.take n) = some s →
      s.lost = [] ∧ NonemptyRequests s) ↔ Along (step env) OneFailure {} labels := by
    refine invariant_iff_along (I := fun s => s.lost = [] ∧ NonemptyRequests s) ?_
      (fun s a h => one_failure_of_refused h) ⟨rfl, hnonempty⟩ labels
    intro s a s' hs h
    have hlost := lost_step_iff hs.2 hs.1 h
    exact ⟨fun hs' => hlost.mp hs'.1, fun hone => ⟨hlost.mpr hone, nonempty_step hs.2 h⟩⟩
  rw [← hiff]
  constructor
  · intro hlost n s hrun
    exact ⟨hlost n s hrun, run_invariant (fun s a s' hs h => nonempty_step hs h) hnonempty hrun⟩
  · exact fun hall n s hrun => (hall n s hrun).1

end statsig_rust.event_logging_adapter
