-- The diagnostics of an instance (`sdk_diagnostics/diagnostics.rs`, `diagnostics_observer.rs`):
-- markers wait under their context until an event takes them, and the sampling may throw the event
-- away. The observer handles one event after the other. Which locks it gets in time, and the random
-- numbers, come with each event.
import StatsigCore.Evaluation.SpecTypes
import StatsigCore.Networking.NetworkClient

namespace statsig_rust.diagnostics

open networking (KeyType)

def MAX_MARKER_COUNT : Nat := 50
def DEFAULT_SAMPLING_RATE : ℚ := 100
def MAX_SAMPLING_RATE : ℚ := 10000

inductive ContextType where
  | Initialize | ConfigSync | Unknown
deriving DecidableEq

def ContextType.to_string : ContextType → String
  | .Initialize => "initialize"
  | .ConfigSync => "config_sync"
  | .Unknown => "unknown"

/-! ## The handler -/

/-- What comes from outside while an event is handled: the locks that are to be had in time, a
random number from 0 up to 1, and the sampling rates of the global configs. -/
structure Told where
  set_context_granted : Bool := true
  add_context_granted : Bool := true
  add_granted : Bool := true
  enqueue_context_granted : Bool := true
  get_granted : Bool := true
  clear_granted : Bool := true
  rand : ℚ
  sampling_rates : HashMap String ℚ

variable {Marker : Type}

structure DiagnosticsEvent (Marker : Type) where
  marker : Option Marker
  context : Option ContextType
  key : Option KeyType
  should_enqueue : Bool

/-- What an attempt to enqueue took: the markers of the context, whether they became an event, and
whether they were cleared. -/
structure Batch (Marker : Type) where
  context : ContextType
  markers : List Marker
  sampled : Bool
  cleared : Bool

/-- The handler, with what it has done so far, the newest first: the markers that it took, the ones
that it did not (and how many were waiting then, if it had the lock), and the batches. -/
structure Diagnostics (Marker : Type) where
  marker_map : HashMap ContextType (List Marker) := []
  context : ContextType := .Initialize
  taken : List (ContextType × Marker) := []
  refused : List (Option Nat) := []
  batches : List (Batch Marker) := []

namespace Diagnostics

variable (d : Diagnostics Marker)

def markers (c : ContextType) : List Marker := (d.marker_map.get c).getD []

def get_context (maybe_context : Option ContextType) (granted : Bool) : ContextType :=
  maybe_context.getD (if granted then d.context else .Unknown)

def set_context (context : ContextType) (told : Told) : Diagnostics Marker :=
  if told.set_context_granted then { d with context } else d

def add_marker (context_type : Option ContextType) (marker : Marker) (told : Told) :
    Diagnostics Marker :=
  let context_type := d.get_context context_type told.add_context_granted
  if told.add_granted then
    let entry := d.markers context_type
    if entry.length < MAX_MARKER_COUNT then
      { d with
        marker_map := d.marker_map.insert context_type (entry ++ [marker])
        taken := (context_type, marker) :: d.taken }
    else
      { d with
        marker_map := d.marker_map.insert context_type entry
        refused := some entry.length :: d.refused }
  else { d with refused := none :: d.refused }

def clear_markers (context_type : ContextType) (granted : Bool) : Diagnostics Marker :=
  if granted then
    match d.marker_map.get context_type with
    | some _ => { d with marker_map := d.marker_map.insert context_type [] }
    | none => d
  else d

def check_sampling_rate (rand : ℚ) (sampling_rate : Option ℚ) : Bool :=
  rand * MAX_SAMPLING_RATE < sampling_rate.getD DEFAULT_SAMPLING_RATE

def should_sample (context : ContextType) (key : Option KeyType) (told : Told) : Bool :=
  let rate := fun name => check_sampling_rate told.rand (told.sampling_rates.get name)
  if context = .Initialize then rate "initialize"
  else
    match key with
    | some .GetIDListSources => rate "get_id_list"
    | some .DownloadConfigSpecs => rate "dcs"
    | _ => check_sampling_rate told.rand none

def enqueue_diagnostics_event (context_type : Option ContextType) (key : Option KeyType)
    (told : Told) : Diagnostics Marker :=
  let context_type := d.get_context context_type told.enqueue_context_granted
  if told.get_granted then
    match d.markers context_type with
    | [] => d
    | marker :: markers =>
      -- the metadata is always written: no marker fails to serialize
      let batch : Batch Marker :=
        { context := context_type
          markers := marker :: markers
          sampled := should_sample context_type key told
          cleared := told.clear_granted }
      { d.clear_markers context_type told.clear_granted with batches := batch :: d.batches }
  else d

/-- `handle_diagnostics_event`. -/
def handle (event : DiagnosticsEvent Marker) (told : Told) : Diagnostics Marker :=
  let d := match event.context with
    | some context => d.set_context context told
    | none => d
  let d := match event.marker with
    | some marker => d.add_marker event.context marker told
    | none => d
  if event.should_enqueue then d.enqueue_diagnostics_event event.context event.key told else d

def handle_all (events : List (DiagnosticsEvent Marker × Told)) : Diagnostics Marker :=
  events.foldl (fun d event => d.handle event.1 event.2) d

/-! ## What holds after any run -/

/-- The markers of a context among those that were taken, in the order of time. -/
def taken_of (taken : List (ContextType × Marker)) (c : ContextType) : List Marker :=
  (taken.reverse.filter fun entry => decide (entry.1 = c)).map Prod.snd

/-- The markers of a context that are in a batch and were cleared with it. -/
def cleared_of (batches : List (Batch Marker)) (c : ContextType) : List Marker :=
  (batches.reverse.filter fun batch => decide (batch.context = c) && batch.cleared).flatMap
    (·.markers)

theorem taken_of_cons (entry : ContextType × Marker) (taken : List (ContextType × Marker))
    (c : ContextType) :
    taken_of (entry :: taken) c = taken_of taken c ++ if entry.1 = c then [entry.2] else [] := by
  unfold taken_of
  rw [List.reverse_cons, List.filter_append, List.map_append]
  by_cases hc : entry.1 = c <;> simp [hc]

theorem cleared_of_cons (batch : Batch Marker) (batches : List (Batch Marker)) (c : ContextType) :
    cleared_of (batch :: batches) c =
      cleared_of batches c ++ if batch.cleared ∧ c = batch.context then batch.markers else [] := by
  unfold cleared_of
  rw [List.reverse_cons, List.filter_append, List.flatMap_append]
  by_cases hc : c = batch.context
  · cases hcleared : batch.cleared <;> simp [hc, hcleared]
  · have hc' : batch.context ≠ c := fun heq => hc heq.symm
    simp [hc, hc']

/-- Every marker that was taken is in one batch, or waits, in the order of time. A marker is refused
only where as many wait as may, or where the lock is not to be had. -/
structure Conserves (d : Diagnostics Marker) : Prop where
  conserved : ∀ c, taken_of d.taken c = cleared_of d.batches c ++ d.markers c
  bounded : ∀ c, (d.markers c).length ≤ MAX_MARKER_COUNT
  batches : ∀ batch ∈ d.batches, batch.markers ≠ [] ∧ batch.markers.length ≤ MAX_MARKER_COUNT
  refused : ∀ waiting ∈ d.refused, waiting = none ∨ waiting = some MAX_MARKER_COUNT

theorem new_conserves : ({} : Diagnostics Marker).Conserves :=
  { conserved := fun _ => rfl
    bounded := fun _ => Nat.zero_le _
    batches := List.forall_mem_nil _
    refused := List.forall_mem_nil _ }

variable {d}

theorem get_insert_markers (map : HashMap ContextType (List Marker)) (c c' : ContextType)
    (markers : List Marker) :
    ((map.insert c markers).get c').getD [] = if c' = c then markers else (map.get c').getD [] := by
  rw [HashMap.get_insert]
  split <;> rfl

theorem Conserves.set_context (h : d.Conserves) (context : ContextType) (told : Told) :
    (d.set_context context told).Conserves := by
  unfold Diagnostics.set_context
  split
  · exact ⟨h.conserved, h.bounded, h.batches, h.refused⟩
  · exact h

theorem Conserves.add_marker (h : d.Conserves) (context_type : Option ContextType)
    (marker : Marker) (told : Told) : (d.add_marker context_type marker told).Conserves := by
  unfold Diagnostics.add_marker
  dsimp only
  generalize d.get_context context_type told.add_context_granted = c
  split
  · split
    · next hroom =>
      refine ⟨fun c' => ?_, fun c' => ?_, h.batches, h.refused⟩
      · show taken_of ((c, marker) :: d.taken) c' = cleared_of d.batches c' ++
          ((d.marker_map.insert c (d.markers c ++ [marker])).get c').getD []
        rw [taken_of_cons, h.conserved c', get_insert_markers]
        by_cases hc : c' = c
        · subst hc
          simp
        · have hc' : c ≠ c' := fun heq => hc heq.symm
          simp [hc, hc', markers]
      · show (((d.marker_map.insert c (d.markers c ++ [marker])).get c').getD []).length ≤ _
        rw [get_insert_markers]
        split
        · rw [List.length_append, List.length_singleton]
          omega
        · exact h.bounded c'
    · next hfull =>
      have hsame (c' : ContextType) :
          ((d.marker_map.insert c (d.markers c)).get c').getD [] = d.markers c' := by
        rw [get_insert_markers]
        split
        · next heq => rw [heq]
        · rfl
      refine ⟨fun c' => ?_, fun c' => ?_, h.batches, ?_⟩
      · exact (h.conserved c').trans (congrArg (cleared_of d.batches c' ++ ·) (hsame c').symm)
      · exact (congrArg List.length (hsame c')).trans_le (h.bounded c')
      · intro waiting hwaiting
        rcases List.mem_cons.mp hwaiting with rfl | hwaiting
        · have hbound := h.bounded c
          exact .inr (congrArg some (by omega))
        · exact h.refused waiting hwaiting
  · refine ⟨h.conserved, h.bounded, h.batches, ?_⟩
    intro waiting hwaiting
    rcases List.mem_cons.mp hwaiting with rfl | hwaiting
    · exact .inl rfl
    · exact h.refused waiting hwaiting

theorem markers_clear_markers (c c' : ContextType) (granted : Bool) :
    (d.clear_markers c granted).markers c' = if granted ∧ c' = c then [] else d.markers c' := by
  unfold clear_markers
  cases granted with
  | false => simp
  | true =>
    cases hget : d.marker_map.get c with
    | none =>
      simp only [if_true, true_and]
      split
      · next heq => simp [markers, heq, hget]
      · rfl
    | some _ =>
      simp only [if_true, true_and]
      unfold markers
      exact get_insert_markers _ c c' []

theorem clear_markers_keeps (c : ContextType) (granted : Bool) :
    (d.clear_markers c granted).taken = d.taken ∧
      (d.clear_markers c granted).refused = d.refused := by
  unfold clear_markers
  split
  · split <;> exact ⟨rfl, rfl⟩
  · exact ⟨rfl, rfl⟩

theorem Conserves.enqueue (h : d.Conserves) (context_type : Option ContextType)
    (key : Option KeyType) (told : Told) :
    (d.enqueue_diagnostics_event context_type key told).Conserves := by
  unfold enqueue_diagnostics_event
  dsimp only
  generalize d.get_context context_type told.enqueue_context_granted = c
  split
  · cases hmarkers : d.markers c with
    | nil => exact h
    | cons marker rest =>
      obtain ⟨htaken, hrefused⟩ := @clear_markers_keeps _ d c told.clear_granted
      have hbound := h.bounded c
      rw [hmarkers] at hbound
      refine ⟨fun c' => ?_, fun c' => ?_, ?_, ?_⟩
      · show taken_of (d.clear_markers c told.clear_granted).taken c' =
          cleared_of (_ :: d.batches) c' ++ (d.clear_markers c told.clear_granted).markers c'
        rw [htaken, h.conserved c', cleared_of_cons, markers_clear_markers]
        by_cases hcleared : told.clear_granted ∧ c' = c
        · simp [hcleared, hmarkers]
        · simp [hcleared]
      · show ((d.clear_markers c told.clear_granted).markers c').length ≤ _
        rw [markers_clear_markers]
        split
        · exact Nat.zero_le _
        · exact h.bounded c'
      · intro batch hbatch
        rcases List.mem_cons.mp hbatch with rfl | hbatch
        · exact ⟨List.cons_ne_nil _ _, hbound⟩
        · exact h.batches batch hbatch
      · intro waiting hwaiting
        exact h.refused waiting (hrefused ▸ hwaiting)
  · exact h

theorem Conserves.handle (h : d.Conserves) (event : DiagnosticsEvent Marker) (told : Told) :
    (d.handle event told).Conserves := by
  have hcontext (h : d.Conserves) : (match event.context with
      | some context => d.set_context context told
      | none => d).Conserves := by
    cases event.context with
    | none => exact h
    | some context => exact h.set_context context told
  have hmarker {d' : Diagnostics Marker} (h : d'.Conserves) : (match event.marker with
      | some marker => d'.add_marker event.context marker told
      | none => d').Conserves := by
    cases event.marker with
    | none => exact h
    | some marker => exact h.add_marker event.context marker told
  unfold Diagnostics.handle
  dsimp only
  split
  · exact (hmarker (hcontext h)).enqueue event.context event.key told
  · exact hmarker (hcontext h)

end Diagnostics

/-- After any run of events, whatever locks were missed and whatever was sampled: the markers of a
context that were taken are those of its batches that were cleared, and then those that wait, in the
order of time. So a marker is in two events only where the lock for the clearing was missed. Not
more than 50 markers wait, and a marker is refused only where 50 do, or where its lock was missed. -/
theorem markers_are_conserved (events : List (DiagnosticsEvent Marker × Told)) :
    (({} : Diagnostics Marker).handle_all events).Conserves := by
  induction events using List.reverseRecOn with
  | nil => exact Diagnostics.new_conserves
  | append_singleton events event ih =>
    unfold Diagnostics.handle_all
    rw [List.foldl_append]
    exact ih.handle event.1 event.2

end statsig_rust.diagnostics
