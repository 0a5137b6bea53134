-- The counters of the checks that log no exposure (`increment_non_exposure_checks` and
-- `try_add_non_exposed_checks_event` in `event_logging/event_logger.rs`), one atomic
-- step at a time. Any number of threads count and any number of drains run at once, and
-- their steps come in any order. The counters are 64-bit words in the source. None of
-- them counts to the end of its word between two drains, so they are natural numbers.
import Mathlib.Algebra.BigOperators.Group.List.Basic
import Mathlib.Algebra.GroupWithZero.Nat
import Mathlib.Logic.Function.Basic
import StatsigCore.Library.Machine

open Function machine

namespace statsig_rust.event_logging

/-- How far a thread is in `increment_non_exposure_checks`. -/
inductive Increment where
  | idle
  | missed (name : String)
  | found (name : String)
deriving DecidableEq

/-- The map that a drain collects. The last count that was put in for a name is the one
that stands. -/
def insert_check (checks : List (String × Nat)) (name : String) (count : Nat) :
    List (String × Nat) :=
  (name, count) :: checks.filter fun check => check.1 ≠ name

def count_of (checks : List (String × Nat)) (name : String) : Nat := (checks.lookup name).getD 0

/-- A drain that goes over the map. The iterator of the map gives a name once at most,
so it keeps the names that it gave. -/
structure ChecksDrain where
  visited : List String := []
  checks : List (String × Nat) := []

/-- The next turn of a drain. A counter of 0 is left out. -/
def ChecksDrain.visit (drain : ChecksDrain) (name : String) (count : Nat) : ChecksDrain where
  visited := name :: drain.visited
  checks := if count > 0 then insert_check drain.checks name count else drain.checks

/-- The map and all that runs over it, with a record of the increments that are complete
and of the drain events. `T` names the threads. -/
structure NonExposedChecks (T : Type) where
  non_exposed_checks : String → Option Nat := fun _ => none
  increments : T → Increment := fun _ => .idle
  drains : List ChecksDrain := []
  completed : List String := []
  events : List (List (String × Nat)) := []

inductive ChecksAction (T : Type) where
  | get (thread : T) (name : String)
  | or_insert (thread : T)
  | fetch_add (thread : T)
  | begin_drain
  | swap (drain : Nat) (name : String)
  | finish_drain (drain : Nat)

namespace NonExposedChecks

variable {T : Type} [DecidableEq T]

/-- `none` when the thread or the drain is not where the step begins. -/
def step (logger : NonExposedChecks T) : ChecksAction T → Option (NonExposedChecks T)
  | .get thread name =>
    match logger.increments thread with
    | .idle =>
      let next := if (logger.non_exposed_checks name).isSome then .found name else .missed name
      some { logger with increments := update logger.increments thread next }
    | _ => none
  | .or_insert thread =>
    match logger.increments thread with
    | .missed name =>
      -- another thread may have put the counter in since the lookup
      let counter := (logger.non_exposed_checks name).getD 0
      some { logger with
        non_exposed_checks := update logger.non_exposed_checks name (some counter)
        increments := update logger.increments thread (.found name) }
    | _ => none
  | .fetch_add thread =>
    match logger.increments thread with
    | .found name =>
      some { logger with
        non_exposed_checks := update logger.non_exposed_checks name
          ((logger.non_exposed_checks name).map (· + 1))
        increments := update logger.increments thread .idle
        completed := logger.completed ++ [name] }
    | _ => none
  | .begin_drain => some { logger with drains := logger.drains ++ [{}] }
  | .swap drain name =>
    match logger.drains[drain]?, logger.non_exposed_checks name with
    | some going, some count =>
      if name ∈ going.visited then none
      else some { logger with
        non_exposed_checks := update logger.non_exposed_checks name (some 0)
        drains := logger.drains.set drain (going.visit name count) }
    | _, _ => none
  | .finish_drain drain =>
    match logger.drains[drain]? with
    | some going =>
      some { logger with
        drains := logger.drains.eraseIdx drain
        events := if going.checks.isEmpty then logger.events else logger.events ++ [going.checks] }
    | none => none

end NonExposedChecks

/-! ## The counts of one name -/

/-- The counts of a name in the drain events. -/
def reported (name : String) (events : List (List (String × Nat))) : Nat :=
  (events.map fun checks => count_of checks name).sum

/-- The counts of a name that drains have taken and did not put into an event yet. -/
def in_hand (name : String) (drains : List ChecksDrain) : Nat :=
  (drains.map fun drain => count_of drain.checks name).sum

theorem count_of_insert (checks : List (String × Nat)) (name other : String) (count : Nat) :
    count_of (insert_check checks name count) other =
      if other = name then count else count_of checks other := by
  unfold count_of insert_check
  by_cases h : other = name
  · simp [h]
  · have hlookup : (checks.filter fun check => check.1 ≠ name).lookup other =
        checks.lookup other := by
      induction checks with
      | nil => rfl
      | cons check checks ih =>
        by_cases hcheck : check.1 = name
        · have hother : (other == check.1) = false := by simp [hcheck, h]
          rw [List.filter_cons_of_neg (by simp [hcheck]), ih, List.lookup_cons, hother]
        · rw [List.filter_cons_of_pos (by simp [hcheck]), List.lookup_cons, List.lookup_cons, ih]
    have hother : (other == name) = false := by simp [h]
    rw [List.lookup_cons, hother, if_neg h]
    exact congrArg (Option.getD · 0) hlookup

theorem in_hand_erase {drains : List ChecksDrain} {i : Nat} {going : ChecksDrain}
    (h : drains[i]? = some going) (name : String) :
    in_hand name drains = count_of going.checks name + in_hand name (drains.eraseIdx i) := by
  obtain ⟨hi, rfl⟩ := List.getElem?_eq_some_iff.mp h
  have hperm := (List.getElem_cons_eraseIdx_perm hi).map fun drain => count_of drain.checks name
  exact hperm.sum_eq.symm

/-- A drain that moves on changes only its own part. -/
theorem in_hand_set {drains : List ChecksDrain} {i : Nat} {going : ChecksDrain}
    (h : drains[i]? = some going) (next : ChecksDrain) (name : String) :
    in_hand name (drains.set i next) + count_of going.checks name =
      in_hand name drains + count_of next.checks name := by
  obtain ⟨hi, -⟩ := List.getElem?_eq_some_iff.mp h
  have hset : (drains.set i next)[i]? = some next := by simp [hi]
  rw [in_hand_erase h name, in_hand_erase hset name, List.eraseIdx_set_eq]
  omega

/-! ## Conservation -/

section Conservation

variable {T : Type} [DecidableEq T] {logger logger' : NonExposedChecks T}

/-- All that a step can do. -/
inductive ChecksStep (logger : NonExposedChecks T) : NonExposedChecks T → Prop
  | get (thread : T) (next : Increment) :
      (∀ name, next = .found name → (logger.non_exposed_checks name).isSome = true) →
      ChecksStep logger { logger with increments := update logger.increments thread next }
  | or_insert (thread : T) (name : String) :
      ChecksStep logger { logger with
        non_exposed_checks := update logger.non_exposed_checks name
          (some ((logger.non_exposed_checks name).getD 0))
        increments := update logger.increments thread (.found name) }
  | fetch_add {thread : T} {name : String} : logger.increments thread = .found name →
      ChecksStep logger { logger with
        non_exposed_checks := update logger.non_exposed_checks name
          ((logger.non_exposed_checks name).map (· + 1))
        increments := update logger.increments thread .idle
        completed := logger.completed ++ [name] }
  | begin_drain : ChecksStep logger { logger with drains := logger.drains ++ [{}] }
  | swap {drain : Nat} {name : String} {going : ChecksDrain} {count : Nat} :
      logger.drains[drain]? = some going → logger.non_exposed_checks name = some count →
      name ∉ going.visited →
      ChecksStep logger { logger with
        non_exposed_checks := update logger.non_exposed_checks name (some 0)
        drains := logger.drains.set drain (going.visit name count) }
  | finish_drain {drain : Nat} {going : ChecksDrain} : logger.drains[drain]? = some going →
      ChecksStep logger { logger with
        drains := logger.drains.eraseIdx drain
        events := if going.checks.isEmpty then logger.events
          else logger.events ++ [going.checks] }

theorem checks_step {action : ChecksAction T} (h : logger.step action = some logger') :
    ChecksStep logger logger' := by
  cases action with
  | get thread name =>
    simp only [NonExposedChecks.step] at h
    split at h
    · cases h
      refine .get thread _ fun other hother => ?_
      split at hother
      · cases hother
        assumption
      · cases hother
    · cases h
  | or_insert thread =>
    simp only [NonExposedChecks.step] at h
    split at h
    · cases h
      exact .or_insert thread _
    · cases h
  | fetch_add thread =>
    simp only [NonExposedChecks.step] at h
    split at h
    · cases h
      exact .fetch_add ‹_›
    · cases h
  | begin_drain =>
    cases h
    exact .begin_drain
  | swap drain name =>
    simp only [NonExposedChecks.step] at h
    split at h
    · rename_i going count hgoing hcount
      split at h
      · cases h
      · cases h
        exact .swap hgoing hcount ‹_›
    · cases h
  | finish_drain drain =>
    simp only [NonExposedChecks.step] at h
    split at h
    · cases h
      exact .finish_drain ‹_›
    · cases h

/-- A thread that found its counter will find it again. -/
def AllFound (increments : T → Increment) (counters : String → Option Nat) : Prop :=
  ∀ thread name, increments thread = .found name → (counters name).isSome = true

theorem AllFound.move {increments : T → Increment} {counters : String → Option Nat}
    (h : AllFound increments counters) (thread : T) {next : Increment}
    (hnext : ∀ name, next = .found name → (counters name).isSome = true) :
    AllFound (update increments thread next) counters := by
  intro other name hother
  by_cases hthread : other = thread
  · rw [hthread, update_self] at hother
    exact hnext name hother
  · rw [update_of_ne hthread] at hother
    exact h other name hother

omit [DecidableEq T] in
theorem AllFound.count {increments : T → Increment} {counters : String → Option Nat}
    (h : AllFound increments counters) (name : String) {counter : Option Nat}
    (hcounter : (counters name).isSome = true → counter.isSome = true) :
    AllFound increments (update counters name counter) := by
  intro thread other hthread
  have hother := h thread other hthread
  by_cases hname : other = name
  · subst hname
    rw [update_self]
    exact hcounter hother
  · rw [update_of_ne hname]
    exact hother

theorem step_keeps_found {action : ChecksAction T}
    (hfound : AllFound logger.increments logger.non_exposed_checks)
    (h : logger.step action = some logger') :
    AllFound logger'.increments logger'.non_exposed_checks := by
  cases checks_step h with
  | get thread next hnext => exact hfound.move thread hnext
  | or_insert thread name =>
    apply (hfound.count name fun _ => rfl).move thread
    rintro other hother
    cases hother
    simp
  | fetch_add =>
    apply (hfound.count _ (by simp)).move
    exact fun other hother => nomatch hother
  | begin_drain => exact hfound
  | swap => exact hfound.count _ fun _ => rfl
  | finish_drain => exact hfound

/-- A drain has no count of a name that it did not visit. -/
def Unvisited (drains : List ChecksDrain) : Prop :=
  ∀ drain ∈ drains, ∀ name ∉ drain.visited, count_of drain.checks name = 0

/-- The count of a name that a drain visits goes into its map. -/
theorem count_of_visit {drain : ChecksDrain} {name : String}
    (hnone : count_of drain.checks name = 0) (count : Nat) (other : String) :
    count_of (drain.visit name count).checks other =
      if other = name then count else count_of drain.checks other := by
  unfold ChecksDrain.visit
  by_cases hpos : count > 0
  · rw [if_pos hpos, count_of_insert]
  · rw [if_neg hpos]
    split
    · rename_i hother
      rw [hother, hnone]
      omega
    · rfl

theorem step_keeps_unvisited {action : ChecksAction T} (hunvisited : Unvisited logger.drains)
    (h : logger.step action = some logger') : Unvisited logger'.drains := by
  cases checks_step h with
  | get | or_insert | fetch_add => exact hunvisited
  | begin_drain =>
    intro drain hdrain name hname
    rcases List.mem_append.mp hdrain with hold | hnew
    · exact hunvisited drain hold name hname
    · rw [List.mem_singleton.mp hnew]
      rfl
  | @swap drain name going count hgoing hcount hnew =>
    have hnone := hunvisited going (List.mem_of_getElem? hgoing)
    intro other hother found hvisited
    rcases List.mem_or_eq_of_mem_set hother with hold | rfl
    · exact hunvisited other hold found hvisited
    · simp only [ChecksDrain.visit, List.mem_cons, not_or] at hvisited
      rw [count_of_visit (hnone name hnew), if_neg hvisited.1, hnone found hvisited.2]
  | finish_drain => exact fun other hother => hunvisited other (List.mem_of_mem_eraseIdx hother)

/-- The complete increments of a name are all somewhere. -/
def Conserved (logger : NonExposedChecks T) (name : String) : Prop :=
  reported name logger.events + in_hand name logger.drains +
    (logger.non_exposed_checks name).getD 0 = logger.completed.count name

theorem reported_finish (name : String) (events : List (List (String × Nat)))
    (checks : List (String × Nat)) :
    reported name (if checks.isEmpty then events else events ++ [checks]) =
      reported name events + count_of checks name := by
  split
  · rename_i hempty
    rw [List.isEmpty_iff.mp hempty]
    rfl
  · unfold reported
    simp

theorem step_conserves {action : ChecksAction T} {name : String}
    (hfound : AllFound logger.increments logger.non_exposed_checks)
    (hunvisited : Unvisited logger.drains) (htotal : Conserved logger name)
    (h : logger.step action = some logger') : Conserved logger' name := by
  unfold Conserved at htotal ⊢
  cases checks_step h with
  | get => exact htotal
  | or_insert thread other =>
    dsimp only
    by_cases hname : name = other
    · rw [← hname, update_self]
      exact htotal
    · rw [update_of_ne hname]
      exact htotal
  | @fetch_add thread other hthread =>
    dsimp only
    rw [List.count_append, List.count_singleton]
    by_cases hname : name = other
    · -- the counter is there, so the increment lands on it
      obtain ⟨count, hcount⟩ := Option.isSome_iff_exists.mp (hfound thread other hthread)
      rw [hname, hcount] at htotal
      rw [hname, update_self, hcount]
      simp only [Option.getD_some, Option.map_some, BEq.rfl, ↓reduceIte] at htotal ⊢
      omega
    · rw [update_of_ne hname]
      simp only [beq_iff_eq, Ne.symm hname, ↓reduceIte]
      omega
  | begin_drain =>
    unfold in_hand at htotal ⊢
    simp only [List.map_append, List.sum_append]
    exact htotal
  | @swap drain other going count hgoing hcount hnew =>
    have hnone := hunvisited going (List.mem_of_getElem? hgoing) other hnew
    have hset := in_hand_set hgoing (going.visit other count) name
    rw [count_of_visit hnone] at hset
    dsimp only
    by_cases hname : name = other
    · -- the whole counter moves into the hand of the drain, which had none of it
      rw [if_pos hname, hname, hnone] at hset
      rw [hname, hcount, Option.getD_some] at htotal
      rw [hname, update_self, Option.getD_some]
      omega
    · rw [if_neg hname] at hset
      rw [update_of_ne hname]
      omega
  | finish_drain hgoing =>
    dsimp only
    rw [in_hand_erase hgoing] at htotal
    rw [reported_finish]
    omega

/-- Whatever the order of the steps, each complete increment of a name is on its counter,
in a drain event, or with a drain that has not added its event yet. Once all the drains
are through, it is on the counter or in an event. -/
theorem non_exposed_checks_are_conserved {actions : List (ChecksAction T)}
    (hrun : run NonExposedChecks.step {} actions = some logger) (name : String) :
    reported name logger.events + in_hand name logger.drains +
        (logger.non_exposed_checks name).getD 0 = logger.completed.count name ∧
      (logger.drains = [] → reported name logger.events +
        (logger.non_exposed_checks name).getD 0 = logger.completed.count name) := by
  have htotal : Conserved logger name := by
    refine (run_invariant (I := fun logger : NonExposedChecks T =>
      AllFound logger.increments logger.non_exposed_checks ∧ Unvisited logger.drains ∧
        Conserved logger name) ?_ ⟨?_, ?_, ?_⟩ hrun).2.2
    · rintro logger action logger' ⟨hfound, hunvisited, htotal⟩ hstep
      exact ⟨step_keeps_found hfound hstep, step_keeps_unvisited hunvisited hstep,
        step_conserves hfound hunvisited htotal hstep⟩
    · exact fun _ _ hidle => nomatch hidle
    · exact fun _ hdrain => nomatch hdrain
    · simp [Conserved, reported, in_hand]
  refine ⟨htotal, fun hdrains => ?_⟩
  unfold Conserved at htotal
  rw [hdrains] at htotal
  exact htotal

/-- Two threads find no counter and both put it in. A drain comes between their
increments. -/
theorem racing_checks_are_conserved :
    ∃ logger, run NonExposedChecks.step ({} : NonExposedChecks Bool)
        [.get true "gate", .get false "gate", .or_insert true, .fetch_add true, .begin_drain,
          .or_insert false, .swap 0 "gate", .fetch_add false, .finish_drain 0] = some logger ∧
      logger.drains.isEmpty = true ∧ logger.events = [[("gate", 1)]] ∧
      reported "gate" logger.events + (logger.non_exposed_checks "gate").getD 0 =
        logger.completed.count "gate" := by
  have hlast : (run NonExposedChecks.step ({} : NonExposedChecks Bool)
      [.get true "gate", .get false "gate", .or_insert true, .fetch_add true, .begin_drain,
        .or_insert false, .swap 0 "gate", .fetch_add false, .finish_drain 0]).map (fun logger =>
      (logger.drains.isEmpty, logger.events)) = some (true, [[("gate", 1)]]) := by decide +kernel
  obtain ⟨logger, hrun, hvalues⟩ := Option.map_eq_some_iff.mp hlast
  simp only [Prod.mk.injEq] at hvalues
  refine ⟨logger, hrun, hvalues.1, hvalues.2, ?_⟩
  exact (non_exposed_checks_are_conserved hrun "gate").2 (List.isEmpty_iff.mp hvalues.1)

end Conservation

end statsig_rust.event_logging
