-- What holds of the interned values in every interleaving: a sweep takes out what nobody holds,
-- a lookup finds what was interned, one sweep runs at a time, and what no sweep has come to is
-- counted by the releases since the last one.
import StatsigCore.Library.Machine
import StatsigCore.Library.Threads
import StatsigCore.InternedValues.InternedStore

open machine

namespace statsig_rust.interned_values

variable {T : Type}

/-- The thread has taken the flag. -/
def Phase.sweeps : Phase T → Bool
  | .Owning | .Zeroed | .Sweeping _ => true
  | _ => false

/-- The thread is going to compare the counter, or to take the flag. -/
def Phase.retries : Phase T → Bool
  | .Trying | .Rechecking => true
  | _ => false

/-- The thread has dropped its `Arc` and has not counted it. -/
def Phase.releases : Phase T → Bool
  | .Releasing => true
  | _ => false

/-- The thread is going to come to the entry of the hash, or to replace it. -/
def Phase.spares (hash : UInt64) : Phase T → Bool
  | .Owning | .Zeroed => true
  | .Sweeping left => left.contains hash
  | .Replacing other _ => other = hash
  | _ => false

/-- `compile_regex` puts a changed value in the place of an entry. -/
def StoreStep.inserts : StoreStep T → Bool
  | .insert _ => true
  | _ => false

/-- The step gives a thread what it has asked for. -/
def StoreStep.looks_up : StoreStep T → Bool
  | .get .. | .get_or_insert_with .. | .entry _ => true
  | _ => false

namespace SharedStore

variable {s s' : SharedStore T}

/-! ## What a step does -/

/-- The `Arc`s that are in the map or held. -/
def Known (s : SharedStore T) (held : UInt64 × Arc T) : Prop :=
  held ∈ s.store.map ∨ held ∈ s.holders

theorem get_known {hash : UInt64} {arc : Arc T} (h : s.store.get hash = some arc) :
    s.Known (hash, arc) := .inl (HashMap.mem_of_get h)

/-- What a thread does on its way from one phase to the next one. -/
inductive Moves (s : SharedStore T) (label : StoreStep T) :
    Phase T → SharedStore T → Phase T → Prop where
  | misses (hash : UInt64) (value : T) : Moves s label .Idle s (.Missing hash value)
  | finds {hash : UInt64} {value : T} {arc : Arc T} (hget : s.store.get hash = some arc) :
    Moves s label (.Missing hash value) (s.hold hash arc) .Idle
  | enters {hash : UInt64} {value : T} (hget : s.store.get hash = none) :
    Moves s label (.Missing hash value) (s.enter hash value) .Idle
  | drops {k : Nat} {held : UInt64 × Arc T} (hk : s.holders[k]? = some held) :
    Moves s label .Idle (s.release k) .Releasing
  | notes (h : s.store.pending_releases + 1 < SWEEP_THRESHOLD) :
    Moves s label .Releasing
      { s with store.pending_releases := s.store.pending_releases + 1 } .Idle
  | reaches (h : SWEEP_THRESHOLD ≤ s.store.pending_releases + 1) :
    Moves s label .Releasing
      { s with store.pending_releases := s.store.pending_releases + 1 } .Trying
  | maintains : Moves s label .Idle s .Trying
  | loses (h : s.store.sweep_in_progress = true) : Moves s label .Trying s .Idle
  | wins (h : s.store.sweep_in_progress = false) :
    Moves s label .Trying { s with store.sweep_in_progress := true } .Owning
  | zeroes : Moves s label .Owning { s with store.pending_releases := 0 } .Zeroed
  | retains : Moves s label .Zeroed s (.Sweeping (s.store.map.map Prod.fst))
  | visits (left : List UInt64) (hash : UInt64) :
    Moves s label (.Sweeping left) (s.visit hash) (.Sweeping (left.filter (· ≠ hash)))
  | clears : Moves s label (.Sweeping []) { s with store.sweep_in_progress := false } .Rechecking
  | rests (h : s.store.pending_releases < SWEEP_THRESHOLD) : Moves s label .Rechecking s .Idle
  | retries (h : SWEEP_THRESHOLD ≤ s.store.pending_releases) : Moves s label .Rechecking s .Trying
  | gives_up {k : Nat} {hash : UInt64} {arc : Arc T} (hk : s.holders[k]? = some (hash, arc))
    (value : T) : Moves s label .Idle (s.release k) (.Replacing hash value)
  | replaces {hash : UInt64} {value : T} (h : label.inserts = true) :
    Moves s label (.Replacing hash value) (s.enter hash value) .Idle

inductive Takes (s : SharedStore T) (label : StoreStep T) (s' : SharedStore T) : Prop where
  | stays (h : s' = s)
  | holds {hash : UInt64} {arc : Arc T} (hknown : s.Known (hash, arc)) (h : s' = s.hold hash arc)
  | allocates {hash : UInt64} {value : T} (h : s' = s.allocate hash value)
  | moves {i : Nat} {phase next : Phase T} {t : SharedStore T} (hi : s.threads[i]? = some phase)
    (hmoves : Moves s label phase t next) (h : s' = t.goto i next)

theorem step_takes {label : StoreStep T} (h : s.step label = some s') : Takes s label s' := by
  cases label with
  | get i hash =>
    simp only [step] at h
    split at h
    · split at h
      · rename_i arc hget
        exact .holds (get_known hget) (Option.some.inj h).symm
      · exact .stays (Option.some.inj h).symm
    · cases h
  | get_or_insert_with i hash value =>
    simp only [step] at h
    split at h
    · rename_i hi
      split at h
      · rename_i arc hget
        exact .holds (get_known hget) (Option.some.inj h).symm
      · exact .moves hi (.misses hash value) (Option.some.inj h).symm
    · cases h
  | entry i =>
    simp only [step] at h
    split at h
    · rename_i hi
      split at h
      · rename_i arc hget
        exact .moves hi (.finds hget) (Option.some.inj h).symm
      · rename_i hget
        exact .moves hi (.enters hget) (Option.some.inj h).symm
    · cases h
  | clone i k =>
    simp only [step] at h
    split at h
    · rename_i hk
      exact .holds (.inr (List.mem_of_getElem? hk)) (Option.some.inj h).symm
    · cases h
  | outside i hash value =>
    simp only [step] at h
    split at h
    · exact .allocates (Option.some.inj h).symm
    · cases h
  | drop i k =>
    simp only [step] at h
    split at h
    · rename_i hi hk
      exact .moves hi (.drops hk) (Option.some.inj h).symm
    · cases h
  | note_release i =>
    simp only [step] at h
    split at h
    · rename_i hi
      split at h
      · rename_i hlt
        exact .moves hi (.notes hlt) (Option.some.inj h).symm
      · rename_i hge
        exact .moves hi (.reaches (Nat.not_lt.mp hge)) (Option.some.inj h).symm
    · cases h
  | run_maintenance i =>
    simp only [step] at h
    split at h
    · rename_i hi
      exact .moves hi .maintains (Option.some.inj h).symm
    · cases h
  | compare_exchange i =>
    simp only [step] at h
    split at h
    · rename_i hi
      split at h
      · rename_i hset
        exact .moves hi (.loses hset) (Option.some.inj h).symm
      · rename_i hclear
        exact .moves hi (.wins (Bool.not_eq_true _ ▸ hclear)) (Option.some.inj h).symm
    · cases h
  | store_zero i =>
    simp only [step] at h
    split at h
    · rename_i hi
      exact .moves hi .zeroes (Option.some.inj h).symm
    · cases h
  | retain i =>
    simp only [step] at h
    split at h
    · rename_i hi
      exact .moves hi .retains (Option.some.inj h).symm
    · cases h
  | visit i hash =>
    simp only [step] at h
    split at h
    · rename_i left hi
      exact .moves hi (.visits left hash) (Option.some.inj h).symm
    · cases h
  | clear i =>
    simp only [step] at h
    split at h
    · rename_i hi
      exact .moves hi .clears (Option.some.inj h).symm
    · cases h
  | recheck i =>
    simp only [step] at h
    split at h
    · rename_i hi
      split at h
      · rename_i hlt
        exact .moves hi (.rests hlt) (Option.some.inj h).symm
      · rename_i hge
        exact .moves hi (.retries (Nat.not_lt.mp hge)) (Option.some.inj h).symm
    · cases h
  | make_mut i k value =>
    simp only [step] at h
    split at h
    · rename_i hi hk
      exact .moves hi (.gives_up hk value) (Option.some.inj h).symm
    · cases h
  | insert i =>
    simp only [step] at h
    split at h
    · rename_i hi
      exact .moves hi (.replaces rfl) (Option.some.inj h).symm
    · cases h

/-- What the store holds, without the counter, the flag and the threads. -/
def contents (s : SharedStore T) :
    HashMap UInt64 (Arc T) × List (UInt64 × Arc T) × Nat × HashMap UInt64 T :=
  (s.store.map, s.holders, s.allocated, s.interned)

inductive Changes (s : SharedStore T) (label : StoreStep T) (s' : SharedStore T) : Prop where
  | same (h : s'.contents = s.contents)
  | holds {hash : UInt64} {arc : Arc T} (hknown : s.Known (hash, arc))
    (h : s'.contents = (s.hold hash arc).contents)
  | allocates {hash : UInt64} {value : T} (h : s'.contents = (s.allocate hash value).contents)
  | enters {hash : UInt64} {value : T}
    (hvacant : s.store.get hash = none ∨ label.inserts = true)
    (h : s'.contents = (s.enter hash value).contents)
  | releases {k : Nat} (h : s'.contents = (s.release k).contents)
  | removes {hash : UInt64} {arc : Arc T} (hget : s.store.get hash = some arc)
    (hsole : s.strong_count arc = 1) (h : s'.contents = (s.remove hash).contents)

theorem visit_changes {label : StoreStep T} (hash : UInt64)
    (hs' : s'.contents = (s.visit hash).contents) : Changes s label s' := by
  unfold visit at hs'
  cases hget : s.store.get hash with
  | none =>
    rw [hget] at hs'
    exact .same hs'
  | some arc =>
    rw [hget] at hs'
    dsimp only at hs'
    split at hs'
    · rename_i hsole
      exact .removes hget hsole hs'
    · exact .same hs'

theorem step_changes {label : StoreStep T} (h : s.step label = some s') :
    Changes s label s' := by
  cases step_takes h with
  | stays h =>
    rw [h]
    exact .same rfl
  | holds hknown h =>
    rw [h]
    exact .holds hknown rfl
  | allocates h =>
    rw [h]
    exact .allocates rfl
  | moves hi hmoves h =>
    rw [h]
    cases hmoves with
    | finds hget => exact .holds (get_known hget) rfl
    | enters hget => exact .enters (.inl hget) rfl
    | replaces hinserts => exact .enters (.inr hinserts) rfl
    | drops hk => exact .releases rfl
    | gives_up hk value => exact .releases rfl
    | visits left hash => exact visit_changes hash rfl
    | _ => exact .same rfl

/-! ## What the store holds -/

/-- The entries have their own keys and `Arc`s, a holder keeps the hash of its entry, and an entry
has the value that was put in last. -/
structure Filed (s : SharedStore T) : Prop where
  keys : (s.store.map.map Prod.fst).Nodup
  addresses : (addresses s.store.map).Nodup
  allocated : ∀ held, s.Known held → held.2.address < s.allocated
  hashes : ∀ entry ∈ s.store.map, ∀ held ∈ s.holders,
    held.2.address = entry.2.address → held.1 = entry.1
  values : ∀ entry ∈ s.store.map, HashMap.get s.interned entry.1 = some entry.2.value

theorem Filed.of_contents (hs : s.Filed) (h : s'.contents = s.contents) : s'.Filed := by
  simp only [contents, Prod.mk.injEq] at h
  obtain ⟨hmap, hholders, hallocated, hinterned⟩ := h
  obtain ⟨hkeys, haddresses, hold, hhashes, hvalues⟩ := hs
  constructor
  · rwa [hmap]
  · rwa [hmap]
  · unfold Known
    rwa [hmap, hholders, hallocated]
  · rwa [hmap, hholders]
  · rwa [hmap, hinterned]

theorem eq_of_address (hs : s.Filed) {entry entry' : UInt64 × Arc T} (h : entry ∈ s.store.map)
    (h' : entry' ∈ s.store.map) (haddress : entry.2.address = entry'.2.address) :
    entry = entry' := List.inj_on_of_nodup_map hs.addresses h h' haddress

theorem filed_hold (hs : s.Filed) {hash : UInt64} {arc : Arc T} (hknown : s.Known (hash, arc)) :
    (s.hold hash arc).Filed := by
  refine ⟨hs.keys, hs.addresses, ?_, ?_, hs.values⟩
  · rintro held (hentry | hheld)
    · exact hs.allocated held (.inl hentry)
    · rcases List.mem_cons.mp hheld with rfl | hold
      · exact hs.allocated _ hknown
      · exact hs.allocated held (.inr hold)
  · intro entry hentry held hheld haddress
    rcases List.mem_cons.mp hheld with rfl | hold
    · rcases hknown with hmap | hholder
      · rw [eq_of_address hs hmap hentry haddress]
      · exact hs.hashes entry hentry _ hholder haddress
    · exact hs.hashes entry hentry held hold haddress

theorem filed_allocate (hs : s.Filed) (hash : UInt64) (value : T) :
    (s.allocate hash value).Filed := by
  refine ⟨hs.keys, hs.addresses, ?_, ?_, hs.values⟩
  · rintro held (hentry | hheld)
    · exact Nat.lt_succ_of_lt (hs.allocated held (.inl hentry))
    · rcases List.mem_cons.mp hheld with rfl | hold
      · exact Nat.lt_succ_self _
      · exact Nat.lt_succ_of_lt (hs.allocated held (.inr hold))
  · intro entry hentry held hheld haddress
    rcases List.mem_cons.mp hheld with rfl | hold
    · have hlt := hs.allocated entry (.inl hentry)
      rw [← haddress] at hlt
      exact absurd hlt (Nat.lt_irrefl _)
    · exact hs.hashes entry hentry held hold haddress

theorem mem_remove {map : HashMap UInt64 (Arc T)} {hash : UInt64} {entry : UInt64 × Arc T} :
    entry ∈ HashMap.remove map hash ↔ entry ∈ map ∧ entry.1 ≠ hash := by
  unfold HashMap.remove
  simp

theorem remove_sublist (map : HashMap UInt64 (Arc T)) (hash : UInt64) :
    (HashMap.remove map hash).Sublist map := List.filter_sublist

theorem filed_remove (hs : s.Filed) (hash : UInt64) : (s.remove hash).Filed := by
  have hsub := remove_sublist s.store.map hash
  refine ⟨(hsub.map Prod.fst).nodup hs.keys, (hsub.map _).nodup hs.addresses, ?_, ?_, ?_⟩
  · rintro held (hentry | hheld)
    · exact hs.allocated held (.inl (hsub.subset hentry))
    · exact hs.allocated held (.inr hheld)
  · intro entry hentry
    exact hs.hashes entry (hsub.subset hentry)
  · intro entry hentry
    exact hs.values entry (hsub.subset hentry)

theorem filed_release (hs : s.Filed) (k : Nat) : (s.release k).Filed := by
  have hsub : (s.holders.eraseIdx k).Sublist s.holders := List.eraseIdx_sublist ..
  refine ⟨hs.keys, hs.addresses, ?_, ?_, hs.values⟩
  · rintro held (hentry | hheld)
    · exact hs.allocated held (.inl hentry)
    · exact hs.allocated held (.inr (hsub.subset hheld))
  · intro entry hentry held hheld
    exact hs.hashes entry hentry held (hsub.subset hheld)

/-- The new `Arc` has an address of its own, and takes the place of what the key had. -/
theorem filed_enter (hs : s.Filed) (hash : UInt64) (value : T) : (s.enter hash value).Filed := by
  obtain ⟨hkeys, haddresses, hold, hhashes, hvalues⟩ :=
    filed_allocate (filed_remove hs hash) hash value
  have hnew : ∀ entry ∈ HashMap.remove s.store.map hash, entry.2.address ≠ s.allocated := by
    intro entry hentry
    have hlt := (filed_remove hs hash).allocated entry (.inl hentry)
    exact Nat.ne_of_lt hlt
  constructor
  · refine List.nodup_cons.mpr ⟨?_, hkeys⟩
    intro hmem
    obtain ⟨entry, hentry, hkey⟩ := List.mem_map.mp hmem
    exact (mem_remove.mp hentry).2 hkey
  · refine List.nodup_cons.mpr ⟨?_, haddresses⟩
    intro hmem
    obtain ⟨entry, hentry, haddress⟩ := List.mem_map.mp hmem
    exact hnew entry hentry haddress
  · rintro held (hentry | hheld)
    · rcases List.mem_cons.mp hentry with rfl | hentry
      · exact Nat.lt_succ_self _
      · exact hold held (.inl hentry)
    · exact hold held (.inr hheld)
  · intro entry hentry held hheld haddress
    rcases List.mem_cons.mp hentry with rfl | hentry
    · rcases List.mem_cons.mp hheld with rfl | hholder
      · rfl
      · have hlt := hs.allocated held (.inr hholder)
        exact absurd haddress (Nat.ne_of_lt hlt)
    · exact hhashes entry hentry held hheld haddress
  · intro entry hentry
    show HashMap.get (HashMap.insert s.interned hash value) entry.1 = some entry.2.value
    rw [HashMap.get_insert]
    rcases List.mem_cons.mp hentry with rfl | hentry
    · exact if_pos rfl
    · rw [if_neg (mem_remove.mp hentry).2]
      exact hvalues entry hentry

theorem step_filed {label : StoreStep T} (hs : s.Filed) (h : s.step label = some s') :
    s'.Filed := by
  cases step_changes h with
  | same h => exact hs.of_contents h
  | holds hknown h => exact (filed_hold hs hknown).of_contents h
  | allocates h => exact (filed_allocate hs _ _).of_contents h
  | enters hvacant h => exact (filed_enter hs _ _).of_contents h
  | releases h => exact (filed_release hs _).of_contents h
  | removes hget hsole h => exact (filed_remove hs _).of_contents h

/-! ## One sweep at a time -/

/-- The flag is set while one thread sweeps. A counter at the threshold has a thread that sees to
it. -/
structure Guarded (s : SharedStore T) : Prop where
  flag : s.threads.countP Phase.sweeps = s.store.sweep_in_progress.toNat
  attended : SWEEP_THRESHOLD ≤ s.store.pending_releases →
    s.store.sweep_in_progress = true ∨ ∃ phase ∈ s.threads, phase.retries = true

/-- How many threads are in a phase, after one of them has moved. -/
theorem countP_goto {p : Phase T → Bool} {i : Nat} {phase : Phase T}
    (h : s.threads[i]? = some phase) (next : Phase T) :
    (s.goto i next).threads.countP p + (p phase).toNat =
      s.threads.countP p + (p next).toNat :=
  threads.count_set h next

/-- A phase that the moving thread does not leave is still there. -/
theorem remains_after_goto {p : Phase T → Bool} {i : Nat} {phase : Phase T}
    (hi : s.threads[i]? = some phase) (hphase : p phase = false) (next : Phase T)
    (h : ∃ other ∈ s.threads, p other = true) :
    ∃ other ∈ (s.goto i next).threads, p other = true :=
  threads.remains_after_set hi hphase next h

/-- A thread moves after it has worked on the store. -/
theorem guarded_goto {t : SharedStore T} (hs : s.Guarded) {i : Nat} {phase next : Phase T}
    (hi : s.threads[i]? = some phase) (ht : t.threads = s.threads)
    (hflag : s.store.sweep_in_progress.toNat + next.sweeps.toNat =
      t.store.sweep_in_progress.toNat + phase.sweeps.toNat)
    (hattended : SWEEP_THRESHOLD ≤ t.store.pending_releases →
      t.store.sweep_in_progress = true ∨ next.retries = true ∨
        (SWEEP_THRESHOLD ≤ s.store.pending_releases ∧ s.store.sweep_in_progress = false ∧
          phase.retries = false)) :
    (t.goto i next).Guarded := by
  rw [← ht] at hi
  constructor
  · have hcount := countP_goto (p := Phase.sweeps) hi next
    have hold := hs.flag
    rw [← ht] at hold
    show (t.goto i next).threads.countP Phase.sweeps = t.store.sweep_in_progress.toNat
    omega
  · intro hthreshold
    rcases hattended hthreshold with hset | hnext | ⟨hold, hclear, hphase⟩
    · exact .inl hset
    · obtain ⟨hlt, -⟩ := List.getElem?_eq_some_iff.mp hi
      exact .inr ⟨next, List.mem_set hlt next, hnext⟩
    · rcases hs.attended hold with hset | hretries
      · rw [hclear] at hset
        cases hset
      · rw [← ht] at hretries
        exact .inr (remains_after_goto hi hphase next hretries)

/-- A thread that neither sweeps nor retries before or after its step. -/
theorem guarded_quiet {t : SharedStore T} (hs : s.Guarded) {i : Nat} {phase next : Phase T}
    (hi : s.threads[i]? = some phase) (ht : t.threads = s.threads)
    (hflag : t.store.sweep_in_progress = s.store.sweep_in_progress)
    (hpending : t.store.pending_releases = s.store.pending_releases)
    (hsweeps : next.sweeps = phase.sweeps) (hretries : phase.retries = false) :
    (t.goto i next).Guarded := by
  apply guarded_goto hs hi ht
  · rw [hflag, hsweeps]
  · rw [hflag, hpending]
    intro hthreshold
    cases hset : s.store.sweep_in_progress with
    | true => exact .inl rfl
    | false => exact .inr (.inr ⟨hthreshold, rfl, hretries⟩)

/-- The thread that sweeps has set the flag. -/
theorem flag_of_sweeps (hs : s.Guarded) {i : Nat} {phase : Phase T}
    (hi : s.threads[i]? = some phase) (hphase : phase.sweeps = true) :
    s.store.sweep_in_progress = true := by
  have hpos := List.countP_pos_iff.mpr ⟨phase, List.mem_of_getElem? hi, hphase⟩
  rw [hs.flag] at hpos
  cases hset : s.store.sweep_in_progress with
  | true => rfl
  | false =>
    rw [hset] at hpos
    cases hpos

@[simp] theorem visit_threads (s : SharedStore T) (hash : UInt64) :
    (s.visit hash).threads = s.threads := by
  unfold visit
  split
  · split <;> rfl
  · rfl

@[simp] theorem visit_pending (s : SharedStore T) (hash : UInt64) :
    (s.visit hash).store.pending_releases = s.store.pending_releases := by
  unfold visit
  split
  · split <;> rfl
  · rfl

@[simp] theorem visit_flag (s : SharedStore T) (hash : UInt64) :
    (s.visit hash).store.sweep_in_progress = s.store.sweep_in_progress := by
  unfold visit
  split
  · split <;> rfl
  · rfl

theorem step_guarded {label : StoreStep T} (hs : s.Guarded) (h : s.step label = some s') :
    s'.Guarded := by
  cases step_takes h with
  | stays h =>
    rw [h]
    exact hs
  | holds hknown h =>
    rw [h]
    exact ⟨hs.flag, hs.attended⟩
  | allocates h =>
    rw [h]
    exact ⟨hs.flag, hs.attended⟩
  | moves hi hmoves h =>
    rw [h]
    cases hmoves with
    | notes hlt =>
      refine guarded_goto hs hi rfl rfl fun hthreshold => ?_
      exact absurd hthreshold (Nat.not_le.mpr hlt)
    | reaches => exact guarded_goto hs hi rfl rfl fun _ => .inr (.inl rfl)
    | maintains => exact guarded_goto hs hi rfl rfl fun _ => .inr (.inl rfl)
    | loses hset => exact guarded_goto hs hi rfl rfl fun _ => .inl hset
    | wins hclear =>
      refine guarded_goto hs hi rfl ?_ fun _ => .inl rfl
      rw [hclear]
      rfl
    | zeroes =>
      exact guarded_goto hs hi rfl rfl fun hthreshold =>
        absurd hthreshold (Nat.not_succ_le_zero _)
    | visits left hash =>
      exact guarded_quiet hs hi (visit_threads s hash) (visit_flag s hash) (visit_pending s hash)
        rfl rfl
    | clears =>
      refine guarded_goto hs hi rfl ?_ fun _ => .inr (.inl rfl)
      rw [flag_of_sweeps hs hi rfl]
      rfl
    | rests hlt =>
      refine guarded_goto hs hi rfl rfl fun hthreshold => ?_
      exact absurd hthreshold (Nat.not_le.mpr hlt)
    | retries => exact guarded_goto hs hi rfl rfl fun _ => .inr (.inl rfl)
    | _ => exact guarded_quiet hs hi rfl rfl rfl rfl rfl

/-! ## What no sweep has come to -/

/-- Nobody holds the `Arc` of the entry. -/
def dead (s : SharedStore T) (entry : UInt64 × Arc T) : Bool :=
  !(addresses s.holders).contains entry.2.address

def spared (s : SharedStore T) (hash : UInt64) : Bool := s.threads.any (Phase.spares hash)

/-- Nobody holds the entry, and no thread is coming to it. -/
def unswept (s : SharedStore T) (entry : UInt64 × Arc T) : Bool :=
  s.dead entry && !s.spared entry.1

def garbage (s : SharedStore T) : Nat := s.store.map.countP s.unswept

/-- Each entry that is left behind is a release, counted or about to be. -/
def Counted (s : SharedStore T) : Prop :=
  s.garbage ≤ s.store.pending_releases + s.threads.countP Phase.releases

theorem dead_iff {entry : UInt64 × Arc T} :
    s.dead entry = true ↔ entry.2.address ∉ addresses s.holders := by
  simp [dead]

theorem unswept_iff {entry : UInt64 × Arc T} :
    s.unswept entry = true ↔ s.dead entry = true ∧ s.spared entry.1 = false := by
  simp [unswept]

theorem strong_count_eq (hs : s.Filed) {entry : UInt64 × Arc T} (h : entry ∈ s.store.map) :
    s.strong_count entry.2 = 1 + (addresses s.holders).count entry.2.address := by
  have hmem : entry.2.address ∈ addresses s.store.map := List.mem_map.mpr ⟨entry, h, rfl⟩
  unfold strong_count
  rw [List.count_eq_one_of_mem hs.addresses hmem]

/-- Only the map owns an entry that nobody holds. -/
theorem sole_owner_iff (hs : s.Filed) {entry : UInt64 × Arc T} (h : entry ∈ s.store.map) :
    s.strong_count entry.2 = 1 ↔ s.dead entry = true := by
  rw [strong_count_eq hs h, dead_iff, ← List.count_eq_zero]
  omega

theorem garbage_le (hmap : s'.store.map.Sublist s.store.map)
    (h : ∀ entry ∈ s'.store.map, s'.unswept entry = true → s.unswept entry = true) :
    s'.garbage ≤ s.garbage := Nat.le_trans (List.countP_mono_left h) hmap.countP_le

/-- What one more holder does not keep alive was dead before. -/
theorem dead_of_subset {t : SharedStore T} (hholders : s.holders ⊆ t.holders)
    {entry : UInt64 × Arc T} (h : t.dead entry = true) : s.dead entry = true := by
  rw [dead_iff] at h ⊢
  intro hmem
  exact h (List.map_subset _ hholders hmem)

theorem unspared_of_goto {t : SharedStore T} {i : Nat} {phase next : Phase T}
    (hi : s.threads[i]? = some phase) (ht : t.threads = s.threads) {hash : UInt64}
    (hspares : phase.spares hash = true → next.spares hash = true)
    (h : (t.goto i next).spared hash = false) : s.spared hash = false := by
  cases hspared : s.spared hash with
  | false => rfl
  | true =>
    rw [← Bool.not_eq_true] at h
    unfold spared at hspared
    rw [← ht] at hi hspared
    refine absurd ?_ h
    apply List.any_eq_true.mpr
    cases hphase : phase.spares hash with
    | false => exact remains_after_goto hi hphase next (List.any_eq_true.mp hspared)
    | true =>
      obtain ⟨hlt, -⟩ := List.getElem?_eq_some_iff.mp hi
      exact ⟨next, List.mem_set hlt next, hspares hphase⟩

/-- A thread that comes to as much as before leaves nothing behind. -/
theorem garbage_goto_le {t : SharedStore T} {i : Nat} {phase next : Phase T}
    (hi : s.threads[i]? = some phase) (ht : t.threads = s.threads)
    (hmap : t.store.map.Sublist s.store.map) (hholders : s.holders ⊆ t.holders)
    (hspares : ∀ entry ∈ t.store.map, t.dead entry = true → phase.spares entry.1 = true →
      next.spares entry.1 = true) : (t.goto i next).garbage ≤ s.garbage := by
  refine garbage_le hmap fun entry hentry h => ?_
  obtain ⟨hdead, hspared⟩ := unswept_iff.mp h
  apply unswept_iff.mpr
  refine ⟨dead_of_subset hholders hdead, ?_⟩
  exact unspared_of_goto hi ht (hspares entry hentry hdead) hspared

/-- A thread that is coming to every entry of the map leaves nothing behind. -/
theorem garbage_eq_zero {i : Nat} {phase : Phase T} (hi : s.threads[i]? = some phase)
    (hspares : ∀ hash, phase.spares hash = true) : s.garbage = 0 := by
  apply List.countP_eq_zero.mpr
  intro entry _ h
  have hspared : s.spared entry.1 = true :=
    List.any_eq_true.mpr ⟨phase, List.mem_of_getElem? hi, hspares entry.1⟩
  rw [unswept_iff, hspared] at h
  cases h.2

/-- An entry that dies with the `Arc` that goes is the entry of that `Arc`. -/
theorem dead_of_release {k : Nat} {held entry : UInt64 × Arc T} (hk : s.holders[k]? = some held)
    (h : (s.release k).dead entry = true) :
    s.dead entry = true ∨ entry.2.address = held.2.address := by
  by_cases haddress : entry.2.address = held.2.address
  · exact .inr haddress
  · rw [dead_iff] at h
    refine .inl (dead_iff.mpr fun hmem => h ?_)
    obtain ⟨other, hother, heq⟩ := List.mem_map.mp hmem
    obtain ⟨j, hj⟩ := List.mem_iff_getElem?.mp hother
    have hne : j ≠ k := by
      rintro rfl
      obtain rfl := Option.some.inj (hj.symm.trans hk)
      exact haddress heq.symm
    exact List.mem_map.mpr ⟨other, List.mem_eraseIdx_iff_getElem?.mpr ⟨j, hne, hj⟩, heq⟩

theorem countP_or_le {α : Type} (p q : α → Bool) (l : List α) :
    (l.countP fun x => p x || q x) ≤ l.countP p + l.countP q := by
  induction l with
  | nil => exact Nat.le_refl 0
  | cons x l ih =>
    simp only [List.countP_cons]
    cases p x <;> cases q x <;> simp <;> omega

/-- One entry at most has the address. -/
theorem countP_address_le (hs : s.Filed) (address : Nat) :
    (s.store.map.countP fun entry => entry.2.address == address) ≤ 1 := by
  have hcount := List.nodup_iff_count_le_one.mp hs.addresses address
  unfold addresses at hcount
  rwa [List.count, List.countP_map] at hcount

/-- The `Arc` that goes is the `Arc` of one entry at most. -/
theorem garbage_release_le (hs : s.Filed) {i k : Nat} {held : UInt64 × Arc T} {phase : Phase T}
    (hi : s.threads[i]? = some phase) (hphase : ∀ hash, phase.spares hash = false)
    (hk : s.holders[k]? = some held) :
    ((s.release k).goto i .Releasing).garbage ≤ s.garbage + 1 := by
  have hone := countP_address_le hs held.2.address
  have hor := countP_or_le s.unswept (fun entry => entry.2.address == held.2.address) s.store.map
  have hmono : ((s.release k).goto i .Releasing).garbage ≤
      s.store.map.countP fun entry => s.unswept entry || entry.2.address == held.2.address := by
    apply List.countP_mono_left
    intro entry _ h
    obtain ⟨hdead, hspared⟩ := unswept_iff.mp h
    rw [Bool.or_eq_true, unswept_iff, beq_iff_eq]
    rcases dead_of_release hk hdead with hold | haddress
    · refine .inl ⟨hold, unspared_of_goto (t := s.release k) hi rfl ?_ hspared⟩
      intro h
      rw [hphase] at h
      cases h
    · exact .inr haddress
  unfold garbage at *
  omega

/-- The entry that dies when `compile_regex` gives up its `Arc` is the one to be replaced. -/
theorem garbage_replace_le (hs : s.Filed) {i k : Nat} {hash : UInt64} {arc : Arc T}
    {phase : Phase T} (hi : s.threads[i]? = some phase)
    (hphase : ∀ hash, phase.spares hash = false) (hk : s.holders[k]? = some (hash, arc))
    (value : T) : ((s.release k).goto i (.Replacing hash value)).garbage ≤ s.garbage := by
  refine garbage_le (List.Sublist.refl _) fun entry hentry h => ?_
  obtain ⟨hdead, hspared⟩ := unswept_iff.mp h
  rcases dead_of_release hk hdead with hold | haddress
  · refine unswept_iff.mpr ⟨hold, unspared_of_goto (t := s.release k) hi rfl ?_ hspared⟩
    intro h
    rw [hphase] at h
    cases h
  · have hhash : hash = entry.1 :=
      hs.hashes entry hentry _ (List.mem_of_getElem? hk) haddress.symm
    obtain ⟨hlt, -⟩ := List.getElem?_eq_some_iff.mp hi
    have hspares : ((s.release k).goto i (.Replacing hash value)).spared entry.1 = true :=
      List.any_eq_true.mpr ⟨.Replacing hash value, List.mem_set hlt _, decide_eq_true hhash⟩
    rw [hspares] at hspared
    cases hspared

/-- The new entry has a holder, and what the key had is gone. -/
theorem garbage_enter_le {i : Nat} {phase : Phase T} (hi : s.threads[i]? = some phase)
    {hash : UInt64} (hphase : ∀ other, other ≠ hash → phase.spares other = false) (value : T) :
    ((s.enter hash value).goto i .Idle).garbage ≤ s.garbage := by
  have hnew : ((s.enter hash value).goto i .Idle).unswept (hash, ⟨s.allocated, value⟩) = false := by
    rw [← Bool.not_eq_true, unswept_iff, dead_iff]
    rintro ⟨hdead, -⟩
    exact hdead List.mem_cons_self
  have hrest : (HashMap.remove s.store.map hash).countP
      ((s.enter hash value).goto i .Idle).unswept ≤ s.garbage := by
    apply Nat.le_trans _ (remove_sublist s.store.map hash).countP_le
    apply List.countP_mono_left
    intro entry hentry h
    obtain ⟨hdead, hspared⟩ := unswept_iff.mp h
    apply unswept_iff.mpr
    refine ⟨dead_of_subset (List.subset_cons_self _ _) hdead, ?_⟩
    refine unspared_of_goto (t := s.enter hash value) hi rfl ?_ hspared
    intro h
    rw [hphase entry.1 (mem_remove.mp hentry).2] at h
    cases h
  unfold garbage at hrest ⊢
  exact Nat.le_trans (Nat.le_of_eq (List.countP_cons_of_neg (by rw [hnew]; simp))) hrest

theorem visit_sublist (s : SharedStore T) (hash : UInt64) :
    (s.visit hash).store.map.Sublist s.store.map := by
  unfold visit
  split
  · split
    · exact remove_sublist s.store.map hash
    · exact List.Sublist.refl _
  · exact List.Sublist.refl _

theorem visit_holders (s : SharedStore T) (hash : UInt64) :
    (s.visit hash).holders = s.holders := by
  unfold visit
  split
  · split <;> rfl
  · rfl

/-- An entry that `retain` has come to and left in the map has a holder. -/
theorem visit_leaves_held (hs : s.Filed) {hash : UInt64} {entry : UInt64 × Arc T}
    (h : entry ∈ (s.visit hash).store.map) (hdead : s.dead entry = true) : entry.1 ≠ hash := by
  rintro rfl
  have hentry := (visit_sublist s entry.1).subset h
  have hget : s.store.get entry.1 = some entry.2 := HashMap.get_of_mem hs.keys hentry
  unfold visit at h
  rw [hget] at h
  dsimp only at h
  rw [if_pos ((sole_owner_iff hs hentry).mpr hdead)] at h
  exact (mem_remove.mp h).2 rfl

/-- A thread leaves `k` entries behind, and there are `k` more releases. -/
theorem counted_goto {t : SharedStore T} (hs : s.Counted) {i : Nat} {phase next : Phase T}
    (hi : s.threads[i]? = some phase) (ht : t.threads = s.threads) (k : Nat)
    (hgarbage : (t.goto i next).garbage ≤ s.garbage + k)
    (hreleases : s.store.pending_releases + phase.releases.toNat + k ≤
      t.store.pending_releases + next.releases.toNat) : (t.goto i next).Counted := by
  rw [← ht] at hi
  have hcount := countP_goto (p := Phase.releases) hi next
  unfold Counted at hs ⊢
  rw [← ht] at hs
  show _ ≤ t.store.pending_releases + _
  omega

/-- A thread that only looks entries up, and moves. -/
theorem counted_quiet {t : SharedStore T} (hs : s.Counted) {i : Nat} {phase next : Phase T}
    (hi : s.threads[i]? = some phase) (ht : t.threads = s.threads)
    (hpending : t.store.pending_releases = s.store.pending_releases)
    (hphase : phase.releases = false) (hgarbage : (t.goto i next).garbage ≤ s.garbage) :
    (t.goto i next).Counted := by
  apply counted_goto hs hi ht 0 hgarbage
  rw [hpending, hphase]
  exact Nat.le_add_right _ _

/-- A thread that was coming to no entry, and takes none out. -/
theorem counted_pass {t : SharedStore T} (hs : s.Counted) {i : Nat} {phase next : Phase T}
    (hi : s.threads[i]? = some phase) (ht : t.threads = s.threads)
    (hpending : t.store.pending_releases = s.store.pending_releases)
    (hphase : phase.releases = false) (hspares : ∀ hash, phase.spares hash = false)
    (hmap : t.store.map = s.store.map) (hholders : s.holders ⊆ t.holders) :
    (t.goto i next).Counted := by
  apply counted_quiet hs hi ht hpending hphase
  apply garbage_goto_le hi ht _ hholders
  · intro entry _ _ h
    rw [hspares] at h
    cases h
  · rw [hmap]

theorem counted_hold (hs : s.Counted) (hash : UInt64) (arc : Arc T) :
    (s.hold hash arc).Counted := by
  have hle : (s.hold hash arc).garbage ≤ s.garbage := by
    refine garbage_le (List.Sublist.refl _) fun entry _ h => ?_
    obtain ⟨hdead, hspared⟩ := unswept_iff.mp h
    have hholders : s.holders ⊆ (s.hold hash arc).holders := List.subset_cons_self _ _
    exact unswept_iff.mpr ⟨dead_of_subset hholders hdead, hspared⟩
  exact Nat.le_trans hle hs

theorem step_counted {label : StoreStep T} (hf : s.Filed) (hs : s.Counted)
    (h : s.step label = some s') : s'.Counted := by
  cases step_takes h with
  | stays h =>
    rw [h]
    exact hs
  | holds hknown h =>
    rw [h]
    exact counted_hold hs _ _
  | @allocates hash value h =>
    rw [h]
    exact counted_hold hs hash ⟨s.allocated, value⟩
  | moves hi hmoves h =>
    rw [h]
    cases hmoves with
    | finds =>
      exact counted_pass hs hi rfl rfl rfl (fun _ => rfl) rfl (List.subset_cons_self _ _)
    | enters => exact counted_quiet hs hi rfl rfl rfl (garbage_enter_le hi (fun _ _ => rfl) _)
    | replaces =>
      refine counted_quiet hs hi rfl rfl rfl ?_
      exact garbage_enter_le hi (fun other hother => decide_eq_false hother.symm) _
    | drops hk =>
      exact counted_goto hs hi rfl 1 (garbage_release_le hf hi (fun _ => rfl) hk) (Nat.le_refl _)
    | gives_up hk value =>
      exact counted_quiet hs hi rfl rfl rfl (garbage_replace_le hf hi (fun _ => rfl) hk value)
    | notes =>
      refine counted_goto hs hi rfl 0 ?_ (Nat.le_refl _)
      exact garbage_goto_le hi rfl (List.Sublist.refl _) (List.Subset.refl _)
        fun entry _ _ h => by cases h
    | reaches =>
      refine counted_goto hs hi rfl 0 ?_ (Nat.le_refl _)
      exact garbage_goto_le hi rfl (List.Sublist.refl _) (List.Subset.refl _)
        fun entry _ _ h => by cases h
    | zeroes =>
      obtain ⟨hlt, -⟩ := List.getElem?_eq_some_iff.mp hi
      unfold Counted
      rw [garbage_eq_zero (List.getElem?_set_self hlt) fun _ => rfl]
      exact Nat.zero_le _
    | retains =>
      refine counted_quiet hs hi rfl rfl rfl ?_
      refine garbage_goto_le hi rfl (List.Sublist.refl _) (List.Subset.refl _)
        fun entry hentry _ _ => ?_
      exact List.contains_iff_mem.mpr (List.mem_map_of_mem hentry)
    | visits left hash =>
      have hholders : s.holders ⊆ (s.visit hash).holders := by
        rw [visit_holders]
        exact List.Subset.refl _
      refine counted_quiet hs hi (visit_threads s hash) (visit_pending s hash) rfl ?_
      refine garbage_goto_le hi (visit_threads s hash) (visit_sublist s hash) hholders
        fun entry hentry hdead hleft => ?_
      have hne := visit_leaves_held hf hentry (dead_of_subset hholders hdead)
      apply List.contains_iff_mem.mpr
      exact List.mem_filter.mpr ⟨List.contains_iff_mem.mp hleft, decide_eq_true hne⟩
    | _ => exact counted_pass hs hi rfl rfl rfl (fun _ => rfl) rfl (List.Subset.refl _)

/-! ## Every interleaving -/

/-- An entry leaves the map when nobody else owns it, or for another one of its hash. -/
def RemovesUnowned (s : SharedStore T) : Prop :=
  ∀ label s' hash arc, s.step label = some s' → s.store.get hash = some arc →
    s'.store.get hash ≠ some arc →
    s.strong_count arc = 1 ∨ label.inserts = true ∧ (s'.store.get hash).isSome = true

/-- What a lookup gives to a thread is what was interned for the hash. -/
def FindsInterned (s : SharedStore T) : Prop :=
  ∀ label s' hash arc, label.looks_up = true → s.step label = some s' →
    s'.holders = (hash, arc) :: s.holders → HashMap.get s'.interned hash = some arc.value

/-- No thread is in the middle of a call. -/
def Quiescent (s : SharedStore T) : Prop := ∀ phase ∈ s.threads, phase = .Idle

theorem get_of_map {hash : UInt64} (h : s'.store.map = s.store.map) :
    s'.store.get hash = s.store.get hash := by
  unfold LocalStore.get
  rw [h]

theorem removes_unowned : s.RemovesUnowned := by
  intro label s' hash arc hstep hget hgone
  cases step_changes hstep with
  | same h => exact absurd ((get_of_map (congrArg Prod.fst h)).trans hget) hgone
  | holds hknown h => exact absurd ((get_of_map (congrArg Prod.fst h)).trans hget) hgone
  | allocates h => exact absurd ((get_of_map (congrArg Prod.fst h)).trans hget) hgone
  | releases h => exact absurd ((get_of_map (congrArg Prod.fst h)).trans hget) hgone
  | @enters other value hvacant h =>
    have hmap : s'.store.map = _ := congrArg Prod.fst h
    have hget' : s'.store.get hash =
        if hash = other then some ⟨s.allocated, value⟩ else s.store.get hash := by
      rw [← s.store.get_insert]
      exact get_of_map hmap
    by_cases hhash : hash = other
    · rw [if_pos hhash] at hget'
      rcases hvacant with hnone | hinserts
      · rw [hhash, hnone] at hget
        cases hget
      · refine .inr ⟨hinserts, ?_⟩
        rw [hget']
        rfl
    · rw [if_neg hhash] at hget'
      exact absurd (hget'.trans hget) hgone
  | @removes other sole hother hsole h =>
    have hmap : s'.store.map = HashMap.remove s.store.map other := congrArg Prod.fst h
    by_cases hhash : hash = other
    · rw [hhash, hother] at hget
      obtain rfl := Option.some.inj hget
      exact .inl hsole
    · refine absurd ?_ hgone
      rw [← hget]
      unfold LocalStore.get
      rw [hmap, HashMap.get_remove, if_neg hhash]

theorem not_held_again {α : Type} {x : α} {l : List α} (h : l = x :: l) : False := by
  have hlength := congrArg List.length h
  rw [List.length_cons] at hlength
  omega

theorem finds_interned (hs : s.Filed) : s.FindsInterned := by
  have hfound {hash hash' : UInt64} {arc arc' : Arc T} (hget : s.store.get hash = some arc)
      (h : (hash, arc) :: s.holders = (hash', arc') :: s.holders) :
      HashMap.get s.interned hash' = some arc'.value := by
    obtain ⟨heq, -⟩ := List.cons.inj h
    obtain ⟨rfl, rfl⟩ := Prod.mk.inj heq
    exact hs.values _ (HashMap.mem_of_get hget)
  intro label s' hash' arc' hlook h hholders
  cases label with
  | get i hash =>
    simp only [step] at h
    split at h
    · split at h
      · rename_i arc hget
        obtain rfl := Option.some.inj h
        exact hfound hget hholders
      · obtain rfl := Option.some.inj h
        exact (not_held_again hholders).elim
    · cases h
  | get_or_insert_with i hash value =>
    simp only [step] at h
    split at h
    · split at h
      · rename_i arc hget
        obtain rfl := Option.some.inj h
        exact hfound hget hholders
      · obtain rfl := Option.some.inj h
        exact (not_held_again hholders).elim
    · cases h
  | entry i =>
    simp only [step] at h
    split at h
    · split at h
      · rename_i arc hget
        obtain rfl := Option.some.inj h
        exact hfound hget hholders
      · rename_i hash value _ _ _
        obtain rfl := Option.some.inj h
        obtain ⟨heq, -⟩ := List.cons.inj hholders
        obtain ⟨rfl, rfl⟩ := Prod.mk.inj heq
        show HashMap.get (HashMap.insert s.interned hash value) hash = some value
        rw [HashMap.get_insert, if_pos rfl]
    · cases h
  | _ => cases hlook

/-- The invariant of every interleaving. -/
structure Swept (s : SharedStore T) : Prop where
  filed : s.Filed
  guarded : s.Guarded
  counted : s.Counted

theorem start_swept (threads : Nat) : (start threads : SharedStore T).Swept := by
  constructor
  · constructor
    · exact List.nodup_nil
    · exact List.nodup_nil
    · rintro held (h | h) <;> cases h
    · intro entry h
      cases h
    · intro entry h
      cases h
  · constructor
    · show (List.replicate threads Phase.Idle).countP Phase.sweeps = 0
      rw [List.countP_replicate]
      rfl
    · intro h
      exact absurd h (Nat.not_succ_le_zero _)
  · exact Nat.zero_le _

theorem step_swept (label : StoreStep T) (hs : s.Swept) (h : s.step label = some s') : s'.Swept :=
  ⟨step_filed hs.filed h, step_guarded hs.guarded h, step_counted hs.filed hs.counted h⟩

theorem one_sweep (hs : s.Guarded) : s.threads.countP Phase.sweeps ≤ 1 := by
  rw [hs.flag]
  exact Bool.toNat_le s.store.sweep_in_progress

/-- Threads that are idle neither sweep nor retry, so the counter is below the threshold. -/
theorem pending_below (hs : s.Guarded) (hidle : s.Quiescent) :
    s.store.pending_releases < SWEEP_THRESHOLD := by
  by_contra hthreshold
  rcases hs.attended (Nat.not_lt.mp hthreshold) with hset | ⟨phase, hphase, hretries⟩
  · have hpos : 0 < s.threads.countP Phase.sweeps := by
      rw [hs.flag, hset]
      exact Nat.one_pos
    obtain ⟨phase, hphase, hsweeps⟩ := List.countP_pos_iff.mp hpos
    rw [hidle phase hphase] at hsweeps
    cases hsweeps
  · rw [hidle phase hphase] at hretries
    cases hretries

/-- With all threads idle, what is dead is left behind, and counted. -/
theorem dead_le_pending (hs : s.Swept) (hidle : s.Quiescent) :
    (s.store.map.countP fun entry => s.strong_count entry.2 = 1) ≤ s.store.pending_releases := by
  have hreleases : s.threads.countP Phase.releases = 0 := by
    apply List.countP_eq_zero.mpr
    intro phase hphase h
    rw [hidle phase hphase] at h
    cases h
  have hcounted := hs.counted
  unfold Counted at hcounted
  rw [hreleases, Nat.add_zero] at hcounted
  apply Nat.le_trans _ hcounted
  apply List.countP_mono_left
  intro entry hentry h
  refine unswept_iff.mpr ⟨(sole_owner_iff hs.filed hentry).mp (of_decide_eq_true h), ?_⟩
  rw [← Bool.not_eq_true]
  intro hspared
  obtain ⟨phase, hphase, hspares⟩ := List.any_eq_true.mp hspared
  rw [hidle phase hphase] at hspares
  cases hspares

/-- However the steps of the threads are interleaved. -/
theorem sweeps_keep_the_store {threads : Nat} {labels : List (StoreStep T)}
    (hrun : run step (start threads) labels = some s) :
    s.RemovesUnowned ∧ s.FindsInterned ∧ s.threads.countP Phase.sweeps ≤ 1 ∧
      (s.Quiescent → s.store.pending_releases < SWEEP_THRESHOLD ∧
        (s.store.map.countP fun entry => s.strong_count entry.2 = 1) < SWEEP_THRESHOLD) := by
  have hs : s.Swept := by
    apply run_invariant (I := Swept) _ (start_swept threads) hrun
    intro s label s' hs h
    exact step_swept label hs h
  refine ⟨removes_unowned, finds_interned hs.filed, one_sweep hs.guarded, fun hidle => ?_⟩
  have hpending := pending_below hs.guarded hidle
  exact ⟨hpending, Nat.lt_of_le_of_lt (dead_le_pending hs hidle) hpending⟩

/-- One thread interns a value and drops it, and the other one sweeps it. -/
def interned_and_swept : List (StoreStep Nat) :=
  [.get_or_insert_with 0 7 42, .entry 0, .drop 0 0, .run_maintenance 1, .compare_exchange 1,
    .store_zero 1, .note_release 0, .retain 1, .visit 1 7, .clear 1, .recheck 1]

theorem sweep_keeps_the_store :
    ∃ s, run step (start 2) interned_and_swept = some s ∧ s.store.map.length = 0 ∧
      s.store.pending_releases = 1 ∧ s.RemovesUnowned ∧ s.FindsInterned ∧
      s.threads.countP Phase.sweeps ≤ 1 ∧
      (s.Quiescent → s.store.pending_releases < SWEEP_THRESHOLD ∧
        (s.store.map.countP fun entry => s.strong_count entry.2 = 1) < SWEEP_THRESHOLD) :=
  ⟨_, rfl, rfl, rfl, @sweeps_keep_the_store Nat _ 2 interned_and_swept rfl⟩

end SharedStore

end statsig_rust.interned_values
