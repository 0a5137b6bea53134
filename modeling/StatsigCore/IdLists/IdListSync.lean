-- The syncs of the ID lists: what the adapter asks the server for (`sync_id_lists` in
-- `id_lists_adapter/statsig_http_id_lists_adapter.rs`) and what the store makes of the
-- answers (`did_receive_id_list_updates` in `spec_store.rs`). The adapter decides whether
-- to read a file from its start, and each list decides whether to forget what it has.
import StatsigCore.IdLists.IdList
import StatsigCore.Library.Machine

open machine

namespace statsig_rust.id_lists_adapter

/-! ## A sync -/

structure IdListChangeSet where
  new_metadata : IdListMetadata
  requires_download : Bool
  range_start : Nat

/-- The adapter reads the file from its start. -/
def Restarts (current entry : IdListMetadata) : Prop :=
  entry.creation_time > current.creation_time ∨ entry.file_id ≠ current.file_id

instance (current entry : IdListMetadata) : Decidable (Restarts current entry) :=
  inferInstanceAs (Decidable (_ ∨ _))

def change_set (current : Option IdListMetadata) (entry : IdListMetadata) : IdListChangeSet :=
  match current with
  | some current =>
    if Restarts current entry then ⟨entry, true, 0⟩
    else if entry.size > current.size then ⟨entry, true, current.size⟩
    else ⟨entry, false, 0⟩
  | none => ⟨entry, true, 0⟩

/-- What a sync meets: the manifest, the answer to the request for each list, and the locks
that the store grants. A sync without a manifest stops before it reads anything. -/
structure Sync where
  manifest : HashMap String IdListMetadata
  names_once : (manifest.map Prod.fst).Nodup := by decide
  responses : String → Option Text
  read_lock : Bool := true
  write_lock : Bool := true

/-- The lists of the store. -/
abbrev IdLists := HashMap String IdList

def get_current_id_list_metadata (id_lists : IdLists) (lock : Bool) :
    HashMap String IdListMetadata :=
  if lock then id_lists.map fun entry => (entry.1, entry.2.metadata) else []

/-- The change set of one entry of the manifest, and the request for it. `none` when the
request fails. -/
def fetch_update (sync : Sync) (curr_manifest : HashMap String IdListMetadata)
    (entry : String × IdListMetadata) : Option (String × IdListUpdate) :=
  let changeset := change_set (curr_manifest.get entry.1) entry.2
  if changeset.requires_download then
    (sync.responses entry.1).map fun raw_changeset => (entry.1, ⟨some raw_changeset, entry.2⟩)
  else some (entry.1, ⟨none, entry.2⟩)

/-- One turn of the loop over the updates. A list that the store does not have starts
empty. -/
def receive_update (id_lists : IdLists) (update : String × IdListUpdate) : Option IdLists :=
  let list := (id_lists.get update.1).getD (.new update.2.new_metadata)
  (list.apply_update update.2).map fun list => id_lists.insert update.1 list

/-- `none` when an update panics. -/
def did_receive_id_list_updates (id_lists : IdLists) (lock : Bool)
    (updates : HashMap String IdListUpdate) : Option IdLists :=
  if lock then
    -- the lists that are not in the updates go
    let id_lists := id_lists.filter fun entry => (updates.get entry.1).isSome
    updates.foldlM receive_update id_lists
  else some id_lists

inductive SyncResult where
  | ok (id_lists : IdLists)
  | error
  | panic

def sync_id_lists (id_lists : IdLists) (sync : Sync) : SyncResult :=
  let curr_manifest := get_current_id_list_metadata id_lists sync.read_lock
  match sync.manifest.mapM (fetch_update sync curr_manifest) with
  | none => .error
  | some updates =>
    match did_receive_id_list_updates id_lists sync.write_lock updates with
    | some id_lists => .ok id_lists
    | none => .panic

/-- The lists after a sync. A sync that fails leaves them as they were, and a run ends with
a sync that panics. -/
def step (id_lists : IdLists) (sync : Sync) : Option IdLists :=
  match sync_id_lists id_lists sync with
  | .ok id_lists => some id_lists
  | .error => some id_lists
  | .panic => none

/-! ## What a sync does to one list -/

theorem get_current_metadata (id_lists : IdLists) (lock : Bool) (name : String) :
    (get_current_id_list_metadata id_lists lock).get name =
      if lock then (id_lists.get name).map (·.metadata) else none := by
  unfold get_current_id_list_metadata
  cases lock with
  | false => rfl
  | true =>
    simp only [↓reduceIte]
    induction id_lists with
    | nil => rfl
    | cons entry id_lists ih =>
      rw [List.map_cons, HashMap.get_cons, HashMap.get_cons, ih]
      split
      · rfl
      · rfl

theorem get_retain {υ : Type} (m : HashMap String υ) (p : String → Bool) (name : String) :
    HashMap.get (m.filter fun entry => p entry.1) name =
      if p name then m.get name else none := by
  induction m with
  | nil => simp
  | cons entry m ih =>
    by_cases hp : p entry.1
    · rw [List.filter_cons, if_pos hp, HashMap.get_cons, HashMap.get_cons, ih]
      by_cases hname : name = entry.1
      · simp [hname, hp]
      · simp [hname]
    · rw [List.filter_cons, if_neg hp, ih, HashMap.get_cons]
      by_cases hname : name = entry.1
      · simp [hname, hp]
      · simp [hname]

/-- The updates of a sync are those of its manifest. -/
theorem get_fetched {sync : Sync} {curr_manifest manifest : HashMap String IdListMetadata}
    {updates : HashMap String IdListUpdate}
    (h : manifest.mapM (fetch_update sync curr_manifest) = some updates) (name : String) :
    updates.map Prod.fst = manifest.map Prod.fst ∧
      updates.get name = (manifest.get name).bind fun entry =>
        (fetch_update sync curr_manifest (name, entry)).map Prod.snd := by
  induction manifest generalizing updates with
  | nil =>
    cases h
    exact ⟨rfl, rfl⟩
  | cons entry manifest ih =>
    rw [List.mapM_cons] at h
    obtain ⟨update, hupdate, h⟩ := Option.bind_eq_some_iff.mp h
    obtain ⟨rest, hrest, h⟩ := Option.bind_eq_some_iff.mp h
    cases h
    obtain ⟨hkeys, hget⟩ := ih hrest
    have hname : update.1 = entry.1 := by
      unfold fetch_update at hupdate
      dsimp only at hupdate
      split at hupdate
      · obtain ⟨raw, -, rfl⟩ := Option.map_eq_some_iff.mp hupdate
        rfl
      · cases hupdate
        rfl
    refine ⟨by rw [List.map_cons, List.map_cons, hname, hkeys], ?_⟩
    rw [HashMap.get_cons, HashMap.get_cons, hname, hget]
    by_cases heq : name = entry.1
    · subst heq
      simp [hupdate]
    · simp [heq]

/-- Each update goes to its own list. -/
theorem get_received {id_lists after : IdLists} {updates : HashMap String IdListUpdate}
    (hnodup : (updates.map Prod.fst).Nodup)
    (h : updates.foldlM receive_update id_lists = some after) (name : String) :
    (updates.get name = none → after.get name = id_lists.get name) ∧
      ∀ update, updates.get name = some update →
        ∃ list, ((id_lists.get name).getD (.new update.new_metadata)).apply_update update =
          some list ∧ after.get name = some list := by
  induction updates generalizing id_lists with
  | nil =>
    cases h
    exact ⟨fun _ => rfl, fun _ h => nomatch h⟩
  | cons entry updates ih =>
    rw [List.foldlM_cons] at h
    obtain ⟨mid, hmid, h⟩ := Option.bind_eq_some_iff.mp h
    obtain ⟨list, hlist, rfl⟩ := Option.map_eq_some_iff.mp hmid
    rw [List.map_cons, List.nodup_cons] at hnodup
    obtain ⟨hnew, hnodup⟩ := hnodup
    obtain ⟨hnone, hsome⟩ := ih hnodup h
    rw [HashMap.get_cons]
    by_cases hname : name = entry.1
    · have habsent : HashMap.get updates name = none := by
        rcases Option.eq_none_or_eq_some (HashMap.get updates name) with hnone' | ⟨update, hupdate⟩
        · exact hnone'
        · exact absurd (hname ▸ HashMap.mem_keys_of_get hupdate) hnew
      rw [if_pos hname]
      refine ⟨fun habsurd => absurd habsurd (by simp), fun update hupdate => ?_⟩
      cases hupdate
      refine ⟨list, by rw [hname]; exact hlist, ?_⟩
      rw [hnone habsent, HashMap.get_insert, if_pos hname]
    · rw [if_neg hname]
      rw [HashMap.get_insert, if_neg hname] at hnone hsome
      exact ⟨hnone, hsome⟩

/-- What the adapter decides for one entry of the manifest. -/
def Sync.decision (sync : Sync) (id_lists : IdLists) (name : String) (entry : IdListMetadata) :
    IdListChangeSet :=
  change_set (((get_current_id_list_metadata id_lists sync.read_lock).get name)) entry

/-- After a sync that the store takes, each list of the manifest is the old one, or a new
one, with the update of the sync. -/
theorem get_synced {id_lists after : IdLists} {sync : Sync}
    (h : sync_id_lists id_lists sync = .ok after) (hlock : sync.write_lock = true)
    (name : String) :
    (sync.manifest.get name = none → after.get name = none) ∧
      ∀ entry, sync.manifest.get name = some entry →
        ∃ raw_changeset list,
          ((sync.decision id_lists name entry).requires_download = true →
            ∃ raw, sync.responses name = some raw ∧ raw_changeset = some raw) ∧
          ((sync.decision id_lists name entry).requires_download = false →
            raw_changeset = none) ∧
          ((id_lists.get name).getD (.new entry)).apply_update ⟨raw_changeset, entry⟩ =
            some list ∧
          after.get name = some list := by
  unfold sync_id_lists at h
  dsimp only at h
  split at h
  · cases h
  · rename_i updates hupdates
    split at h
    · rename_i received hreceived
      cases h
      obtain ⟨hkeys, hget⟩ := get_fetched hupdates name
      rw [hlock] at hreceived
      unfold did_receive_id_list_updates at hreceived
      simp only [↓reduceIte] at hreceived
      obtain ⟨hnone, hsome⟩ := get_received (hkeys ▸ sync.names_once) hreceived name
      rw [get_retain (p := fun name => (HashMap.get updates name).isSome)] at hnone hsome
      constructor
      · intro hmanifest
        rw [hmanifest, Option.bind_none] at hget
        simpa [hget] using hnone hget
      · intro entry hmanifest
        rw [hmanifest, Option.bind_some] at hget
        obtain ⟨update, hupdate⟩ : ∃ update, HashMap.get updates name = some update := by
          have hmem : name ∈ updates.map Prod.fst := by
            rw [hkeys]
            exact HashMap.mem_keys_of_get hmanifest
          exact HashMap.get_of_mem_keys hmem
        obtain ⟨list, hlist, hafter⟩ := hsome update hupdate
        rw [hupdate] at hget hlist
        obtain ⟨fetched, hfetched, rfl⟩ := Option.map_eq_some_iff.mp hget.symm
        simp only [Option.isSome_some, ↓reduceIte] at hlist
        unfold fetch_update at hfetched
        dsimp only at hfetched
        cases hdownload : (sync.decision id_lists name entry).requires_download with
        | true =>
          unfold Sync.decision at hdownload
          rw [if_pos hdownload] at hfetched
          obtain ⟨raw, hraw, rfl⟩ := Option.map_eq_some_iff.mp hfetched
          exact ⟨some raw, list, fun _ => ⟨raw, hraw, rfl⟩, by simp, hlist, hafter⟩
        | false =>
          unfold Sync.decision at hdownload
          rw [if_neg (by simp [hdownload])] at hfetched
          cases hfetched
          exact ⟨none, list, by simp, fun _ => rfl, hlist, hafter⟩
    · cases h

/-! ## Lists that follow their file -/

/-- The list is what the first `size` bytes of the file make. -/
def Follows (file : Text) (list : IdList) : Prop :=
  ∃ read rest, file = read ++ rest ∧ len read = list.metadata.size ∧
    replay [] read = some list.ids

/-- The same, and what was read stops at the end of a line or of the file. -/
def FollowsToLine (file : Text) (list : IdList) : Prop :=
  ∃ read rest, file = read ++ rest ∧ len read = list.metadata.size ∧
    replay [] read = some list.ids ∧ (rest = [] ∨ AtLineEnd read)

theorem FollowsToLine.follows {file : Text} {list : IdList} (h : FollowsToLine file list) :
    Follows file list := by
  obtain ⟨read, rest, hfile, hlen, hids, -⟩ := h
  exact ⟨read, rest, hfile, hlen, hids⟩

/-- A list that has read nothing follows every file. -/
theorem follows_empty (file : Text) {list : IdList} (hsize : list.metadata.size = 0)
    (hids : list.ids = []) : FollowsToLine file list :=
  ⟨[], file, rfl, hsize.symm, by rw [hids]; rfl, .inr (.inl rfl)⟩

/-- The text is the file from a byte on, to the end of a line or of the file. -/
def ServedFrom (file : Text) (start : Nat) (raw : Text) : Prop :=
  ∃ before after, file = before ++ raw ++ after ∧ len before = start ∧
    (after = [] ∨ AtLineEnd raw)

theorem AtLineEnd.append {text more : Text} (h : AtLineEnd text) (hmore : AtLineEnd more) :
    AtLineEnd (text ++ more) := by
  rcases hmore with rfl | ⟨init, rfl⟩
  · rw [List.append_nil]
    exact h
  · exact .inr ⟨text ++ init, by rw [List.append_assoc]⟩

/-- A list that goes on from the byte where it stopped still follows the file. -/
theorem FollowsToLine.extend {file raw : Text} {list extended : IdList}
    (h : FollowsToLine file list) (hserved : ServedFrom file list.metadata.size raw)
    (hsize : extended.metadata.size = list.metadata.size + len raw)
    (hids : replay list.ids raw = some extended.ids) : FollowsToLine file extended := by
  obtain ⟨read, rest, hfile, hlen, hread, hend⟩ := h
  obtain ⟨before, after, hfile', hlen', hcut⟩ := hserved
  have hboth : read ++ rest = before ++ (raw ++ after) := by
    rw [← hfile, hfile', List.append_assoc]
  have hsame : read = before := prefix_eq_of_len hboth (hlen.trans hlen'.symm)
  subst hsame
  have hrest : rest = raw ++ after := List.append_cancel_left hboth
  refine ⟨read ++ raw, after, hfile', by rw [len_append, hlen, hsize], ?_, ?_⟩
  · rcases hend with hnil | hline
    · -- the whole file was read, so that there is nothing more
      rw [hnil] at hrest
      obtain ⟨rfl, -⟩ := List.append_eq_nil_iff.mp hrest.symm
      rw [List.append_nil, hread]
      exact hids
    · rw [replay_append hline, hread]
      exact hids
  · rcases hcut with hafter | hraw
    · exact .inl hafter
    · rcases hend with hnil | hline
      · rw [hnil] at hrest
        exact .inl (List.append_eq_nil_iff.mp hrest.symm).2
      · exact .inr (hline.append hraw)

/-! ## The two decisions -/

/-- Another file is not older, and the same file is not newer. -/
def InOrder (current entry : IdListMetadata) : Prop :=
  (entry.file_id ≠ current.file_id → current.creation_time ≤ entry.creation_time) ∧
    (entry.file_id = current.file_id → entry.creation_time ≤ current.creation_time)

instance (current entry : IdListMetadata) : Decidable (InOrder current entry) :=
  inferInstanceAs (Decidable (_ ∧ _))

/-- The adapter starts over just when the list does, as long as the times are in order. -/
theorem restarts_iff_clears_iff (current entry : IdListMetadata) :
    (Restarts current entry ↔ IdList.Clears current entry) ↔ InOrder current entry := by
  unfold Restarts IdList.Clears InOrder
  by_cases hfile : entry.file_id = current.file_id
  · simp [hfile]
  · simp [hfile]

/-- The server sends what the adapter asked for, from the file of the manifest. `file` gives
the text of each file of each list, as far as it is ever written. -/
def Served (file : String → Option String → Text) (id_lists : IdLists) (sync : Sync) : Prop :=
  ∀ name entry raw, sync.manifest.get name = some entry →
    (sync.decision id_lists name entry).requires_download = true →
    sync.responses name = some raw →
    ServedFrom (file name entry.file_id) (sync.decision id_lists name entry).range_start raw

/-- The store's write lock is granted. A list of the manifest that the store has comes with
times in order, and its metadata was read if the file is the same, or nothing of that file
was read before. -/
def SameDecision (id_lists : IdLists) (sync : Sync) : Prop :=
  sync.write_lock = true ∧
    ∀ name entry list, sync.manifest.get name = some entry → id_lists.get name = some list →
      (entry.file_id = list.metadata.file_id ∧ list.metadata.size = 0) ∨
        (InOrder list.metadata entry ∧
          (sync.read_lock = true ∨ entry.file_id ≠ list.metadata.file_id))

/-- Every list of the store follows the file that it names. -/
def AllFollow (file : String → Option String → Text) (id_lists : IdLists) : Prop :=
  ∀ name list, id_lists.get name = some list →
    FollowsToLine (file name list.metadata.file_id) list

/-- A list before the text of an update goes in, and what the update asks for. -/
theorem decision_of_base {file : String → Option String → Text} {id_lists : IdLists}
    {sync : Sync} (hall : AllFollow file id_lists) (hsame : SameDecision id_lists sync)
    {name : String} {entry : IdListMetadata} (hentry : sync.manifest.get name = some entry)
    (list : IdList) (hlist : (id_lists.get name).getD (.new entry) = list) :
    ∃ base, base = (if IdList.Clears list.metadata entry then list.update_metadata entry
        else list) ∧
      base.metadata.file_id = entry.file_id ∧
      FollowsToLine (file name entry.file_id) base ∧
      ((sync.decision id_lists name entry).requires_download = true →
        (sync.decision id_lists name entry).range_start = base.metadata.size) := by
  refine ⟨_, rfl, ?_⟩
  rcases Option.eq_none_or_eq_some (id_lists.get name) with hold | ⟨old, hold⟩
  · -- a list that the store does not have
    rw [hold, Option.getD_none] at hlist
    subst hlist
    have hnot : ¬ IdList.Clears (IdList.new entry).metadata entry := fun h => h.1 rfl
    rw [if_neg hnot]
    refine ⟨rfl, follows_empty _ rfl rfl, fun _ => ?_⟩
    unfold Sync.decision
    rw [get_current_metadata, hold]
    cases sync.read_lock <;> rfl
  · rw [hold, Option.getD_some] at hlist
    subst hlist
    have hcurrent : (get_current_id_list_metadata id_lists sync.read_lock).get name =
        if sync.read_lock then some old.metadata else none := by
      rw [get_current_metadata, hold, Option.map_some]
    have hrestart : IdList.Clears old.metadata entry ∨ old.metadata.size = 0 →
        (sync.decision id_lists name entry).requires_download = true →
          (sync.decision id_lists name entry).range_start = 0 := by
      unfold Sync.decision
      rw [hcurrent]
      cases sync.read_lock with
      | false => exact fun _ _ => rfl
      | true =>
        rintro hclear hdownload
        simp only [↓reduceIte, change_set] at hdownload ⊢
        by_cases hrestarts : Restarts old.metadata entry
        · rw [if_pos hrestarts]
        · rw [if_neg hrestarts] at hdownload ⊢
          rcases hclear with hclear | hsize
          · exact absurd (.inr hclear.1) hrestarts
          · split
            · exact hsize
            · rfl
    by_cases hclear : IdList.Clears old.metadata entry
    · rw [if_pos hclear]
      exact ⟨rfl, follows_empty _ rfl rfl, hrestart (.inl hclear)⟩
    · rw [if_neg hclear]
      rcases hsame.2 name entry old hentry hold with ⟨hfile, hsize⟩ | ⟨horder, hread⟩
      · refine ⟨hfile.symm, ?_, fun hdownload => ?_⟩
        · rw [hfile]
          exact hall name old hold
        · rw [hsize]
          exact hrestart (.inr hsize) hdownload
      · -- the list goes on, and so does the adapter
        have hnot : ¬ Restarts old.metadata entry :=
          fun h => hclear (((restarts_iff_clears_iff _ _).mpr horder).mp h)
        have hfile : entry.file_id = old.metadata.file_id := by
          by_contra hne
          exact hnot (.inr hne)
        have hlock : sync.read_lock = true := hread.resolve_right (fun h => h hfile)
        refine ⟨hfile.symm, ?_, fun hdownload => ?_⟩
        · rw [hfile]
          exact hall name old hold
        · unfold Sync.decision at hdownload ⊢
          rw [hcurrent, hlock] at hdownload ⊢
          simp only [↓reduceIte, change_set, if_neg hnot] at hdownload ⊢
          split at hdownload
          · rename_i hlarger
            rw [if_pos hlarger]
          · nomatch hdownload

/-- One sync keeps every list on its file, and a list of the manifest is then on the file
that the manifest names. -/
theorem follows_sync {file : String → Option String → Text} {id_lists after : IdLists}
    {sync : Sync} (hall : AllFollow file id_lists) (hserved : Served file id_lists sync)
    (hsame : SameDecision id_lists sync) (h : sync_id_lists id_lists sync = .ok after)
    {name : String} {entry : IdListMetadata} (hentry : sync.manifest.get name = some entry) :
    ∃ list, after.get name = some list ∧ list.metadata.file_id = entry.file_id ∧
      FollowsToLine (file name entry.file_id) list := by
  obtain ⟨raw_changeset, list, hdownloaded, hkept, hupdate, hafter⟩ :=
    (get_synced h hsame.1 name).2 entry hentry
  obtain ⟨base, hbase, hfile, hfollows, hstart⟩ := decision_of_base hall hsame hentry _ rfl
  refine ⟨list, hafter, ?_⟩
  unfold IdList.apply_update at hupdate
  dsimp only at hupdate
  rw [← hbase] at hupdate
  cases hdownload : (sync.decision id_lists name entry).requires_download with
  | false =>
    rw [hkept hdownload] at hupdate
    cases hupdate
    exact ⟨hfile, hfollows⟩
  | true =>
    obtain ⟨raw, hraw, rfl⟩ := hdownloaded hdownload
    obtain ⟨ids, hids, hlist⟩ := Option.bind_eq_some_iff.mp hupdate
    cases hlist
    have hserved := hserved name entry raw hentry hdownload hraw
    rw [hstart hdownload] at hserved
    exact ⟨hfile, hfollows.extend hserved rfl hids⟩

theorem all_follow_step {file : String → Option String → Text} (id_lists : IdLists)
    (sync : Sync) (after : IdLists) (hall : AllFollow file id_lists)
    (hsync : Served file id_lists sync ∧ SameDecision id_lists sync)
    (h : step id_lists sync = some after) : AllFollow file after := by
  unfold step at h
  cases hresult : sync_id_lists id_lists sync with
  | error =>
    rw [hresult] at h
    cases h
    exact hall
  | panic =>
    rw [hresult] at h
    nomatch h
  | ok received =>
    rw [hresult] at h
    cases h
    intro name list hlist
    rcases Option.eq_none_or_eq_some (sync.manifest.get name) with hnone | ⟨entry, hentry⟩
    · rw [(get_synced hresult hsync.2.1 name).1 hnone] at hlist
      nomatch hlist
    · obtain ⟨synced, hget, hfile, hfollows⟩ := follows_sync hall hsync.1 hsync.2 hresult hentry
      rw [hlist] at hget
      cases hget
      rw [hfile]
      exact hfollows

/-- After every sync that ends well, a list that the sync downloaded is what the first
`size` bytes of the manifest's file make. -/
def ListsFollowTheirFiles (file : String → Option String → Text) (syncs : List Sync) : Prop :=
  ∀ n id_lists sync after, run step [] (syncs.take n) = some id_lists →
    syncs[n]? = some sync → sync_id_lists id_lists sync = .ok after →
    ∀ name entry, sync.manifest.get name = some entry →
      (sync.decision id_lists name entry).requires_download = true →
      ∃ list, after.get name = some list ∧ Follows (file name entry.file_id) list

theorem id_lists_follow_their_files (file : String → Option String → Text) (syncs : List Sync)
    (hserved : Along step (Served file) [] syncs) (hsame : Along step SameDecision [] syncs) :
    ListsFollowTheirFiles file syncs := by
  intro n id_lists sync after hrun hsync hok name entry hentry _
  have hboth := along_and hserved hsame
  have hstart : AllFollow file [] := fun _ _ h => nomatch h
  have hall : AllFollow file id_lists :=
    run_invariant_along all_follow_step (along_take hboth n) hstart hrun
  obtain ⟨hs, hd⟩ := along_at hboth hrun hsync
  obtain ⟨list, hlist, -, hfollows⟩ := follows_sync hall hs hd hok hentry
  exact ⟨list, hlist, hfollows.follows⟩

/-! ## One list with one file -/

/-- The manifest names one list, and the server answers with one text. -/
def Sync.one (entry : IdListMetadata) (raw : Text) : Sync where
  manifest := [("list", entry)]
  names_once := by simp
  responses := fun _ => some raw

theorem Sync.one_get {entry entry' : IdListMetadata} {raw : Text} {name : String}
    (h : (Sync.one entry raw).manifest.get name = some entry') :
    name = "list" ∧ entry' = entry := by
  rw [Sync.one, HashMap.get_cons] at h
  split at h
  · rename_i hname
    cases h
    exact ⟨hname, rfl⟩
  · cases h

theorem served_one {file : String → Option String → Text} {id_lists : IdLists}
    {entry : IdListMetadata} {raw : Text} {start : Nat}
    (hdecision : (Sync.one entry raw).decision id_lists "list" entry = ⟨entry, true, start⟩)
    (h : ServedFrom (file "list" entry.file_id) start raw) :
    Served file id_lists (.one entry raw) := by
  intro name entry' raw' hentry hdownload hraw
  cases hraw
  obtain ⟨rfl, rfl⟩ := Sync.one_get hentry
  rw [hdecision]
  exact h

/-- The first version of a list, and the same list when its file has grown. -/
def first_version : IdListMetadata := ⟨"list", "/list", some "file", 3, 1⟩

def grown_version : IdListMetadata := { first_version with size := 6 }

theorem grown_list_follows_its_file :
    ListsFollowTheirFiles (fun _ _ => "+a\n+b\n".toList)
      [.one first_version "+a\n".toList, .one grown_version "+b\n".toList] := by
  refine id_lists_follow_their_files _ _ ?_ ?_
  · refine ⟨served_one rfl ⟨[], "+b\n".toList, rfl, rfl, .inr (.inr ⟨['+', 'a'], rfl⟩)⟩, ?_⟩
    intro s' hs'
    cases hs'
    refine ⟨served_one rfl ⟨"+a\n".toList, [], rfl, rfl, .inl rfl⟩, ?_⟩
    exact fun _ _ => trivial
  · refine ⟨⟨rfl, fun _ _ _ _ h => nomatch h⟩, ?_⟩
    intro s' hs'
    cases hs'
    refine ⟨⟨rfl, fun name entry list hentry hlist => ?_⟩, fun _ _ => trivial⟩
    obtain ⟨rfl, rfl⟩ := Sync.one_get hentry
    cases hlist
    exact .inr ⟨by decide, .inl rfl⟩

/-- The same file with a newer time: the adapter reads it from the start, and the list goes
on after what it has. -/
theorem recreated_list_is_read_twice :
    ¬ ∀ file syncs, Along step (Served file) [] syncs → ListsFollowTheirFiles file syncs := by
  intro hall
  have h := hall (fun _ _ => "+a\n".toList)
    [.one first_version "+a\n".toList,
      .one { first_version with creation_time := 2 } "+a\n".toList] ?_ 1 _ _ _ rfl rfl rfl
    "list" _ rfl rfl
  · obtain ⟨list, hlist, read, rest, hfile, hlen, -⟩ := h
    cases hlist
    have hsum := congrArg len hfile
    rw [len_append, hlen] at hsum
    have hnever : ¬ len "+a\n".toList = 6 + len rest := by
      have hthree : len "+a\n".toList = 3 := by decide
      omega
    exact hnever hsum
  · refine ⟨served_one rfl ⟨[], [], rfl, rfl, .inl rfl⟩, ?_⟩
    intro s' hs'
    cases hs'
    exact ⟨served_one rfl ⟨[], [], rfl, rfl, .inl rfl⟩, fun _ _ => trivial⟩

end statsig_rust.id_lists_adapter
