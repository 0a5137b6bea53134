-- What a changeset does to an ID list: which lines it may have, what its lines say about an ID,
-- and that its pieces do the same, one after the other.
import StatsigCore.IdLists.IdList

namespace statsig_rust.id_lists_adapter

/-! ## The characters of the lines -/

def Ascii (text : Text) : Prop := ∀ c ∈ text, c.toNat < 128

instance (text : Text) : Decidable (Ascii text) := List.decidableBAll _ text

theorem utf8Size_of_ascii {c : Char} (h : c.toNat < 128) : c.utf8Size = 1 := by
  have hle : c.val.toNat ≤ 0x7F := Nat.le_of_lt_succ h
  unfold Char.utf8Size
  exact if_pos (UInt32.le_iff_toNat_le.mpr hle)

theorem mem_of_mem_lines {text line : Text} {c : Char} (hline : line ∈ lines text)
    (hc : c ∈ line) : c ∈ text := by
  induction text using lines.induct generalizing line with
  | case1 => cases hline
  | case2 rest ih =>
    rw [lines] at hline
    rcases List.mem_cons.mp hline with rfl | hline
    · cases hc
    · exact List.mem_cons_of_mem _ (ih hline hc)
  | case3 rest ih =>
    rw [lines] at hline
    rcases List.mem_cons.mp hline with rfl | hline
    · cases hc
    · exact List.mem_cons_of_mem _ (List.mem_cons_of_mem _ (ih hline hc))
  | case4 d rest hfeed hreturn hlines ih =>
    rw [lines.eq_4 _ _ hfeed hreturn, hlines, List.mem_singleton] at hline
    rw [hline, List.mem_singleton] at hc
    rw [hc]
    exact List.mem_cons_self
  | case5 d rest hfeed hreturn first more hlines ih =>
    rw [lines.eq_4 _ _ hfeed hreturn, hlines] at hline
    rw [hlines] at ih
    rcases List.mem_cons.mp hline with rfl | hline
    · rcases List.mem_cons.mp hc with rfl | hc
      · exact List.mem_cons_self
      · exact List.mem_cons_of_mem _ (ih List.mem_cons_self hc)
    · exact List.mem_cons_of_mem _ (ih (List.mem_cons_of_mem _ hline) hc)

/-! ## Lines that can be cut after their first byte -/

/-- The line is skipped before it is cut, or its first character has one byte. -/
def Sliceable (line : Text) : Prop :=
  len (trim line) ≤ 1 ∨ ∀ op id, line = op :: id → op.utf8Size = 1

theorem change_isSome_iff (ids : List Text) (line : Text) :
    (apply_change ids line).isSome ↔ Sliceable line := by
  unfold apply_change Sliceable
  by_cases hshort : len (trim line) ≤ 1
  · simp [hshort]
  · cases line with
    | nil => simp [hshort]
    | cons op id =>
      by_cases hsize : op.utf8Size = 1
      · simp only [hshort, hsize, if_false, ne_eq, not_true_eq_false]
        split
        · simp [hsize]
        · split <;> simp [hsize]
      · simp [hshort, hsize]

theorem changes_isSome_iff (ids : List Text) (changes : List Text) :
    (changes.foldlM apply_change ids).isSome ↔ ∀ line ∈ changes, Sliceable line := by
  induction changes generalizing ids with
  | nil => simp
  | cons line changes ih =>
    rw [List.foldlM_cons]
    cases hline : apply_change ids line with
    | none =>
      have hcut := (change_isSome_iff ids line).not.mp (by simp [hline])
      simp [hcut]
    | some ids' =>
      have hsliceable := (change_isSome_iff ids line).mp (by simp [hline])
      simp only [Option.bind_eq_bind, Option.bind_some, ih, List.forall_mem_cons, hsliceable,
        true_and]

/-- A line that starts with no sign. -/
theorem change_without_sign {ids : List Text} {line : Text} (hplus : line.head? ≠ some '+')
    (hminus : line.head? ≠ some '-') (h : Sliceable line) :
    apply_change ids line = some ids := by
  unfold apply_change
  by_cases hshort : len (trim line) ≤ 1
  · exact if_pos hshort
  · rw [if_neg hshort]
    cases line with
    | nil => rfl
    | cons op id =>
      have hsize := h.resolve_left hshort op id rfl
      rw [List.head?_cons, ne_eq, Option.some.injEq] at hplus hminus
      simp [hsize, hplus, hminus]

/-! ## What the lines say about an ID -/

/-- What a line of a changeset says about an ID: whether it is in the list. -/
def change_of (id line : Text) : Option Bool :=
  if len (trim line) ≤ 1 then none
  else if line = '+' :: id then some true
  else if line = '-' :: id then some false
  else none

/-- The last word of some lines about an ID. -/
def last_change (change : Text → Option Bool) : List Text → Option Bool
  | [] => none
  | line :: changes => (last_change change changes).or (change line)

theorem mem_change {ids ids' : List Text} {line : Text} (h : apply_change ids line = some ids')
    (id : Text) : decide (id ∈ ids') = (change_of id line).getD (decide (id ∈ ids)) := by
  unfold apply_change at h
  unfold change_of
  by_cases hshort : len (trim line) ≤ 1
  · rw [if_pos hshort] at h ⊢
    cases h
    rfl
  · rw [if_neg hshort] at h ⊢
    cases line with
    | nil =>
      cases h
      simp
    | cons op rest =>
      dsimp only at h
      split at h
      · cases h
      · by_cases hplus : op = '+'
        · rw [if_pos hplus] at h
          cases h
          by_cases hid : rest = id
          · by_cases hmem : rest ∈ ids <;> simp [hplus, hid, hid ▸ hmem]
          · have hne : ¬ id = rest := fun heq => hid heq.symm
            by_cases hmem : rest ∈ ids <;> simp [hplus, hid, hmem, hne]
        · rw [if_neg hplus] at h
          by_cases hminus : op = '-'
          · rw [if_pos hminus] at h
            cases h
            by_cases hid : rest = id
            · simp [hminus, hid]
            · have hne : ¬ id = rest := fun heq => hid heq.symm
              simp [hminus, hid, hne]
          · rw [if_neg hminus] at h
            cases h
            simp [hplus, hminus]

theorem mem_changes {ids ids' : List Text} {changes : List Text}
    (h : changes.foldlM apply_change ids = some ids') (id : Text) :
    decide (id ∈ ids') = (last_change (change_of id) changes).getD (decide (id ∈ ids)) := by
  induction changes generalizing ids with
  | nil =>
    cases h
    rfl
  | cons line changes ih =>
    rw [List.foldlM_cons] at h
    obtain ⟨middle, hline, hrest⟩ := Option.bind_eq_some_iff.mp h
    rw [ih hrest, mem_change hline, last_change]
    cases last_change (change_of id) changes with
    | none => rfl
    | some last => rfl

namespace IdList

/-- The list that the lines of an update are applied to. -/
def prepared (list : IdList) (new_metadata : IdListMetadata) : IdList :=
  if Clears list.metadata new_metadata then list.update_metadata new_metadata else list

theorem apply_update_eq (list : IdList) (new_metadata : IdListMetadata) (changeset : Text) :
    list.apply_update ⟨some changeset, new_metadata⟩ =
      (replay (list.prepared new_metadata).ids changeset).map fun ids =>
        { metadata := { (list.prepared new_metadata).metadata with
            size := (list.prepared new_metadata).metadata.size + len changeset }
          ids } := by
  show (replay (list.prepared new_metadata).ids changeset).bind _ = _
  cases replay (list.prepared new_metadata).ids changeset with
  | none => rfl
  | some ids => rfl

theorem update_isSome_iff (list : IdList) (new_metadata : IdListMetadata) (changeset : Text) :
    (list.apply_update ⟨some changeset, new_metadata⟩).isSome ↔
      ∀ line ∈ lines changeset, Sliceable line := by
  rw [apply_update_eq, Option.isSome_map]
  exact changes_isSome_iff _ _

/-- A changeset that comes whole does not clear the list again. -/
theorem prepared_again (list : IdList) (new_metadata : IdListMetadata) (size : Nat)
    (ids : List Text) :
    prepared { metadata := { (list.prepared new_metadata).metadata with size }, ids }
      new_metadata = { metadata := { (list.prepared new_metadata).metadata with size }, ids } := by
  unfold prepared
  by_cases hclears : Clears list.metadata new_metadata
  · rw [if_pos hclears]
    refine if_neg fun hagain => ?_
    exact hagain.1 rfl
  · rw [if_neg hclears]
    exact if_neg hclears

/-- Two pieces, one after the other. -/
theorem update_append (list : IdList) (new_metadata : IdListMetadata) {text : Text}
    (h : AtLineEnd text) (more : Text) :
    list.apply_update ⟨some (text ++ more), new_metadata⟩ =
      (list.apply_update ⟨some text, new_metadata⟩).bind fun list =>
        list.apply_update ⟨some more, new_metadata⟩ := by
  rw [apply_update_eq, apply_update_eq, replay_append h]
  cases replay (list.prepared new_metadata).ids text with
  | none => rfl
  | some ids =>
    simp only [Option.bind_some, Option.map_some, apply_update_eq, prepared_again, len_append,
      Nat.add_assoc]

/-- The pieces of a changeset, with one metadata. -/
def apply_updates (list : IdList) (new_metadata : IdListMetadata) (pieces : List Text) :
    Option IdList :=
  pieces.foldlM (fun list piece => list.apply_update ⟨some piece, new_metadata⟩) list

theorem updates_flatten (list : IdList) (new_metadata : IdListMetadata) {pieces : List Text}
    (hpieces : pieces ≠ []) (hends : ∀ piece ∈ pieces.dropLast, AtLineEnd piece) :
    list.apply_updates new_metadata pieces =
      list.apply_update ⟨some pieces.flatten, new_metadata⟩ := by
  induction pieces generalizing list with
  | nil => exact absurd rfl hpieces
  | cons piece pieces ih =>
    unfold apply_updates at ih ⊢
    rw [List.foldlM_cons]
    by_cases hlast : pieces = []
    · subst hlast
      simp
    · rw [List.dropLast_cons_of_ne_nil hlast, List.forall_mem_cons] at hends
      rw [List.flatten_cons, update_append list new_metadata hends.1]
      have hrest : (fun list : IdList => pieces.foldlM
          (fun list piece => list.apply_update ⟨some piece, new_metadata⟩) list) =
            fun list => list.apply_update ⟨some pieces.flatten, new_metadata⟩ := by
        funext list
        exact ih list hlast hends.2
      exact congrArg (Option.bind _) hrest

/-- A changeset of ASCII lines may come in pieces that stop at the ends of lines. An ID is in the
list when the last line about it says so. -/
theorem pieces_equal_one_update (list : IdList) (new_metadata : IdListMetadata)
    {pieces : List Text} (hpieces : pieces ≠ [])
    (hends : ∀ piece ∈ pieces.dropLast, AtLineEnd piece) (hascii : Ascii pieces.flatten) :
    ∃ after, list.apply_updates new_metadata pieces = some after ∧
      list.apply_update ⟨some pieces.flatten, new_metadata⟩ = some after ∧
      after.metadata.size = (list.prepared new_metadata).metadata.size + len pieces.flatten ∧
      ∀ id, decide (id ∈ after.ids) =
        (last_change (change_of id) (lines pieces.flatten)).getD
          (decide (id ∈ (list.prepared new_metadata).ids)) := by
  have hsliceable : ∀ line ∈ lines pieces.flatten, Sliceable line := by
    rintro line hline
    refine .inr fun op id heq => ?_
    have hop : op ∈ line := by
      rw [heq]
      exact List.mem_cons_self
    exact utf8Size_of_ascii (hascii op (mem_of_mem_lines hline hop))
  obtain ⟨ids, hids⟩ := Option.isSome_iff_exists.mp
    ((changes_isSome_iff (list.prepared new_metadata).ids _).mpr hsliceable)
  have hwhole := apply_update_eq list new_metadata pieces.flatten
  rw [replay, hids, Option.map_some] at hwhole
  refine ⟨_, (updates_flatten list new_metadata hpieces hends).trans hwhole, hwhole, rfl, ?_⟩
  intro id
  exact mem_changes hids id

/-- The second piece takes back what the first one adds. -/
def taken_back : List Text := ["+a\n+b\n".toList, "-a\r\n".toList]

def unnamed : IdList := { metadata := ⟨"", "", none, 0, 0⟩ }

theorem two_pieces_equal_one_update :
    ∃ after, unnamed.apply_updates unnamed.metadata taken_back = some after ∧
      unnamed.apply_update ⟨some taken_back.flatten, unnamed.metadata⟩ = some after ∧
      after.metadata.size = 10 ∧ ['b'] ∈ after.ids ∧ ['a'] ∉ after.ids := by
  obtain ⟨after, hpieces, hwhole, hsize, hids⟩ :=
    @pieces_equal_one_update unnamed unnamed.metadata taken_back (by decide)
      (by
        intro piece hpiece
        rw [List.mem_singleton.mp hpiece]
        exact .inr ⟨"+a\n+b".toList, by decide⟩)
      (by decide)
  refine ⟨after, hpieces, hwhole, hsize.trans (by decide), ?_, ?_⟩
  · exact of_decide_eq_true ((hids ['b']).trans (by decide))
  · exact of_decide_eq_false ((hids ['a']).trans (by decide))

/-- What a line reads as an ID after its sign. -/
def signed_change (id line : Text) : Option Bool :=
  if line = '+' :: id then some true
  else if line = '-' :: id then some false
  else none

def LastLineDecides (before : List Text) (changeset : Text) (after : List Text) : Prop :=
  ∀ id, id ∈ after ↔ last_change (signed_change id) (lines changeset) = some true ∨
    (last_change (signed_change id) (lines changeset) = none ∧ id ∈ before)

/-- An ID of one blank cannot be added, and the metadata of another file clears the list. -/
theorem blank_and_cleared_ids :
    (¬ ∀ (list : IdList) (changeset : Text) (after : IdList), Ascii changeset →
      list.apply_update ⟨some changeset, list.metadata⟩ = some after →
      LastLineDecides list.ids changeset after.ids) ∧
    ¬ ∀ (list : IdList) (new_metadata : IdListMetadata) (changeset : Text) (after : IdList),
      Ascii changeset → (∀ line ∈ lines changeset, 1 < len (trim line)) →
      list.apply_update ⟨some changeset, new_metadata⟩ = some after →
      LastLineDecides list.ids changeset after.ids := by
  constructor
  · intro h
    have hblank := h unnamed "+ \n".toList _ (by decide) rfl [' ']
    revert hblank
    decide
  · intro h
    have hcleared := h { metadata := ⟨"", "", some "1", 0, 0⟩, ids := [['a']] }
      ⟨"", "", some "2", 0, 0⟩ "+b\n".toList _ (by decide) (by decide) rfl ['a']
    revert hcleared
    decide

/-- An update completes just when every line that is not skipped starts with a character of one
byte. -/
theorem updates_are_total_iff (list : IdList) (new_metadata : IdListMetadata)
    (changeset : Text) :
    ((list.apply_update ⟨some changeset, new_metadata⟩).isSome ∧
      ∀ line ∈ lines changeset, line.head? ≠ some '+' → line.head? ≠ some '-' →
        ∀ ids, apply_change ids line = some ids) ↔
      ∀ line ∈ lines changeset, Sliceable line := by
  rw [update_isSome_iff]
  constructor
  · intro h
    exact h.1
  · intro h
    refine ⟨h, fun line hline hplus hminus ids => ?_⟩
    exact change_without_sign hplus hminus (h line hline)

/-- A line that starts with a letter of two bytes. -/
theorem two_byte_letter_panics :
    ¬ ∀ (list : IdList) (new_metadata : IdListMetadata) (changeset : Text),
      (list.apply_update ⟨some changeset, new_metadata⟩).isSome ∧
        ∀ line ∈ lines changeset, line.head? ≠ some '+' → line.head? ≠ some '-' →
          ∀ ids, apply_change ids line = some ids := by
  intro h
  have hsome := (h unnamed unnamed.metadata ['é', '1']).1
  revert hsome
  decide

end IdList

end statsig_rust.id_lists_adapter
