-- An ID list and its updates (`id_lists_adapter/id_list.rs`). A changeset is text with one
-- change on a line: `+` or `-` and the ID after it. Its length is counted in UTF-8 bytes.
import Mathlib.Algebra.BigOperators.Group.List.Basic
import Mathlib.Algebra.GroupWithZero.Nat
import StatsigCore.Evaluation.SpecTypes

namespace statsig_rust.id_lists_adapter

abbrev Text := List Char

/-- `str::len`. -/
def len (text : Text) : Nat := (text.map Char.utf8Size).sum

@[simp] theorem len_nil : len [] = 0 := rfl

@[simp] theorem len_cons (c : Char) (text : Text) : len (c :: text) = c.utf8Size + len text := by
  simp [len]

@[simp] theorem len_append (text more : Text) : len (text ++ more) = len text + len more := by
  simp [len]

theorem len_eq_zero {text : Text} : len text = 0 ↔ text = [] := by
  cases text with
  | nil => simp
  | cons c text =>
    have hpos := Char.utf8Size_pos c
    simp only [len_cons, reduceCtorEq, iff_false]
    omega

/-- Two beginnings of one text are the same when they have the same length. -/
theorem prefix_eq_of_len {p q rest rest' : Text} (h : p ++ rest = q ++ rest')
    (hlen : len p = len q) : p = q := by
  induction p generalizing q with
  | nil => exact (len_eq_zero.mp hlen.symm).symm
  | cons c p ih =>
    cases q with
    | nil =>
      have hpos := Char.utf8Size_pos c
      simp only [len_cons, len_nil] at hlen
      omega
    | cons d q =>
      simp only [List.cons_append, List.cons.injEq] at h
      obtain ⟨rfl, h⟩ := h
      simp only [len_cons, Nat.add_left_cancel_iff] at hlen
      rw [ih h hlen]

/-! ## Lines -/

/-- `str::lines`: a line ends with a line feed, or a carriage return and a line feed. -/
def lines : Text → List Text
  | [] => []
  | '\n' :: rest => [] :: lines rest
  | '\r' :: '\n' :: rest => [] :: lines rest
  | c :: rest =>
    match lines rest with
    | [] => [[c]]
    | line :: more => (c :: line) :: more

/-- The text stops at the end of a line. -/
def AtLineEnd (text : Text) : Prop := text = [] ∨ ∃ init, text = init ++ ['\n']

theorem AtLineEnd.tail {c : Char} {text : Text} (h : AtLineEnd (c :: text)) : AtLineEnd text := by
  rcases h with h | ⟨init, h⟩
  · nomatch h
  · cases init with
    | nil =>
      cases h
      exact .inl rfl
    | cons d init =>
      cases h
      exact .inr ⟨init, rfl⟩

theorem lines_ne_nil {text : Text} (h : text ≠ []) : lines text ≠ [] := by
  unfold lines
  split
  · exact absurd rfl h
  · simp
  · simp
  · split
    · simp
    · simp

/-- The lines of two pieces are those of the whole when the first piece stops at the end of
a line. -/
theorem lines_append {text : Text} (h : AtLineEnd text) (more : Text) :
    lines (text ++ more) = lines text ++ lines more := by
  induction text using lines.induct with
  | case1 => rfl
  | case2 rest ih =>
    have ih := ih h.tail
    simp only [List.cons_append, lines, ih]
  | case3 rest ih =>
    have ih := ih h.tail.tail
    simp only [List.cons_append, lines, ih]
  | case4 c rest hfeed hreturn hlines ih =>
    -- a last line that no line feed ends
    by_cases hrest : rest = []
    · subst hrest
      rcases h with h | ⟨init, h⟩
      · nomatch h
      · cases init with
        | nil =>
          cases h
          exact (hfeed rfl).elim
        | cons d init => simp at h
    · exact absurd hlines (lines_ne_nil hrest)
  | case5 c rest hfeed hreturn line more' hlines ih =>
    have ih := ih h.tail
    have hreturn' : ∀ rest', c = '\r' → rest ++ more = '\n' :: rest' → False := by
      intro rest' hc happend
      cases rest with
      | nil => nomatch hlines
      | cons d rest =>
        cases happend
        exact hreturn rest hc rfl
    rw [List.cons_append, lines.eq_4 _ _ hfeed hreturn', lines.eq_4 _ _ hfeed hreturn, ih, hlines]
    rfl

/-! ## Updates -/

structure IdListMetadata where
  name : String
  url : String
  file_id : Option String
  size : Nat
  creation_time : Int
deriving DecidableEq

structure IdListUpdate where
  raw_changeset : Option Text
  new_metadata : IdListMetadata

/-- The IDs are a set: an ID that is inserted again stays where it is. -/
structure IdList where
  metadata : IdListMetadata
  ids : List Text := []
deriving DecidableEq

/-- `char::is_whitespace`. -/
def is_whitespace (c : Char) : Bool :=
  let code := c.toNat
  (9 ≤ code && code ≤ 13) || code = 32 || code = 0x85 || code = 0xA0 || code = 0x1680 ||
    (0x2000 ≤ code && code ≤ 0x200A) || code = 0x2028 || code = 0x2029 || code = 0x202F ||
    code = 0x205F || code = 0x3000

/-- `str::trim`. -/
def trim (text : Text) : Text :=
  ((text.dropWhile is_whitespace).reverse.dropWhile is_whitespace).reverse

/-- One line of a changeset. `none` when `&change[1..]` cuts through a character. -/
def apply_change (ids : List Text) (change : Text) : Option (List Text) :=
  if len (trim change) ≤ 1 then some ids
  else
    match change with
    | [] => some ids
    | op :: id =>
      if op.utf8Size ≠ 1 then none
      else if op = '+' then some (if id ∈ ids then ids else id :: ids)
      else if op = '-' then some (ids.filter (· ≠ id))
      else some ids

/-- All the lines of a changeset, one after the other. -/
def replay (ids : List Text) (changeset_data : Text) : Option (List Text) :=
  (lines changeset_data).foldlM apply_change ids

theorem replay_append {text : Text} (h : AtLineEnd text) (ids : List Text) (more : Text) :
    replay ids (text ++ more) = (replay ids text).bind fun ids => replay ids more := by
  unfold replay
  rw [lines_append h, List.foldlM_append]
  rfl

namespace IdList

def new (metadata : IdListMetadata) : IdList := { metadata := { metadata with size := 0 } }

/-- `update_metadata`. -/
def update_metadata (_list : IdList) (metadata : IdListMetadata) : IdList :=
  { metadata := { metadata with size := 0 }, ids := [] }

/-- The update is for another file, which is not older. -/
def Clears (current_meta updated_meta : IdListMetadata) : Prop :=
  updated_meta.file_id ≠ current_meta.file_id ∧
    updated_meta.creation_time ≥ current_meta.creation_time

instance (current_meta updated_meta : IdListMetadata) :
    Decidable (Clears current_meta updated_meta) :=
  inferInstanceAs (Decidable (_ ∧ _))

/-- `none` when the update panics. -/
def apply_update (list : IdList) (update : IdListUpdate) : Option IdList :=
  let list := if Clears list.metadata update.new_metadata then
    list.update_metadata update.new_metadata else list
  match update.raw_changeset with
  | none => some list
  | some changeset_data => do
    let ids ← replay list.ids changeset_data
    some { metadata := { list.metadata with size := list.metadata.size + len changeset_data }, ids }

end IdList

end statsig_rust.id_lists_adapter
