import Mathlib.Tactic.Common
import Remedy.Tree

/-!
# Trees seen through their paths

`Tree.node?` is what a path leads to: a folder, whatever it holds, or a file with its bytes. Putting
a file in a tree changes what its own path leads to and nothing else (`node?_putAt`). A file that is
added and erased again leaves the very same tree (`eraseAt_putAt`), also when another file was
rewritten in between (`putAt_comm`). Whatever is put or erased at a path, the paths that do not go
on from there lead where they did (`node?_putAt_of_not_below`, `node?_eraseAt_of_not_below`).
-/

namespace Remedy

/-- What a path leads to. -/
inductive Node where
  | folder
  | file (content : Bytes)
  deriving DecidableEq, Repr

def Entry.node : Entry → Node
  | .file content => .file content
  | .folder _ => .folder

namespace Tree

def node? (path : List Text) (t : Tree) : Option Node := (t.get? path).map Entry.node

/-! ## One folder -/

theorem find?_cons (name n : Text) (entry : Entry) (t : Tree) :
    (cons name entry t).find? n = if name = n then some entry else t.find? n := by
  cases entry <;> simp [cons, find?]

theorem find?_put (name n : Text) (entry : Entry) (t : Tree) :
    (t.put name entry).find? n = if n = name then some entry else t.find? n := by
  induction t with
  | empty => simp [put, find?_cons, find?, eq_comm]
  | file m content rest ih | folder m entries rest _ ih =>
    unfold put
    split_ifs with hm hn hn
    · simp [find?_cons, hn]
    · have : ¬ m = n := fun h => hn (h.symm.trans hm)
      simp [find?_cons, find?, this, hm ▸ this]
    · rw [find?, ih, if_neg (hn ▸ hm), if_pos hn]
    · simp [find?, ih, hn]

@[simp]
theorem find?_put_self (name : Text) (entry : Entry) (t : Tree) :
    (t.put name entry).find? name = some entry := by
  simp [find?_put]

theorem erase_put {name : Text} {t : Tree} (h : t.find? name = none) (entry : Entry) :
    (t.put name entry).erase name = t := by
  induction t with
  | empty => cases entry <;> simp [put, cons, erase]
  | file m content rest ih | folder m entries rest _ ih =>
    have hm : m ≠ name := by
      rintro rfl
      simp [find?] at h
    simp [put, erase, hm, ih (by simpa [find?, hm] using h)]

theorem find?_erase_of_ne {name n : Text} (h : n ≠ name) (t : Tree) :
    (t.erase name).find? n = t.find? n := by
  induction t with
  | empty => rfl
  | file m content rest ih | folder m entries rest _ ih =>
    unfold erase
    split_ifs with hm
    · simp [find?, hm, h.symm]
    · simp [find?, ih]

theorem put_put (name : Text) (first second : Entry) (t : Tree) :
    (t.put name first).put name second = t.put name second := by
  induction t with
  | empty => cases first <;> simp [put, cons]
  | file m content rest ih | folder m entries rest _ ih =>
    by_cases hm : m = name
    · cases first <;> simp [put, cons, hm]
    · simp [put, hm, ih]

theorem put_eq_self {name : Text} {entry : Entry} {t : Tree} (h : t.find? name = some entry) :
    t.put name entry = t := by
  induction t with
  | empty => simp [find?] at h
  | file m content rest ih | folder m entries rest _ ih =>
    by_cases hm : m = name
    · obtain rfl : _ = entry := by simpa [find?, hm] using h
      simp [put, cons, hm]
    · simp [put, hm, ih (by simpa [find?, hm] using h)]

theorem put_cons_of_ne {a b : Text} (hab : a ≠ b) (x y : Entry) (t : Tree) :
    (cons a x t).put b y = cons a x (t.put b y) := by
  cases x <;> simp [cons, put, hab]

/-- An entry that is there already can be replaced before or after another one is put. -/
theorem put_comm {a b : Text} (hab : a ≠ b) {t : Tree} (h : (t.find? a).isSome) (x y : Entry) :
    (t.put a x).put b y = (t.put b y).put a x := by
  induction t with
  | empty => simp [find?] at h
  | file m content rest ih | folder m entries rest _ ih =>
    by_cases ha : m = a
    · subst ha
      rw [put, if_pos rfl, put_cons_of_ne hab, put, if_neg hab, put, if_pos rfl]
    · by_cases hb : m = b
      · subst hb
        rw [put, if_neg ha, put, if_pos rfl, put, if_pos rfl, put_cons_of_ne hab.symm]
      · simp [put, ha, hb, ih (by simpa [find?, ha] using h)]

/-! ## Along a path -/

theorem node?_eq_folder_iff {t : Tree} {path : List Text} :
    t.node? path = some .folder ↔ ∃ entries, t.get? path = some (.folder entries) := by
  rcases h : t.get? path with _ | ⟨content | entries⟩ <;> simp [node?, h, Entry.node]

theorem node?_eq_file_iff {t : Tree} {path : List Text} {content : Bytes} :
    t.node? path = some (.file content) ↔ t.get? path = some (.file content) := by
  rcases h : t.get? path with _ | ⟨c | entries⟩ <;> simp [node?, h, Entry.node]

@[simp]
theorem node?_nil (t : Tree) : t.node? [] = some .folder := rfl

theorem node?_of_folder {name : Text} {t entries : Tree} (h : t.find? name = some (.folder entries))
    (names : List Text) : t.node? (name :: names) = entries.node? names := by
  simp [node?, get?, h]

theorem node?_of_file {name : Text} {t : Tree} {content : Bytes}
    (h : t.find? name = some (.file content)) (names : List Text) :
    t.node? (name :: names) = if names = [] then some (.file content) else none := by
  cases names <;> simp [node?, get?, h, Entry.node]

theorem node?_of_none {name : Text} {t : Tree} (h : t.find? name = none) (names : List Text) :
    t.node? (name :: names) = none := by
  simp [node?, get?, h]

/-- What lies below a name is seen in its entry alone. -/
theorem node?_congr {n : Text} {t u : Tree} (h : t.find? n = u.find? n) (names : List Text) :
    t.node? (n :: names) = u.node? (n :: names) := by
  rcases hf : u.find? n with _ | ⟨content | entries⟩
  · rw [node?_of_none (h.trans hf), node?_of_none hf]
  · rw [node?_of_file (h.trans hf), node?_of_file hf]
  · rw [node?_of_folder (h.trans hf), node?_of_folder hf]

theorem node?_put_of_ne {name n : Text} (h : n ≠ name) (entry : Entry) (t : Tree)
    (names : List Text) : (t.put name entry).node? (n :: names) = t.node? (n :: names) :=
  node?_congr (by simp [find?_put, h]) names

theorem folder_of_node? {name : Text} {names : List Text} {t : Tree}
    (h : t.node? (name :: names) = some .folder) :
    ∃ entries, t.find? name = some (.folder entries) ∧ entries.node? names = some .folder := by
  rcases hf : t.find? name with _ | ⟨content | entries⟩
  · simp [node?_of_none hf] at h
  · simp only [node?_of_file hf] at h
    split_ifs at h
    simp at h
  · exact ⟨entries, rfl, node?_of_folder hf names ▸ h⟩

/-- What has names above it lies in a folder. -/
theorem folder_above {name next : Text} {names : List Text} {t : Tree} {node : Node}
    (h : t.node? (name :: next :: names) = some node) :
    ∃ entries, t.find? name = some (.folder entries) ∧
      entries.node? (next :: names) = some node := by
  rcases hf : t.find? name with _ | ⟨content | entries⟩
  · simp [node?_of_none hf] at h
  · simp [node?_of_file hf] at h
  · exact ⟨entries, rfl, node?_of_folder hf _ ▸ h⟩

theorem file_of_node? {name : Text} {t : Tree} {content : Bytes}
    (h : t.node? [name] = some (.file content)) : t.find? name = some (.file content) := by
  rcases hf : t.find? name with _ | ⟨c | entries⟩
  · simp [node?_of_none hf] at h
  · simpa [node?_of_file hf] using h
  · simp [node?_of_folder hf] at h

theorem find?_of_node?_none {name : Text} {t : Tree} (h : t.node? [name] = none) :
    t.find? name = none := by
  rcases hf : t.find? name with _ | ⟨content | entries⟩
  · rfl
  · simp [node?_of_file hf] at h
  · simp [node?_of_folder hf] at h

@[simp]
theorem putAt_singleton (name : Text) (entry : Entry) (t : Tree) :
    t.putAt [name] entry = t.put name entry := rfl

theorem putAt_of_folder {name : Text} {t entries : Tree} (h : t.find? name = some (.folder entries))
    (next : Text) (names : List Text) (entry : Entry) :
    t.putAt (name :: next :: names) entry =
      t.put name (.folder (entries.putAt (next :: names) entry)) := by
  simp only [putAt, List.getLast?_cons_cons, List.dropLast_cons_cons]
  cases hl : (next :: names).getLast? with
  | none => simp at hl
  | some last => simp [modifyAt, h]

theorem eraseAt_of_folder {name : Text} {t entries : Tree}
    (h : t.find? name = some (.folder entries)) (next : Text) (names : List Text) :
    t.eraseAt (name :: next :: names) =
      t.put name (.folder (entries.eraseAt (next :: names))) := by
  simp only [eraseAt, List.getLast?_cons_cons, List.dropLast_cons_cons]
  cases hl : (next :: names).getLast? with
  | none => simp at hl
  | some last => simp [modifyAt, h]

/-- A file may stand at a path that lies in a folder and is no folder itself. -/
structure Writable (path : List Text) (t : Tree) : Prop where
  ne_nil : path ≠ []
  parent : t.node? path.dropLast = some .folder
  not_folder : t.node? path ≠ some .folder

theorem Writable.of_folder {name next : Text} {names : List Text} {t : Tree}
    (h : t.Writable (name :: next :: names)) :
    ∃ entries, t.find? name = some (.folder entries) ∧ entries.Writable (next :: names) := by
  obtain ⟨entries, hf, hparent⟩ := folder_of_node? h.parent
  exact ⟨entries, hf, List.cons_ne_nil _ _, hparent, node?_of_folder hf _ ▸ h.not_folder⟩

theorem writable_of_file {path : List Text} {t : Tree} {content : Bytes}
    (h : t.node? path = some (.file content)) : t.Writable path := by
  refine ⟨by rintro rfl; simp at h, ?_, by simp [h]⟩
  induction path generalizing t with
  | nil => rfl
  | cons name names ih =>
    cases names with
    | nil => rfl
    | cons next names =>
      obtain ⟨entries, hf, h⟩ := folder_above h
      rw [List.dropLast_cons_cons, node?_of_folder hf, ih h]

/-- A file that is put in a tree is seen at its own path and nowhere else. -/
theorem node?_putAt {target : List Text} {t : Tree} (h : t.Writable target) (content : Bytes)
    (path : List Text) :
    (t.putAt target (.file content)).node? path =
      if path = target then some (.file content) else t.node? path := by
  induction target generalizing t path with
  | nil => exact absurd rfl h.ne_nil
  | cons name names ih =>
    cases path with
    | nil => simp
    | cons k ks =>
      cases names with
      | nil =>
        by_cases hk : k = name
        · subst hk
          rw [putAt_singleton, node?_of_file (find?_put_self ..)]
          rcases hf : t.find? k with _ | ⟨c | entries⟩
          · simp [node?_of_none hf]
          · cases ks <;> simp [node?_of_file hf]
          · exact absurd (node?_of_folder hf []) h.not_folder
        · rw [putAt_singleton, node?_put_of_ne hk, if_neg (by simp [hk])]
      | cons next names =>
        obtain ⟨entries, hf, hw⟩ := h.of_folder
        rw [putAt_of_folder hf]
        by_cases hk : k = name
        · subst hk
          rw [node?_of_folder (find?_put_self ..), node?_of_folder hf, ih hw]
          simp
        · rw [node?_put_of_ne hk, if_neg (by simp [hk])]

theorem folder_putAt {target path : List Text} {t : Tree} (h : t.Writable target) (content : Bytes)
    (hpath : t.node? path = some .folder) :
    (t.putAt target (.file content)).node? path = some .folder := by
  have hne : path ≠ target := fun heq => h.not_folder (heq ▸ hpath)
  rw [node?_putAt h, if_neg hne, hpath]

theorem Writable.putAt {target path : List Text} {t : Tree} (hpath : t.Writable path)
    (h : t.Writable target) (content : Bytes) :
    (t.putAt target (.file content)).Writable path := by
  refine ⟨hpath.ne_nil, folder_putAt h content hpath.parent, ?_⟩
  rw [node?_putAt h]
  split_ifs
  · simp
  · exact hpath.not_folder

/-- A file that is added and erased again leaves no trace. -/
theorem eraseAt_putAt {path : List Text} {t : Tree} (h : t.Writable path)
    (habsent : t.node? path = none) (entry : Entry) : (t.putAt path entry).eraseAt path = t := by
  induction path generalizing t with
  | nil => exact absurd rfl h.ne_nil
  | cons name names ih =>
    cases names with
    | nil => exact erase_put (find?_of_node?_none habsent) entry
    | cons next names =>
      obtain ⟨entries, hf, hw⟩ := h.of_folder
      rw [putAt_of_folder hf, eraseAt_of_folder (find?_put_self ..), put_put,
        ih hw (node?_of_folder hf _ ▸ habsent), put_eq_self hf]

theorem putAt_eq_self {path : List Text} {t : Tree} {content : Bytes}
    (h : t.node? path = some (.file content)) : t.putAt path (.file content) = t := by
  induction path generalizing t with
  | nil => simp at h
  | cons name names ih =>
    cases names with
    | nil => exact put_eq_self (file_of_node? h)
    | cons next names =>
      obtain ⟨entries, hf, h⟩ := folder_above h
      rw [putAt_of_folder hf, ih h, put_eq_self hf]

/-- A file that is there can be rewritten before or after another one is added. -/
theorem putAt_comm {old new : List Text} {t : Tree} {content : Bytes}
    (hold : t.node? old = some (.file content)) (hnew : t.Writable new)
    (habsent : t.node? new = none) (x y : Entry) :
    (t.putAt old x).putAt new y = (t.putAt new y).putAt old x := by
  induction old generalizing t new with
  | nil => simp at hold
  | cons n ns ih =>
    obtain ⟨k, ks, rfl⟩ := List.exists_cons_of_ne_nil hnew.ne_nil
    cases ns with
    | nil =>
      have hn := file_of_node? hold
      cases ks with
      | nil =>
        have hk := find?_of_node?_none habsent
        exact put_comm (by rintro rfl; simp [hn] at hk) (by simp [hn]) x y
      | cons k' ks =>
        obtain ⟨entries, hk, -⟩ := hnew.of_folder
        have hne : n ≠ k := by rintro rfl; simp [hn] at hk
        rw [putAt_of_folder hk, putAt_singleton, putAt_singleton,
          putAt_of_folder (by rw [find?_put, if_neg hne.symm, hk]), put_comm hne (by simp [hn])]
    | cons n' ns =>
      obtain ⟨folder, hn, hold⟩ := folder_above hold
      rw [putAt_of_folder hn]
      cases ks with
      | nil =>
        have hk := find?_of_node?_none habsent
        have hne : n ≠ k := by rintro rfl; simp [hn] at hk
        rw [putAt_singleton, putAt_singleton, put_comm hne (by simp [hn]),
          putAt_of_folder (by rw [find?_put, if_neg hne, hn])]
      | cons k' ks =>
        obtain ⟨entries, hk, hw⟩ := hnew.of_folder
        by_cases hne : n = k
        · -- both paths go on in the same folder
          subst hne
          obtain rfl : folder = entries := by simpa [hn] using hk
          rw [putAt_of_folder (find?_put_self ..), put_put, putAt_of_folder hn,
            putAt_of_folder (find?_put_self ..), put_put,
            ih hold hw (node?_of_folder hn _ ▸ habsent)]
        · rw [putAt_of_folder (by rw [find?_put, if_neg (Ne.symm hne), hk]), putAt_of_folder hk,
            putAt_of_folder (by rw [find?_put, if_neg hne, hn]), put_comm hne (by simp [hn])]

/-! ## Away from a path -/

/-- A change to the folder at the end of a path is seen through that folder only. -/
theorem node?_modifyAt {f : Tree → Tree} {above path : List Text}
    (h : ∀ rest, path = above ++ rest → ∀ t, (f t).node? rest = t.node? rest) (t : Tree) :
    (t.modifyAt f above).node? path = t.node? path := by
  induction above generalizing path t with
  | nil => exact h path rfl t
  | cons name names ih =>
    unfold modifyAt
    split
    · rename_i entries hf
      cases path with
      | nil => rfl
      | cons k ks =>
        by_cases hk : k = name
        · subst hk
          rw [node?_of_folder (find?_put_self ..), node?_of_folder hf]
          exact ih (fun rest hrest => h rest (by rw [hrest, List.cons_append])) entries
        · exact node?_put_of_ne hk _ t ks
    · rfl

/-- A change to one entry of a folder is seen through that entry only. -/
theorem node?_modifyAt_of_not_below {f : Tree → Tree} {above path : List Text} {last : Text}
    (hf : ∀ n, n ≠ last → ∀ t, (f t).find? n = t.find? n) (h : ¬ above ++ [last] <+: path)
    (t : Tree) : (t.modifyAt f above).node? path = t.node? path := by
  refine node?_modifyAt (fun rest hrest t => ?_) t
  cases rest with
  | nil => rfl
  | cons n rest =>
    refine node?_congr (hf n ?_ t) rest
    rintro rfl
    exact h ⟨rest, by rw [hrest, List.append_assoc, List.singleton_append]⟩

theorem node?_putAt_of_not_below {target path : List Text} (h : ¬ target <+: path)
    (entry : Entry) (t : Tree) : (t.putAt target entry).node? path = t.node? path := by
  rcases List.eq_nil_or_concat target with rfl | ⟨above, last, rfl⟩
  · rfl
  · simp only [putAt, List.concat_eq_append, List.getLast?_concat, List.dropLast_concat] at h ⊢
    exact node?_modifyAt_of_not_below (fun n hn t => by simp [find?_put, hn]) h t

theorem node?_eraseAt_of_not_below {target path : List Text} (h : ¬ target <+: path) (t : Tree) :
    (t.eraseAt target).node? path = t.node? path := by
  rcases List.eq_nil_or_concat target with rfl | ⟨above, last, rfl⟩
  · rfl
  · simp only [eraseAt, List.concat_eq_append, List.getLast?_concat, List.dropLast_concat] at h ⊢
    exact node?_modifyAt_of_not_below (fun n hn t => find?_erase_of_ne hn t) h t

/-- All that stands above an entry are folders. -/
theorem folder_of_append {t : Tree} {above below : List Text} {node : Node} (hbelow : below ≠ [])
    (h : t.node? (above ++ below) = some node) : t.node? above = some .folder := by
  induction above generalizing t with
  | nil => rfl
  | cons name names ih =>
    obtain ⟨next, rest, hrest⟩ :=
      List.exists_cons_of_ne_nil (l := names ++ below) (by simp [hbelow])
    rw [List.cons_append, hrest] at h
    obtain ⟨entries, hf, h⟩ := folder_above h
    rw [node?_of_folder hf]
    exact ih (hrest ▸ h)

theorem folder_dropLast {t : Tree} {path : List Text} (h : t.node? path = some .folder) :
    t.node? path.dropLast = some .folder := by
  rcases List.eq_nil_or_concat path with rfl | ⟨above, last, rfl⟩
  · rfl
  · rw [List.concat_eq_append] at h ⊢
    rw [List.dropLast_concat]
    exact folder_of_append (by simp) h

/-- Erasing a file takes no folder away. -/
theorem folder_eraseAt {t : Tree} {target path : List Text} {content : Bytes}
    (htarget : t.node? target = some (.file content)) (h : t.node? path = some .folder) :
    (t.eraseAt target).node? path = some .folder := by
  rw [node?_eraseAt_of_not_below, h]
  rintro ⟨below, rfl⟩
  by_cases hbelow : below = []
  · simp [hbelow, htarget] at h
  · simp [folder_of_append hbelow h] at htarget

/-! ## Inside a folder -/

theorem get?_of_folder {name : Text} {t entries : Tree} (h : t.find? name = some (.folder entries))
    (names : List Text) : t.get? (name :: names) = entries.get? names := by
  simp [get?, h]

theorem find?_of_get?_folder {name : Text} {names : List Text} {t entries : Tree}
    (h : t.get? (name :: names) = some (.folder entries)) :
    ∃ folder, t.find? name = some (.folder folder) ∧
      folder.get? names = some (.folder entries) := by
  rcases hf : t.find? name with _ | ⟨content | folder⟩
  · simp [get?, hf] at h
  · cases names <;> simp [get?, hf] at h
  · exact ⟨folder, rfl, get?_of_folder hf names ▸ h⟩

section Inside

variable {t entries : Tree} {above : List Text} (h : t.get? above = some (.folder entries))
include h

theorem get?_append (below : List Text) : t.get? (above ++ below) = entries.get? below := by
  induction above generalizing t with
  | nil =>
    obtain rfl : t = entries := by simpa [get?] using h
    rfl
  | cons name names ih =>
    obtain ⟨folder, hf, h⟩ := find?_of_get?_folder h
    rw [List.cons_append, get?_of_folder hf, ih h]

/-- A change inside a folder is the same change to its entries. -/
theorem get?_modifyAt (f : Tree → Tree) (below : List Text) :
    (t.modifyAt f (above ++ below)).get? above = some (.folder (entries.modifyAt f below)) := by
  induction above generalizing t with
  | nil =>
    obtain rfl : t = entries := by simpa [get?] using h
    rfl
  | cons name names ih =>
    obtain ⟨folder, hf, h⟩ := find?_of_get?_folder h
    simp only [List.cons_append, modifyAt, hf]
    rw [get?_of_folder (find?_put_self ..), ih h]

theorem get?_putAt (below : List Text) (last : Text) (entry : Entry) :
    (t.putAt (above ++ below ++ [last]) entry).get? above =
      some (.folder (entries.putAt (below ++ [last]) entry)) := by
  simp only [putAt, List.getLast?_concat, List.dropLast_concat]
  exact get?_modifyAt h _ below

theorem get?_eraseAt (below : List Text) (last : Text) :
    (t.eraseAt (above ++ below ++ [last])).get? above =
      some (.folder (entries.eraseAt (below ++ [last]))) := by
  simp only [eraseAt, List.getLast?_concat, List.dropLast_concat]
  exact get?_modifyAt h _ below

end Inside

/-! ## Leaves -/

theorem leaves_folder_subset (above : List Text) (name : Text) (entries rest : Tree) :
    leaves (above ++ [name]) entries ++ leaves above rest ⊆
      leaves above (.folder name entries rest) := by
  cases entries <;> simp [leaves]

/-- A file at the end of a path is among the leaves. -/
theorem mem_leaves_of_file {t : Tree} {names : List Text} {content : Bytes}
    (h : t.node? names = some (.file content)) (above : List Text) :
    (above ++ names, .file content) ∈ t.leaves above := by
  induction t generalizing names above with
  | empty =>
    cases names with
    | nil => simp at h
    | cons m ms => simp [node?_of_none (show find? m .empty = none from rfl)] at h
  | file n c rest ih =>
    cases names with
    | nil => simp at h
    | cons m ms =>
      by_cases hn : n = m
      · have hfind : find? m (.file n c rest) = some (.file c) := by simp [find?, hn]
        rw [node?_of_file hfind] at h
        split_ifs at h with hms
        obtain ⟨rfl, rfl⟩ : ms = [] ∧ c = content := ⟨hms, by simpa using h⟩
        simp [leaves, hn]
      · have hfind : find? m (.file n c rest) = find? m rest := by simp [find?, hn]
        rw [node?_congr hfind] at h
        exact List.mem_cons_of_mem _ (ih h above)
  | folder n entries rest ihe ih =>
    cases names with
    | nil => simp at h
    | cons m ms =>
      apply leaves_folder_subset
      rw [List.mem_append]
      by_cases hn : n = m
      · have hfind : find? m (.folder n entries rest) = some (.folder entries) := by
          simp [find?, hn]
        rw [node?_of_folder hfind] at h
        exact .inl (by simpa [hn] using ihe h (above ++ [n]))
      · have hfind : find? m (.folder n entries rest) = find? m rest := by simp [find?, hn]
        rw [node?_congr hfind] at h
        exact .inr (ih h above)

end Tree

end Remedy
