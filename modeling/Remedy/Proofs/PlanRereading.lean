import Remedy.Proofs.PlanReading

/-!
# Reading a plan again

What a reader takes from a document it takes again from what is written for the value
(`Reading.Rereads`). This is shown for the ways in which readers are put together, and then for each
part of a plan.
-/

namespace Remedy

namespace Checked

variable {α β : Type} {a : α}

theorem Passes.map {x : Checked α} (f : α → β) (h : x.Passes a) : (f <$> x).Passes (f a) :=
  passes_map.2 ⟨a, h, rfl⟩

theorem Passes.seq {f : Checked (α → β)} {x : Checked α} {g : α → β} (hf : f.Passes g)
    (hx : x.Passes a) : (f <*> x).Passes (g a) := passes_seq.2 ⟨g, a, hf, hx, rfl⟩

theorem Passes.orElse_left {c : Checked α} (h : c.Passes a) (d : Checked α) :
    (c.orElse d).Passes a := by
  rw [orElse, if_pos (by simp [h.1, h.2])]
  exact h

theorem Passes.orElse_right {c d : Checked α} (h : d.Passes a) (hc : c.value? = none) :
    (c.orElse d).Passes a := by
  rw [orElse, if_neg (by simp [hc]), if_pos (by simp [h.1, h.2])]
  exact h

end Checked

namespace Reading

open Checked

variable {α : Type}

/-- What is read without an issue is read again, without one, from what is written for it. -/
def Rereads (read : Data → Checked α) (write : α → Data) : Prop :=
  ∀ d a, (read d).Passes a → (read (write a)).Passes a

theorem passes_text {d : Data} {t : Text} : (text d).Passes t ↔ d = .text t := by
  cases d <;> simp [text, not_passes_refuse, passes_accept]

theorem passes_textWith {rule : Text → Bool} {cause : Cause} {d : Data} {t : Text} :
    (textWith rule cause d).Passes t ↔ d = .text t ∧ rule t = true := by
  rw [textWith, passes_guard, passes_text]

theorem passes_nonEmpty {cause : Cause} {d : Data} {t : Text} :
    (nonEmpty cause d).Passes t ↔ d = .text t ∧ t ≠ [] := by
  rw [nonEmpty, passes_textWith]
  simp

theorem rereads_text : Rereads text .text := fun _ _ _ => passes_text.2 rfl

theorem Rereads.guard {read : Data → Checked α} {write : α → Data} (h : Rereads read write)
    (rule : α → Bool) (cause : Cause) : Rereads (fun d => (read d).guard rule cause) write := by
  intro d a hpass
  obtain ⟨hread, hrule⟩ := passes_guard.1 hpass
  exact passes_guard.2 ⟨h d a hread, hrule⟩

theorem rereads_textWith (rule : Text → Bool) (cause : Cause) :
    Rereads (textWith rule cause) .text := rereads_text.guard rule cause

theorem rereads_nonEmpty (cause : Cause) : Rereads (nonEmpty cause) .text := rereads_textWith _ _

/-- A list is read again when each of its items is. -/
theorem passes_list_map {read : Data → Checked α} {write : α → Data} {as : List α}
    (h : ∀ a ∈ as, (read (write a)).Passes a) :
    (list read (.list (as.map write))).Passes as := by
  refine passes_list.2 ⟨_, rfl, ?_⟩
  rw [List.forall₂_map_left_iff, List.forall₂_same]
  exact h

theorem Rereads.list {read : Data → Checked α} {write : α → Data} (h : Rereads read write) :
    Rereads (list read) fun as => .list (as.map write) := by
  intro d as hpass
  exact passes_list_map (forall_of_passes_list (d := some d) h hpass)

theorem passes_listWith {rule : Nat → Bool} {cause : Cause} {read : Data → Checked α} {d : Data}
    {as : List α} : (listWith rule cause read d).Passes as ↔
      (Reading.list read d).Passes as ∧ rule as.length = true := by
  cases d with
  | list ds =>
    have hlength (h : (items read 0 ds).Passes as) : ds.length = as.length :=
      (passes_items.1 h).length_eq
    simp only [listWith, Reading.list]
    split_ifs with hrule
    · exact ⟨fun h => ⟨h, hlength h ▸ hrule⟩, And.left⟩
    · exact ⟨fun h => absurd h.2 (by simp), fun h => absurd (hlength h.1 ▸ h.2) hrule⟩
  | _ => simp [listWith, Reading.list, not_passes_refuse]

theorem Rereads.listWith {read : Data → Checked α} {write : α → Data} (h : Rereads read write)
    (rule : Nat → Bool) (cause : Cause) :
    Rereads (listWith rule cause read) fun as => .list (as.map write) := by
  intro d as hpass
  obtain ⟨hlist, hrule⟩ := passes_listWith.1 hpass
  exact passes_listWith.2 ⟨h.list d as hlist, hrule⟩

/-! ### Members -/

section Member

variable {read : Data → Checked α} {write : α → Data} {key : Text} {d d' : Data}

theorem passes_member_required {data : Data} {a : α} (hmember : d.member? key = some data)
    (hread : (read data).Passes a) : (member key (required read) d).Passes a :=
  passes_member.2 (passes_required.2 ⟨data, hmember, hread⟩)

theorem passes_member_optional {a : Option α} (hmember : d.member? key = a.map write)
    (hread : ∀ b ∈ a, (read (write b)).Passes b) : (member key (optional read) d).Passes a := by
  rw [passes_member, passes_optional, hmember]
  cases a with
  | none => exact .inl ⟨rfl, rfl⟩
  | some b => exact .inr ⟨_, b, rfl, hread b rfl, rfl⟩

theorem passes_member_withDefault {value a : α} {data : Data} (hmember : d.member? key = some data)
    (hread : (read data).Passes a) : (member key (withDefault value read) d).Passes a :=
  passes_member.2 (passes_withDefault.2 (.inr ⟨data, hmember, hread⟩))

theorem Rereads.required (h : Rereads read write) {a : α}
    (hpass : (member key (required read) d).Passes a) (hmember : d'.member? key = some (write a)) :
    (member key (Reading.required read) d').Passes a := by
  obtain ⟨data, -, hread⟩ := passes_required.1 (passes_member.1 hpass)
  exact passes_member_required hmember (h data a hread)

theorem Rereads.optional (h : Rereads read write) {a : Option α}
    (hpass : (member key (optional read) d).Passes a) (hmember : d'.member? key = a.map write) :
    (member key (Reading.optional read) d').Passes a := by
  refine passes_member_optional hmember fun b hb => ?_
  obtain ⟨-, rfl⟩ | ⟨data, c, -, hread, rfl⟩ := passes_optional.1 (passes_member.1 hpass)
  · exact absurd hb (Option.not_mem_none b)
  · obtain rfl := Option.some.inj hb
    exact h data c hread

theorem Rereads.withDefault (h : Rereads read write) {value a : α}
    (hvalue : (read (write value)).Passes value)
    (hpass : (member key (withDefault value read) d).Passes a)
    (hmember : d'.member? key = some (write a)) :
    (member key (Reading.withDefault value read) d').Passes a := by
  refine passes_member_withDefault hmember ?_
  obtain ⟨-, rfl⟩ | ⟨data, -, hread⟩ := passes_withDefault.1 (passes_member.1 hpass)
  · exact hvalue
  · exact h data a hread

theorem Rereads.listOrNone (h : Rereads read write) {as : List α}
    (hpass : (member key (Reading.withDefault [] (Reading.list read)) d).Passes as)
    (hmember : d'.member? key = some (.list (as.map write))) :
    (member key (Reading.withDefault [] (Reading.list read)) d').Passes as :=
  h.list.withDefault (passes_list_map (by simp)) hpass hmember

end Member

theorem passes_map_record {read : Data → Checked α} {members : List (Text × Option Data)} {a : α}
    (h : (read (.record members)).Passes a) : (map read (.record members)).Passes a := h

/-- A variant that passes is read by one of the given readers. -/
theorem exists_of_passes_variant {key : Text} {variants : List (Text × (Data → Checked α))}
    {d : Data} {a : α} (h : (variant key variants d).Passes a) :
    ∃ v ∈ variants, (v.2 d).Passes a := by
  have h := passes_map h
  dsimp only at h
  split at h
  next read hnamed =>
    split at hnamed
    · obtain ⟨v, hv, rfl⟩ := Option.map_eq_some_iff.1 hnamed
      exact ⟨v, List.mem_of_find?_eq_some hv, h⟩
    · simp at hnamed
  next => exact absurd (passes_under.1 h) not_passes_refuse

theorem passes_variant {key : Text} (name : Text) {variants : List (Text × (Data → Checked α))}
    {read : Data → Checked α} {members : List (Text × Option Data)} {a : α}
    (hname : (Data.record members).member? key = some (.text name))
    (hread : (variants.find? fun v => v.1 == name).map Prod.snd = some read)
    (h : (read (.record members)).Passes a) :
    (variant key variants (.record members)).Passes a := by
  refine passes_map_record ?_
  simp only [hname, hread]
  exact h

end Reading

open Checked Reading

theorem rereads_relativePath : Rereads relativePath .text :=
  (rereads_nonEmpty .pathMissing).guard staysInside .pathOutside

/-! ## Parts of a plan -/

theorem Marker.rereads : Rereads Marker.read Marker.toData := by
  intro d marker h
  obtain h | h := passes_of_orElse h
  · obtain ⟨t, ht, rfl⟩ := Checked.passes_map.1 h
    exact Passes.orElse_left ((rereads_nonEmpty _ d t ht).map _) _
  · have h : (Marker.readRegex d).Passes marker := h
    obtain ⟨h, hrule⟩ := passes_guard.1 (Reading.passes_map h)
    simp only [passes_seq, Checked.passes_map] at h
    obtain ⟨_, flags, ⟨source, hsource, rfl⟩, hflags, rfl⟩ := h
    -- a map is no literal marker
    refine Passes.orElse_right (passes_guard.2 ⟨?_, hrule⟩) rfl
    exact (((rereads_nonEmpty _).required hsource rfl).map _).seq
      ((rereads_textWith _ _).optional hflags (by cases flags <;> rfl))

theorem EndMarker.rereads : Rereads EndMarker.read EndMarker.toData := by
  intro d stop h
  obtain ⟨v, hv, h⟩ := exists_of_passes_variant h
  simp only [List.mem_cons, List.not_mem_nil, or_false] at hv
  obtain rfl | rfl := hv
  · obtain ⟨gate, hgate, rfl⟩ := Checked.passes_map.1 h
    refine passes_variant "column-zero-brace" (by cases gate <;> rfl) rfl ?_
    exact ((rereads_nonEmpty _).optional hgate (by cases gate <;> rfl)).map _
  · obtain rfl := passes_accept.1 h
    exact passes_variant "brace-depth" rfl rfl h

theorem Locator.rereads : Rereads Locator.read Locator.toData := by
  intro d locator h
  obtain ⟨v, hv, h⟩ := exists_of_passes_variant h
  simp only [List.mem_cons, List.not_mem_nil, or_false] at hv
  obtain rfl | rfl := hv
  · obtain ⟨anchor, hanchor, rfl⟩ := Checked.passes_map.1 h
    refine passes_variant "exact" rfl rfl ?_
    exact ((rereads_nonEmpty _).required hanchor rfl).map _
  · simp only [passes_seq, Checked.passes_map] at h
    obtain ⟨_, stop, ⟨signature, hsignature, rfl⟩, hstop, rfl⟩ := h
    have hdefault : (EndMarker.read (EndMarker.toData (.columnZeroBrace none))).Passes
        (.columnZeroBrace none) := ⟨rfl, rfl⟩
    refine passes_variant "signature" rfl rfl ?_
    exact (((rereads_nonEmpty _).required hsignature rfl).map _).seq
      (EndMarker.rereads.withDefault hdefault hstop rfl)

theorem PatchSpec.rereads : Rereads PatchSpec.read PatchSpec.toData := by
  intro d spec h
  have h := Reading.passes_map h
  simp only [passes_seq, Checked.passes_map] at h
  obtain ⟨_, replacement, ⟨_, locator, ⟨_, description, ⟨_, file, ⟨id, hid, rfl⟩, hfile, rfl⟩,
    hdescription, rfl⟩, hlocator, rfl⟩, hreplacement, rfl⟩ := h
  refine passes_map_record <| ((rereads_textWith _ _).required hid ?_).map _
    |>.seq (rereads_relativePath.required hfile ?_)
    |>.seq (rereads_text.optional hdescription ?_)
    |>.seq (Locator.rereads.required hlocator ?_)
    |>.seq (rereads_text.required hreplacement ?_)
  all_goals cases description <;> rfl

theorem Probe.rereads : Rereads Probe.read Probe.toData := by
  intro d probe h
  obtain ⟨h, hrule⟩ := passes_guard.1 (Reading.passes_map h)
  simp only [passes_seq, Checked.passes_map] at h
  obtain ⟨_, allowList, ⟨_, absent, ⟨_, present, ⟨file, hfile, rfl⟩, hpresent, rfl⟩, habsent, rfl⟩,
    hallowList, rfl⟩ := h
  refine passes_map_record (passes_guard.2 ⟨?_, hrule⟩)
  exact (rereads_relativePath.required hfile rfl).map _
    |>.seq (Marker.rereads.listOrNone hpresent rfl)
    |>.seq (Marker.rereads.listOrNone habsent rfl)
    |>.seq ((rereads_nonEmpty _).listOrNone hallowList rfl)

theorem ScanException.rereads : Rereads ScanException.read ScanException.toData := by
  intro d e h
  have h := Reading.passes_map h
  simp only [passes_seq, Checked.passes_map] at h
  obtain ⟨_, reason, ⟨_, ignore, ⟨pattern, hpattern, rfl⟩, hignore, rfl⟩, hreason, rfl⟩ := h
  refine passes_map_record <| ((rereads_nonEmpty _).required hpattern ?_).map _
    |>.seq ((rereads_text.listWith _ _).required hignore ?_)
    |>.seq (rereads_text.optional hreason ?_)
  all_goals cases reason <;> rfl

end Remedy
