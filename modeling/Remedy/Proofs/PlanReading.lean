import Mathlib.Data.List.Forall2
import Mathlib.Tactic.Common
import Remedy.Plan.Check

/-!
# What an accepted plan keeps to

A document is read without an issue exactly when each of its parts is (`Checked.Passes` and the
rules for it), so every rule of the reader holds of what it returns. Here that is used for the
paths: no file of an accepted plan is named with a step upwards (`Plan.Accepted.staysInside`).
-/

namespace Remedy

namespace Checked

variable {α β : Type} {a : α} {b : β}

/-- A value was read and nothing is wrong with it. -/
def Passes (c : Checked α) (a : α) : Prop := c.value? = some a ∧ c.issues = []

theorem result_eq_ok_iff {c : Checked α} : c.result = .ok a ↔ c.Passes a := by
  rcases c with ⟨_ | b, _ | ⟨issue, issues⟩⟩ <;> simp [result, Passes]

theorem not_passes_refuse {cause : Cause} : ¬ (refuse cause : Checked α).Passes a := by
  simp [refuse, Passes]

theorem passes_accept {value : α} : (accept value).Passes a ↔ value = a := by
  simp [accept, Passes]

theorem passes_seq {f : Checked (α → β)} {x : Checked α} :
    (f <*> x).Passes b ↔ ∃ g a, f.Passes g ∧ x.Passes a ∧ g a = b := by
  rcases f with ⟨_ | g, fs⟩ <;> rcases x with ⟨_ | a, xs⟩ <;>
    simp [Passes, Seq.seq, and_assoc, and_comm]

theorem passes_map {f : α → β} {x : Checked α} :
    (f <$> x).Passes b ↔ ∃ a, x.Passes a ∧ f a = b := by
  rcases x with ⟨_ | a, xs⟩ <;> simp [Passes, Functor.map, accept, and_comm]

theorem passes_under {step : PathStep} {c : Checked α} : (c.under step).Passes a ↔ c.Passes a := by
  simp [Passes, under]

theorem passes_guard {rule : α → Bool} {cause : Cause} {c : Checked α} :
    (c.guard rule cause).Passes a ↔ c.Passes a ∧ rule a = true := by
  rcases c with ⟨_ | b, issues⟩
  · simp [Passes, guard]
  · by_cases h : rule b = true
    · simp only [guard, h, if_true, Passes, Option.some.injEq]
      exact ⟨fun hb => ⟨hb, hb.1 ▸ h⟩, And.left⟩
    · simp only [guard, if_neg h, Passes, Option.some.injEq, List.append_eq_nil_iff]
      exact ⟨fun hb => absurd hb.2.2 (by simp), fun hb => absurd (hb.1.1 ▸ hb.2) h⟩

theorem passes_survey {find : α → List Issue} {c : Checked α} :
    (c.survey find).Passes a ↔ c.Passes a ∧ find a = [] := by
  rcases c with ⟨_ | b, issues⟩
  · simp [Passes, survey]
  · simp only [survey, Passes, Option.some.injEq, List.append_eq_nil_iff]
    exact ⟨fun ⟨hb, hissues, hfind⟩ => ⟨⟨hb, hissues⟩, hb ▸ hfind⟩,
      fun ⟨⟨hb, hissues⟩, hfind⟩ => ⟨hb, hissues, hb ▸ hfind⟩⟩

/-- One of two shapes that passes is one that passes on its own. -/
theorem passes_of_orElse {c d : Checked α} (h : (c.orElse d).Passes a) :
    c.Passes a ∨ d.Passes a := by
  unfold orElse at h
  split_ifs at h
  · exact .inl h
  · exact .inr h
  · exact .inl h
  · exact .inr h
  · exact (not_passes_refuse h).elim

end Checked

namespace Reading

open Checked

variable {α : Type} {a : α}

theorem passes_required {read : Data → Checked α} {d : Option Data} :
    (required read d).Passes a ↔ ∃ data, d = some data ∧ (read data).Passes a := by
  cases d <;> simp [required, not_passes_refuse]

theorem passes_optional {read : Data → Checked α} {d : Option Data} {value : Option α} :
    (optional read d).Passes value ↔
      d = none ∧ value = none ∨
        ∃ data a, d = some data ∧ (read data).Passes a ∧ value = some a := by
  cases d <;> simp [optional, passes_accept, Checked.passes_map, eq_comm]

theorem passes_withDefault {read : Data → Checked α} {value : α} {d : Option Data} :
    (withDefault value read d).Passes a ↔
      d = none ∧ a = value ∨ ∃ data, d = some data ∧ (read data).Passes a := by
  cases d <;> simp [withDefault, accept, Passes, eq_comm]

theorem passes_member {key : Text} {read : Reading α} {d : Data} :
    (member key read d).Passes a ↔ (read (d.member? key)).Passes a := passes_under

theorem passes_items {read : Data → Checked α} {i : Nat} {ds : List Data} {as : List α} :
    (items read i ds).Passes as ↔ List.Forall₂ (fun d a => (read d).Passes a) ds as := by
  induction ds generalizing i as with
  | nil => simp [items, passes_accept, eq_comm]
  | cons d ds ih =>
    simp only [items, passes_seq, passes_map, passes_under, ih, List.forall₂_cons_left_iff]
    constructor
    · rintro ⟨_, rest, ⟨a, ha, rfl⟩, hrest, rfl⟩
      exact ⟨a, rest, ha, hrest, rfl⟩
    · rintro ⟨a, rest, ha, hrest, rfl⟩
      exact ⟨_, rest, ⟨a, ha, rfl⟩, hrest, rfl⟩

theorem passes_list {read : Data → Checked α} {d : Data} {as : List α} :
    (list read d).Passes as ↔
      ∃ ds, d = .list ds ∧ List.Forall₂ (fun d a => (read d).Passes a) ds as := by
  cases d <;> simp [list, not_passes_refuse, passes_items]

theorem passes_map {read : Data → Checked α} {d : Data} (h : (map read d).Passes a) :
    (read d).Passes a := by
  cases d <;> simp_all [map, not_passes_refuse]

/-- Every item of a list that was read, or of its default, has a property that reading
establishes. -/
theorem forall_of_passes_list {read : Data → Checked α} {p : α → Prop} {d : Option Data}
    {as : List α} (hread : ∀ d a, (read d).Passes a → p a)
    (h : (withDefault [] (list read) d).Passes as) : ∀ a ∈ as, p a := by
  obtain ⟨-, rfl⟩ | ⟨data, -, hlist⟩ := passes_withDefault.1 h
  · simp
  · obtain ⟨ds, -, hds⟩ := passes_list.1 hlist
    clear h hlist
    induction hds with
    | nil => simp
    | cons hd _ ih => exact List.forall_mem_cons.2 ⟨hread _ _ hd, ih⟩

end Reading

open Checked Reading

theorem relativePath_passes {d : Data} {path : Text} (h : (relativePath d).Passes path) :
    staysInside path = true := (passes_guard.1 h).2

theorem PatchSpec.read_passes {d : Data} {spec : PatchSpec} (h : (PatchSpec.read d).Passes spec) :
    staysInside spec.targetFile = true := by
  have h := Reading.passes_map h
  simp only [passes_seq, Checked.passes_map, passes_member, passes_required] at h
  obtain ⟨_, _, ⟨_, _, ⟨_, _, ⟨_, file, ⟨_, -, rfl⟩, ⟨_, -, hfile⟩, rfl⟩, -, rfl⟩, -, rfl⟩,
    -, rfl⟩ := h
  exact relativePath_passes hfile

theorem Probe.read_passes {d : Data} {probe : Probe} (h : (Probe.read d).Passes probe) :
    staysInside probe.file = true := by
  have h := (passes_guard.1 (Reading.passes_map h)).1
  simp only [passes_seq, Checked.passes_map, passes_member, passes_required] at h
  obtain ⟨_, _, ⟨_, _, ⟨_, _, ⟨file, ⟨_, -, hfile⟩, rfl⟩, -, rfl⟩, -, rfl⟩, -, rfl⟩ := h
  exact relativePath_passes hfile

namespace Plan

/-- Every file that a plan names stays inside the directory it starts from. -/
structure StaysInside (plan : Plan) : Prop where
  patches : ∀ spec ∈ plan.patches, staysInside spec.targetFile = true
  probes : ∀ probe ∈ plan.probes, staysInside probe.file = true

/-- The parts of a plan are read from the members of its document, or are the defaults, and no two
patches have the same id. -/
structure ReadFrom (data : Data) (plan : Plan) : Prop where
  version : (required (textWith isVersion .versionMalformed) (data.member? "version")).Passes
    plan.version
  name : (required readName (data.member? "name")).Passes plan.name
  scan : (withDefault .default ScanSettings.read (data.member? "scan")).Passes plan.scan
  patches : (withDefault [] (list PatchSpec.read) (data.member? "patches")).Passes plan.patches
  probes : (withDefault [] (list Probe.read) (data.member? "probes")).Passes plan.probes
  ids : repeatedIds [] 0 plan.patches = []

theorem exists_readFrom {d : Option Data} {plan : Plan} (h : ofData d = .ok plan) :
    ∃ data, d = some data ∧ plan.ReadFrom data := by
  obtain ⟨data, hd, h⟩ := passes_required.1 (result_eq_ok_iff.1 h)
  obtain ⟨h, hids⟩ := passes_survey.1 (Reading.passes_map h)
  simp only [passes_seq, Checked.passes_map, passes_member] at h
  obtain ⟨_, probes, ⟨_, patches, ⟨_, scan, ⟨_, base, ⟨_, description, ⟨_, name,
    ⟨version, hversion, rfl⟩, hname, rfl⟩, -, rfl⟩, -, rfl⟩, hscan, rfl⟩, hpatches, rfl⟩,
    hprobes, rfl⟩ := h
  exact ⟨data, hd, hversion, hname, hscan, hpatches, hprobes, hids⟩

theorem staysInside_of_ofData {d : Option Data} {plan : Plan} (h : ofData d = .ok plan) :
    plan.StaysInside := by
  obtain ⟨data, -, hread⟩ := exists_readFrom h
  exact ⟨forall_of_passes_list (fun _ _ => PatchSpec.read_passes) hread.patches,
    forall_of_passes_list (fun _ _ => Probe.read_passes) hread.probes⟩

/-- A plan read from a document without an issue, or such plans laid over one another. -/
inductive Accepted : Plan → Prop where
  | read {d : Option Data} {plan : Plan} (h : ofData d = .ok plan) : Accepted plan
  | merge {base override : Plan} (hbase : Accepted base) (hoverride : Accepted override) :
      Accepted (base.merge override)

theorem StaysInside.merge {base override : Plan} (hbase : base.StaysInside)
    (hoverride : override.StaysInside) : (base.merge override).StaysInside := by
  constructor
  · intro spec hspec
    obtain hspec | hspec := List.mem_append.1 hspec
    · exact hbase.patches spec (List.mem_of_mem_filter hspec)
    · exact hoverride.patches spec hspec
  · intro probe hprobe
    obtain hprobe | hprobe := List.mem_append.1 hprobe
    · exact hbase.probes probe (List.mem_of_mem_filter hprobe)
    · exact hoverride.probes probe hprobe

theorem Accepted.staysInside {plan : Plan} (h : plan.Accepted) : plan.StaysInside := by
  induction h with
  | read h => exact staysInside_of_ofData h
  | merge _ _ hbase hoverride => exact hbase.merge hoverride

end Plan

end Remedy
