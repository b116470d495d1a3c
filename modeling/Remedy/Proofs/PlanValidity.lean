import Remedy.Proofs.PlanGrouping
import Remedy.Proofs.PlanRereading

/-!
# Plans that stay valid

A plan is read back from what is written for it exactly when it keeps the rules of its reader, part
by part (`Plan.Valid`). Plans laid over one another keep them (`Valid.merge`): the parts are those
of the plans they come from, and a patch hides those of its base with the same id. So a loader,
which checks each file but never the plan that several of them come to, returns valid plans only
(`accepted_plans_stay_valid`).
-/

namespace Remedy

open Checked Reading

/-! ## Scan settings -/

/-- The rules for scan settings. -/
structure ScanSettings.Valid (settings : ScanSettings) : Prop where
  allowList : ∀ entry ∈ settings.allowList, entry ≠ []
  exceptions : ∀ e ∈ settings.exceptions, (ScanException.read e.toData).Passes e

namespace ScanSettings

theorem valid_default : ScanSettings.default.Valid :=
  ⟨fun _ h => absurd h List.not_mem_nil, fun _ h => absurd h List.not_mem_nil⟩

theorem valid_of_read {d : Data} {settings : ScanSettings} (h : (read d).Passes settings) :
    settings.Valid := by
  have h := Reading.passes_map h
  simp only [passes_seq, Checked.passes_map, passes_member] at h
  obtain ⟨_, exceptions, ⟨_, allowList, ⟨_, excluded, ⟨included, -, rfl⟩, -, rfl⟩, hallowList, rfl⟩,
    hexceptions, rfl⟩ := h
  exact ⟨forall_of_passes_list (fun _ _ h => (passes_nonEmpty.1 h).2) hallowList,
    forall_of_passes_list ScanException.rereads hexceptions⟩

theorem Valid.read_toData {settings : ScanSettings} (h : settings.Valid) :
    (read settings.toData).Passes settings := by
  have htexts (ts : List Text) : (list text (.texts ts)).Passes ts :=
    passes_list_map fun _ _ => passes_text.2 rfl
  have hallowList : (list (nonEmpty .emptyText) (.texts settings.allowList)).Passes
      settings.allowList :=
    passes_list_map fun t ht => passes_nonEmpty.2 ⟨rfl, h.allowList t ht⟩
  exact passes_map_record <| (passes_member_withDefault rfl (htexts settings.included)).map _
    |>.seq (passes_member_withDefault rfl (htexts settings.excluded))
    |>.seq (passes_member_withDefault rfl hallowList)
    |>.seq (passes_member_withDefault rfl (passes_list_map h.exceptions))

theorem Valid.merge {base override : ScanSettings} (hbase : base.Valid)
    (hoverride : override.Valid) : (Plan.mergeScan base override).Valid where
  allowList := by
    intro entry hentry
    obtain hentry | hentry := List.mem_append.1 (mem_distinct.1 hentry)
    · exact hbase.allowList entry hentry
    · exact hoverride.allowList entry hentry
  exceptions := List.forall_mem_append.2 ⟨hbase.exceptions, hoverride.exceptions⟩

end ScanSettings

/-! ## Ids -/

namespace Plan

theorem repeatedIds_eq_nil_iff {seen : List Text} {i : Nat} {patches : List PatchSpec} :
    repeatedIds seen i patches = [] ↔
      (patches.map PatchSpec.id).Nodup ∧ ∀ p ∈ patches, p.id ∉ seen := by
  induction patches generalizing seen i with
  | nil => simp [repeatedIds]
  | cons p patches ih =>
    have hlater : (∀ q ∈ patches, q.id ∉ p.id :: seen) ↔
        p.id ∉ patches.map PatchSpec.id ∧ ∀ q ∈ patches, q.id ∉ seen := by
      simp only [List.mem_cons, not_or, List.mem_map, not_exists, not_and]
      exact forall₂_and
    simp only [repeatedIds, List.append_eq_nil_iff, ite_eq_right_iff, List.cons_ne_nil, imp_false,
      List.contains_iff_mem, ih, hlater, List.map_cons, List.nodup_cons, List.forall_mem_cons]
    tauto

end Plan

/-! ## Plans -/

/-- The rules for a plan. -/
structure Plan.Valid (plan : Plan) : Prop where
  version : isVersion plan.version = true
  name_ne_nil : plan.name ≠ []
  length_name_le : plan.name.length ≤ maxPlanName
  scan : plan.scan.Valid
  patches : ∀ p ∈ plan.patches, (PatchSpec.read p.toData).Passes p
  probes : ∀ p ∈ plan.probes, (Probe.read p.toData).Passes p
  ids : (plan.patches.map PatchSpec.id).Nodup

namespace Plan

theorem passes_readName {d : Data} {t : Text} :
    (readName d).Passes t ↔ (d = .text t ∧ t ≠ []) ∧ t.length ≤ maxPlanName := by
  rw [readName, passes_guard, passes_nonEmpty, decide_eq_true_iff]

theorem valid_of_ofData {d : Option Data} {plan : Plan} (h : ofData d = .ok plan) :
    plan.Valid := by
  obtain ⟨data, -, hread⟩ := exists_readFrom h
  obtain ⟨_, -, hversion⟩ := passes_required.1 hread.version
  obtain ⟨_, -, hname⟩ := passes_required.1 hread.name
  obtain ⟨⟨-, hne⟩, hlength⟩ := passes_readName.1 hname
  have hscan : plan.scan.Valid := by
    obtain ⟨-, hdefault⟩ | ⟨_, -, hscan⟩ := passes_withDefault.1 hread.scan
    · exact hdefault ▸ ScanSettings.valid_default
    · exact ScanSettings.valid_of_read hscan
  exact {
    version := (passes_textWith.1 hversion).2
    name_ne_nil := hne
    length_name_le := hlength
    scan := hscan
    patches := forall_of_passes_list PatchSpec.rereads hread.patches
    probes := forall_of_passes_list Probe.rereads hread.probes
    ids := (repeatedIds_eq_nil_iff.1 hread.ids).1 }

theorem Valid.ofData_toData {plan : Plan} (h : plan.Valid) :
    ofData (some plan.toData) = .ok plan := by
  have hversion : (textWith isVersion .versionMalformed (.text plan.version)).Passes plan.version :=
    passes_textWith.2 ⟨rfl, h.version⟩
  have hname : (readName (.text plan.name)).Passes plan.name :=
    passes_readName.2 ⟨⟨rfl, h.name_ne_nil⟩, h.length_name_le⟩
  have htext (t : Option Text) : ∀ s ∈ t, (text (.text s)).Passes s := fun _ _ => passes_text.2 rfl
  refine result_eq_ok_iff.2 (passes_required.2 ⟨_, rfl, ?_⟩)
  refine passes_map_record (passes_survey.2 ⟨?_, repeatedIds_eq_nil_iff.2 ⟨h.ids, by simp⟩⟩)
  refine (passes_member_required ?_ hversion).map _
    |>.seq (passes_member_required ?_ hname)
    |>.seq (passes_member_optional ?_ (htext plan.description))
    |>.seq (passes_member_optional ?_ (htext plan.base))
    |>.seq (passes_member_withDefault ?_ h.scan.read_toData)
    |>.seq (passes_member_withDefault ?_ (passes_list_map h.patches))
    |>.seq (passes_member_withDefault ?_ (passes_list_map h.probes))
  -- which members a document has depends on the texts that a plan may leave out
  all_goals
    rcases plan with ⟨version, name, _ | description, _ | base, scan, patches, probes⟩ <;> rfl

/-- A plan is read back from what is written for it exactly when it keeps the rules. -/
theorem ofData_toData_iff {plan : Plan} : ofData (some plan.toData) = .ok plan ↔ plan.Valid :=
  ⟨valid_of_ofData, Valid.ofData_toData⟩

end Plan

/-! ## Plans laid over one another -/

section Overlaid

variable {α : Type} {key : α → Text} {base override : List α}

theorem forall_mem_overlaid {p : α → Prop} (hbase : ∀ a ∈ base, p a)
    (hoverride : ∀ a ∈ override, p a) : ∀ a ∈ overlaid key base override, p a :=
  List.forall_mem_append.2 ⟨fun a ha => hbase a (List.mem_of_mem_filter ha), hoverride⟩

/-- An entry of the base that has the key of an overriding one is gone, so no key comes twice. -/
theorem nodup_keys_overlaid (hbase : (base.map key).Nodup) (hoverride : (override.map key).Nodup) :
    ((overlaid key base override).map key).Nodup := by
  rw [overlaid, List.map_append, List.nodup_append']
  refine ⟨hbase.sublist (List.filter_sublist.map key), hoverride, ?_⟩
  intro k hk hk'
  obtain ⟨p, hp, rfl⟩ := List.mem_map.1 hk
  obtain ⟨q, hq, hkey⟩ := List.mem_map.1 hk'
  have hkept := (List.mem_filter.1 hp).2
  simp only [Bool.not_eq_true', List.any_eq_false, beq_iff_eq] at hkept
  exact hkept q hq hkey

end Overlaid

namespace Plan

theorem Valid.merge {base override : Plan} (hbase : base.Valid) (hoverride : override.Valid) :
    (base.merge override).Valid where
  version := hoverride.version
  name_ne_nil := hoverride.name_ne_nil
  length_name_le := hoverride.length_name_le
  scan := hbase.scan.merge hoverride.scan
  patches := forall_mem_overlaid hbase.patches hoverride.patches
  probes := forall_mem_overlaid hbase.probes hoverride.probes
  ids := nodup_keys_overlaid hbase.ids hoverride.ids

theorem Accepted.valid {plan : Plan} (h : plan.Accepted) : plan.Valid := by
  induction h with
  | read h => exact valid_of_ofData h
  | merge _ _ hbase hoverride => exact hbase.merge hoverride

theorem accepted_of_parse {source content : Text} {plan : Plan}
    (h : parse source content = .ok plan) : plan.Accepted := by
  unfold parse at h
  split at h
  · contradiction
  · split at h
    · rename_i hread
      obtain rfl := Except.ok.inj h
      exact .read hread
    · contradiction

end Plan

theorem Disk.accepted_of_readPlan {disk : Disk} {path : Text} {plan : Plan}
    (h : disk.readPlan path = .ok plan) : plan.Accepted := by
  unfold readPlan at h
  split at h
  · exact Plan.accepted_of_parse h
  · contradiction

/-! ## Loaders -/

namespace Loader

/-- The loaders that come from a new one by any calls, while the files may change. -/
inductive Reachable : Loader → Prop where
  | fresh (directory : Text) (follows : Bool) : Reachable (fresh directory follows)
  | load {loader : Loader} (h : Reachable loader) (disk : Disk) (path : Text) :
      Reachable (load disk loader path).1
  | loadStarter {loader : Loader} (h : Reachable loader) (program : Text) :
      Reachable (loadStarter loader program).1
  | clear {loader : Loader} (h : Reachable loader) : Reachable loader.clear

/-- Every plan that is kept was accepted, or comes from accepted ones. -/
def KeepsAccepted (loader : Loader) : Prop :=
  ∀ path plan, loader.cached? path = some plan → plan.Accepted

/-- A call leaves only such plans in the cache and returns no other. -/
structure ReturnsAccepted (result : Loader × Except LoadFailure Plan) : Prop where
  keeps : result.1.KeepsAccepted
  accepted : ∀ plan, result.2 = .ok plan → plan.Accepted

variable {loader : Loader}

theorem keepsAccepted_fresh (directory : Text) (follows : Bool) :
    (fresh directory follows).KeepsAccepted := by
  simp [KeepsAccepted, fresh, cached?]

theorem KeepsAccepted.keep (h : loader.KeepsAccepted) {path : Text} {plan : Plan}
    (hplan : plan.Accepted) : (loader.keep path plan).KeepsAccepted := by
  intro other found hfound
  rw [cached?_keep] at hfound
  split_ifs at hfound
  · obtain rfl := Option.some.inj hfound
    exact hplan
  · exact h other found hfound

theorem KeepsAccepted.returns_ok (h : loader.KeepsAccepted) {plan : Plan} (hplan : plan.Accepted) :
    ReturnsAccepted (loader, .ok plan) := ⟨h, fun _ hok => Except.ok.inj hok ▸ hplan⟩

theorem KeepsAccepted.returns_error (h : loader.KeepsAccepted) (failure : LoadFailure) :
    ReturnsAccepted (loader, .error failure) := ⟨h, fun _ hok => by contradiction⟩

theorem loadFrom_returnsAccepted {disk : Disk} {chain : List Text} {path : Text} {fuel : Nat}
    (h : loader.KeepsAccepted) : ReturnsAccepted (loadFrom disk chain loader path fuel) := by
  induction fuel generalizing chain path with
  | zero => exact h.returns_error _
  | succ fuel ih =>
    unfold loadFrom
    split
    · rename_i plan hcached
      exact h.returns_ok (h path plan hcached)
    · split
      · exact h.returns_error _
      · split
        · exact h.returns_error _
        · rename_i plan hread
          have hplan := Disk.accepted_of_readPlan hread
          split
          · exact (h.keep hplan).returns_ok hplan
          · rename_i base hbase
            have hrest : ReturnsAccepted (loadFrom disk (chain ++ [path]) loader base fuel) := ih
            split
            · rename_i hload
              rw [hload] at hrest
              exact hrest.keeps.returns_error _
            · rename_i after basePlan hload
              rw [hload] at hrest
              have hmerged := (hrest.accepted basePlan rfl).merge hplan
              exact (hrest.keeps.keep hmerged).returns_ok hmerged

theorem load_returnsAccepted (h : loader.KeepsAccepted) (disk : Disk) (path : Text) :
    ReturnsAccepted (load disk loader path) := loadFrom_returnsAccepted h

theorem loadStarter_returnsAccepted (h : loader.KeepsAccepted) (program : Text) :
    ReturnsAccepted (loadStarter loader program) := by
  rw [loadStarter]
  -- the text of the starter plan does not matter
  generalize hparse : Plan.parse (Path.join program Starter.file) Starter.text = parsed
  cases hcached : loader.cached? (Path.join program Starter.file) with
  | some plan => exact h.returns_ok (h _ plan hcached)
  | none =>
    cases parsed with
    | ok plan =>
      have hplan := Plan.accepted_of_parse hparse
      exact (h.keep hplan).returns_ok hplan
    | error failure => exact h.returns_error failure

theorem Reachable.keepsAccepted (h : loader.Reachable) : loader.KeepsAccepted := by
  induction h with
  | fresh directory follows => exact keepsAccepted_fresh directory follows
  | load _ disk path ih => exact (load_returnsAccepted ih disk path).keeps
  | loadStarter _ program ih => exact (loadStarter_returnsAccepted ih program).keeps
  | clear => exact keepsAccepted_fresh _ _

end Loader

/-- Reading what is written for an accepted plan gives this plan again, and so it is for two
accepted plans of which one is laid over the other. Therefore every plan that is loaded, after any
calls and along a chain of any length, is one that would be accepted itself, with all its patch ids
different. -/
theorem accepted_plans_stay_valid :
    (∀ (d : Option Data) (plan : Plan),
      Plan.ofData d = .ok plan → Plan.ofData (some plan.toData) = .ok plan) ∧
    (∀ (d d' : Option Data) (base override : Plan),
      Plan.ofData d = .ok base → Plan.ofData d' = .ok override →
        Plan.ofData (some (base.merge override).toData) = .ok (base.merge override)) ∧
    ∀ (loader : Loader), loader.Reachable → ∀ (disk : Disk) (path : Text) (plan : Plan),
      (Loader.load disk loader path).2 = .ok plan →
        Plan.ofData (some plan.toData) = .ok plan ∧ (plan.patches.map PatchSpec.id).Nodup := by
  refine ⟨fun d plan h => ?_, fun d d' base override hbase hoverride => ?_,
    fun loader hloader disk path plan hload => ?_⟩
  · exact Plan.ofData_toData_iff.2 (Plan.valid_of_ofData h)
  · have hmerged := (Plan.valid_of_ofData hbase).merge (Plan.valid_of_ofData hoverride)
    exact Plan.ofData_toData_iff.2 hmerged
  · have hreturns := Loader.load_returnsAccepted hloader.keepsAccepted disk path
    have hvalid := (hreturns.accepted plan hload).valid
    exact ⟨Plan.ofData_toData_iff.2 hvalid, hvalid.ids⟩

/-- A patch of the file `a`. -/
def samplePatch (id replacement : Text) : PatchSpec := ⟨id, "a", none, .exact "x", replacement⟩

def samplePatch.document (id replacement : Text) : Data :=
  .map [("id", .text id), ("target_file", .text "a"),
    ("locator", .map [("strategy", .text "exact"), ("anchor", .text "x")]),
    ("replacement", .text replacement)]

def samplePatch.lines (id replacement : Text) : Text :=
  "- id: " ++ id ++ "\n  target_file: a\n  locator:\n    strategy: exact\n    anchor: x\n" ++
    "  replacement: " ++ replacement ++ "\n"

/-- Two plans, of which the one on top overrides the second patch of the other. -/
def patchedDisk : Disk where
  tree := .file "c" (Utf8.encode ("version: '1.0'\nname: c\nextends: b\npatches:\n" ++
      samplePatch.lines "q" "z"))
    (.file "b" (Utf8.encode ("version: '1.0'\nname: b\npatches:\n" ++
      samplePatch.lines "p" "y" ++ samplePatch.lines "q" "y")) .empty)
  here := []

theorem accepted_plans_stay_valid_overridden :
    let document (name : Text) (patches : List Data) : Data :=
      .map [("version", .text "1.0"), ("name", .text name), ("patches", .list patches)]
    let base : Plan :=
      ⟨"1.0", "b", none, none, .default, [samplePatch "p" "y", samplePatch "q" "y"], []⟩
    let override : Plan := ⟨"1.0", "c", none, none, .default, [samplePatch "q" "z"], []⟩
    let loaded : Plan :=
      ⟨"1.0", "c", none, some "b", .default, [samplePatch "p" "y", samplePatch "q" "z"], []⟩
    Plan.ofData (some (document "b" [samplePatch.document "p" "y", samplePatch.document "q" "y"])) =
        .ok base ∧
      Plan.ofData (some (document "c" [samplePatch.document "q" "z"])) = .ok override ∧
      Plan.ofData (some base.toData) = .ok base ∧
      Plan.ofData (some (base.merge override).toData) = .ok (base.merge override) ∧
      (Loader.load patchedDisk (.fresh "/" true) "c").2 = .ok loaded ∧
      Plan.ofData (some loaded.toData) = .ok loaded ∧
      (loaded.patches.map PatchSpec.id).Nodup := by
  intro document base override loaded
  obtain ⟨hreread, hmerged, hloaded⟩ := accepted_plans_stay_valid
  have hbase : Plan.ofData (some (document "b"
      [samplePatch.document "p" "y", samplePatch.document "q" "y"])) = .ok base := by
    decide +kernel
  have hoverride : Plan.ofData (some (document "c" [samplePatch.document "q" "z"])) =
      .ok override := by
    decide +kernel
  have hload : (Loader.load patchedDisk (.fresh "/" true) "c").2 = .ok loaded := by
    decide +kernel
  exact ⟨hbase, hoverride, hreread _ base hbase, hmerged _ _ base override hbase hoverride, hload,
    hloaded _ (.fresh "/" true) patchedDisk "c" loaded hload⟩

end Remedy
