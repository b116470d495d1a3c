import Mathlib.Data.List.Nodup
import Mathlib.Data.List.Perm.Subperm
import Remedy.Plan.Load
import Remedy.Proofs.Paths

/-!
# Plans that extend one another

`Disk.Leads` follows plans from file to file, each to the one it extends. The next file is a
function of the last one, so two ways from the same start are the same as far as both go
(`Leads.comparable`). A way that comes to an end therefore meets no path twice
(`Leads.not_mem_of_stops`), and what becomes of a chain, `Disk.Outcome`, is unique
(`Outcome.unique`).

No chain goes on forever: paths that plans lead to are normalised, so those with a plan are as many
as there are files at most, one more for the path at the start (`Leads.length_le`).
-/

namespace Remedy

/-- The plan that a plan is laid over, where extending is followed at all. -/
def Plan.next? (follows : Bool) (plan : Plan) (path : Text) : Option Text :=
  if follows then plan.basePath? path else none

/-- Lays the plans passed on a way over the one at its end, the first of them last. -/
def Plan.overlay (base : Plan) (way : List (Text × Plan)) : Plan :=
  way.foldr (fun entry base => base.merge entry.2) base

namespace Disk

/-- Plans lead from one path to another. The way holds the plans that are passed, with their
paths. -/
inductive Leads (disk : Disk) (follows : Bool) : Text → List (Text × Plan) → Text → Prop where
  | here {path : Text} : Leads disk follows path [] path
  | next {path base last : Text} {plan : Plan} {way : List (Text × Plan)}
      (hread : disk.readPlan path = .ok plan) (hbase : plan.next? follows path = some base)
      (hrest : Leads disk follows base way last) :
      Leads disk follows path ((path, plan) :: way) last

/-- No plan leads on from a path: it has none, or one that extends no other. -/
def Stops (disk : Disk) (follows : Bool) (path : Text) : Prop :=
  ∀ plan, disk.readPlan path = .ok plan → plan.next? follows path = none

variable {disk : Disk} {follows : Bool} {start last other : Text} {plan : Plan}
  {way way' : List (Text × Plan)}

/-! ## Ways -/

namespace Leads

theorem eq_of_stops (h : disk.Leads follows start way last) (hstop : disk.Stops follows start) :
    way = [] ∧ last = start := by
  cases h with
  | here => exact ⟨rfl, rfl⟩
  | next hread hbase => simp [hstop _ hread] at hbase

theorem concat {base : Text} (h : disk.Leads follows start way last)
    (hread : disk.readPlan last = .ok plan) (hbase : plan.next? follows last = some base) :
    disk.Leads follows start (way ++ [(last, plan)]) base := by
  induction h with
  | here => exact .next hread hbase .here
  | next hread' hbase' _ ih => exact .next hread' hbase' (ih hread hbase)

/-- Of two ways from the same start, one goes on where the other ends. -/
theorem comparable (h : disk.Leads follows start way last)
    (h' : disk.Leads follows start way' other) :
    (∃ more, way' = way ++ more ∧ disk.Leads follows last more other) ∨
      ∃ more, way = way' ++ more ∧ disk.Leads follows other more last := by
  induction h generalizing way' with
  | here => exact .inl ⟨way', rfl, h'⟩
  | @next path base last plan way hread hbase hrest ih =>
    cases h' with
    | here => exact .inr ⟨_, rfl, .next hread hbase hrest⟩
    | next hread' hbase' hrest' =>
      obtain rfl : plan = _ := Except.ok.inj (hread.symm.trans hread')
      obtain rfl : base = _ := Option.some.inj (hbase.symm.trans hbase')
      obtain ⟨more, rfl, hmore⟩ | ⟨more, rfl, hmore⟩ := ih hrest'
      · exact .inl ⟨more, rfl, hmore⟩
      · exact .inr ⟨more, rfl, hmore⟩

theorem exists_rest_of_stops (h : disk.Leads follows start way last)
    (hstop : disk.Stops follows last) (h' : disk.Leads follows start way' other) :
    ∃ more, way = way' ++ more ∧ disk.Leads follows other more last := by
  obtain ⟨more, rfl, hmore⟩ | hrest := h.comparable h'
  · obtain ⟨rfl, rfl⟩ := hmore.eq_of_stops hstop
    exact ⟨[], by simp, .here⟩
  · exact hrest

theorem unique_of_stops (h : disk.Leads follows start way last)
    (hstop : disk.Stops follows last) (h' : disk.Leads follows start way' other)
    (hstop' : disk.Stops follows other) : way = way' ∧ last = other := by
  obtain ⟨more, rfl, hmore⟩ := h.exists_rest_of_stops hstop h'
  obtain ⟨rfl, rfl⟩ := hmore.eq_of_stops hstop'
  exact ⟨List.append_nil _, rfl⟩

/-- A path that is passed lies on a way from itself to the end. -/
theorem exists_from_of_mem (h : disk.Leads follows start way last)
    (hmem : other ∈ way.map Prod.fst) :
    ∃ before plan after, way = before ++ (other, plan) :: after ∧
      disk.Leads follows start before other ∧
      disk.Leads follows other ((other, plan) :: after) last := by
  induction h with
  | here => simp at hmem
  | @next path base last plan way hread hbase hrest ih =>
    by_cases hpath : other = path
    · subst hpath
      exact ⟨[], plan, way, rfl, .here, .next hread hbase hrest⟩
    · obtain ⟨before, found, after, rfl, hbefore, hafter⟩ :=
        ih (by simpa [hpath] using hmem)
      exact ⟨(path, plan) :: before, found, after, rfl, .next hread hbase hbefore, hafter⟩

/-- Where a chain comes to an end, no way along it returns to a path it has passed. -/
theorem not_mem_of_stops (h : disk.Leads follows start way last)
    (hstop : disk.Stops follows last) (h' : disk.Leads follows start way' other) :
    other ∉ way'.map Prod.fst := by
  intro hmem
  obtain ⟨before, plan, after, rfl, -, hcycle⟩ := h'.exists_from_of_mem hmem
  obtain ⟨more, rfl, hmore⟩ := h.exists_rest_of_stops hstop h'
  -- going round once more leads to the end as well, by a longer way
  obtain ⟨again, rfl, hagain⟩ := hmore.exists_rest_of_stops hstop hcycle
  have := congrArg List.length (hmore.unique_of_stops hstop hagain hstop).1
  simp at this
  omega

theorem nodup_of_stops (h : disk.Leads follows start way last)
    (hstop : disk.Stops follows last) : (way.map Prod.fst).Nodup := by
  induction h with
  | here => exact List.nodup_nil
  | next hread hbase hrest ih =>
    refine List.nodup_cons.mpr ⟨fun hmem => ?_, ih hstop⟩
    obtain ⟨before, _, _, rfl, hbefore, -⟩ := hrest.exists_from_of_mem hmem
    exact (Leads.next hread hbase hrest).not_mem_of_stops hstop
      (.next hread hbase hbefore) List.mem_cons_self

/-- A way that has returned cannot go on without passing a path twice. -/
theorem eq_of_return {more : List (Text × Plan)} (h : disk.Leads follows last more other)
    (hmem : last ∈ way.map Prod.fst) (hnodup : ((way ++ more).map Prod.fst).Nodup) :
    more = [] ∧ other = last := by
  cases h with
  | here => exact ⟨rfl, rfl⟩
  | next =>
    rw [List.map_append, List.nodup_append'] at hnodup
    exact absurd List.mem_cons_self (hnodup.2.2 hmem)

theorem unique_of_return (h : disk.Leads follows start way last)
    (hmem : last ∈ way.map Prod.fst) (hnodup : (way.map Prod.fst).Nodup)
    (h' : disk.Leads follows start way' other) (hmem' : other ∈ way'.map Prod.fst)
    (hnodup' : (way'.map Prod.fst).Nodup) : way = way' ∧ last = other := by
  obtain ⟨more, rfl, hmore⟩ | ⟨more, rfl, hmore⟩ := h.comparable h'
  · obtain ⟨rfl, rfl⟩ := hmore.eq_of_return hmem hnodup'
    simp
  · obtain ⟨rfl, rfl⟩ := hmore.eq_of_return hmem' hnodup
    simp

end Leads

/-! ## What becomes of a chain -/

/-- What comes of following plans from a path on, when those of a chain have led there: all of them
laid over the one at the end, the failure to read one of them, or a path that was met before. -/
inductive Outcome (disk : Disk) (follows : Bool) (chain : List Text) (path : Text) :
    Except LoadFailure Plan → Prop where
  | merged {way : List (Text × Plan)} {last : Text} {base : Plan}
      (hway : disk.Leads follows path way last) (hread : disk.readPlan last = .ok base)
      (hend : base.next? follows last = none) :
      Outcome disk follows chain path (.ok (base.overlay way))
  | failed {way : List (Text × Plan)} {last : Text} {failure : LoadFailure}
      (hway : disk.Leads follows path way last) (hread : disk.readPlan last = .error failure) :
      Outcome disk follows chain path (.error failure)
  | circular {way : List (Text × Plan)} {last : Text} (hway : disk.Leads follows path way last)
      (hmem : last ∈ chain ++ way.map Prod.fst) (hnodup : (chain ++ way.map Prod.fst).Nodup) :
      Outcome disk follows chain path (.error (.circular (chain ++ way.map Prod.fst) last))

theorem stops_of_read {base : Plan} (hread : disk.readPlan last = .ok base)
    (hend : base.next? follows last = none) : disk.Stops follows last := by
  intro plan hplan
  obtain rfl : base = plan := Except.ok.inj (hread.symm.trans hplan)
  exact hend

theorem stops_of_failure {failure : LoadFailure} (hread : disk.readPlan last = .error failure) :
    disk.Stops follows last := by
  intro plan hplan
  simp [hread] at hplan

/-- A plan that cannot be read is named in the failure, which is not about a chain. -/
theorem path_of_readPlan {failure : LoadFailure} (hread : disk.readPlan last = .error failure) :
    failure.path = last ∧ ∀ chain path, failure ≠ .circular chain path := by
  unfold readPlan Plan.parse at hread
  split at hread
  · split at hread
    · obtain rfl := Except.error.inj hread
      exact ⟨rfl, by simp⟩
    · split at hread
      · simp at hread
      · obtain rfl := Except.error.inj hread
        exact ⟨rfl, by simp⟩
  · obtain rfl := Except.error.inj hread
    exact ⟨rfl, by simp⟩

namespace Outcome

/-- The chain before a path has no part in what its plans come to. -/
theorem of_ok {chain chain' : List Text} (h : disk.Outcome follows chain start (.ok plan)) :
    disk.Outcome follows chain' start (.ok plan) := by
  cases h with
  | merged hway hread hend => exact .merged hway hread hend

/-- A plan is laid over what the one it extends comes to. -/
theorem next {chain : List Text} {base : Text} {result : Except LoadFailure Plan}
    (hread : disk.readPlan start = .ok plan) (hbase : plan.next? follows start = some base)
    (h : disk.Outcome follows (chain ++ [start]) base result) :
    disk.Outcome follows chain start (result.map (·.merge plan)) := by
  cases h with
  | merged hway hread' hend => exact .merged (.next hread hbase hway) hread' hend
  | failed hway hread' => exact .failed (.next hread hbase hway) hread'
  | @circular way last hway hmem hnodup =>
    have hchain : chain ++ [start] ++ way.map Prod.fst =
        chain ++ ((start, plan) :: way).map Prod.fst := by simp
    rw [hchain] at hmem hnodup ⊢
    exact .circular (.next hread hbase hway) hmem hnodup

theorem unique {result result' : Except LoadFailure Plan}
    (h : disk.Outcome follows [] start result) (h' : disk.Outcome follows [] start result') :
    result = result' := by
  cases h with
  | merged hway hread hend =>
    have hstop := stops_of_read hread hend
    cases h' with
    | merged hway' hread' hend' =>
      obtain ⟨rfl, rfl⟩ := hway.unique_of_stops hstop hway' (stops_of_read hread' hend')
      rw [Except.ok.inj (hread.symm.trans hread')]
    | failed hway' hread' =>
      obtain ⟨rfl, rfl⟩ := hway.unique_of_stops hstop hway' (stops_of_failure hread')
      simp [hread] at hread'
    | circular hway' hmem => exact absurd hmem (hway.not_mem_of_stops hstop hway')
  | failed hway hread =>
    have hstop : disk.Stops follows _ := stops_of_failure hread
    cases h' with
    | merged hway' hread' hend' =>
      obtain ⟨rfl, rfl⟩ := hway.unique_of_stops hstop hway' (stops_of_read hread' hend')
      simp [hread] at hread'
    | failed hway' hread' =>
      obtain ⟨rfl, rfl⟩ := hway.unique_of_stops hstop hway' (stops_of_failure hread')
      exact hread.symm.trans hread'
    | circular hway' hmem => exact absurd hmem (hway.not_mem_of_stops hstop hway')
  | circular hway hmem hnodup =>
    cases h' with
    | merged hway' hread' hend' =>
      exact absurd hmem (hway'.not_mem_of_stops (stops_of_read hread' hend') hway)
    | failed hway' hread' =>
      exact absurd hmem (hway'.not_mem_of_stops (stops_of_failure hread') hway)
    | circular hway' hmem' hnodup' =>
      obtain ⟨rfl, rfl⟩ := hway.unique_of_return hmem hnodup hway' hmem' hnodup'
      rfl

end Outcome

/-! ## How long a chain can be -/

open Remedy.Path

theorem exists_hasFile_of_readPlan (hread : disk.readPlan start = .ok plan) :
    ∃ names content, disk.HasFile start names content := by
  cases hfile : disk.read start with
  | ok content =>
    obtain ⟨names, h⟩ := read_eq_ok_iff.mp hfile
    exact ⟨names, content, h⟩
  | error e => simp [readPlan, hfile] at hread

theorem exists_spells_of_next? {base : Text} (habs : isAbsolute start = true)
    (hbase : plan.next? follows start = some base) : ∃ names, Spells base names := by
  unfold Plan.next? Plan.basePath? at hbase
  split_ifs at hbase
  split at hbase
  · split_ifs at hbase
    obtain rfl := Option.some.inj hbase
    exact ⟨_, spells_join (isAbsolute_parent habs) _⟩
  · simp at hbase

/-- A normalised path that holds a plan is the path of a file, spelled out. -/
theorem Leads.spells_of_mem {names : List Text} (hstart : Spells start names)
    (h : disk.Leads follows start way last) :
    ∀ path ∈ way.map Prod.fst, path = 0x2F :: ofNames (Path.names path) ∧
      Path.names path ∈ (disk.tree.leaves []).map Prod.fst := by
  induction h generalizing names with
  | here => simp
  | next hread hbase _ ih =>
    obtain ⟨baseNames, hspells⟩ := exists_spells_of_next? hstart.isAbsolute hbase
    refine List.forall_mem_cons.2 ⟨?_, ih hspells⟩
    obtain ⟨found, content, hfile⟩ := exists_hasFile_of_readPlan hread
    obtain ⟨rfl, hpath⟩ := hstart.eq_of_hasFile hfile
    rw [hstart.names_eq]
    exact ⟨hpath, List.mem_map_of_mem (Tree.mem_leaves_of_file hfile.held [])⟩

theorem Leads.length_le_of_spells {names : List Text} (hstart : Spells start names)
    (h : disk.Leads follows start way last) (hnodup : (way.map Prod.fst).Nodup) :
    way.length ≤ (disk.tree.leaves []).length := by
  have hmem := h.spells_of_mem hstart
  have hnames : ((way.map Prod.fst).map Path.names).Nodup :=
    hnodup.map_on fun p hp q hq hpq => by rw [(hmem p hp).1, hpq, ← (hmem q hq).1]
  have hsubset : (way.map Prod.fst).map Path.names ⊆ (disk.tree.leaves []).map Prod.fst := by
    intro found hfound
    obtain ⟨path, hpath, rfl⟩ := List.mem_map.mp hfound
    exact (hmem path hpath).2
  simpa using (List.subperm_of_subset hnames hsubset).length_le

/-- A way that passes no path twice is not longer than the disk has files, and one more. -/
theorem Leads.length_le (habs : isAbsolute start = true) (h : disk.Leads follows start way last)
    (hnodup : (way.map Prod.fst).Nodup) : way.length ≤ (disk.tree.leaves []).length + 1 := by
  cases h with
  | here => simp
  | next _ hbase hrest =>
    obtain ⟨names, hspells⟩ := exists_spells_of_next? habs hbase
    exact Nat.succ_le_succ (hrest.length_le_of_spells hspells (List.nodup_cons.mp hnodup).2)

/-! ## What a chain comes to, by its end -/

namespace Outcome

variable {result : Except LoadFailure Plan}

theorem exists_end (h : disk.Outcome follows [] start result) (habs : isAbsolute start = true) :
    ∃ way last, disk.Leads follows start way last ∧
      way.length ≤ (disk.tree.leaves []).length + 1 ∧
      (disk.Stops follows last ∨ last ∈ way.map Prod.fst) := by
  have hlength {way : List (Text × Plan)} {last : Text} (hway : disk.Leads follows start way last)
      (hstop : disk.Stops follows last) := hway.length_le habs (hway.nodup_of_stops hstop)
  cases h with
  | merged hway hread hend =>
    have hstop := stops_of_read hread hend
    exact ⟨_, _, hway, hlength hway hstop, .inl hstop⟩
  | failed hway hread =>
    have hstop : disk.Stops follows _ := stops_of_failure hread
    exact ⟨_, _, hway, hlength hway hstop, .inl hstop⟩
  | circular hway hmem hnodup => exact ⟨_, _, hway, hway.length_le habs hnodup, .inr hmem⟩

theorem eq_ok_iff (h : disk.Outcome follows [] start result) :
    result = .ok plan ↔ ∃ way last base, disk.Leads follows start way last ∧
      disk.readPlan last = .ok base ∧ base.next? follows last = none ∧
      plan = base.overlay way := by
  constructor
  · rintro rfl
    cases h with
    | merged hway hread hend => exact ⟨_, _, _, hway, hread, hend, rfl⟩
  · rintro ⟨way, last, base, hway, hread, hend, rfl⟩
    exact h.unique (.merged hway hread hend)

/-- A failure that is not about a circle is that of the first plan that cannot be read. -/
theorem eq_error_iff {failure : LoadFailure} (h : disk.Outcome follows [] start result) :
    (result = .error failure ∧ ∀ chain last, failure ≠ .circular chain last) ↔
      ∃ way, disk.Leads follows start way failure.path ∧
        disk.readPlan failure.path = .error failure := by
  constructor
  · rintro ⟨rfl, hcircular⟩
    cases h with
    | failed hway hread =>
      obtain ⟨rfl, -⟩ := path_of_readPlan hread
      exact ⟨_, hway, hread⟩
    | circular => exact absurd rfl (hcircular _ _)
  · rintro ⟨way, hway, hread⟩
    exact ⟨h.unique (.failed hway hread), (path_of_readPlan hread).2⟩

theorem eq_circular_iff (h : disk.Outcome follows [] start result) :
    (∃ chain last, result = .error (.circular chain last)) ↔
      ∃ way last, disk.Leads follows start way last ∧ last ∈ way.map Prod.fst := by
  constructor
  · rintro ⟨chain, last, rfl⟩
    cases h with
    | failed _ hread => exact absurd rfl ((path_of_readPlan hread).2 chain last)
    | circular hway hmem => exact ⟨_, _, hway, hmem⟩
  · rintro ⟨way, last, hway, hmem⟩
    cases h with
    | merged hway' hread hend =>
      exact absurd hmem (hway'.not_mem_of_stops (stops_of_read hread hend) hway)
    | failed hway' hread =>
      exact absurd hmem (hway'.not_mem_of_stops (stops_of_failure hread) hway)
    | circular => exact ⟨_, _, rfl⟩

end Outcome

end Disk

end Remedy
