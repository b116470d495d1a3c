import Remedy.Proofs.PlanLoading
import Remedy.Proofs.Search

/-!
# Plans laid over one another

Laying plans over one another is associative (`Plan.merge_merge`), although what a plan hides of its
base is told by its own patches and probes, and those of a merged plan are not those of its parts.
So a chain of plans comes to the same plan however it is grouped (`Grouping.merged_eq_foldl`), also
where a loader follows it (`merge_however_grouped`).
-/

namespace Remedy

/-! ## Lists that are joined -/

section Distinct

variable {α : Type} [BEq α] [LawfulBEq α]

theorem distinct_distinct_append (as bs : List α) :
    distinct (distinct as ++ bs) = distinct (as ++ bs) := by
  have hmem (b : α) : (distinct as).contains b = as.contains b := by
    rw [Bool.eq_iff_iff, List.contains_iff_mem, List.contains_iff_mem, mem_distinct]
  simp only [distinct_append, hmem, distinct_eq_self_iff.2 (nodup_distinct as)]

theorem distinct_append_distinct (as bs : List α) :
    distinct (as ++ distinct bs) = distinct (as ++ bs) := by
  rw [distinct_append, distinct_append, distinct_eq_self_iff.2 (nodup_distinct bs)]

end Distinct

/-! ## Lists that are overridden -/

/-- The entries of a base whose key no overriding entry has, and then the overriding entries. -/
def overlaid {α : Type} (key : α → Text) (base override : List α) : List α :=
  base.filter (fun p => !override.any fun q => key q == key p) ++ override

section Overlaid

variable {α : Type} {key : α → Text}

/-- The keys that hide those of the base are kept when the overriding entries are laid over others
in turn. -/
theorem any_overlaid (k : Text) (base override : List α) :
    ((overlaid key base override).any fun q => key q == k) =
      (base.any (fun q => key q == k) || override.any fun q => key q == k) := by
  rw [Bool.eq_iff_iff]
  simp only [overlaid, List.any_append, Bool.or_eq_true, List.any_eq_true, List.mem_filter,
    beq_iff_eq, Bool.not_eq_true', List.any_eq_false]
  constructor
  · rintro (⟨q, ⟨hq, -⟩, rfl⟩ | h)
    · exact .inl ⟨q, hq, rfl⟩
    · exact .inr h
  · rintro (⟨q, hq, rfl⟩ | h)
    · by_cases hover : ∃ p ∈ override, key p = key q
      · exact .inr hover
      · exact .inl ⟨q, ⟨hq, fun p hp hkey => hover ⟨p, hp, hkey⟩⟩, rfl⟩
    · exact .inr h

theorem overlaid_overlaid (a b c : List α) :
    overlaid key (overlaid key a b) c = overlaid key a (overlaid key b c) := by
  have hkept (p : α) : (!(overlaid key b c).any fun q => key q == key p) =
      ((!c.any fun q => key q == key p) && !b.any fun q => key q == key p) := by
    rw [any_overlaid, Bool.not_or, Bool.and_comm]
  conv_rhs => rw [overlaid]
  simp only [hkept]
  rw [← List.filter_filter, overlaid, overlaid, overlaid, List.filter_append, List.append_assoc]

end Overlaid

/-! ## Plans -/

namespace Plan

theorem mergeScan_mergeScan (a b c : ScanSettings) :
    mergeScan (mergeScan a b) c = mergeScan a (mergeScan b c) := by
  simp only [mergeScan, unique, distinct_distinct_append, distinct_append_distinct,
    List.append_assoc]

theorem merge_eq (base override : Plan) : base.merge override =
    ⟨override.version, override.name, override.description <|> base.description,
      override.base <|> base.base, mergeScan base.scan override.scan,
      overlaid PatchSpec.id base.patches override.patches,
      overlaid Probe.file base.probes override.probes⟩ := rfl

theorem merge_merge (a b c : Plan) : (a.merge b).merge c = a.merge (b.merge c) := by
  simp only [merge_eq, mergeScan_mergeScan, overlaid_overlaid, Option.orElse_eq_orElse,
    Option.orElse_eq_or, Option.or_assoc]

instance : Std.Associative Plan.merge := ⟨merge_merge⟩

end Plan

/-- A chain of plans with brackets around them. -/
inductive Grouping where
  | plan (plan : Plan)
  | group (base override : Grouping)

namespace Grouping

/-- The plans of a chain, each laid over those before it. -/
def plans : Grouping → List Plan
  | plan p => [p]
  | group base override => base.plans ++ override.plans

/-- What the plans come to when those in brackets are laid over one another first. -/
def merged : Grouping → Plan
  | plan p => p
  | group base override => base.merged.merge override.merged

theorem exists_plans_eq (g : Grouping) : ∃ base overrides, g.plans = base :: overrides := by
  induction g with
  | plan p => exact ⟨p, [], rfl⟩
  | group lower upper ihl _ =>
    obtain ⟨base, overrides, h⟩ := ihl
    exact ⟨base, overrides ++ upper.plans, by rw [plans, h, List.cons_append]⟩

/-- The brackets do not count. -/
theorem merged_eq_foldl {g : Grouping} {base : Plan} {overrides : List Plan}
    (h : g.plans = base :: overrides) : g.merged = overrides.foldl Plan.merge base := by
  induction g generalizing base overrides with
  | plan p =>
    obtain ⟨rfl, rfl⟩ := List.cons.inj h
    rfl
  | group lower upper ihl ihu =>
    obtain ⟨b, bs, hlower⟩ := lower.exists_plans_eq
    obtain ⟨c, cs, hupper⟩ := upper.exists_plans_eq
    rw [plans, hlower, hupper, List.cons_append, List.cons.injEq] at h
    obtain ⟨rfl, rfl⟩ := h
    rw [merged, ihl hlower, ihu hupper, List.foldl_append, List.foldl_cons, List.foldl_assoc]

end Grouping

theorem Plan.overlay_eq_foldl (base : Plan) (way : List (Text × Plan)) :
    base.overlay way = (way.map Prod.snd).reverse.foldl Plan.merge base := by
  rw [List.foldl_reverse, List.foldr_map]
  rfl

/-- Laying plans over one another is associative. So a chain of plans that extend one another comes
to the plan that is loaded, however the plans of the chain are grouped. -/
theorem merge_however_grouped :
    (∀ a b c : Plan, (a.merge b).merge c = a.merge (b.merge c)) ∧
    ∀ (disk : Disk) (directory path : Text) (way : List (Text × Plan)) (last : Text) (base : Plan),
      disk.Leads true (Path.resolve (disk.absolute directory) path) way last →
      disk.readPlan last = .ok base → base.basePath? last = none →
      ∀ g : Grouping, g.plans = base :: (way.map Prod.snd).reverse →
        (Loader.load disk (.fresh directory true) path).2 = .ok g.merged := by
  refine ⟨Plan.merge_merge, fun disk directory path way last base hway hread hend g hg => ?_⟩
  have hcoherent := Loader.coherent_fresh disk directory true
  have hplan : g.merged = base.overlay way := by
    rw [g.merged_eq_foldl hg, Plan.overlay_eq_foldl]
  exact (Loader.load_loaded hcoherent path).outcome.eq_ok_iff.2
    ⟨way, last, base, hway, hread, hend, hplan⟩

/-- Three plans that extend one another, of which only the one in the middle has a description. -/
def chainedDisk : Disk where
  tree := .file "c" (Utf8.encode "version: '1.0'\nname: c\nextends: b\n")
    (.file "b" (Utf8.encode "version: '1.0'\nname: b\nextends: a\ndescription: d\n")
      (.file "a" (Utf8.encode "version: '1.0'\nname: a\n") .empty))
  here := []

open Loader in
theorem merge_however_grouped_chained :
    let a := namedPlan "a" none none
    let b := namedPlan "b" (some "d") (some "a")
    let c := namedPlan "c" none (some "b")
    let grouping := Grouping.group (.plan a) (.group (.plan b) (.plan c))
    (load chainedDisk (fresh "/" true) "c").2 = .ok grouping.merged ∧
      grouping.merged = namedPlan "c" (some "d") (some "b") := by
  intro a b c grouping
  have ha : chainedDisk.readPlan "/a" = .ok a := by decide +kernel
  have hb : chainedDisk.readPlan "/b" = .ok b := by decide +kernel
  have hc : chainedDisk.readPlan "/c" = .ok c := by decide +kernel
  refine ⟨?_, rfl⟩
  exact merge_however_grouped.2 chainedDisk "/" "c" [("/c", c), ("/b", b)] "/a" a
    (.next hc rfl (.next hb rfl .here)) ha rfl grouping rfl

end Remedy
