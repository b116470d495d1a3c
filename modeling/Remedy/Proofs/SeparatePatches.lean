import Remedy.Proofs.AllOrNone
import Remedy.Proofs.CrlfPatches

/-!
# Patches at separate places

Two exact patches whose places do not overlap give the same text in either order
(`separate_patches_commute`). Each patch searches for its anchor anew in the text that the other one
left. The anchor still stands there, moved by what was inserted before it, and a patch that applies
has found its anchor once: so this is the place it is applied at (`PlainExact.text_of_ok`).
-/

namespace Remedy

/-! ## A patch and the text around its anchor -/

/-- An exact patch whose texts hold no carriage return. -/
structure PlainExact (spec : PatchSpec) (anchor : Text) : Prop where
  locator_eq : spec.locator = .exact anchor
  anchor_plain : 0x0D ∉ anchor
  replacement_plain : 0x0D ∉ spec.replacement

namespace PlainExact

variable {spec : PatchSpec} {anchor : Text} (hs : PlainExact spec anchor)
include hs

/-- The anchor is found as it is written. -/
theorem occursAt_of_located {t : Text} {m : Match} (ht : 0x0D ∉ t)
    (hl : locate t spec.locator = .ok m) :
    OccursAt anchor t m.startOffset ∧ m.endOffset = m.startOffset + anchor.length := by
  rw [hs.locator_eq, locate_exact] at hl
  obtain ⟨hoff, hneedle⟩ := findFirstSpelling_in_plain hs.anchor_plain ht
  have hsingle : (findFirstSpelling t anchor).offsets.length = 1 := by
    by_contra h
    obtain ⟨cause, hcause, -⟩ := locateExact_of_not_single h
    simp [hl] at hcause
  obtain ⟨i, hi⟩ := List.length_eq_one_iff.1 hsingle
  rw [hoff] at hi
  rw [locateExact_of_single (hoff.trans hi), hneedle (by simp [hi])] at hl
  obtain rfl := Except.ok.inj hl
  exact ⟨((findAll_eq_singleton_iff.1 hi).2 i).2 rfl, rfl⟩

/-- Wherever the anchor is known to stand, a patch that applies replaces it there. -/
theorem text_of_ok {before after : Text} {p : Patched} (ht : 0x0D ∉ before ++ anchor ++ after)
    (h : applyPatch (before ++ anchor ++ after) spec = .ok p) :
    p.text = before ++ spec.replacement ++ after := by
  obtain ⟨i, hi, -, rfl⟩ :=
    single_of_ok hs.locator_eq ht hs.anchor_plain hs.replacement_plain h
  obtain ⟨-, hocc⟩ := findAll_eq_singleton_iff.1 hi
  obtain rfl : before.length = i := (hocc _).1 (OccursAt.middle before anchor after)
  simp [List.append_assoc, List.drop_append]

end PlainExact

/-! ## Two patches in a row -/

/-- If both patches of a set are reported as applied, the second one was applied to the text that
the first one gave, and the set gives the text of the second. -/
theorem applyPatches_pair {t : Text} {a b : PatchSpec}
    (h : (applyPatches t [a, b]).results.all PatchResult.applied = true) :
    ∃ p q, applyPatch t a = .ok p ∧ applyPatch p.text b = .ok q ∧
      (applyPatches t [a, b]).text = q.text := by
  have hfailed : (attemptPatches t [a, b]).2.2 = false := by
    by_contra hfailed
    rw [applyPatches_of_failed (by simpa using hfailed)] at h
    simp [attemptPatches_cons, rollBack_applied] at h
  rw [applyPatches_of_not_failed hfailed] at h ⊢
  simp only [attemptPatches, List.all_cons, List.all_nil, Bool.and_true, Bool.and_eq_true,
    of_applied_iff] at h ⊢
  obtain ⟨⟨p, hp⟩, ⟨q, hq⟩⟩ := h
  simp only [hp] at hq ⊢
  exact ⟨p, q, rfl, hq, by rw [hq]⟩

section Separate

variable {a b : PatchSpec} {first second : Text} (ha : PlainExact a first)
  (hb : PlainExact b second)
include ha hb

/-- The text that two patches leave, in whichever order, where the anchor of the one stands before
that of the other. -/
theorem texts_of_separate {t before between after : Text} (ht : 0x0D ∉ t)
    (htext : t = before ++ first ++ between ++ second ++ after)
    (hab : (applyPatches t [a, b]).results.all PatchResult.applied = true)
    (hba : (applyPatches t [b, a]).results.all PatchResult.applied = true) :
    (applyPatches t [a, b]).text =
        before ++ a.replacement ++ between ++ b.replacement ++ after ∧
      (applyPatches t [b, a]).text =
        before ++ a.replacement ++ between ++ b.replacement ++ after := by
  have hra := ha.replacement_plain
  have hrb := hb.replacement_plain
  subst htext
  simp only [List.mem_append, not_or] at ht
  constructor
  · obtain ⟨p, q, hp, hq, htext⟩ := applyPatches_pair hab
    -- the second anchor is moved by the first replacement
    have hmoved : p.text = before ++ a.replacement ++ between ++ second ++ after := by
      rw [show before ++ first ++ between ++ second ++ after =
        before ++ first ++ (between ++ second ++ after) by simp] at hp
      rw [ha.text_of_ok (by simp [ht]) hp]
      simp
    rw [hmoved] at hq
    rw [htext, hb.text_of_ok (by simp [ht, hra]) hq]
  · obtain ⟨p, q, hp, hq, htext⟩ := applyPatches_pair hba
    have hkept := hb.text_of_ok (by simp [ht]) hp
    rw [hkept, show before ++ first ++ between ++ b.replacement ++ after =
      before ++ first ++ (between ++ b.replacement ++ after) by simp] at hq
    rw [htext, ha.text_of_ok (by simp [ht, hrb]) hq]
    simp

end Separate

/-- Two places that have no unit in common. -/
def Match.Apart (m n : Match) : Prop :=
  m.endOffset ≤ n.startOffset ∨ n.endOffset ≤ m.startOffset

theorem OccursAt.exists_between {x y t : Text} {i j : Nat} (hx : OccursAt x t i)
    (hy : OccursAt y t j) (hij : i + x.length ≤ j) :
    ∃ before between after, t = before ++ x ++ between ++ y ++ after := by
  obtain ⟨before, rest, rfl, rfl⟩ := hx
  obtain ⟨between, after, rfl, -⟩ := hy.of_append_right (by simpa using hij)
  exact ⟨before, between, after, by simp⟩

/-- Exact patches whose places do not overlap give the same text in either order, if they are
applied in both. -/
theorem separate_patches_commute {t first second : Text} {a b : PatchSpec} {m n : Match}
    (ht : 0x0D ∉ t) (ha : PlainExact a first) (hb : PlainExact b second)
    (hm : locate t a.locator = .ok m) (hn : locate t b.locator = .ok n) (hapart : m.Apart n)
    (hab : (applyPatches t [a, b]).results.all PatchResult.applied = true)
    (hba : (applyPatches t [b, a]).results.all PatchResult.applied = true) :
    (applyPatches t [a, b]).text = (applyPatches t [b, a]).text := by
  obtain ⟨hfirst, hfirstEnd⟩ := ha.occursAt_of_located ht hm
  obtain ⟨hsecond, hsecondEnd⟩ := hb.occursAt_of_located ht hn
  rcases hapart with hlt | hlt
  · obtain ⟨before, between, after, htext⟩ := hfirst.exists_between hsecond (by omega)
    obtain ⟨hone, hother⟩ := texts_of_separate ha hb ht htext hab hba
    rw [hone, hother]
  · obtain ⟨before, between, after, htext⟩ := hsecond.exists_between hfirst (by omega)
    obtain ⟨hone, hother⟩ := texts_of_separate hb ha ht htext hba hab
    rw [hone, hother]

/-- Lines of code with a call in the middle. -/
def threeCalls : Text := "open(p);\ngets(s);\nclose(p);\n"

def callPatch : PatchSpec := replaceText "gets(s);\n" "get(s);\nput(s);\n"

def closePatch : PatchSpec := replaceText "close(p);" "shut(p);"

/-- The two places lie side by side. -/
theorem separate_patches_commute_threeCalls :
    (applyPatches threeCalls [callPatch, closePatch]).text =
        "open(p);\nget(s);\nput(s);\nshut(p);\n" ∧
      (applyPatches threeCalls [callPatch, closePatch]).text =
        (applyPatches threeCalls [closePatch, callPatch]).text := by
  have hcall : PlainExact callPatch "gets(s);\n" := ⟨rfl, by decide, by decide⟩
  have hclose : PlainExact closePatch "close(p);" := ⟨rfl, by decide, by decide⟩
  have hm : locate threeCalls callPatch.locator = .ok ⟨⟨2, 2⟩, 9, 18⟩ := by decide +kernel
  have hn : locate threeCalls closePatch.locator = .ok ⟨⟨3, 3⟩, 18, 27⟩ := by decide +kernel
  have hplain : 0x0D ∉ threeCalls := by decide
  refine ⟨by decide +kernel, ?_⟩
  exact separate_patches_commute hplain hcall hclose hm hn (.inl (Nat.le_refl 18))
    (by decide +kernel) (by decide +kernel)

end Remedy
