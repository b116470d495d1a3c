import Remedy.Proofs.Accounting
import Remedy.Proofs.ByteTexts
import Remedy.Proofs.SourceCodec

/-!
# Labels of locators

A result names the locator of its patch by a label, a quoted text that can be read back
(`Text.quoted_injective`). The label is made of the patch that was tried, whose texts are in the
encoding of the file (`report_recorded`). So in a file that is not UTF-8 it shows bytes, and these
look like the text that they stand for only if each of them is below 0x80 (`byteText_eq_self_iff`),
in an anchor as far as it is shown (`anchorHeading_byteText`). `results_name_locators` says when a
label is that of the plan.
-/

namespace Remedy

open Text

/-! ## Quoted texts -/

namespace Text

/-- The unit that four hexadecimal digits stand for. -/
def ofHex4 (a b c d : CodeUnit) : CodeUnit :=
  let value (c : CodeUnit) : Nat := c.hexValue?.getD 0
  (value a * 0x1000 + value b * 0x100 + value c * 16 + value d).toUInt16

/-- The unit that another one stands for after a backslash. -/
def ofEscaped (c : CodeUnit) : CodeUnit :=
  if c = 0x62 then 0x08
  else if c = 0x66 then 0x0C
  else if c = 0x6E then 0x0A
  else if c = 0x72 then 0x0D
  else if c = 0x74 then 0x09
  else c

/-- Reads an escaped text back. -/
def unescape : Text → Text
  | 0x5C :: 0x75 :: a :: b :: c :: d :: t => ofHex4 a b c d :: unescape t
  | 0x5C :: c :: t => ofEscaped c :: unescape t
  | c :: t => c :: unescape t
  | [] => []

theorem hexValue?_hexDigit {n : Nat} (h : n < 16) :
    (CodeUnit.hexDigit n).hexValue? = some n := by
  interval_cases n <;> rfl

theorem ofHex4_hex4 (c : CodeUnit) :
    ∃ a b d e, hex4 c = [a, b, d, e] ∧ ofHex4 a b d e = c := by
  refine ⟨_, _, _, _, rfl, ?_⟩
  have hc : c.toNat < 0x10000 := c.toNat_lt
  have hdigits : c.toNat / 0x1000 * 0x1000 + c.toNat / 0x100 % 16 * 0x100 +
      c.toNat / 16 % 16 * 16 + c.toNat % 16 = c.toNat := by omega
  simp only [ofHex4, hexValue?_hexDigit (show c.toNat / 0x1000 < 16 by omega),
    hexValue?_hexDigit (Nat.mod_lt _ (by decide)), Option.getD_some, hdigits]
  exact UInt16.ofNat_toNat

theorem unescape_cons {c : CodeUnit} (h : c ≠ 0x5C) (t : Text) :
    unescape (c :: t) = c :: unescape t := by
  rw [unescape]
  · rintro _ _ _ _ _ rfl
    exact absurd rfl h
  · rintro _ _ rfl
    exact absurd rfl h

theorem unescape_escapeUnit (c : CodeUnit) (t : Text) :
    unescape (escapeUnit c ++ t) = c :: unescape t := by
  fun_cases escapeUnit c with
  | case8 =>
    obtain ⟨a, b, d, e, hhex, hc⟩ := ofHex4_hex4 c
    rw [hhex]
    show ofHex4 a b d e :: unescape t = _
    rw [hc]
  | case9 _ hbackslash => exact unescape_cons hbackslash t
  | _ =>
    subst_vars
    rfl

/-- Escaping loses nothing. -/
theorem unescape_escape (t : Text) : unescape (escape t) = t := by
  fun_induction escape t with
  | case1 => rfl
  | case2 c =>
    have := unescape_escapeUnit c []
    rwa [List.append_nil] at this
  | case3 c d t h ih =>
    have hne {c : CodeUnit} (hc : c.isHighSurrogate = true ∨ c.isLowSurrogate = true) :
        c ≠ 0x5C := by
      rintro rfl
      revert hc
      decide
    rw [Bool.and_eq_true] at h
    rw [unescape_cons (hne (.inl h.1)), unescape_cons (hne (.inr h.2)), ih]
  | case4 c d t _ ih => rw [unescape_escapeUnit, ih]

theorem quoted_injective {a b : Text} (h : quoted a = quoted b) : a = b := by
  have hescape : escape a = escape b := by simpa [quoted] using h
  rw [← unescape_escape a, hescape, unescape_escape]

end Text

/-! ## Texts that are their own bytes -/

theorem length_encodeCodePoint (n : Nat) :
    1 + (if 0x80 ≤ n then 1 else 0) ≤ (Utf8.encodeCodePoint n).length := by
  unfold Utf8.encodeCodePoint
  split_ifs <;> simp; omega

theorem length_encodeUnit (c : CodeUnit) :
    1 + (if 0x80 ≤ c.toNat then 1 else 0) ≤ (Utf8.encodeUnit c).length := by
  unfold Utf8.encodeUnit
  by_cases hhalf : (c.isHighSurrogate || c.isLowSurrogate) = true
  · have hreplaced : (Utf8.encodeCodePoint 0xFFFD).length = 3 := rfl
    rw [if_pos hhalf, hreplaced]
    split_ifs <;> omega
  · rw [if_neg hhalf]
    exact length_encodeCodePoint c.toNat

/-- A unit that is not a byte of its own takes at least one byte more. -/
theorem length_encode (t : Text) :
    t.length + t.countP (fun c => 0x80 ≤ c.toNat) ≤ (Utf8.encode t).length := by
  fun_induction Utf8.encode t with
  | case1 => simp
  | case2 c =>
    have := length_encodeUnit c
    simp [List.countP_cons]
    omega
  | case3 c d t h ih =>
    have hpair : (Utf8.encodeCodePoint (pairCodePoint c d)).length = 4 := by
      have : 0x10000 ≤ pairCodePoint c d := by
        unfold pairCodePoint
        omega
      unfold Utf8.encodeCodePoint
      rw [if_neg (by omega), if_neg (by omega), if_neg (by omega)]
      rfl
    rw [List.length_append, hpair]
    simp only [List.length_cons, List.countP_cons]
    split_ifs <;> omega
  | case4 c d t h ih =>
    have := length_encodeUnit c
    rw [List.length_append, List.length_cons, List.countP_cons]
    simp only [decide_eq_true_eq]
    omega

theorem byteText_append_of_ascii {a : Text} (ha : ∀ c ∈ a, c.toNat < 0x80) (b : Text) :
    byteText (a ++ b) = a ++ byteText b := by
  induction a with
  | nil => rfl
  | cons c a ih =>
    rw [List.forall_mem_cons] at ha
    rw [List.cons_append, byteText_cons ha.1, ih ha.2, List.cons_append]

theorem byteText_eq_self_iff {t : Text} : byteText t = t ↔ ∀ c ∈ t, c.toNat < 0x80 := by
  constructor
  · intro h
    have hlength : (Utf8.encode t).length = t.length := by
      simpa [byteText, Latin1.decode] using congrArg List.length h
    have hwide := length_encode t
    have hnone : t.countP (fun c => 0x80 ≤ c.toNat) = 0 := by omega
    simpa using List.countP_eq_zero.1 hnone
  · intro h
    simpa [byteText, Latin1.decode, Utf8.encode] using byteText_append_of_ascii h []

/-! ## Headings -/

/-- What a label shows of an anchor: its first line that is not blank, cut to sixty units. -/
def anchorHeading (anchor : Text) : Text :=
  let shown := trim (((splitLines anchor).find? fun line => !(trim line).isEmpty).getD [])
  if shown.length > 60 then shown.take 57 ++ "..." else shown

theorem describeAnchor_eq (anchor : Text) : describeAnchor anchor = quoted (anchorHeading anchor) :=
  rfl

/-- Lines after one that is shown are not looked at. -/
theorem anchorHeading_append {a b : Text} (hend : EndsLine a ∨ b = [])
    (hne : anchorHeading a ≠ []) : anchorHeading (a ++ b) = anchorHeading a := by
  unfold anchorHeading at hne ⊢
  rw [splitLines_append hend, List.find?_append]
  cases hfind : (splitLines a).find? fun line => !(trim line).isEmpty with
  | none => exact absurd (by rw [hfind]; rfl) hne
  | some line => rfl

/-- An anchor is shown as it is if the units up to the end of the line that is shown are bytes of
their own. -/
theorem anchorHeading_byteText {a b : Text} (ha : ∀ c ∈ a, c.toNat < 0x80)
    (hend : EndsLine a ∨ b = []) (hne : anchorHeading a ≠ []) :
    anchorHeading (byteText (a ++ b)) = anchorHeading (a ++ b) := by
  have hbytes : EndsLine a ∨ byteText b = [] := hend.imp_right fun h => by rw [h]; rfl
  rw [byteText_append_of_ascii ha, anchorHeading_append hbytes hne, anchorHeading_append hend hne]

/-! ## Labels in the encoding of a file -/

/-- The text that a locator searches for. -/
def Locator.needle : Locator → Text
  | .exact anchor => anchor
  | .signature header _ => header

/-- A label that is made of the bytes of a locator is that of the locator. -/
def Locator.ShowsInBytes : Locator → Prop
  | .exact anchor => anchorHeading (byteText anchor) = anchorHeading anchor
  | .signature header _ => ∀ c ∈ header, c.toNat < 0x80

theorem Locator.showsInBytes_of_ascii {locator : Locator}
    (h : ∀ c ∈ locator.needle, c.toNat < 0x80) : locator.ShowsInBytes := by
  cases locator with
  | exact anchor => exact congrArg anchorHeading (byteText_eq_self_iff.2 h)
  | signature header stop => exact h

theorem describeLocator_toSource_iff (spec : PatchSpec) :
    describeLocator (spec.toSource .latin1) = describeLocator spec ↔
      spec.locator.ShowsInBytes := by
  have hquoted {a b : Text} : quoted a = quoted b ↔ a = b := ⟨quoted_injective, congrArg quoted⟩
  obtain ⟨id, file, description, anchor | ⟨header, stop⟩, replacement⟩ := spec
  · change ("anchor " : Text) ++ describeAnchor (byteText anchor) =
      "anchor " ++ describeAnchor anchor ↔ _
    rw [List.append_cancel_left_eq, describeAnchor_eq, describeAnchor_eq, hquoted,
      Locator.ShowsInBytes]
  · change ("signature " : Text) ++ quoted (byteText header) =
      "signature " ++ quoted header ↔ _
    rw [List.append_cancel_left_eq, hquoted, byteText_eq_self_iff, Locator.ShowsInBytes]

/-- The encoding that a file is held in; a plan's own one where there is no file. -/
def Disk.encodingOf (disk : Disk) (path : Text) : SourceEncoding :=
  match disk.read path with
  | .ok content => (Source.ofBytes content).encoding
  | .error _ => .utf8

theorem Disk.encodingOf_eq_latin1_iff {disk : Disk} {path : Text} :
    disk.encodingOf path = .latin1 ↔
      ∃ content, disk.read path = .ok content ∧ ¬ Utf8.IsUtf8 content := by
  unfold Disk.encodingOf
  cases hread : disk.read path with
  | error e => simp
  | ok content =>
    simp only [Except.ok.injEq, exists_eq_left']
    rw [← Source.encoding_ofBytes]
    cases (Source.ofBytes content).encoding <;> simp

/-- The label of a patch in the encoding of its file is that of the plan's patch, unless the file is
there and is not UTF-8. -/
theorem describeLocator_encodingOf_iff {disk : Disk} {path : Text} {spec : PatchSpec} :
    describeLocator (spec.toSource (disk.encodingOf path)) = describeLocator spec ↔
      ∀ content, disk.read path = .ok content → ¬ Utf8.IsUtf8 content →
        spec.locator.ShowsInBytes := by
  cases hencoding : disk.encodingOf path with
  | utf8 =>
    rw [PatchSpec.toSource_utf8, eq_self, true_iff]
    intro content hread hcontent
    have hbytes := Disk.encodingOf_eq_latin1_iff.2 ⟨content, hread, hcontent⟩
    rw [hencoding] at hbytes
    cases hbytes
  | latin1 =>
    obtain ⟨content, hread, hcontent⟩ := Disk.encodingOf_eq_latin1_iff.1 hencoding
    rw [describeLocator_toSource_iff]
    exact ⟨fun hshows _ _ _ => hshows, fun hshows => hshows content hread hcontent⟩

section Report

variable {ctx : RunContext} {disk : Disk} {file : Text} {specs : List PatchSpec}
  {probes : List Probe} {report : FileReport}

/-- Whatever becomes of the patches of a file, each is recorded as the patch that was tried. -/
theorem report_recorded (hreads : disk.isFile (Path.join ctx.root file) = true → ctx.Reads file)
    (h : (processFile ctx disk file specs probes).2 = .ok report) :
    List.Forall₂ PatchSpec.RecordedAs
      (specs.map fun spec => spec.toSource (disk.encodingOf (Path.join ctx.root file)))
      report.patches := by
  rw [(processFile_report h).2.1]
  cases hread : disk.read (Path.join ctx.root file) with
  | error e =>
    have hfile : disk.isFile (Path.join ctx.root file) = false := by
      rw [← Bool.not_eq_true, Disk.isFile_iff, hread]
      simp
    rw [patchFile_of_not_isFile probes hfile]
    simpa only [Disk.encodingOf, hread, PatchSpec.toSource_utf8, List.map_id'] using
      missing_recorded specs
  | ok content =>
    have hreads := hreads (Disk.isFile_iff.2 ⟨content, hread⟩)
    have hscan := (scanFile_of_read _ hread).symm.trans (scanFile_of_report hreads hread h)
    rw [← Source.ofSource_ofBytes] at hscan
    rw [patchFile_of_read probes hreads hread, Disk.encodingOf, hread]
    cases hfindings : Scan.scan ctx.scan ((Source.ofBytes content).encoding.ofSource
        (Source.ofBytes content).text) file with
    | error fault => simp [hfindings, Except.mapError] at hscan
    | ok findings => exact patchSource_recorded hfindings

/-- A file that is there and cannot be read has no results. Otherwise the results of a file are
those of its patches, in order, with their ids and files, whether the patches are applied, fail, are
undone or cannot be written, and also where there is no file. A label names the plan's own locator
unless the file is there and is not UTF-8: then it shows the bytes of the locator one by one, and
names it if and only if these look the same. -/
theorem results_name_locators (h : (processFile ctx disk file specs probes).2 = .ok report) :
    (disk.isFile (Path.join ctx.root file) = true ∧ ¬ ctx.Reads file ∧ report.patches = []) ∨
    List.Forall₂
      (fun spec result =>
        result.patchId = spec.id ∧ result.targetFile = spec.targetFile ∧
        result.locator =
          describeLocator (spec.toSource (disk.encodingOf (Path.join ctx.root file))) ∧
        (result.locator = describeLocator spec ↔
          ∀ content, disk.read (Path.join ctx.root file) = .ok content →
            ¬ Utf8.IsUtf8 content → spec.locator.ShowsInBytes) ∧
        ((∀ c ∈ spec.locator.needle, c.toNat < 0x80) → result.locator = describeLocator spec))
      specs report.patches := by
  by_cases hreads : disk.isFile (Path.join ctx.root file) = true → ctx.Reads file
  · right
    have hrecorded := report_recorded hreads h
    rw [List.forall₂_map_left_iff] at hrecorded
    refine hrecorded.imp fun spec result hresult => ?_
    refine ⟨hresult.id_eq, hresult.file_eq, hresult.label_eq, ?_, fun hascii => ?_⟩
    · rw [hresult.label_eq, describeLocator_encodingOf_iff]
    · rw [hresult.label_eq, describeLocator_encodingOf_iff]
      exact fun _ _ _ => Locator.showsInBytes_of_ascii hascii
  · left
    obtain ⟨hfile, hnot⟩ := Classical.not_imp.1 hreads
    refine ⟨hfile, hnot, ?_⟩
    rw [(processFile_report h).2.1, List.eq_nil_iff_forall_not_mem]
    exact fun result hresult => hnot (reads_of_mem_patches hresult hfile)

end Report

/-- A file in which a letter is written in one byte here and in two bytes there. -/
def mixedLetters : Bytes := 0xE9 :: Utf8.encode ";\nint é(void)\n\x7b\n\x7d\nint g;\n/* é */\n"

def mixedLettersDisk : Disk where
  tree := .folder "r" (.file "a.c" mixedLetters .empty) .empty
  here := []

/-- A patch with an anchor whose first line is the same in bytes. -/
def plainHeadingPatch : PatchSpec where
  id := "p1"
  targetFile := "a.c"
  description := none
  locator := .exact "int g;\n/* é */\n"
  replacement := "int g = 0;\n"

theorem results_name_locators_plainHeading :
    ∃ report, (processFile oneByteContext mixedLettersDisk "a.c" [plainHeadingPatch] []).2 =
        .ok report ∧
      ¬ Utf8.IsUtf8 mixedLetters ∧
      report.patches.map PatchResult.locator = [("anchor \"int g;\"" : Text)] := by
  have hutf8 : ¬ Utf8.IsUtf8 mixedLetters := by
    rw [← Source.encoding_ofBytes]
    decide +kernel
  have hshows : plainHeadingPatch.locator.ShowsInBytes := by
    let heading : Text := "int g;"
    let rest : Text := "/* é */\n"
    have hanchor : plainHeadingPatch.locator = .exact (heading ++ [0x0A] ++ rest) := by decide
    have hascii : (heading ++ [0x0A]).all (fun c => c.toNat < 0x80) = true := by decide
    have hne : anchorHeading (heading ++ [0x0A]) ≠ [] := by decide
    rw [hanchor]
    exact anchorHeading_byteText (fun c hc => of_decide_eq_true (List.all_eq_true.1 hascii c hc))
      (.inl (endsLine_append_lf heading)) hne
  have hreport : (processFile oneByteContext mixedLettersDisk "a.c" [plainHeadingPatch]
      []).2.isOk = true := by
    decide +kernel
  cases h : (processFile oneByteContext mixedLettersDisk "a.c" [plainHeadingPatch] []).2 with
  | error fault => rw [h] at hreport; cases hreport
  | ok report =>
    refine ⟨report, rfl, hutf8, ?_⟩
    obtain ⟨-, hnot, -⟩ | hnamed := results_name_locators h
    · exact absurd rfl hnot
    obtain ⟨result, _, ⟨-, -, -, hlabel, -⟩, hrest, hresults⟩ := List.forall₂_cons_left_iff.1 hnamed
    obtain rfl := List.forall₂_nil_left_iff.1 hrest
    rw [hresults, List.map_singleton, hlabel.2 fun _ _ _ => hshows]
    decide

/-- A patch of the function whose name is in two bytes. -/
def letterPatch : PatchSpec where
  id := "p2"
  targetFile := "a.c"
  description := none
  locator := .signature "é(void)" (.columnZeroBrace none)
  replacement := "int é(void)\n\x7b\n    return 0;\n\x7d\n"

/-- The label of a patch whose function is found and replaced names another function. -/
theorem label_shows_bytes :
    (processFile oneByteContext mixedLettersDisk "a.c" [letterPatch] []).2.toOption.map
        (fun report => report.patches.map fun result => (result.applied, result.locator)) =
      some [(true, ("signature \"Ã©(void)\"" : Text))] ∧
    describeLocator letterPatch = "signature \"é(void)\"" := by
  decide +kernel

end Remedy
