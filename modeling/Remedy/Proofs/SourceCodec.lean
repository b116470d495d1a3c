import Remedy.Proofs.FileSteps
import Remedy.Proofs.Utf8Sequences

/-!
# What is read of a file

A file is held in UTF-8 if its bytes are well formed, and otherwise one unit per byte. Either way
the bytes can be written back, and scanning sees the text that a scan of the file alone would read:
the findings before a run are the findings of that scan (`source_codec`).
-/

namespace Remedy

/-! ## Encodings -/

theorem Source.encoding_ofBytes (content : Bytes) :
    (Source.ofBytes content).encoding = .utf8 ↔ Utf8.IsUtf8 content := by
  rw [Utf8.isUtf8_iff, Source.ofBytes]
  split_ifs with h <;> simp [h]

/-- A scan sees the decoded bytes, whatever the file is held in. -/
theorem Source.ofSource_ofBytes (content : Bytes) :
    (Source.ofBytes content).encoding.ofSource (Source.ofBytes content).text =
      Utf8.decode content := by
  unfold Source.ofBytes
  dsimp only
  split_ifs
  · rfl
  · rw [SourceEncoding.ofSource, Latin1.encode_decode]

theorem SourceEncoding.ofSource_toSource (encoding : SourceEncoding) {t : Text}
    (ht : t.WellFormed) : encoding.ofSource (encoding.toSource t) = t := by
  cases encoding with
  | utf8 => rfl
  | latin1 => rw [toSource, ofSource, Latin1.encode_decode, Utf8.decode_encode ht]

/-! ## Findings before a run -/

section Scanned

variable {ctx : RunContext} {disk : Disk} {file : Text} {specs : List PatchSpec} {source : Source}

theorem patchSource_of_fault (disk : Disk) (path : Text) (specs : List PatchSpec)
    {fault : Glob.Fault}
    (h : Scan.scan ctx.scan (source.encoding.ofSource source.text) file = .error fault) :
    (patchSource ctx disk path file specs source).1 = disk ∧
      (patchSource ctx disk path file specs source).2.pending = none := by
  simp [patchSource, h]

theorem patchSource_findingsBefore (disk : Disk) (path : Text) (specs : List PatchSpec)
    {findings : List Finding}
    (h : Scan.scan ctx.scan (source.encoding.ofSource source.text) file = .ok findings) :
    (patchSource ctx disk path file specs source).2.findingsBefore = findings := by
  unfold patchSource
  rw [h]
  dsimp only
  split_ifs
  · rfl
  · rfl
  · rfl
  · split <;> rfl

theorem scanFile_of_read {content : Bytes} (options : ScanOptions) {folder : Text}
    (hread : disk.read (Path.join folder file) = .ok content) :
    disk.scanFile options folder file =
      (Scan.scan options (Utf8.decode content) file).mapError .pattern := by
  simp [Disk.scanFile, Disk.readText?, hread]

/-- A file is reported with the findings of a scan. If the scan fails, so does the one after the
patches, and there is no report. -/
theorem scanFile_of_report {probes : List Probe} {content : Bytes} {report : FileReport}
    (hreads : ctx.Reads file) (hread : disk.read (Path.join ctx.root file) = .ok content)
    (h : (processFile ctx disk file specs probes).2 = .ok report) :
    disk.scanFile ctx.scan ctx.root file = .ok report.findingsBefore := by
  rcases hpatch : patchSource ctx disk (Path.join ctx.root file) file specs
    (Source.ofBytes content) with ⟨after, patching⟩
  rw [processFile_eq ctx ((patchFile_of_read probes hreads hread).trans hpatch),
    RunContext.seen_eq fun _ => hreads] at h
  obtain ⟨findingsAfter, _, hafter, -, -, hbefore, -⟩ := exists_of_reportOn h
  rw [scanFile_of_read _ hread, hbefore]
  cases hscan : Scan.scan ctx.scan (Utf8.decode content) file with
  | ok findings =>
    rw [← Source.ofSource_ofBytes] at hscan
    have hfindings := patchSource_findingsBefore disk (Path.join ctx.root file) specs hscan
    rw [hpatch] at hfindings
    rw [hfindings]
    rfl
  | error fault =>
    rw [← Source.ofSource_ofBytes] at hscan
    have hkept := patchSource_of_fault disk (Path.join ctx.root file) specs hscan
    rw [hpatch] at hkept
    obtain ⟨rfl, hpending⟩ : after = disk ∧ patching.pending = none := hkept
    rw [Source.ofSource_ofBytes] at hscan
    simp [hpending, Disk.readText?, hread, findingsIn, hscan] at hafter

end Scanned

/-- The encoding that a file is held in tells whether its bytes are well-formed UTF-8; the bytes can
be written back; and a scan sees the text that is read of the file alone, so that the findings
before a run that can read the file are those of a scan. A well-formed text comes back from the form
it has in a file that is held one unit per byte. -/
theorem source_codec :
    (∀ content : Bytes,
      let source := Source.ofBytes content
      (source.encoding = .utf8 ↔ Utf8.IsUtf8 content) ∧
        source.toBytes = content ∧
        source.encoding.ofSource source.text = Utf8.decode content) ∧
    (∀ (disk : Disk) (path : Text) (source : Source), disk.readSource path = .ok source →
      disk.readText? path = some (source.encoding.ofSource source.text)) ∧
    (∀ (ctx : RunContext) (disk : Disk) (file : Text) (specs : List PatchSpec)
      (probes : List Probe) (report : FileReport),
      disk.isFile (Path.join ctx.root file) = true → ctx.Reads file →
      (processFile ctx disk file specs probes).2 = .ok report →
      disk.scanFile ctx.scan ctx.root file = .ok report.findingsBefore) ∧
    ∀ t : Text, t.WellFormed →
      SourceEncoding.latin1.ofSource (SourceEncoding.latin1.toSource t) = t := by
  refine ⟨fun content => ⟨Source.encoding_ofBytes content, Source.toBytes_ofBytes content,
    Source.ofSource_ofBytes content⟩, ?_, ?_, fun t ht => SourceEncoding.ofSource_toSource _ ht⟩
  · intro disk path source hsource
    cases hread : disk.read path with
    | error e => simp [Disk.readSource, hread, Except.map] at hsource
    | ok content =>
      obtain rfl : Source.ofBytes content = source := by
        simpa [Disk.readSource, hread, Except.map] using hsource
      rw [Source.ofSource_ofBytes, Disk.readText?, hread]
  · intro ctx disk file specs probes report hfile hreads hreport
    obtain ⟨content, hread⟩ := Disk.isFile_iff.1 hfile
    exact scanFile_of_report hreads hread hreport

/-- A letter that is written in one byte, which is not UTF-8. -/
def oneByteLetter : Bytes := [0x67, 0x65, 0x74, 0x73, 0x28, 0xE9, 0x29, 0x0A]

def oneByteDisk : Disk where
  tree := .folder "r" (.file "a.c" oneByteLetter .empty) .empty
  here := []

def oneByteContext : RunContext where
  now := ""
  root := "r"
  tag := "t"

theorem source_codec_oneByteLetter :
    ¬ Utf8.IsUtf8 oneByteLetter ∧ (Source.ofBytes oneByteLetter).toBytes = oneByteLetter ∧
      oneByteDisk.readText? "r/a.c" = some "gets(�)\n" ∧
      (∃ report, (processFile oneByteContext oneByteDisk "a.c" [] []).2 = .ok report ∧
        oneByteDisk.scanFile oneByteContext.scan "r" "a.c" = .ok report.findingsBefore) ∧
      SourceEncoding.latin1.ofSource (SourceEncoding.latin1.toSource "é😀") = "é😀" := by
  obtain ⟨hcodec, hread, hfindings, hback⟩ := source_codec
  have hencoding : (Source.ofBytes oneByteLetter).encoding = .latin1 := by decide
  have hutf8 : ¬ Utf8.IsUtf8 oneByteLetter := by
    rw [← (hcodec oneByteLetter).1, hencoding]
    decide
  have hsource : oneByteDisk.readSource "r/a.c" = .ok (Source.ofBytes oneByteLetter) := rfl
  have hreport : (processFile oneByteContext oneByteDisk "a.c" [] []).2.isOk = true := by
    decide +kernel
  refine ⟨hutf8, (hcodec oneByteLetter).2.1, (hread _ _ _ hsource).trans (by decide), ?_,
    hback _ (Text.wellFormed_ofString _)⟩
  cases h : (processFile oneByteContext oneByteDisk "a.c" [] []).2 with
  | error fault => rw [h] at hreport; cases hreport
  | ok report => exact ⟨report, rfl, hfindings _ _ _ _ _ _ (by decide) rfl h⟩

end Remedy
