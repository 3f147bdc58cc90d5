import GoldenTree.Case.Load
import GoldenTree.Golden.Header
import GoldenTree.Proofs.Disk.Siblings
import GoldenTree.Proofs.Except
import GoldenTree.Proofs.Text.Utf8

/-! What holds of every loaded case: its files are named after its source and stand beside it, and
its hash is the digest of the source. -/
namespace GoldenTree

open Disk Digest Golden

theorem Disk.Path.mem_of_mem_splitName {name : List Char} {c : Char} (h : c ∈ (splitName name).1) :
    c ∈ name := by
  unfold splitName at h
  dsimp only at h
  split at h
  · exact h
  · exact List.mem_of_mem_take h

/-- A name that is longer than two dots needs only be free of slashes. -/
theorem Disk.isName_append {stem suffix : List Char} (hstem : '/' ∉ stem) (hsuffix : '/' ∉ suffix)
    (hlength : 2 < suffix.length) : IsName (stem ++ suffix) := by
  have hlong : ∀ other : List Char, other.length ≤ 2 → stem ++ suffix ≠ other := by
    rintro other hother rfl
    simp at hother
    omega
  exact ⟨by simp [hstem, hsuffix], hlong _ (by decide), hlong _ (by decide), hlong _ (by decide)⟩

/-- The dump of a differing tree stands beside the golden file. -/
theorem CaseFiles.names_actualDump {golden : Path} {folder name : List Char}
    (h : golden.Names folder name) :
    (actualDump golden).Names folder (name ++ actualSuffix.toList) := by
  refine ⟨?_, h.folder, isName_append h.name.noSlash (by decide) (by decide)⟩
  have hchars : golden.text.toList = folder ++ name := h.chars
  rw [actualDump, Path.addSuffix, Path.chars, String.toList_append, hchars, List.append_assoc]

/-- Beside a source, its files have the name that it has up to its last dot, with their suffixes. -/
structure CaseFiles.Named (files : CaseFiles) (folder stem : List Char) : Prop where
  golden : files.golden.Names folder (stem ++ goldenSuffix.toList)
  dump : (actualDump files.golden).Names folder (stem ++ (goldenSuffix ++ actualSuffix).toList)
  reference : files.reference.Names folder (stem ++ referenceSuffix.toList)
  failed : files.failed.Names folder (stem ++ failedSuffix.toList)

theorem CaseFiles.named_of_ofSource? {source parent : Path} {files : CaseFiles} {n : String}
    (h : ofSource? source = some files) (hname : source.fileName? = some n)
    (hparent : source.parent? = some parent) :
    files.Named parent.asFolder (Path.splitName n.toList).1 := by
  have hslash : '/' ∉ (Path.splitName n.toList).1 :=
    fun hmem => (Path.isName_of_fileName? hname).noSlash (Path.mem_of_mem_splitName hmem)
  have hnames : ∀ suffix : String, '/' ∉ suffix.toList → 2 < suffix.toList.length →
      (source.withFileName (String.ofList (Path.splitName n.toList).1 ++ suffix)).Names
        parent.asFolder ((Path.splitName n.toList).1 ++ suffix.toList) := by
    intro suffix hfree hlong
    have hjoined := Path.names_join (p := parent)
      (n := String.ofList (Path.splitName n.toList).1 ++ suffix)
      (by simpa using isName_append hslash hfree hlong)
    rw [Path.withFileName_eq hname hparent]
    simpa using hjoined
  simp only [ofSource?, Path.stem?, hname, Option.map_some, Option.some.injEq] at h
  subst h
  have hgolden := hnames goldenSuffix (by decide) (by decide)
  refine ⟨hgolden, ?_, hnames referenceSuffix (by decide) (by decide),
    hnames failedSuffix (by decide) (by decide)⟩
  simpa using names_actualDump hgolden

/-- The golden file, the dump of a differing tree and the sentinel have different names in one
folder. -/
structure CaseFiles.Beside (files : CaseFiles) (folder g d f : List Char) : Prop where
  golden : files.golden.Names folder g
  dump : (actualDump files.golden).Names folder d
  failed : files.failed.Names folder f
  golden_ne_dump : g ≠ d
  golden_ne_failed : g ≠ f
  failed_ne_dump : f ≠ d

theorem CaseFiles.beside_of_ofSource? {source : Path} {files : CaseFiles}
    (h : ofSource? source = some files) :
    ∃ folder g d f, files.Beside folder g d f := by
  obtain ⟨stem, hstem, -⟩ := Option.map_eq_some_iff.mp h
  obtain ⟨n, hname, -⟩ := Option.map_eq_some_iff.mp hstem
  obtain ⟨parent, hparent⟩ := Path.exists_parent?_of_fileName? hname
  have hnamed := named_of_ofSource? h hname hparent
  refine ⟨_, _, _, _, hnamed.golden, hnamed.dump, hnamed.failed, ?_, ?_, ?_⟩
  · simp [goldenSuffix, actualSuffix]
  · simp [goldenSuffix, failedSuffix]
  · simp [goldenSuffix, actualSuffix, failedSuffix]

/-- A case as it was loaded. -/
structure Case.IsLoaded (c : Case) : Prop where
  files : CaseFiles.ofSource? c.files.source = some c.files
  fileName : c.files.source.fileName? = some c.fileName
  hash : c.hash = sourceHash c.source.toUTF8

theorem CaseFiles.source_of_ofSource? {source : Path} {files : CaseFiles}
    (h : ofSource? source = some files) :
    ofSource? files.source = some files ∧ ∃ n, files.source.fileName? = some n := by
  obtain ⟨stem, hstem, rfl⟩ := Option.map_eq_some_iff.mp h
  obtain ⟨n, hname, -⟩ := Option.map_eq_some_iff.mp hstem
  exact ⟨h, n, hname⟩

theorem Fixtures.filesOf_eq_ok_iff {source : Path} {files : CaseFiles} :
    filesOf source = .ok files ↔ CaseFiles.ofSource? source = some files := by
  unfold filesOf
  cases CaseFiles.ofSource? source <;> simp

theorem Fixtures.asText_eq_ok_iff {path : Path} {bytes : ByteArray} {text : String} :
    asText path bytes = .ok text ↔ Text.ofUtf8? bytes = some text := by
  unfold asText
  cases Text.ofUtf8? bytes <;> simp

theorem Fixtures.isLoaded_of_load {f : Fixtures} {fs : FileSystem} {relative : Path} {c : Case}
    (h : f.load fs relative = .ok c) : c.IsLoaded := by
  simp only [load, Fixtures.files, bind_eq_ok, pure_eq_ok, filesOf_eq_ok_iff, asText_eq_ok_iff] at h
  obtain ⟨files, hfiles, bytes, -, source, hsource, kind, -, rfl⟩ := h
  obtain ⟨hagain, n, hname⟩ := CaseFiles.source_of_ofSource? hfiles
  exact ⟨hagain, by simp [hname], by rw [Text.toUTF8_of_ofUtf8? hsource]⟩

/-- A case below a directory whose source is empty. -/
def sampleCase : Case where
  id := "t$a.kt"
  fileName := "a.kt"
  files := ⟨⟨"t/a.kt"⟩, ⟨"t/a.antlrtree.txt"⟩, ⟨"t/a.txt"⟩, ⟨"t/a.failed"⟩⟩
  source := ""
  hash := sourceHash "".toUTF8
  kind := .diagnostics

theorem sampleCase_isLoaded : sampleCase.IsLoaded := ⟨by decide +kernel, by decide +kernel, rfl⟩

/-- The tree of the empty source, recorded under some hash. -/
def sampleGolden (hash : String) : String :=
  String.join ["File: a.kt - ", hash, "\n  EOF(\"<EOF>\")\n"]

def sampleDisk (hash : String) : FileSystem :=
  ⟨[(["t"], .directory), (["t", "a.antlrtree.txt"], .file (sampleGolden hash).toUTF8)]⟩

theorem isHash_sourceHash (bytes : ByteArray) : Header.isHash (sourceHash bytes).toList = true := by
  simp only [Header.isHash, Bool.and_eq_true, beq_iff_eq, List.all_eq_true]
  refine ⟨?_, fun c hc => isHexDigit_of_mem_hex hc⟩
  rw [sourceHash, length_toList_hex, length_md5]
  rfl

end GoldenTree
