import GoldenTree.Proofs.Case.Loaded
import GoldenTree.Proofs.Disk.Overwrite
import GoldenTree.Proofs.Golden.Header
import GoldenTree.Proofs.Golden.Reconcile
import GoldenTree.Proofs.ParseTree.Lines

/-! Golden files that were written. Their header reads back with the hash and the marker of the tree
they were written from, whatever the file name looks like. -/
namespace GoldenTree.Golden

open Disk FileSystem Header

variable {r : Reconciler} {fs fs' : FileSystem} {golden : Path} {regenerate : Bool}
  {agreement : Agreement} {actual fileName hash stem name : String} {marker : Option Marker}
  {tree : ParseTree} {source : ByteArray}

/-- The header line above a tree reads back, in normal form. -/
theorem Header.ofText?_normalize_render (hname : namesSource fileName.toList = true)
    (hhash : isHash hash.toList = true) (hnewline : '\n' ∉ fileName.toList)
    (hreturn : '\r' ∉ fileName.toList) :
    ofText? (normalize (tree.render (render fileName hash marker))) =
      some ⟨hash, written marker⟩ := by
  rw [ofText?, normalize, String.toList_ofList, ParseTree.render_toList_append,
    firstLine_normalChars_render hhash hnewline hreturn]
  exact parse?_render hname hhash marker

/-- A marker other than the one of muted cases is written. -/
theorem Header.written_eq_self (hmarker : marker ≠ some .mute) : written marker = marker := by
  cases marker with
  | none => rfl
  | some m => exact Option.filter_some_pos (by simpa using hmarker)

theorem Header.read_of_read {bytes : ByteArray} (h : fs.read golden = .ok bytes) :
    Header.read fs golden = ofBytes bytes := by
  rw [Header.read, h]
  rfl

namespace Reconciler

/-- An installed file reads as it was installed. -/
theorem Installs.read {text : String} {done : Except ReconcileError Unit}
    (h : Installs fs golden text done fs') (hdone : done = .ok ()) :
    fs'.read golden = .ok text.toUTF8 := by
  cases h with
  | noRoom _ => cases hdone
  | unwritten _ _ => cases hdone
  | written _ hwrite => exact read_of_write hwrite

/-- A golden file that is created or regenerated holds the normal form of the fresh text. -/
theorem read_of_reconcile (hagreement : agreement ≠ .matched)
    (h : r.reconcile fs golden actual regenerate = (.ok agreement, fs')) :
    fs'.read golden = .ok (normalize actual).toUTF8 := by
  cases reconcile_iff.mp h with
  | created _ hinstall => exact hinstall.read rfl
  | matched _ _ => exact absurd rfl hagreement
  | regenerated _ _ _ hinstall => exact hinstall.read rfl

/-- The header of a golden file that is created or regenerated is the one it was written with. -/
theorem readHeader_of_reconcile (hname : name = stem ++ ".kt" ∨ name = stem ++ ".kts")
    (hnewline : '\n' ∉ name.toList) (hreturn : '\r' ∉ name.toList) (hmarker : marker ≠ some .mute)
    (hagreement : agreement = .created ∨ agreement = .regenerated)
    (h : r.reconcile fs golden (tree.render (render name (sourceHash source) marker)) regenerate =
      (.ok agreement, fs')) :
    Header.read fs' golden = .ok (some ⟨sourceHash source, marker⟩) := by
  have hread := read_of_reconcile (by rcases hagreement with rfl | rfl <;> simp) h
  rw [Header.read_of_read hread, ofBytes_toUTF8,
    ofText?_normalize_render (namesSource_of_extension hname hnewline) (isHash_sourceHash source)
      hnewline hreturn, written_eq_self hmarker]

/-- A file name that looks like the end of a header. -/
def mimicStem : String := "a.kt - d41d8cd98f00b204e9800998ecf8427e (WITH_ERRORS)"

/-- The golden file of an empty source of that name, on an empty disk. -/
def mimicRun : Except ReconcileError Agreement × FileSystem :=
  standard.reconcile FileSystem.empty ⟨"t/a.txt"⟩
    ((ParseTree.rule "kotlinFile" []).render
      (render (mimicStem ++ ".kts") (sourceHash ByteArray.empty) (some .mutePsiErrors))) false

theorem readHeader_of_reconcile_mimic : mimicRun = (.ok .created, mimicRun.2) ∧
    Header.read mimicRun.2 ⟨"t/a.txt"⟩ =
      .ok (some ⟨sourceHash ByteArray.empty, some .mutePsiErrors⟩) := by
  have hcreated : mimicRun = (.ok .created, mimicRun.2) := Prod.ext (by decide +kernel) rfl
  exact ⟨hcreated, readHeader_of_reconcile (.inr rfl) (by decide +kernel) (by decide +kernel)
    (by decide) (.inl rfl) hcreated⟩

end Reconciler

end GoldenTree.Golden
