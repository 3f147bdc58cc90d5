import GoldenTree.Proofs.Disk.Siblings
import Mathlib.Data.Set.Basic

/-! Frames. An operation is confined to some places if what it comes to depends on the entries there
alone and nothing else is changed. The directories are the same throughout: only files come and
go. -/
namespace GoldenTree.Disk.FileSystem

variable {α β : Type} {base fs fs' : FileSystem} {p : Path} {place : Place}
  {places others : Set Place} {bytes : ByteArray}

/-- The same directories, and the same entries at some places. -/
structure Agree (places : Set Place) (fs fs' : FileSystem) : Prop where
  directories : ∀ place, fs'.get? place = some .directory ↔ fs.get? place = some .directory
  entries : ∀ place ∈ places, fs'.get? place = fs.get? place

namespace Agree

theorem refl (places : Set Place) (fs : FileSystem) : Agree places fs fs :=
  ⟨fun _ => Iff.rfl, fun _ _ => rfl⟩

theorem symm (h : Agree places fs fs') : Agree places fs' fs :=
  ⟨fun place => (h.directories place).symm, fun place hplace => (h.entries place hplace).symm⟩

theorem trans {fs'' : FileSystem} (h : Agree places fs fs') (h' : Agree places fs' fs'') :
    Agree places fs fs'' :=
  ⟨fun place => (h'.directories place).trans (h.directories place),
    fun place hplace => (h'.entries place hplace).trans (h.entries place hplace)⟩

theorem mono (h : Agree places fs fs') (hsubset : others ⊆ places) : Agree others fs fs' :=
  ⟨h.directories, fun place hplace => h.entries place (hsubset hplace)⟩

/-- The directories stay those of the base. -/
theorem along (hbase : Agree ∅ base fs) (h : Agree places fs fs') : Agree ∅ base fs' :=
  hbase.trans (h.mono (Set.empty_subset _))

theorem keepsDirectories (h : Agree places fs fs') : KeepsDirectories fs fs' :=
  fun place => (h.directories place).mpr

theorem locate_iff (h : Agree places fs fs') :
    fs'.locate p = .ok place ↔ fs.locate p = .ok place :=
  ⟨locate_mono h.symm.keepsDirectories, locate_mono h.keepsDirectories⟩

end Agree

/-- A file may change, or be made, without a trace elsewhere. -/
theorem agree_put (hfree : fs.get? place ≠ some .directory) (hplace : place ∈ places) :
    Agree placesᶜ fs (fs.put place (.file bytes)) := by
  have hne := ne_nil_of_get? hfree
  constructor
  · intro other
    rw [get?_put fs hne]
    by_cases hother : other = place
    · simp [hother, hfree]
    · rw [if_neg hother]
  · intro other hother
    rw [get?_put fs hne, if_neg]
    rintro rfl
    exact hother hplace

theorem Agree.put (h : Agree places fs fs') (hfree : fs.get? place ≠ some .directory) :
    Agree places (fs.put place (.file bytes)) (fs'.put place (.file bytes)) := by
  have hne := ne_nil_of_get? hfree
  constructor
  · intro other
    rw [get?_put fs hne, get?_put fs' hne]
    by_cases hother : other = place
    · simp [hother]
    · rw [if_neg hother, if_neg hother]
      exact h.directories other
  · intro other hother
    rw [get?_put fs hne, get?_put fs' hne, h.entries other hother]

/-! Views and operations. -/

/-- What is seen depends on the entries at the places alone. -/
def Sees (base : FileSystem) (places : Set Place) (view : FileSystem → α) : Prop :=
  ∀ fs fs', Agree ∅ base fs → Agree places fs fs' → view fs' = view fs

/-- What is done depends on the entries at the places alone, and nothing else is changed. -/
def Confined (base : FileSystem) (places : Set Place)
    (act : FileSystem → α × FileSystem) : Prop :=
  ∀ fs fs', Agree ∅ base fs → Agree places fs fs' →
    (act fs').1 = (act fs).1 ∧ Agree places (act fs).2 (act fs').2 ∧ Agree placesᶜ fs (act fs).2

theorem confined_pure (a : α) : Confined base places fun fs => (a, fs) :=
  fun fs _ _ hagree => ⟨rfl, hagree, .refl _ fs⟩

theorem Confined.bind {act : FileSystem → α × FileSystem}
    {next : α → FileSystem → β × FileSystem} (hact : Confined base places act)
    (hnext : ∀ a, Confined base places (next a)) :
    Confined base places fun fs => next (act fs).1 (act fs).2 := by
  intro fs fs' hbase hagree
  obtain ⟨hvalue, hplaces, hframe⟩ := hact fs fs' hbase hagree
  have hbase' : Agree ∅ base (act fs).2 := hbase.along hframe
  obtain ⟨hvalue', hplaces', hframe'⟩ := hnext (act fs).1 _ _ hbase' hplaces
  dsimp only
  rw [hvalue]
  exact ⟨hvalue', hplaces', hframe.trans hframe'⟩

theorem Confined.map {act : FileSystem → α × FileSystem} (hact : Confined base places act)
    (f : α → β) : Confined base places fun fs => (f (act fs).1, (act fs).2) :=
  hact.bind fun a => confined_pure (f a)

/-- Operations may be told apart by file systems that have other directories. -/
theorem Confined.congr {act act' : FileSystem → α × FileSystem} (hact : Confined base places act)
    (heq : ∀ fs, Agree ∅ base fs → act' fs = act fs) : Confined base places act' := by
  intro fs fs' hbase hagree
  rw [heq fs hbase, heq fs' (hbase.along hagree)]
  exact hact fs fs' hbase hagree

/-- An operation with a view beforehand. -/
theorem Confined.after {view : FileSystem → α} {act : α → FileSystem → β × FileSystem}
    (hview : Sees base places view)
    (hact : ∀ fs, Agree ∅ base fs → Confined base places (act (view fs))) :
    Confined base places fun fs => act (view fs) fs := by
  intro fs fs' hbase hagree
  have hsame : view fs' = view fs := hview fs fs' hbase hagree
  simp only [hsame]
  exact hact fs hbase fs fs' hbase hagree

/-! Files at the places. -/

/-- A name in a folder which is at one of the places, if it may be anywhere. -/
structure Owned (base : FileSystem) (places : Set Place) (p : Path) : Prop where
  names : ∃ folder name directory, p.Names folder name ∧ IsFolder base folder directory
  mem : ∀ place, base.locate p = .ok place → place ∈ places

theorem sees_find_of_locate (hlocate : base.locate p = .ok place) (hplace : place ∈ places) :
    Sees base places fun fs => fs.find p := by
  intro fs fs' hbase hagree
  have hlocate' : fs.locate p = .ok place := hbase.locate_iff.mpr hlocate
  dsimp only
  rw [find, find, hlocate', hagree.locate_iff.mpr hlocate']
  simp only [bind, Except.bind, hagree.entries place hplace]

/-! A path that is found alike is read alike. -/

section Found

variable (h : fs'.find p = fs.find p)
include h

theorem pathExists_congr : fs'.pathExists p = fs.pathExists p := by rw [pathExists, pathExists, h]

theorem isFile_congr : fs'.isFile p = fs.isFile p := by rw [isFile, isFile, h]

theorem read_congr : fs'.read p = fs.read p := by rw [read, read, h]

theorem readText_congr : fs'.readText p = fs.readText p := by
  rw [readText, readText, read_congr h]

end Found

theorem pathExists_of_unlocated (hbase : Agree ∅ base fs) {cause : IoError}
    (h : base.locate p = .error cause) : fs.pathExists p = false := by
  refine Bool.eq_false_iff.mpr fun hexists => ?_
  obtain ⟨place, entry, hfind⟩ := pathExists_iff.mp hexists
  have hlocate := hbase.locate_iff.mp (find_eq_ok_iff.mp hfind).1
  cases h.symm.trans hlocate

namespace Owned

variable (h : Owned base places p)
include h

theorem locate_eq (hbase : Agree ∅ base fs) : fs.locate p = base.locate p := by
  obtain ⟨folder, name, directory, hp, hfolder⟩ := h.names
  exact hfolder.locate_eq hbase.keepsDirectories hp

theorem sees_find : Sees base places fun fs => fs.find p := by
  cases hlocate : base.locate p with
  | ok place => exact sees_find_of_locate hlocate (h.mem place hlocate)
  | error cause =>
    intro fs fs' hbase hagree
    have hbase' := hbase.along hagree
    dsimp only
    rw [find, find, h.locate_eq hbase, h.locate_eq hbase', hlocate]
    rfl

theorem sees_target : Sees base places fun fs => fs.target p := by
  intro fs fs' hbase hagree
  have hbase' := hbase.along hagree
  obtain ⟨folder, name, directory, hp, -⟩ := h.names
  dsimp only
  rw [target_names hp, target_names hp, h.locate_eq hbase, h.locate_eq hbase']
  congr 1
  funext place
  rw [if_congr (hagree.directories place) rfl rfl]

theorem target_ok (hbase : Agree ∅ base fs) (htarget : fs.target p = .ok place) :
    place ∈ places ∧ fs.get? place ≠ some .directory := by
  obtain ⟨folder, name, directory, hp, -⟩ := h.names
  obtain ⟨hlocate, hfree⟩ := (target_names_iff hp).mp htarget
  exact ⟨h.mem place (hbase.locate_iff.mp hlocate), hfree⟩

end Owned

/-- Tries an operation, which changes nothing if it fails. -/
def attempt (op : FileSystem → Except IoError FileSystem) (fs : FileSystem) :
    Except IoError Unit × FileSystem :=
  match op fs with
  | .ok fs => (.ok (), fs)
  | .error cause => (.error cause, fs)

theorem Owned.confined_write (h : Owned base places p) (bytes : ByteArray) :
    Confined base places (attempt fun fs => fs.write p bytes) := by
  intro fs fs' hbase hagree
  have htarget : fs'.target p = fs.target p := h.sees_target fs fs' hbase hagree
  simp only [attempt, write, htarget]
  cases hplace : fs.target p with
  | error cause => exact ⟨rfl, hagree, .refl _ fs⟩
  | ok place =>
    obtain ⟨hmem, hfree⟩ := h.target_ok hbase hplace
    exact ⟨rfl, hagree.put hfree, agree_put hfree hmem⟩

theorem Owned.confined_touch (h : Owned base places p) :
    Confined base places (attempt fun fs => fs.touch p) := by
  intro fs fs' hbase hagree
  have htarget : fs'.target p = fs.target p := h.sees_target fs fs' hbase hagree
  simp only [attempt, touch, htarget]
  cases hplace : fs.target p with
  | error cause => exact ⟨rfl, hagree, .refl _ fs⟩
  | ok place =>
    obtain ⟨hmem, hfree⟩ := h.target_ok hbase hplace
    simp only [bind, Except.bind, hagree.entries place hmem]
    cases fs.get? place with
    | some entry => exact ⟨rfl, hagree, .refl _ fs⟩
    | none => exact ⟨rfl, hagree.put hfree, agree_put hfree hmem⟩

end GoldenTree.Disk.FileSystem
