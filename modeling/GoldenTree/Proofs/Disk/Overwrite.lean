import GoldenTree.Proofs.Disk.Siblings

/-! Files that are there and are written anew. A path that leads to a file ends in the name of that
file, so that it can be written, and afterwards all paths lead where they led before. -/
namespace GoldenTree.Disk

open Text

/-- Every path has a last piece and what stands before it. -/
theorem Path.exists_folder (p : Path) : ∃ folder name, p.chars = folder ++ name ∧
    (folder = [] ∨ ∃ front, folder = front ++ ['/']) ∧ '/' ∉ name := by
  obtain ⟨front, name, hpieces⟩ :=
    (List.eq_nil_or_concat' p.pieces).resolve_left (splitAt_ne_nil '/' p.chars)
  have hchars : p.chars = Text.join ['/'] (front ++ [name]) := by
    rw [← hpieces, Path.pieces, join_splitAt]
  have hname : '/' ∉ name :=
    not_mem_of_mem_splitAt (s := p.chars) (hpieces ▸ List.mem_concat_self : name ∈ p.pieces)
  by_cases hfront : front = []
  · subst hfront
    exact ⟨[], name, hchars, .inl rfl, hname⟩
  · rw [join_append_singleton hfront] at hchars
    exact ⟨Text.join ['/'] front ++ ['/'], name, by simp [hchars], .inr ⟨_, rfl⟩, hname⟩

namespace FileSystem

variable {fs : FileSystem} {p q : Path} {place other : Place} {pieces : List (List Char)}
  {folder name : List Char} {old new : ByteArray}

theorem isFile_iff :
    fs.isFile p = true ↔ ∃ place bytes, fs.find p = .ok (place, .file bytes) := by
  unfold isFile
  split
  · next place bytes hfind => simp [hfind]
  · next hnot => simpa using hnot

theorem readText_of_read {text : String} (h : fs.read p = .ok text.toUTF8) :
    fs.readText p = .ok text :=
  readText_eq_ok_iff.mpr ⟨_, h, ofUtf8?_toUTF8 text⟩

theorem isFile_of_readText {text : String} (h : fs.readText p = .ok text) :
    fs.isFile p = true := by
  obtain ⟨bytes, hread, -⟩ := readText_eq_ok_iff.mp h
  obtain ⟨place, hfind⟩ := read_eq_ok_iff.mp hread
  exact isFile_iff.mpr ⟨place, bytes, hfind⟩

/-! What leads to a file. -/

/-- Everything that leads to the place is a directory. -/
def Enclosed (fs : FileSystem) (place : Place) : Prop :=
  ∀ front, front <+: place → front ≠ place → fs.get? front = some .directory

theorem Enclosed.of_isPrefix (h : fs.Enclosed place) (hother : other <+: place) :
    fs.Enclosed other := by
  intro front hfront hne
  refine h front (hfront.trans hother) ?_
  rintro rfl
  exact hne (hfront.eq_of_length_le hother.length_le)

theorem Enclosed.follow {piece : List Char} (h : fs.Enclosed place)
    (hfollow : fs.follow place piece = .ok other) : fs.Enclosed other := by
  have hdirectory := follow_directory hfollow
  simp only [FileSystem.follow, hdirectory] at hfollow
  split at hfollow
  · obtain rfl := Except.ok.inj hfollow
    exact h
  · split at hfollow
    · split at hfollow
      · cases hfollow
      · obtain rfl := Except.ok.inj hfollow
        exact h.of_isPrefix (List.dropLast_prefix place)
    · split at hfollow
      · cases hfollow
      · obtain rfl := Except.ok.inj hfollow
        intro front hfront hne
        rcases List.prefix_concat_iff.mp hfront with rfl | hfront
        · exact absurd rfl hne
        · by_cases hplace : front = place
          · rw [hplace, hdirectory]
          · exact h front hfront hplace

theorem enclosed_of_foldlM (h : fs.Enclosed place)
    (hfold : pieces.foldlM fs.follow place = .ok other) : fs.Enclosed other := by
  induction pieces generalizing place with
  | nil =>
    obtain rfl := Except.ok.inj hfold
    exact h
  | cons piece pieces ih =>
    obtain ⟨mid, hfirst, hrest⟩ := foldlM_cons_eq_ok_iff.mp hfold
    exact ih (h.follow hfirst) hrest

/-- Dots and slashes at the end lead to directories, so that a file has a name at the end. -/
theorem names_of_isFile (hchars : p.chars = folder ++ name)
    (hfolder : folder = [] ∨ ∃ front, folder = front ++ ['/']) (hslash : '/' ∉ name)
    (h : fs.isFile p = true) : p.Names folder name := by
  obtain ⟨place, bytes, hfind⟩ := isFile_iff.mp h
  obtain ⟨hlocate, hfile⟩ := find_eq_ok_iff.mp hfind
  obtain ⟨-, hfold⟩ := followAll_eq_ok_iff.mp hlocate
  rw [Path.pieces_of_folder hchars hfolder hslash] at hfold
  obtain ⟨mid, hmid, hlast⟩ := foldlM_append_eq_ok_iff.mp hfold
  obtain ⟨last, hname, hdone⟩ := foldlM_cons_eq_ok_iff.mp hlast
  obtain rfl := Except.ok.inj hdone
  have hdirectory := follow_directory hname
  have henclosed : fs.Enclosed mid :=
    enclosed_of_foldlM (fun front hfront hne => absurd (List.prefix_nil.mp hfront) hne) hmid
  have hnot : ∀ {directory}, fs.get? directory = some .directory →
      fs.follow mid name ≠ .ok directory := by
    intro directory hdirectory hsame
    obtain rfl := Except.ok.inj (hsame.symm.trans hname)
    cases hdirectory.symm.trans hfile
  refine ⟨hchars, hfolder, hslash, ?_, ?_, ?_⟩
  · rintro rfl
    exact hnot hdirectory (by simp [follow, hdirectory])
  · rintro rfl
    exact hnot hdirectory (by simp [follow, hdirectory])
  · rintro rfl
    have hne : mid ≠ [] := by
      rintro rfl
      simp [follow] at hname
    have hshorter : mid.dropLast ≠ mid := by
      intro hsame
      have hlength := congrArg List.length hsame
      rw [List.length_dropLast] at hlength
      have hpositive := List.length_pos_iff.mpr hne
      omega
    have hparent := henclosed mid.dropLast (List.dropLast_prefix mid) hshorter
    exact hnot hparent (by simp [follow, hdirectory, hne])

/-- A file has a name in a folder. -/
theorem exists_names_of_isFile (h : fs.isFile p = true) : ∃ folder name, p.Names folder name := by
  obtain ⟨folder, name, hchars, hfolder, hslash⟩ := p.exists_folder
  exact ⟨folder, name, names_of_isFile hchars hfolder hslash h⟩

/-- A file can always be written anew. -/
theorem write_of_isFile (h : fs.isFile p = true) (new : ByteArray) :
    ∃ place old, fs.find p = .ok (place, .file old) ∧
      fs.write p new = .ok (fs.put place (.file new)) := by
  obtain ⟨place, old, hfind⟩ := isFile_iff.mp h
  obtain ⟨hlocate, hfile⟩ := find_eq_ok_iff.mp hfind
  obtain ⟨folder, name, hnames⟩ := exists_names_of_isFile h
  exact ⟨place, old, hfind,
    (write_names_iff hnames).mpr ⟨place, hlocate, by simp [hfile], rfl⟩⟩

/-- Where a file can be written, its path leads. -/
theorem locate_of_target (h : fs.target p = .ok place) :
    fs.locate p = .ok place ∧ fs.get? place ≠ some .directory := by
  obtain ⟨hfollow, hname⟩ := target_eq_ok_iff.mp h
  obtain ⟨hlast, -, hfree⟩ : p.pieces.getLast? ≠ some [] ∧ endsInDots (namePieces p) ≠ true ∧
      fs.get? place ≠ some .directory := by simpa only [not_or] using hname
  rw [namePieces_eq hlast] at hfollow
  exact ⟨hfollow, hfree⟩

/-- Whatever the path, a file that was written reads as it was written. -/
theorem read_of_write {fs' : FileSystem} (h : fs.write p new = .ok fs') :
    fs'.read p = .ok new := by
  obtain ⟨place, htarget, rfl⟩ := write_eq_ok_iff.mp h
  obtain ⟨hplace, hfree⟩ := locate_of_target htarget
  exact read_put_self hfree hplace

/-! What is written anew. -/

theorem ne_nil_of_file (h : fs.get? place = some (.file old)) : place ≠ [] := by
  rintro rfl
  cases h

theorem follow_put_file (h : fs.get? place = some (.file old)) (other : Place)
    (piece : List Char) :
    (fs.put place (.file new)).follow other piece = fs.follow other piece := by
  have hne := ne_nil_of_file h
  rw [follow, follow, get?_put fs hne]
  by_cases hother : other = place
  · simp [hother, h]
  · rw [if_neg hother]

theorem locate_put_file (h : fs.get? place = some (.file old)) (p : Path) :
    (fs.put place (.file new)).locate p = fs.locate p := by
  have hfollow : (fs.put place (.file new)).follow = fs.follow := by
    funext other piece
    exact follow_put_file h other piece
  rw [locate, locate, followAll, followAll, hfollow]

end FileSystem

end GoldenTree.Disk
