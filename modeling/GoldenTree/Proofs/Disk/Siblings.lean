import GoldenTree.Proofs.Disk.Folder

/-! Files that stand beside each other: their paths share all but the last name, so one directory
holds them all, and writing one leaves the others as they were. -/
namespace GoldenTree.Disk

open Text

namespace FileSystem

variable {fs fs' : FileSystem} {p q : Path} {folder name other : List Char}
  {place place' : Place} {bytes : ByteArray}

/-- Different names are at different places. -/
theorem place_ne_of_names (hp : p.Names folder name) (hq : q.Names folder other)
    (hne : name ≠ other) (hplace : fs.locate p = .ok place) (hplace' : fs.locate q = .ok place') :
    place ≠ place' := by
  obtain ⟨directory, hfolder, rfl⟩ := isFolder_of_names hp hplace
  obtain ⟨directory', hfolder', rfl⟩ := isFolder_of_names hq hplace'
  obtain rfl := Except.ok.inj (hfolder.leads.symm.trans hfolder'.leads)
  simpa [String.ofList_inj] using hne

/-- What has a name can be written unless it is a directory. -/
theorem target_names (h : p.Names folder name) : fs.target p =
    fs.locate p >>= fun place =>
      if fs.get? place = some .directory then .error .isDirectory else .ok place := by
  have hdots : endsInDots (namePieces p) = false := by
    rw [h.namePieces, endsInDots, h.getLast?]
    simp [h.name.noDot, h.name.noDots]
  have hlast : p.pieces.getLast? ≠ some [] := by
    rw [h.getLast?]
    simpa using h.name.nonempty
  rw [target, hdots, h.namePieces, locate]
  simp only [hlast, false_or, Bool.false_eq_true]
  rfl

theorem target_names_iff (h : p.Names folder name) :
    fs.target p = .ok place ↔ fs.locate p = .ok place ∧ fs.get? place ≠ some .directory := by
  rw [target_names h, bind_eq_ok]
  constructor
  · rintro ⟨found, hlocate, hfound⟩
    split at hfound
    · cases hfound
    · next hfree =>
      obtain rfl := Except.ok.inj hfound
      exact ⟨hlocate, hfree⟩
  · rintro ⟨hlocate, hfree⟩
    exact ⟨place, hlocate, if_neg hfree⟩

/-! Writing one file. -/

theorem get?_put (fs : FileSystem) (hne : place ≠ []) (entry : Entry) (other : Place) :
    (fs.put place entry).get? other = if other = place then some entry else fs.get? other := by
  by_cases h : other = place
  · rw [if_pos h, h, get?_put_self fs entry hne]
  · rw [if_neg h, get?_put_ne fs entry h]

theorem file?_put (hne : place ≠ []) (other : Place) :
    (fs.put place (.file bytes)).file? other =
      if other = place then some bytes else fs.file? other := by
  by_cases h : other = place
  · rw [file?, get?_put fs hne, if_pos h, if_pos h]
  · rw [file?, get?_put fs hne, if_neg h, if_neg h, file?]

theorem put_put (fs : FileSystem) (place : Place) (entry : Entry) :
    (fs.put place entry).put place entry = fs.put place entry := by
  simp [put, List.filter_filter]

theorem locate_put_iff (h : fs.get? place ≠ some .directory) :
    (fs.put place (.file bytes)).locate p = .ok place' ↔ fs.locate p = .ok place' := by
  constructor
  · refine locate_mono fun other hdir => ?_
    have hne : other ≠ place := by
      rintro rfl
      rw [get?_put_self fs _ (ne_nil_of_get? h)] at hdir
      cases hdir
    rwa [get?_put_ne fs _ hne] at hdir
  · exact locate_mono (keepsDirectories_put h)

theorem read_eq_ok_iff_file? : fs.read p = .ok bytes ↔
    ∃ place, fs.locate p = .ok place ∧ fs.file? place = some bytes := by
  simp only [read_eq_ok_iff, find_eq_ok_iff, file?_eq_some_iff]

theorem read_put_self (h : fs.get? place ≠ some .directory) (hplace : fs.locate p = .ok place) :
    (fs.put place (.file bytes)).read p = .ok bytes :=
  read_eq_ok_iff_file?.mpr ⟨place, (locate_put_iff h).mpr hplace,
    by rw [file?_put (ne_nil_of_get? h), if_pos rfl]⟩

/-- The path reads as before. -/
def Keeps (fs fs' : FileSystem) (p : Path) : Prop :=
  ∀ bytes, fs'.read p = .ok bytes ↔ fs.read p = .ok bytes

theorem Keeps.refl (fs : FileSystem) (p : Path) : Keeps fs fs p := fun _ => Iff.rfl

theorem Keeps.readText {text : String} (hkeeps : Keeps fs fs' p) (h : fs.readText p = .ok text) :
    fs'.readText p = .ok text := by
  obtain ⟨bytes, hread, hutf8⟩ := readText_eq_ok_iff.mp h
  exact readText_eq_ok_iff.mpr ⟨bytes, (hkeeps bytes).mpr hread, hutf8⟩

/-- A file beside the one that is written keeps its content, or stays missing. -/
theorem keeps_put_of_names (hp : p.Names folder name) (hq : q.Names folder other)
    (hne : name ≠ other) (h : fs.get? place ≠ some .directory) (hplace : fs.locate q = .ok place) :
    Keeps fs (fs.put place (.file bytes)) p := by
  intro bytes'
  simp only [read_eq_ok_iff_file?, locate_put_iff h]
  refine exists_congr fun place' => and_congr_right fun hplace' => ?_
  rw [file?_put (ne_nil_of_get? h), if_neg (place_ne_of_names hp hq hne hplace' hplace)]

theorem write_names_iff (hp : p.Names folder name) : fs.write p bytes = .ok fs' ↔
    ∃ place, fs.locate p = .ok place ∧ fs.get? place ≠ some .directory ∧
      fs' = fs.put place (.file bytes) := by
  simp only [write_eq_ok_iff, target_names_iff hp, and_assoc]

theorem read_write_self (hp : p.Names folder name) (h : fs.write p bytes = .ok fs') :
    fs'.read p = .ok bytes := by
  obtain ⟨place, hplace, hfree, rfl⟩ := (write_names_iff hp).mp h
  exact read_put_self hfree hplace

theorem keeps_write_of_names (hp : p.Names folder name) (hq : q.Names folder other)
    (hne : name ≠ other) (h : fs.write q bytes = .ok fs') : Keeps fs fs' p := by
  obtain ⟨place, hplace, hfree, rfl⟩ := (write_names_iff hq).mp h
  exact keeps_put_of_names hp hq hne hfree hplace

/-- Writing the same again changes nothing. -/
theorem write_again (hp : p.Names folder name) (h : fs.write p bytes = .ok fs') :
    fs'.write p bytes = .ok fs' := by
  obtain ⟨place, hplace, hfree, rfl⟩ := (write_names_iff hp).mp h
  refine (write_names_iff hp).mpr ⟨place, (locate_put_iff hfree).mpr hplace, ?_, ?_⟩
  · rw [get?_put_self fs _ (ne_nil_of_get? hfree)]
    simp
  · rw [put_put]

/-- A file that is there is left alone; one that is missing is written empty. -/
theorem touch_cases (hp : p.Names folder name) (h : fs.touch p = .ok fs') :
    (fs' = fs ∧ ∃ bytes, fs.read p = .ok bytes) ∨
      (fs.write p .empty = .ok fs' ∧ ∀ bytes, fs.read p ≠ .ok bytes) := by
  obtain ⟨place, htarget, rfl⟩ := touch_eq_ok_iff.mp h
  obtain ⟨hplace, hfree⟩ := (target_names_iff hp).mp htarget
  cases hentry : fs.get? place with
  | none =>
    refine .inr ⟨(write_names_iff hp).mpr ⟨place, hplace, hfree, by simp⟩, ?_⟩
    intro bytes hread
    obtain ⟨place', hplace', hfile⟩ := read_eq_ok_iff_file?.mp hread
    obtain rfl := Except.ok.inj (hplace.symm.trans hplace')
    rw [file?_eq_some_iff, hentry] at hfile
    cases hfile
  | some entry =>
    cases entry with
    | directory => exact absurd hentry hfree
    | file bytes =>
      exact .inl ⟨by simp, bytes,
        read_eq_ok_iff_file?.mpr ⟨place, hplace, file?_eq_some_iff.mpr hentry⟩⟩

theorem touch_again (hp : p.Names folder name) (h : fs.touch p = .ok fs') :
    fs'.touch p = .ok fs' := by
  rcases touch_cases hp h with ⟨rfl, -⟩ | ⟨hwrite, -⟩
  · exact h
  · obtain ⟨place, hplace, hfree, rfl⟩ := (write_names_iff hp).mp hwrite
    have hentry := get?_put_self fs (.file .empty) (ne_nil_of_get? hfree)
    refine touch_eq_ok_iff.mpr ⟨place, (target_names_iff hp).mpr
      ⟨(locate_put_iff hfree).mpr hplace, ?_⟩, ?_⟩
    · simp [hentry]
    · simp [hentry]

theorem keeps_touch_of_names (hp : p.Names folder name) (hq : q.Names folder other)
    (hne : name ≠ other) (h : fs.touch q = .ok fs') : Keeps fs fs' p := by
  rcases touch_cases hq h with ⟨rfl, -⟩ | ⟨hwrite, -⟩
  · exact .refl fs' p
  · exact keeps_write_of_names hp hq hne hwrite

end FileSystem

end GoldenTree.Disk
