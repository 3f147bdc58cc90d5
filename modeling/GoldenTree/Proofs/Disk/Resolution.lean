import GoldenTree.Disk.FileSystem
import GoldenTree.Proofs.Except

/-! Where a path leads. Only directories are passed on the way, so that a path that leads somewhere
leads there still as long as no directory is lost. -/
namespace GoldenTree.Disk

/-- A path that could lead somewhere below the working directory. -/
structure Path.Usable (p : Path) : Prop where
  noNul : p.chars.contains '\x00' = false
  short : p.text.utf8ByteSize < FileSystem.pathLimit
  nonempty : p.chars ≠ []
  relative : p.isAbsolute = false

namespace FileSystem

variable {fs fs' : FileSystem} {p : Path} {place other : Place} {piece : List Char}
  {pieces : List (List Char)} {entry : Entry} {bytes : ByteArray}

theorem follow_directory (h : fs.follow place piece = .ok other) :
    fs.get? place = some .directory := by
  unfold follow at h
  split at h
  · cases h
  · cases h
  · assumption

theorem foldlM_append_eq_ok_iff {xs ys : List (List Char)} :
    (xs ++ ys).foldlM fs.follow place = .ok other ↔
      ∃ mid, xs.foldlM fs.follow place = .ok mid ∧ ys.foldlM fs.follow mid = .ok other := by
  rw [List.foldlM_append, bind_eq_ok]

theorem foldlM_cons_eq_ok_iff :
    (piece :: pieces).foldlM fs.follow place = .ok other ↔
      ∃ mid, fs.follow place piece = .ok mid ∧ pieces.foldlM fs.follow mid = .ok other := by
  rw [List.foldlM_cons, bind_eq_ok]

theorem followAll_eq_ok_iff : fs.followAll p pieces = .ok place ↔
    p.Usable ∧ pieces.foldlM fs.follow [] = .ok place := by
  constructor
  · intro h
    unfold followAll at h
    split at h
    · cases h
    · next hnul =>
      split at h
      · cases h
      · next hlimit =>
        split at h
        · cases h
        · next hstart =>
          obtain ⟨hne, hrel⟩ := not_or.mp hstart
          exact ⟨⟨by simpa using hnul, Nat.lt_of_not_le hlimit, hne, by simpa using hrel⟩, h⟩
  · rintro ⟨⟨hnul, hshort, hne, hrel⟩, h⟩
    rw [followAll, if_neg (by simpa using hnul), if_neg (Nat.not_le.mpr hshort),
      if_neg (by simp [hne, hrel])]
    exact h

theorem find_eq_ok_iff : fs.find p = .ok (place, entry) ↔
    fs.locate p = .ok place ∧ fs.get? place = some entry := by
  rw [find, bind_eq_ok]
  constructor
  · rintro ⟨q, hq, h⟩
    split at h
    · next found hfound =>
      obtain ⟨rfl, rfl⟩ := Prod.mk.inj (Except.ok.inj h)
      exact ⟨hq, hfound⟩
    · cases h
  · rintro ⟨hplace, hentry⟩
    exact ⟨place, hplace, by rw [hentry]⟩

theorem pathExists_iff :
    fs.pathExists p = true ↔ ∃ place entry, fs.find p = .ok (place, entry) := by
  unfold pathExists
  cases h : fs.find p with
  | error e => simp [Except.isOk, Except.toBool]
  | ok found => exact ⟨fun _ => ⟨found.1, found.2, rfl⟩, fun _ => rfl⟩

theorem isDirectory_iff :
    fs.isDirectory p = true ↔ ∃ place, fs.find p = .ok (place, .directory) := by
  unfold isDirectory
  cases h : fs.find p with
  | error e => simp
  | ok found =>
    obtain ⟨place, entry⟩ := found
    cases entry <;> simp

theorem read_eq_ok_iff : fs.read p = .ok bytes ↔ ∃ place, fs.find p = .ok (place, .file bytes) := by
  rw [read, bind_eq_ok]
  constructor
  · rintro ⟨⟨place, entry⟩, hfind, h⟩
    cases entry with
    | directory => cases h
    | file found =>
      obtain rfl := Except.ok.inj h
      exact ⟨place, hfind⟩
  · rintro ⟨place, hfind⟩
    exact ⟨_, hfind, rfl⟩

theorem readText_eq_ok_iff {text : String} : fs.readText p = .ok text ↔
    ∃ bytes, fs.read p = .ok bytes ∧ Text.ofUtf8? bytes = some text := by
  rw [readText, bind_eq_ok]
  refine exists_congr fun bytes => and_congr_right fun _ => ?_
  cases Text.ofUtf8? bytes <;> simp

/-- Every directory of the first file system is one of the second. -/
def KeepsDirectories (fs fs' : FileSystem) : Prop :=
  ∀ place, fs.get? place = some .directory → fs'.get? place = some .directory

theorem follow_mono (hk : KeepsDirectories fs fs') (h : fs.follow place piece = .ok other) :
    fs'.follow place piece = .ok other := by
  have hdir := follow_directory h
  have hdir' := hk place hdir
  simp only [follow, hdir] at h
  simp only [follow, hdir']
  exact h

theorem foldlM_follow_mono (hk : KeepsDirectories fs fs')
    (h : pieces.foldlM fs.follow place = .ok other) :
    pieces.foldlM fs'.follow place = .ok other := by
  induction pieces generalizing place with
  | nil => exact h
  | cons piece pieces ih =>
    obtain ⟨mid, hfirst, hrest⟩ := foldlM_cons_eq_ok_iff.mp h
    exact foldlM_cons_eq_ok_iff.mpr ⟨mid, follow_mono hk hfirst, ih hrest⟩

theorem followAll_mono (hk : KeepsDirectories fs fs') (h : fs.followAll p pieces = .ok place) :
    fs'.followAll p pieces = .ok place := by
  obtain ⟨husable, hfold⟩ := followAll_eq_ok_iff.mp h
  exact followAll_eq_ok_iff.mpr ⟨husable, foldlM_follow_mono hk hfold⟩

theorem locate_mono (hk : KeepsDirectories fs fs') (h : fs.locate p = .ok place) :
    fs'.locate p = .ok place := followAll_mono hk h

/-- A place where there is no directory is no working directory either. -/
theorem ne_nil_of_get? (h : fs.get? place ≠ some .directory) : place ≠ [] := by
  rintro rfl
  exact h (get?_nil fs)

theorem keepsDirectories_put (h : fs.get? place ≠ some .directory) :
    KeepsDirectories fs (fs.put place entry) := by
  intro q hq
  have hne : q ≠ place := by
    rintro rfl
    exact h hq
  rw [get?_put_ne fs entry hne, hq]

/-! Writing. -/

theorem namePieces_eq (h : p.pieces.getLast? ≠ some []) : namePieces p = p.pieces := by
  unfold namePieces
  rw [List.getLast?_eq_head?_reverse] at h
  cases hr : p.pieces.reverse with
  | nil => rw [List.dropWhile_nil, ← hr, List.reverse_reverse]
  | cons last front =>
    rw [hr] at h
    have hlast : ¬ last.isEmpty = true := by simpa using h
    rw [List.dropWhile_cons_of_neg hlast, ← hr, List.reverse_reverse]

theorem target_eq_ok_iff : fs.target p = .ok place ↔
    fs.followAll p (namePieces p) = .ok place ∧
      ¬(p.pieces.getLast? = some [] ∨ endsInDots (namePieces p) = true ∨
        fs.get? place = some .directory) := by
  rw [target, bind_eq_ok]
  constructor
  · rintro ⟨q, hq, h⟩
    split at h
    · cases h
    · next hname =>
      obtain rfl := Except.ok.inj h
      exact ⟨hq, hname⟩
  · rintro ⟨hfollow, hname⟩
    refine ⟨place, hfollow, ?_⟩
    rw [if_neg hname]
    rfl

theorem write_eq_ok_iff : fs.write p bytes = .ok fs' ↔
    ∃ place, fs.target p = .ok place ∧ fs' = fs.put place (.file bytes) := by
  simp only [write, bind_eq_ok, pure_eq_ok, eq_comm (a := fs')]

theorem touch_eq_ok_iff : fs.touch p = .ok fs' ↔ ∃ place, fs.target p = .ok place ∧
    fs' = if (fs.get? place).isSome then fs else fs.put place (.file .empty) := by
  rw [touch, bind_eq_ok]
  refine exists_congr fun place => and_congr_right fun _ => ?_
  cases fs.get? place with
  | none => exact pure_eq_ok.trans eq_comm
  | some entry => exact pure_eq_ok.trans eq_comm

end FileSystem

end GoldenTree.Disk
