import GoldenTree.Proofs.Disk.Directories

/-! Names in folders. A folder that leads to a directory does so whatever files there are; what is
named in it stands in that directory, and there is room for it. -/
namespace GoldenTree.Disk

open Text

/-- A name that stands for itself: no slash cuts it, and it is no dots. -/
structure IsName (name : List Char) : Prop where
  noSlash : '/' ∉ name
  nonempty : name ≠ []
  noDot : name ≠ ['.']
  noDots : name ≠ ['.', '.']

instance (name : List Char) : Decidable (IsName name) :=
  decidable_of_iff ('/' ∉ name ∧ name ≠ [] ∧ name ≠ ['.'] ∧ name ≠ ['.', '.'])
    ⟨fun ⟨hslash, hne, hdot, hdots⟩ => ⟨hslash, hne, hdot, hdots⟩,
      fun h => ⟨h.noSlash, h.nonempty, h.noDot, h.noDots⟩⟩

theorem IsName.head?_ne {name : List Char} (h : IsName name) : name.head? ≠ some '/' :=
  fun hhead => h.noSlash (List.mem_of_mem_head? hhead)

namespace Path

/-- The path of the entry `name` in a folder, whose text goes up to the last slash. -/
structure Names (p : Path) (folder name : List Char) : Prop where
  chars : p.chars = folder ++ name
  folder : folder = [] ∨ ∃ front, folder = front ++ ['/']
  name : IsName name

variable {p : Path} {folder name : List Char}

/-- A name behind the last slash is the last piece. -/
theorem pieces_of_folder (hchars : p.chars = folder ++ name)
    (hfolder : folder = [] ∨ ∃ front, folder = front ++ ['/']) (hname : '/' ∉ name) :
    p.pieces = (splitAt '/' folder).dropLast ++ [name] := by
  rw [Path.pieces, hchars]
  rcases hfolder with rfl | ⟨front, rfl⟩
  · rw [List.nil_append, splitAt_of_not_mem hname]
    rfl
  · rw [List.append_assoc, List.singleton_append, splitAt_append_sep, splitAt_append_sep,
      splitAt_of_not_mem hname]
    simp [splitAt]

theorem Names.pieces (h : p.Names folder name) :
    p.pieces = (splitAt '/' folder).dropLast ++ [name] :=
  pieces_of_folder h.chars h.folder h.name.noSlash

theorem Names.getLast? (h : p.Names folder name) : p.pieces.getLast? = some name := by
  rw [h.pieces]
  simp

theorem Names.namePieces (h : p.Names folder name) : FileSystem.namePieces p = p.pieces := by
  apply FileSystem.namePieces_eq
  rw [h.getLast?]
  simpa using h.name.nonempty

theorem Names.isAbsolute (h : p.Names folder name) (hrel : folder.head? ≠ some '/') :
    p.isAbsolute = false := by
  rw [Path.isAbsolute, h.chars]
  cases folder with
  | nil => simpa using h.name.head?_ne
  | cons c folder => simpa using hrel

/-! Paths with another file name. -/

theorem fileName?_eq_some_iff {n : String} :
    p.fileName? = some n ↔ p.components.getLast? = some (.name n) := by
  unfold fileName?
  split
  · next found hfound => simp [hfound]
  · next hnot => simpa using hnot n

/-- The file name of a path is one of its pieces. -/
theorem isName_of_fileName? {n : String} (h : p.fileName? = some n) : IsName n.toList := by
  have hmem := List.mem_of_getLast? (fileName?_eq_some_iff.mp h)
  have hname : Component.name n ∈ p.pieces.filterMap component? := by
    rcases List.mem_append.mp hmem with hfirst | hname
    · split at hfirst
      · simp at hfirst
      · split at hfirst <;> simp at hfirst
    · exact hname
  obtain ⟨piece, hpiece, hcomponent⟩ := List.mem_filterMap.mp hname
  unfold component? at hcomponent
  split at hcomponent
  · cases hcomponent
  · next hreal =>
    split at hcomponent
    · cases hcomponent
    · next hup =>
      obtain rfl : String.ofList piece = n := by simpa using hcomponent
      obtain ⟨hne, hdot⟩ := not_or.mp hreal
      rw [String.toList_ofList]
      exact ⟨not_mem_of_mem_splitAt hpiece, hne, hdot, hup⟩

theorem exists_parent?_of_fileName? {n : String} (h : p.fileName? = some n) :
    ∃ parent, p.parent? = some parent := by
  unfold parent?
  rw [fileName?_eq_some_iff.mp h]
  split
  · next hnone => simp at hnone
  · next hroot => simp at hroot
  · split <;> exact ⟨_, rfl⟩

theorem isAbsolute_of_isName {n : String} (h : IsName n.toList) :
    (⟨n⟩ : Path).isAbsolute = false := decide_eq_false h.head?_ne

/-- What stands before a name that is joined to the path. -/
def asFolder (p : Path) : List Char :=
  if p.chars = [] ∨ p.chars.getLast? = some '/' then p.chars else p.chars ++ ['/']

theorem chars_join {q : Path} (h : q.isAbsolute = false) :
    (p.join q).chars = p.asFolder ++ q.chars := by
  unfold join asFolder
  rw [h, if_neg (by decide)]
  by_cases hend : p.chars = [] ∨ p.chars.getLast? = some '/'
  · rw [if_pos hend, if_pos hend]
    simp [Path.chars]
  · rw [if_neg hend, if_neg hend]
    simp [Path.chars]

theorem asFolder_cases (p : Path) : p.asFolder = [] ∨ ∃ front, p.asFolder = front ++ ['/'] := by
  unfold asFolder
  by_cases hend : p.chars = [] ∨ p.chars.getLast? = some '/'
  · rw [if_pos hend]
    exact hend.imp_right List.getLast?_eq_some_iff.mp
  · rw [if_neg hend]
    exact .inr ⟨_, rfl⟩

theorem names_join {n : String} (h : IsName n.toList) :
    (p.join ⟨n⟩).Names p.asFolder n.toList :=
  ⟨chars_join (isAbsolute_of_isName h), asFolder_cases p, h⟩

theorem withFileName_eq {n : String} {parent : Path} (h : p.fileName? = some n)
    (hparent : p.parent? = some parent) (name : String) :
    p.withFileName name = parent.join ⟨name⟩ := by
  rw [withFileName, h, hparent]

end Path

namespace FileSystem

variable {fs fs' : FileSystem} {p q : Path} {folder name : List Char} {place directory : Place}
  {rest : List (List Char)}

/-- The folder leads to a directory, and whatever path it begins with may be followed. -/
structure IsFolder (fs : FileSystem) (folder : List Char) (directory : Place) : Prop where
  leads : (splitAt '/' folder).dropLast.foldlM fs.follow [] = .ok directory
  isDirectory : fs.get? directory = some .directory
  relative : folder.head? ≠ some '/'
  usable : ∀ q : Path, q.chars ≠ [] → q.pieces <+: (splitAt '/' folder).dropLast → q.Usable

theorem IsFolder.mono (h : IsFolder fs folder directory) (hk : KeepsDirectories fs fs') :
    IsFolder fs' folder directory :=
  ⟨foldlM_follow_mono hk h.leads, hk _ h.isDirectory, h.relative, h.usable⟩

/-- Where something is in a folder depends on the directories alone, and so does why nothing can
be there. -/
theorem IsFolder.locate_eq (h : IsFolder fs folder directory) (hk : KeepsDirectories fs fs')
    (hp : p.Names folder name) : fs'.locate p = fs.locate p := by
  have h' := h.mono hk
  have hname : fs'.follow directory name = fs.follow directory name := by
    rw [follow, follow, h.isDirectory, h'.isDirectory]
  have hfold : p.pieces.foldlM fs'.follow [] = p.pieces.foldlM fs.follow [] := by
    rw [hp.pieces, List.foldlM_append, List.foldlM_append, h.leads, h'.leads]
    simp only [bind, Except.bind, List.foldlM_cons, List.foldlM_nil, hname]
  rw [locate, locate, followAll, followAll, hfold]

/-- What is named in a folder has a directory as its parent. -/
theorem IsFolder.isDirectory_parent (h : IsFolder fs folder directory) (hp : p.Names folder name)
    (hparent : p.parent? = some q) : q.text = "" ∨ fs.isDirectory q = true := by
  rcases Path.parent?_isPrefix hparent (hp.isAbsolute h.relative) with
    hempty | hhere | ⟨hne, -, rest, hrest, hpieces⟩
  · exact .inl hempty
  · exact .inr (isDirectory_here hhere)
  · right
    obtain ⟨front, last, rfl⟩ := (List.eq_nil_or_concat' rest).resolve_left hrest
    rw [hp.namePieces, hp.pieces, ← List.append_assoc] at hpieces
    obtain ⟨hfront, -⟩ := List.append_inj' hpieces rfl
    have hleads : (q.pieces ++ (front ++ [[]])).foldlM fs.follow [] = .ok directory := by
      rw [← List.append_assoc, ← hfront]
      exact foldlM_append_eq_ok_iff.mpr
        ⟨directory, h.leads, foldlM_empties (by simp) h.isDirectory⟩
    exact isDirectory_of_append (h.usable q hne ⟨front, hfront.symm⟩) (by simp) hleads

/-! Where folders are. -/

theorem chars_isPrefix (h : q.pieces <+: p.pieces) : q.chars <+: p.chars := by
  rw [← join_splitAt '/' q.chars, ← join_splitAt '/' p.chars]
  exact join_isPrefix (splitAt_ne_nil _ _) h

theorem usable_of_pieces (hp : p.Usable) (hne : q.chars ≠ []) (h : q.pieces <+: p.pieces) :
    q.Usable := usable_of_isPrefix hp hne (chars_isPrefix h)

/-- Where one name of a folder is reached, the folder is there for all of them. -/
theorem isFolder_of_names (h : p.Names folder name) (hlocate : fs.locate p = .ok place) :
    ∃ directory, IsFolder fs folder directory ∧ place = directory ++ [String.ofList name] := by
  obtain ⟨husable, hfold⟩ := followAll_eq_ok_iff.mp hlocate
  rw [h.pieces] at hfold
  obtain ⟨directory, hleads, hlast⟩ := foldlM_append_eq_ok_iff.mp hfold
  obtain ⟨mid, hmid, hdone⟩ := foldlM_cons_eq_ok_iff.mp hlast
  obtain rfl := Except.ok.inj hdone
  have hdirectory := follow_directory hmid
  refine ⟨directory, ⟨hleads, hdirectory, ?_, fun q hne hq => ?_⟩, ?_⟩
  · have hrel := husable.relative
    rw [Path.isAbsolute, h.chars] at hrel
    cases folder with
    | nil => simp
    | cons c folder => simpa using hrel
  · refine usable_of_pieces husable hne ?_
    rw [h.pieces]
    exact hq.trans (List.prefix_append _ _)
  · simp only [follow, hdirectory, h.name.nonempty, h.name.noDot, h.name.noDots, or_self,
      if_false] at hmid
    split at hmid
    · cases hmid
    · exact (Except.ok.inj hmid).symm

/-- Nothing but slashes leads nowhere else. -/
theorem eq_of_foldlM_empties (hempty : ∀ piece ∈ rest, piece = [])
    (h : rest.foldlM fs.follow place = .ok directory) : directory = place := by
  induction rest generalizing place with
  | nil => exact (Except.ok.inj h).symm
  | cons piece rest ih =>
    obtain ⟨rfl, hrest⟩ := List.forall_mem_cons.mp hempty
    obtain ⟨mid, hfirst, h⟩ := foldlM_cons_eq_ok_iff.mp h
    have hsame : fs.follow place [] = .ok place := by simp [follow, follow_directory hfirst]
    obtain rfl := Except.ok.inj (hsame.symm.trans hfirst)
    exact ih hrest h

/-- As a folder, a path has the pieces that it has, up to slashes at its end. -/
theorem pieces_asFolder (p : Path) : ∃ empties, (∀ piece ∈ empties, piece = []) ∧
    p.pieces = (splitAt '/' p.asFolder).dropLast ++ empties := by
  unfold Path.asFolder
  by_cases hend : p.chars = [] ∨ p.chars.getLast? = some '/'
  · rw [if_pos hend]
    refine ⟨[[]], by simp, ?_⟩
    rcases hend with hempty | hslash
    · simp [Path.pieces, hempty, splitAt]
    · obtain ⟨front, hfront⟩ := List.getLast?_eq_some_iff.mp hslash
      rw [Path.pieces, hfront, splitAt_append_sep]
      simp [splitAt]
  · rw [if_neg hend]
    refine ⟨[], by simp, ?_⟩
    rw [splitAt_append_sep]
    simp [Path.pieces, splitAt]

/-- A directory is a folder. -/
theorem isFolder_asFolder (h : p.text = "" ∨ fs.isDirectory p = true) :
    ∃ directory, IsFolder fs p.asFolder directory := by
  rcases h with hempty | hdirectory
  · have hfolder : p.asFolder = [] := by simp [Path.asFolder, Path.chars, hempty]
    rw [hfolder]
    exact ⟨[], rfl, rfl, by simp,
      fun q _ hq => absurd (List.prefix_nil.mp hq) (splitAt_ne_nil _ _)⟩
  · obtain ⟨directory, hfind⟩ := isDirectory_iff.mp hdirectory
    obtain ⟨hlocate, hentry⟩ := find_eq_ok_iff.mp hfind
    obtain ⟨husable, hfold⟩ := followAll_eq_ok_iff.mp hlocate
    obtain ⟨empties, hempties, hpieces⟩ := pieces_asFolder p
    rw [hpieces] at hfold
    obtain ⟨mid, hleads, hrest⟩ := foldlM_append_eq_ok_iff.mp hfold
    obtain rfl := eq_of_foldlM_empties hempties hrest
    refine ⟨directory, hleads, hentry, ?_, fun q hne hq => ?_⟩
    · obtain ⟨c, rest, hchars⟩ := List.exists_cons_of_ne_nil husable.nonempty
      have hrel := husable.relative
      rw [Path.isAbsolute, hchars] at hrel
      unfold Path.asFolder
      split <;> simpa [hchars] using hrel
    · refine usable_of_pieces husable hne ?_
      rw [hpieces]
      exact hq.trans (List.prefix_append _ _)

/-- Where a path is reached, its parent is a folder. -/
theorem isFolder_of_locate (hparent : p.parent? = some q) (h : fs.locate p = .ok place) :
    ∃ directory, IsFolder fs q.asFolder directory := by
  obtain ⟨husable, hfold⟩ := followAll_eq_ok_iff.mp h
  obtain ⟨empties, hpieces, -⟩ := pieces_eq_namePieces p
  rw [hpieces] at hfold
  obtain ⟨mid, hmid, -⟩ := foldlM_append_eq_ok_iff.mp hfold
  exact isFolder_asFolder
    (FileSystem.isDirectory_parent hparent (followAll_eq_ok_iff.mpr ⟨husable, hmid⟩))

end FileSystem

end GoldenTree.Disk
