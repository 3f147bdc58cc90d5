import GoldenTree.Proofs.Case.Listing

/-! The ids of listed sources. An id is the path with dollar signs for slashes, so that it leads back
to its source, and belongs to no other, where no name holds a dollar sign. -/
namespace GoldenTree

open Disk FileSystem Path Text

section Names

variable {names : List String} (h : ∀ n ∈ names, IsName n.toList)
include h

/-- The id of a path of names. -/
theorem caseId_intercalate : caseId ⟨"/".intercalate names⟩ = "$".intercalate names := by
  have htext : (names.map Component.name).map Component.text = names := by
    rw [List.map_map]
    exact List.map_id names
  rw [caseId, components_intercalate h, htext]

/-- In the id of a path, dollar signs stand for its slashes. -/
theorem toList_caseId : (caseId ⟨"/".intercalate names⟩).toList =
    replaceChar '/' ['$'] (⟨"/".intercalate names⟩ : Path).chars := by
  rw [caseId_intercalate h, chars, toList_intercalate, toList_intercalate]
  refine (replaceChar_join fun piece hpiece => ?_).symm
  obtain ⟨name, hname, rfl⟩ := List.mem_map.mp hpiece
  exact (h name hname).noSlash

/-- Without a dollar sign, the id of a path leads back to it. -/
theorem casePath_caseId (hdollar : '$' ∉ (⟨"/".intercalate names⟩ : Path).chars) :
    casePath (caseId ⟨"/".intercalate names⟩) = ⟨"/".intercalate names⟩ := by
  by_cases hne : names = []
  · subst hne
    rfl
  · have hsplit : splitAt '$' (caseId ⟨"/".intercalate names⟩).toList =
        names.map String.toList := by
      rw [caseId_intercalate h, toList_intercalate]
      refine splitAt_join (by simpa using hne) fun piece hpiece hmem => hdollar ?_
      rw [chars, toList_intercalate]
      exact mem_join_of_mem hpiece hmem
    have hback : (names.map String.toList).map String.ofList = names := by simp
    rw [casePath, hsplit, hback, ofParts_eq h hne]

end Names

/-- No id leads to a path with a dollar sign. -/
theorem dollar_not_mem_casePath (id : String) : '$' ∉ (casePath id).chars := by
  intro h
  rcases mem_chars_ofParts h with hslash | ⟨part, hpart, hmem⟩
  · cases hslash
  · obtain ⟨piece, hpiece, rfl⟩ := List.mem_map.mp hpart
    rw [String.toList_ofList] at hmem
    exact not_mem_of_mem_splitAt hpiece hmem

/-- What has a dollar sign in one of its names is no path that an id leads to. -/
theorem components_casePath_ne {names : List String} (h : ∀ n ∈ names, IsName n.toList)
    (hdollar : '$' ∈ (⟨"/".intercalate names⟩ : Path).chars) (id : String) :
    (casePath id).components ≠ (⟨"/".intercalate names⟩ : Path).components := by
  intro hsame
  rw [chars, toList_intercalate] at hdollar
  rcases mem_join hdollar with hslash | ⟨piece, hpiece, hmem⟩
  · cases hslash
  · obtain ⟨name, hname, rfl⟩ := List.mem_map.mp hpiece
    refine dollar_not_mem_casePath id (mem_chars_of_name ?_ hmem)
    rw [hsame, components_intercalate h]
    exact List.mem_map_of_mem hname

namespace Fixtures

variable {f : Fixtures} {fs : FileSystem} {listed : List Path} {p : Path}

/-- A listed path consists of the names that lead to its source. -/
theorem exists_names_of_list (hnamed : fs.WellNamed) (h : f.list fs = .ok listed)
    (hp : p ∈ listed) : ∃ names, (∀ n ∈ names, IsName n.toList) ∧ p = ⟨"/".intercalate names⟩ := by
  unfold list at h
  split at h
  · split at h
    · cases h
    · next walked hwalk =>
      obtain ⟨rfl, -, -⟩ := distinctSources_eq_ok h
      obtain ⟨place, entry, inside, -, rfl, -, hinside⟩ := walk_eq_ok hnamed hwalk
      obtain ⟨w, hw, rfl⟩ := List.mem_map.mp hp
      refine ⟨w.names, ?_, rfl⟩
      rcases List.mem_cons.mp (List.mem_filter.mp hw).1 with rfl | hmem
      · simp
      · exact (hinside w hmem).2.names
  · cases h

/-- The id of a listed source leads back to its path if no name in it holds a dollar sign, and to
another path otherwise. Two sources have the same id just if their paths are the same up to dollar
signs for slashes. -/
theorem list_ids (f : Fixtures) (fs : FileSystem) (hnamed : fs.WellNamed)
    (h : f.list fs = .ok listed) :
    (∀ p ∈ listed, ('$' ∉ p.chars → casePath (caseId p) = p) ∧
      ('$' ∈ p.chars → (casePath (caseId p)).components ≠ p.components)) ∧
    (∀ p ∈ listed, ∀ q ∈ listed, caseId p = caseId q ↔
      replaceChar '/' ['$'] p.chars = replaceChar '/' ['$'] q.chars) ∧
    ∀ p ∈ listed, ∀ q ∈ listed, '$' ∉ p.chars → '$' ∉ q.chars → caseId p = caseId q → p = q := by
  have hback : ∀ p ∈ listed, '$' ∉ p.chars → casePath (caseId p) = p := by
    intro p hp hdollar
    obtain ⟨names, hnames, rfl⟩ := exists_names_of_list hnamed h hp
    exact casePath_caseId hnames hdollar
  have hid : ∀ p ∈ listed, (caseId p).toList = replaceChar '/' ['$'] p.chars := by
    intro p hp
    obtain ⟨names, hnames, rfl⟩ := exists_names_of_list hnamed h hp
    exact toList_caseId hnames
  refine ⟨fun p hp => ⟨hback p hp, fun hdollar => ?_⟩, fun p hp q hq => ?_,
    fun p hp q hq hdollar hdollar' hsame => ?_⟩
  · obtain ⟨names, hnames, rfl⟩ := exists_names_of_list hnamed h hp
    exact components_casePath_ne hnames hdollar _
  · rw [← hid p hp, ← hid q hq, String.toList_inj]
  · rw [← hback p hp hdollar, hsame, hback q hq hdollar']

/-- A source in a directory, and one whose name has a dollar sign where the path of the first has a
slash. -/
def dollarDisk : FileSystem :=
  ⟨[(["t"], .directory), (["t", "a"], .directory), (["t", "a", "b.kt"], .file .empty),
    (["t", "a$b.kt"], .file .empty)]⟩

theorem wellNamed_dollarDisk : dollarDisk.WellNamed := by decide

theorem list_dollarDisk :
    (⟨⟨"t"⟩⟩ : Fixtures).list dollarDisk = .ok [⟨"a/b.kt"⟩, ⟨"a$b.kt"⟩] := by
  have hexists : dollarDisk.pathExists ⟨"t"⟩ = true := by decide +kernel
  have hfind : dollarDisk.find ⟨"t"⟩ = .ok (["t"], .directory) := by decide +kernel
  have hbelow : dollarDisk.below ["t"] = [(["a"], .directory), (["a", "b.kt"], .file .empty),
      (["a$b.kt"], .file .empty)] :=
    List.mergeSort_of_pairwise (by decide +kernel)
  rw [list, if_pos hexists, walk, hfind]
  dsimp only
  rw [hbelow]
  decide +kernel

theorem list_ids_dollarDisk :
    dollarDisk.WellNamed ∧
      (⟨⟨"t"⟩⟩ : Fixtures).list dollarDisk = .ok [⟨"a/b.kt"⟩, ⟨"a$b.kt"⟩] ∧
      casePath (caseId ⟨"a/b.kt"⟩) = ⟨"a/b.kt"⟩ ∧
      (casePath (caseId ⟨"a$b.kt"⟩)).components ≠ (⟨"a$b.kt"⟩ : Path).components ∧
      caseId ⟨"a/b.kt"⟩ = caseId ⟨"a$b.kt"⟩ := by
  obtain ⟨hback, hids, -⟩ := list_ids ⟨⟨"t"⟩⟩ dollarDisk wellNamed_dollarDisk list_dollarDisk
  refine ⟨wellNamed_dollarDisk, list_dollarDisk, (hback ⟨"a/b.kt"⟩ (by simp)).1 (by decide),
    (hback ⟨"a$b.kt"⟩ (by simp)).2 (by decide), ?_⟩
  exact (hids ⟨"a/b.kt"⟩ (by simp) ⟨"a$b.kt"⟩ (by simp)).mpr (by decide)

/-- Listed sources are not told apart by their ids, and their ids do not lead back to them. -/
theorem list_accepts_same_id : ¬ ∀ (f : Fixtures) (fs : FileSystem) (listed : List Path),
    fs.WellNamed → f.list fs = .ok listed →
      (∀ p ∈ listed, (casePath (caseId p)).components = p.components) ∨
        listed.Pairwise fun p q => caseId p ≠ caseId q := by
  intro hids
  rcases hids ⟨⟨"t"⟩⟩ dollarDisk _ wellNamed_dollarDisk list_dollarDisk with hback | hdistinct
  · exact absurd (hback ⟨"a$b.kt"⟩ (by simp)) (by decide +kernel)
  · refine (List.pairwise_cons.mp hdistinct).1 ⟨"a$b.kt"⟩ (by simp) ?_
    decide +kernel

end Fixtures

end GoldenTree
