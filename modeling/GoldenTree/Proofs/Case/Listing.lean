import GoldenTree.Proofs.Case.Frame
import GoldenTree.Proofs.Disk.Walk

/-! Which files two listed sources share. Listing refuses sources with the same golden file, so that
a golden file can only be shared as the reference dump of another source. -/
namespace GoldenTree

open Disk FileSystem Path

namespace Disk.Path

theorem splitName_eq {name ending : List Char} (h : (splitName name).2 = some ending) :
    name = (splitName name).1 ++ '.' :: ending := by
  unfold splitName at h ⊢
  dsimp only at h ⊢
  split at h
  · cases h
  · next hdot =>
    rw [if_neg hdot]
    obtain rfl := Option.some.inj h
    obtain ⟨hlength, -⟩ := not_or.mp hdot
    have hcut := (List.takeWhile_append_dropWhile
      (p := fun c : Char => decide (c ≠ '.')) (l := name.reverse)).symm
    have hstop := List.head?_dropWhile_not (fun c : Char => decide (c ≠ '.')) name.reverse
    generalize name.reverse.takeWhile (fun c => decide (c ≠ '.')) = behind at *
    generalize name.reverse.dropWhile (fun c => decide (c ≠ '.')) = rest at *
    cases rest with
    | nil =>
      rw [List.append_nil] at hcut
      exact absurd (by rw [← hcut, List.length_reverse]) hlength
    | cons c rest =>
      obtain rfl : c = '.' := by simpa using hstop
      have hname : name = rest.reverse ++ '.' :: behind.reverse := by
        rw [← List.reverse_reverse name, hcut]
        simp
      have hlength : name.length - behind.length - 1 = rest.reverse.length := by
        rw [hname, List.length_append, List.length_cons, List.length_reverse, List.length_reverse]
        omega
      have hbefore : name.take (name.length - behind.length - 1) = rest.reverse := by
        rw [hlength, hname, List.take_left]
      rw [hbefore]
      exact hname

end Disk.Path

namespace CaseFiles

variable {files files' : CaseFiles} {front front' : List Component}
  {stem stem' ending ending' : List Char}

/-- The files have the names of a stem with their suffixes, behind the same components. -/
structure Stands (files : CaseFiles) (front : List Component) (stem ending : List Char) : Prop where
  sourceStem : files.source.stem? = some (String.ofList stem)
  source : files.source.components = front ++ [.name (String.ofList (stem ++ ending))]
  golden : files.golden.components =
    front ++ [.name (String.ofList (stem ++ goldenSuffix.toList))]
  dump : (actualDump files.golden).components =
    front ++ [.name (String.ofList (stem ++ (goldenSuffix ++ actualSuffix).toList))]
  reference : files.reference.components =
    front ++ [.name (String.ofList (stem ++ referenceSuffix.toList))]
  failed : files.failed.components =
    front ++ [.name (String.ofList (stem ++ failedSuffix.toList))]

theorem stands_of_ofSource? {source : Path} {n : String} (h : ofSource? source = some files)
    (hname : source.fileName? = some n) (hending : (splitName n.toList).2 = some ending) :
    ∃ front, files.Stands front (splitName n.toList).1 ('.' :: ending) := by
  obtain ⟨parent, hparent⟩ := exists_parent?_of_fileName? hname
  have hnamed := named_of_ofSource? h hname hparent
  have hsource : files.source = source := by
    obtain ⟨stem, -, rfl⟩ := Option.map_eq_some_iff.mp h
    rfl
  have hbeside : ∀ {p : Path} {name : List Char}, p.Names parent.asFolder name →
      p.components = parent.components ++ [.name (String.ofList name)] := by
    intro p name hp
    rw [hp.components, components_asFolder]
  refine ⟨parent.components, by rw [hsource, stem?, hname]; rfl, ?_, hbeside hnamed.golden,
    hbeside hnamed.dump, hbeside hnamed.reference, hbeside hnamed.failed⟩
  rw [hsource, components_parent? hname hparent, ← splitName_eq hending, String.ofList_toList]

theorem concat_name_eq_iff {name name' : List Char} :
    front ++ [Component.name (String.ofList name)] =
      front' ++ [Component.name (String.ofList name')] ↔ front = front' ∧ name = name' := by
  constructor
  · intro h
    obtain ⟨hfront, hname⟩ := List.append_inj' h rfl
    exact ⟨hfront, by simpa [String.ofList_inj] using hname⟩
  · rintro ⟨rfl, rfl⟩
    rfl

/-- A path of one is a path of the other. -/
def Shares (files files' : CaseFiles) : Prop :=
  ∃ p ∈ files.paths, ∃ q ∈ files'.paths, p.components = q.components

/-- What stands behind the stem in the names of the files. -/
def endings (ending : List Char) : List (List Char) :=
  [ending, goldenSuffix.toList, (goldenSuffix ++ actualSuffix).toList, referenceSuffix.toList,
    failedSuffix.toList]

/-- How the names of sources end. -/
def sourceEndings : List (List Char) := [".kt".toList, ".kts".toList]

theorem Stands.exists_ending (h : files.Stands front stem ending) {p : Path}
    (hp : p ∈ files.paths) :
    ∃ e ∈ endings ending, p.components = front ++ [.name (String.ofList (stem ++ e))] := by
  simp only [paths, List.mem_cons, List.not_mem_nil, or_false] at hp
  rcases hp with rfl | rfl | rfl | rfl | rfl
  · exact ⟨_, by simp [endings], h.source⟩
  · exact ⟨_, by simp [endings], h.golden⟩
  · exact ⟨_, by simp [endings], h.dump⟩
  · exact ⟨_, by simp [endings], h.reference⟩
  · exact ⟨_, by simp [endings], h.failed⟩

/-- No two endings are alike at the end but those of golden files and reference dumps. -/
theorem suffix_of_endings : ∀ e ∈ sourceEndings, ∀ e' ∈ sourceEndings, ∀ s ∈ endings e,
    ∀ s' ∈ endings e', s <:+ s' → s = s' ∨
      (s = referenceSuffix.toList ∧ s' = goldenSuffix.toList) := by
  decide

/-- With different golden files, golden files and reference dumps are all that can be shared. -/
theorem Stands.shares_iff (h : files.Stands front stem ending)
    (h' : files'.Stands front' stem' ending') (he : ending ∈ sourceEndings)
    (he' : ending' ∈ sourceEndings)
    (hgolden : files.golden.components ≠ files'.golden.components) :
    files.Shares files' ↔ files.golden.components = files'.reference.components ∨
      files.reference.components = files'.golden.components := by
  constructor
  · rintro ⟨p, hp, q, hq, hsame⟩
    obtain ⟨s, hs, hps⟩ := h.exists_ending hp
    obtain ⟨s', hs', hqs⟩ := h'.exists_ending hq
    rw [hps, hqs, concat_name_eq_iff] at hsame
    obtain ⟨rfl, hnames⟩ := hsame
    have hstems : stem ≠ stem' := by
      rintro rfl
      exact hgolden (h.golden.trans h'.golden.symm)
    rcases List.append_eq_append_iff.mp hnames with ⟨between, hstem, hcut⟩ | ⟨between, hstem, hcut⟩
    · rcases suffix_of_endings _ he' _ he s' hs' s hs ⟨between, hcut.symm⟩ with rfl | ⟨rfl, rfl⟩
      · exact absurd (List.append_cancel_right hnames) hstems
      · left
        rw [h.golden, h'.reference, hnames]
    · rcases suffix_of_endings _ he _ he' s hs s' hs' ⟨between, hcut.symm⟩ with rfl | ⟨rfl, rfl⟩
      · exact absurd (List.append_cancel_right hnames) hstems
      · right
        rw [h.reference, h'.golden, hnames]
  · rintro (hsame | hsame)
    · exact ⟨_, by simp [paths], _, by simp [paths], hsame⟩
    · exact ⟨_, by simp [paths], _, by simp [paths], hsame⟩

/-- The other source is in the same directory and has the name of the golden file up to its last
dot, which makes the golden file its reference dump. -/
def Overlaps (source other : Path) : Prop :=
  other.components.dropLast = source.components.dropLast ∧
    other.stem? = source.stem?.map (· ++ ".antlrtree")

theorem Stands.overlaps_iff (h : files.Stands front stem ending)
    (h' : files'.Stands front' stem' ending') :
    files.golden.components = files'.reference.components ↔
      Overlaps files.source files'.source := by
  have hsuffix : goldenSuffix.toList = ".antlrtree".toList ++ referenceSuffix.toList := by decide
  rw [h.golden, h'.reference, concat_name_eq_iff, hsuffix, ← List.append_assoc,
    List.append_left_inj, Overlaps, h.source, h'.source, h.sourceStem, h'.sourceStem]
  have hconcat : String.ofList stem ++ ".antlrtree" =
      String.ofList (stem ++ ".antlrtree".toList) := by
    rw [String.ofList_append, String.ofList_toList]
  simp only [List.dropLast_concat, Option.map_some, Option.some.injEq, hconcat, String.ofList_inj]
  exact and_congr eq_comm eq_comm

end CaseFiles

namespace Fixtures

variable {f : Fixtures} {fs : FileSystem} {w : Walked} {ws : List Walked} {files : CaseFiles}
  {seen : List (List Component × Path)} {listed : List Path} {root : Path}

theorem stands_of_isSource (h : isSource w = true) (hfiles : filesOf w.path = .ok files) :
    ∃ front stem, ∃ ending ∈ CaseFiles.sourceEndings, files.Stands front stem ending := by
  simp only [isSource, Bool.and_eq_true, Bool.or_eq_true, beq_iff_eq] at h
  obtain ⟨-, hextension⟩ := h
  have hends : ∃ n ending, w.path.fileName? = some n ∧ (splitName n.toList).2 = some ending ∧
      '.' :: ending ∈ CaseFiles.sourceEndings := by
    have hsplit : ∀ {e : String}, w.path.extension? = some e →
        ∃ n, w.path.fileName? = some n ∧ (splitName n.toList).2 = some e.toList := by
      intro e he
      obtain ⟨n, hname, hmap⟩ := Option.bind_eq_some_iff.mp he
      obtain ⟨ending, hending, rfl⟩ := Option.map_eq_some_iff.mp hmap
      exact ⟨n, hname, by rw [hending, String.toList_ofList]⟩
    rcases hextension with hkt | hkts
    · obtain ⟨n, hname, hending⟩ := hsplit hkt
      exact ⟨n, _, hname, hending, by decide⟩
    · obtain ⟨n, hname, hending⟩ := hsplit hkts
      exact ⟨n, _, hname, hending, by decide⟩
  obtain ⟨n, ending, hname, hending, hmem⟩ := hends
  obtain ⟨front, hstands⟩ :=
    CaseFiles.stands_of_ofSource? (filesOf_eq_ok_iff.mp hfiles) hname hending
  exact ⟨front, _, _, hmem, hstands⟩

theorem lookup_cons_eq_none {key other : List Component} {path : Path}
    (h : ((key, path) :: seen).lookup other = none) : key ≠ other ∧ seen.lookup other = none := by
  rw [List.lookup_cons] at h
  split at h
  · cases h
  · next hne => exact ⟨fun hsame => by simp [hsame] at hne, h⟩

/-- No two sources that are listed have the same golden file. -/
theorem distinctSources_eq_ok (h : distinctSources seen ws = .ok listed) :
    listed = ws.map relativePath ∧
      (∀ w ∈ ws, ∃ files, filesOf w.path = .ok files ∧
        seen.lookup files.golden.components = none) ∧
      ws.Pairwise fun v w => ∀ files files', filesOf v.path = .ok files →
        filesOf w.path = .ok files' → files.golden.components ≠ files'.golden.components := by
  induction ws generalizing seen listed with
  | nil =>
    obtain rfl := Except.ok.inj h
    exact ⟨rfl, by simp, .nil⟩
  | cons w ws ih =>
    rw [distinctSources] at h
    obtain ⟨files, hfiles, h⟩ := bind_eq_ok.mp h
    dsimp only at h
    split at h
    · cases h
    · next hfree =>
      obtain ⟨rest, hrest, hdone⟩ := bind_eq_ok.mp h
      obtain rfl := Except.ok.inj hdone
      obtain ⟨rfl, hothers, hpairwise⟩ := ih hrest
      refine ⟨rfl, List.forall_mem_cons.mpr ⟨⟨files, hfiles, hfree⟩, fun v hv => ?_⟩,
        List.pairwise_cons.mpr ⟨fun v hv files₁ files₂ hfiles₁ hfiles₂ => ?_, hpairwise⟩⟩
      · obtain ⟨files', hfiles', hnew⟩ := hothers v hv
        exact ⟨files', hfiles', (lookup_cons_eq_none hnew).2⟩
      · obtain ⟨files', hfiles', hnew⟩ := hothers v hv
        obtain rfl := Except.ok.inj (hfiles.symm.trans hfiles₁)
        obtain rfl := Except.ok.inj (hfiles'.symm.trans hfiles₂)
        exact (lookup_cons_eq_none hnew).1

/-! What a walk finds. -/

/-- What a walk finds is the root alone, if that is a file, or a directory and what is in it; behind
the root, the path of what is in it consists of the names that lead there. -/
theorem walk_cases (hnamed : fs.WellNamed) (h : fs.walk root = .ok ws) :
    (∃ w, ws = [w]) ∨ ∃ w inside, ws = w :: inside ∧ w.isFile = false ∧
      ∀ v ∈ inside, v.path = root.join (relativePath v) := by
  obtain ⟨place, entry, inside, -, rfl, hentry, hinside⟩ := walk_eq_ok hnamed h
  by_cases hempty : inside = []
  · subst hempty
    exact .inl ⟨_, rfl⟩
  · obtain rfl := hentry hempty
    refine .inr ⟨_, inside, rfl, rfl, fun v hv => ?_⟩
    obtain ⟨hne, hmet⟩ := hinside v hv
    rw [hmet.path]
    exact foldl_join_eq hmet.names hne

/-- Two listed sources share files just if one has the golden file of the other for its reference
dump. -/
theorem list_shares_iff (f : Fixtures) (fs : FileSystem) (hnamed : fs.WellNamed)
    (h : f.list fs = .ok listed) :
    listed.Pairwise fun p q => ∃ files files', f.files p = .ok files ∧ f.files q = .ok files' ∧
      (files.Shares files' ↔ CaseFiles.Overlaps files.source files'.source ∨
        CaseFiles.Overlaps files'.source files.source) := by
  unfold list at h
  split at h
  · split at h
    · cases h
    · next walked hwalk =>
      obtain ⟨rfl, hfiles, hdistinct⟩ := distinctSources_eq_ok h
      rw [List.pairwise_map]
      rcases walk_cases hnamed hwalk with ⟨w, rfl⟩ | ⟨w, inside, rfl, hroot, hpaths⟩
      · exact ((List.pairwise_singleton _ w).filter _)
      · have hsource : isSource w = false := by simp [isSource, hroot]
        rw [List.filter_cons_of_neg (by simp [hsource])] at hfiles hdistinct ⊢
        refine hdistinct.imp_of_mem fun {v w} hv hw hgolden => ?_
        obtain ⟨files, hv', -⟩ := hfiles v hv
        obtain ⟨files', hw', -⟩ := hfiles w hw
        obtain ⟨hvmem, hvsource⟩ := List.mem_filter.mp hv
        obtain ⟨hwmem, hwsource⟩ := List.mem_filter.mp hw
        obtain ⟨front, stem, ending, he, hstands⟩ := stands_of_isSource hvsource hv'
        obtain ⟨front', stem', ending', he', hstands'⟩ := stands_of_isSource hwsource hw'
        refine ⟨files, files', ?_, ?_, ?_⟩
        · rw [Fixtures.files, ← hpaths v hvmem, hv']
        · rw [Fixtures.files, ← hpaths w hwmem, hw']
        · rw [hstands.shares_iff hstands' he he' (hgolden files files' hv' hw'),
            eq_comm (a := files.reference.components), hstands.overlaps_iff hstands',
            hstands'.overlaps_iff hstands]
  · cases h

/-- Two sources, of which one has the golden file of the other for its reference dump, and one that
has all its files for itself. -/
def sharingDisk : FileSystem :=
  ⟨[(["t"], .directory), (["t", "x.antlrtree.kt"], .file .empty), (["t", "x.kt"], .file .empty),
    (["t", "y.kts"], .file .empty)]⟩

theorem wellNamed_sharingDisk : sharingDisk.WellNamed := by decide

theorem walk_sharingDisk : sharingDisk.walk ⟨"t"⟩ = .ok [⟨⟨"t"⟩, [], .directory⟩,
    ⟨⟨"t/x.antlrtree.kt"⟩, ["x.antlrtree.kt"], .file .empty⟩,
    ⟨⟨"t/x.kt"⟩, ["x.kt"], .file .empty⟩, ⟨⟨"t/y.kts"⟩, ["y.kts"], .file .empty⟩] := by
  have hfind : sharingDisk.find ⟨"t"⟩ = .ok (["t"], .directory) := by decide +kernel
  have hbelow : sharingDisk.below ["t"] = [(["x.antlrtree.kt"], .file .empty),
      (["x.kt"], .file .empty), (["y.kts"], .file .empty)] :=
    List.mergeSort_of_pairwise (by decide +kernel)
  rw [walk, hfind]
  dsimp only
  rw [hbelow]
  rfl

theorem list_sharingDisk : (⟨⟨"t"⟩⟩ : Fixtures).list sharingDisk =
    .ok [⟨"x.antlrtree.kt"⟩, ⟨"x.kt"⟩, ⟨"y.kts"⟩] := by
  have hexists : sharingDisk.pathExists ⟨"t"⟩ = true := by decide +kernel
  rw [list, if_pos hexists, walk_sharingDisk]
  decide +kernel

theorem list_shares_iff_sharingDisk :
    sharingDisk.WellNamed ∧
      (⟨⟨"t"⟩⟩ : Fixtures).list sharingDisk =
        .ok [⟨"x.antlrtree.kt"⟩, ⟨"x.kt"⟩, ⟨"y.kts"⟩] ∧
      ([⟨"x.antlrtree.kt"⟩, ⟨"x.kt"⟩, ⟨"y.kts"⟩] : List Path).Pairwise fun p q =>
        ∃ files files', (⟨⟨"t"⟩⟩ : Fixtures).files p = .ok files ∧
          (⟨⟨"t"⟩⟩ : Fixtures).files q = .ok files' ∧
          (files.Shares files' ↔ CaseFiles.Overlaps files.source files'.source ∨
            CaseFiles.Overlaps files'.source files.source) :=
  ⟨wellNamed_sharingDisk, list_sharingDisk,
    list_shares_iff ⟨⟨"t"⟩⟩ sharingDisk wellNamed_sharingDisk list_sharingDisk⟩

/-- That a listing is accepted does not give each source its own files. -/
theorem list_accepts_shared : ¬ ∀ (f : Fixtures) (fs : FileSystem) (listed : List Path),
    fs.WellNamed → f.list fs = .ok listed → listed.Pairwise fun p q => ∀ files files',
      f.files p = .ok files → f.files q = .ok files' → ¬ files.Shares files' := by
  intro hown
  have hpairwise := hown ⟨⟨"t"⟩⟩ sharingDisk _ wellNamed_sharingDisk list_sharingDisk
  have hfirst := List.pairwise_cons.mp hpairwise
  refine hfirst.1 ⟨"x.kt"⟩ (by simp)
    ⟨⟨"t/x.antlrtree.kt"⟩, ⟨"t/x.antlrtree.antlrtree.txt"⟩, ⟨"t/x.antlrtree.txt"⟩,
      ⟨"t/x.antlrtree.failed"⟩⟩
    ⟨⟨"t/x.kt"⟩, ⟨"t/x.antlrtree.txt"⟩, ⟨"t/x.txt"⟩, ⟨"t/x.failed"⟩⟩
    (by decide +kernel) (by decide +kernel) ?_
  exact ⟨⟨"t/x.antlrtree.txt"⟩, by simp [CaseFiles.paths], ⟨"t/x.antlrtree.txt"⟩,
    by simp [CaseFiles.paths], rfl⟩

end Fixtures

end GoldenTree
