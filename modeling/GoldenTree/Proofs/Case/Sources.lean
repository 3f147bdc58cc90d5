import GoldenTree.Proofs.Case.Listing
import GoldenTree.Proofs.Cut
import Mathlib.Data.List.Pairwise

/-! Which sources are listed. A directory that holds two sources of one stem is refused, with the
first pair that a walk meets; otherwise all sources are listed once, in the order of a walk. -/
namespace GoldenTree

open Disk FileSystem Path

namespace Disk.Path

variable {p root : Path} {names : List String} {n stem extension : String}

/-- A name is cut at its last dot. -/
theorem splitName_concat {before behind : List Char} (hbefore : before ≠ []) (hdot : '.' ∉ behind) :
    splitName (before ++ '.' :: behind) = (before, some behind) := by
  have hcut : (before ++ '.' :: behind).reverse = behind.reverse ++ '.' :: before.reverse := by simp
  have hbehind : (before ++ '.' :: behind).reverse.takeWhile (· ≠ '.') = behind.reverse := by
    rw [hcut]
    refine takeWhile_append_stop (fun c hc => ?_) (by simp)
    exact decide_eq_true fun heq => hdot (heq ▸ List.mem_reverse.mp hc)
  have hlength : (before ++ '.' :: behind).length - behind.reverse.length - 1 = before.length := by
    simp only [List.length_append, List.length_cons, List.length_reverse]
    omega
  have hlonger : behind.reverse.length ≠ (before ++ '.' :: behind).length := by
    simp only [List.length_append, List.length_cons, List.length_reverse]
    omega
  unfold splitName
  simp only [hbehind, hlength, List.take_left, List.reverse_reverse]
  exact if_neg (not_or.mpr ⟨hlonger, hbefore⟩)

theorem splitName_fst_ne_nil {name behind : List Char} (h : (splitName name).2 = some behind) :
    (splitName name).1 ≠ [] := by
  unfold splitName at h ⊢
  dsimp only at h ⊢
  split at h
  · cases h
  · next hdot =>
    rw [if_neg hdot]
    exact (not_or.mp hdot).2

theorem toList_dotted (stem extension : String) :
    (stem ++ "." ++ extension).toList = stem.toList ++ '.' :: extension.toList := by
  rw [String.toList_append, String.toList_append, List.append_assoc]
  rfl

theorem splitName_dotted (hstem : stem ≠ "") (hdot : '.' ∉ extension.toList) :
    splitName (stem ++ "." ++ extension).toList = (stem.toList, some extension.toList) := by
  rw [toList_dotted]
  exact splitName_concat (by simpa using hstem) hdot

/-- A name with an extension has a stem before its last dot. -/
theorem extension?_eq_some_iff (hdot : '.' ∉ extension.toList) :
    p.extension? = some extension ↔
      ∃ stem, stem ≠ "" ∧ p.fileName? = some (stem ++ "." ++ extension) := by
  constructor
  · intro h
    obtain ⟨n, hname, hmap⟩ := Option.bind_eq_some_iff.mp h
    obtain ⟨behind, hbehind, rfl⟩ := Option.map_eq_some_iff.mp hmap
    refine ⟨String.ofList (splitName n.toList).1, fun hempty => ?_, ?_⟩
    · refine splitName_fst_ne_nil hbehind ?_
      rw [← String.toList_ofList (l := (splitName n.toList).1), hempty]
      rfl
    · rw [hname, Option.some.injEq, ← String.toList_inj, toList_dotted, String.toList_ofList,
        String.toList_ofList]
      exact splitName_eq hbehind
  · rintro ⟨stem, hstem, hname⟩
    rw [extension?, hname, Option.bind_some, splitName_dotted hstem hdot, Option.map_some,
      String.ofList_toList]

theorem stem?_of_fileName? (hstem : stem ≠ "") (hdot : '.' ∉ extension.toList)
    (h : p.fileName? = some (stem ++ "." ++ extension)) : p.stem? = some stem := by
  rw [stem?, h, Option.map_some, splitName_dotted hstem hdot, String.ofList_toList]

theorem components_join (h : IsName n.toList) :
    (p.join ⟨n⟩).components = p.components ++ [.name n] := by
  rw [(names_join h).components, components_asFolder, String.ofList_toList]

theorem components_behind (h : ∀ n ∈ names, IsName n.toList) :
    (root.behind names).components = root.components ++ names.map .name := by
  induction names using List.reverseRecOn with
  | nil => simp [behind]
  | append_singleton names n ih =>
    rw [behind_concat, components_join (h n List.mem_concat_self),
      ih fun name hname => h name (List.mem_append_left _ hname), List.map_append,
      List.append_assoc]
    rfl

theorem fileName?_behind_concat (h : IsName n.toList) :
    (root.behind (names ++ [n])).fileName? = some n := by
  rw [behind_concat, fileName?_eq_some_iff, components_join h, List.getLast?_concat]

end Disk.Path

namespace Disk.FileSystem

variable {fs : FileSystem} {place : Place} {names : List String} {entry : Entry}

theorem mem_entries_iff (hdistinct : fs.Distinct) (hne : place ≠ []) :
    (place, entry) ∈ fs.entries ↔ fs.get? place = some entry := by
  rw [get?, if_neg hne]
  constructor
  · intro hmem
    have hsome : (fs.entries.find? (·.1 = place)).isSome := by
      simpa using ⟨entry, hmem⟩
    obtain ⟨found, hfound⟩ := Option.isSome_iff_exists.mp hsome
    have hplace : found.1 = place := by simpa using List.find?_some hfound
    -- No other entry is at this place.
    have hsame : found = (place, entry) :=
      List.inj_on_of_nodup_map hdistinct (List.mem_of_find?_eq_some hfound) hmem hplace
    rw [hfound, hsame]
    rfl
  · intro hget
    obtain ⟨found, hfound, rfl⟩ := Option.map_eq_some_iff.mp hget
    have hplace : found.1 = place := by simpa using List.find?_some hfound
    rw [← hplace]
    exact List.mem_of_find?_eq_some hfound

/-- Below a place stands whatever names lead to from there. -/
theorem mem_below_iff (hdistinct : fs.Distinct) :
    (names, entry) ∈ fs.below place ↔ names ≠ [] ∧ fs.get? (place ++ names) = some entry := by
  rw [below, List.mem_mergeSort, List.mem_filterMap]
  constructor
  · rintro ⟨e, he, hfound⟩
    split at hfound
    · next name others hbegins =>
      obtain ⟨rfl, rfl⟩ := Prod.mk.inj (Option.some.inj hfound)
      have happend := List.isPrefixOf?_eq_some_iff_append_eq.mp hbegins
      refine ⟨List.cons_ne_nil _ _, (mem_entries_iff hdistinct (by simp)).mp ?_⟩
      rw [happend]
      exact he
    · cases hfound
  · rintro ⟨hne, hget⟩
    obtain ⟨name, others, rfl⟩ := List.exists_cons_of_ne_nil hne
    refine ⟨(place ++ name :: others, entry), ?_, ?_⟩
    · exact (mem_entries_iff hdistinct (by simp)).mpr hget
    · have hbegins : place.isPrefixOf? (place ++ name :: others) = some (name :: others) :=
        List.isPrefixOf?_eq_some_iff_append_eq.mpr rfl
      simp only [hbegins]

theorem met_of_mem_below {found : List String × Entry} (hnamed : fs.WellNamed)
    (h : found ∈ fs.below place) (root : Path) :
    Met root ⟨root.behind found.1, found.1, found.2⟩ := by
  obtain ⟨-, e, he, happend⟩ := mem_below h
  refine ⟨fun name hname => hnamed e he name ?_, rfl⟩
  rw [← happend]
  exact List.mem_append_right place hname

end Disk.FileSystem

namespace Fixtures

variable {f : Fixtures} {fs : FileSystem} {place : Place} {folder folder' m n names : List String}
  {stem stem' : String} {w : Walked} {ws : List Walked} {root : Path} {e : FixtureError}
  {seen : List (List Component × Path)}

/-! Sources by their names. -/

/-- Below a place, the names lead to a source with the stem in the folder. -/
structure SourceAt (fs : FileSystem) (place : Place) (folder : List String) (stem : String)
    (names : List String) : Prop where
  named : stem ≠ ""
  ends : ∃ extension, (extension = "kt" ∨ extension = "kts") ∧
    names = folder ++ [stem ++ "." ++ extension]
  regular : ∃ bytes, fs.get? (place ++ names) = some (.file bytes)

/-- Below a place, the names lead to a source. -/
def IsSource (fs : FileSystem) (place : Place) (names : List String) : Prop :=
  ∃ folder stem, SourceAt fs place folder stem names

/-- Both names lead to sources of one stem in one folder, the first to the one that comes first. -/
def Collides (fs : FileSystem) (place : Place) (m n : List String) : Prop :=
  m < n ∧ ∃ folder stem, SourceAt fs place folder stem m ∧ SourceAt fs place folder stem n

/-- The path of a source below the base. -/
def pathOf (names : List String) : Path := ⟨"/".intercalate names⟩

theorem dot_not_mem {extension : String} (h : extension = "kt" ∨ extension = "kts") :
    '.' ∉ extension.toList := by
  rcases h with rfl | rfl <;> decide

theorem fileName?_of_met {last : String} (hmet : Met root w) (h : w.names = folder ++ [last]) :
    w.path.fileName? = some last := by
  have hn : IsName last.toList := hmet.names last (by simp [h])
  rw [hmet.path, h, fileName?_behind_concat hn]

theorem SourceAt.isSource (h : SourceAt fs place folder stem w.names) (hmet : Met root w)
    (hentry : fs.get? (place ++ w.names) = some w.entry) : isSource w = true := by
  obtain ⟨hstem, ⟨extension, hextension, hnames⟩, bytes, hbytes⟩ := h
  have hfile : w.isFile = true := by
    rw [hentry, Option.some.injEq] at hbytes
    rw [Walked.isFile, hbytes]
  have hends : w.path.extension? = some extension :=
    (extension?_eq_some_iff (dot_not_mem hextension)).mpr
      ⟨stem, hstem, fileName?_of_met hmet hnames⟩
  rcases hextension with rfl | rfl <;> simp [Fixtures.isSource, hfile, hends]

theorem exists_sourceAt (h : isSource w = true) (hmet : Met root w) (hne : w.names ≠ [])
    (hentry : fs.get? (place ++ w.names) = some w.entry) : IsSource fs place w.names := by
  simp only [isSource, Bool.and_eq_true, Bool.or_eq_true, beq_iff_eq] at h
  obtain ⟨hfile, hends⟩ := h
  have hextension : ∃ extension, (extension = "kt" ∨ extension = "kts") ∧
      w.path.extension? = some extension := by
    rcases hends with hends | hends
    · exact ⟨_, .inl rfl, hends⟩
    · exact ⟨_, .inr rfl, hends⟩
  obtain ⟨extension, hextension, hends⟩ := hextension
  obtain ⟨stem, hstem, hname⟩ := (extension?_eq_some_iff (dot_not_mem hextension)).mp hends
  obtain ⟨folder, last, hnames⟩ := (List.eq_nil_or_concat w.names).resolve_left hne
  rw [List.concat_eq_append] at hnames
  obtain rfl := Option.some.inj ((fileName?_of_met hmet hnames).symm.trans hname)
  refine ⟨folder, stem, hstem, ⟨extension, hextension, hnames⟩, ?_⟩
  cases hkind : w.entry with
  | directory => simp [Walked.isFile, hkind] at hfile
  | file bytes => exact ⟨bytes, hkind ▸ hentry⟩

/-- The components that tell which golden file a source has. -/
theorem SourceAt.golden (h : SourceAt fs place folder stem w.names) (hmet : Met root w) :
    ∃ files, filesOf w.path = .ok files ∧ files.golden.components =
      root.components ++ (folder ++ [stem ++ CaseFiles.goldenSuffix]).map Component.name := by
  obtain ⟨hstem, ⟨extension, hextension, hnames⟩, -⟩ := h
  have hdot := dot_not_mem hextension
  have hname := fileName?_of_met hmet hnames
  have hfiles : ∃ files, CaseFiles.ofSource? w.path = some files := by
    rw [CaseFiles.ofSource?, stem?_of_fileName? hstem hdot hname]
    exact ⟨_, rfl⟩
  obtain ⟨files, hfiles⟩ := hfiles
  have hsplit := splitName_dotted hstem hdot
  obtain ⟨front, hstands⟩ := CaseFiles.stands_of_ofSource? hfiles hname (by rw [hsplit])
  rw [hsplit] at hstands
  dsimp only at hstands
  -- The folder is what the golden file has in common with the source.
  have hfront : front = root.components ++ folder.map .name := by
    have hpath : files.source = w.path := by
      obtain ⟨-, -, rfl⟩ := Option.map_eq_some_iff.mp hfiles
      rfl
    have hsource := hstands.source
    rw [hpath, hmet.path, components_behind hmet.names, hnames, List.map_append, List.map_singleton,
      ← List.append_assoc, ← toList_dotted, String.ofList_toList] at hsource
    exact (List.append_cancel_right hsource).symm
  refine ⟨files, filesOf_eq_ok_iff.mpr hfiles, ?_⟩
  rw [hstands.golden, hfront, String.ofList_append, String.ofList_toList, String.ofList_toList,
    List.map_append, List.append_assoc, List.map_singleton]

/-- Sources share a golden file just if they share the folder and the stem. -/
theorem golden_inj (root : Path) :
    root.components ++ (folder ++ [stem ++ CaseFiles.goldenSuffix]).map Component.name =
      root.components ++ (folder' ++ [stem' ++ CaseFiles.goldenSuffix]).map Component.name ↔
    folder = folder' ∧ stem = stem' := by
  constructor
  · intro h
    have hnames := List.map_injective_iff.mpr (fun a b => Component.name.inj)
      (List.append_cancel_left h)
    obtain ⟨hfolder, hlast⟩ := List.append_inj' hnames rfl
    have hstem := congrArg String.toList (List.cons.inj hlast).1
    rw [String.toList_append, String.toList_append] at hstem
    exact ⟨hfolder, String.toList_inj.mp (List.append_cancel_right hstem)⟩
  · rintro ⟨rfl, rfl⟩
    rfl

/-! The first source whose golden file was met before. -/

/-- Listing stops at a source whose golden file belongs to one that was listed. -/
theorem distinctSources_eq_error (hfiles : ∀ w ∈ ws, ∃ files, filesOf w.path = .ok files)
    (h : distinctSources seen ws = .error e) :
    ∃ before w after first files, ws = before ++ w :: after ∧
      distinctSources seen before = .ok (before.map relativePath) ∧
      e = .stemCollision first (relativePath w) ∧ filesOf w.path = .ok files ∧
      ((∃ v ∈ before, first = relativePath v ∧ ∃ files', filesOf v.path = .ok files' ∧
          files'.golden.components = files.golden.components) ∨
        seen.lookup files.golden.components = some first) := by
  induction ws generalizing seen with
  | nil => cases h
  | cons w ws ih =>
    obtain ⟨⟨files, hw⟩, hws⟩ := List.forall_mem_cons.mp hfiles
    rw [distinctSources, hw] at h
    cases hlookup : seen.lookup files.golden.components with
    | some first =>
      have hstop : e = .stemCollision first (relativePath w) := by
        simpa [bind, Except.bind, hlookup] using h.symm
      exact ⟨[], w, ws, first, files, rfl, rfl, hstop, hw, .inr hlookup⟩
    | none =>
      have hrest : distinctSources ((files.golden.components, relativePath w) :: seen) ws =
          .error e := by
        cases hothers : distinctSources ((files.golden.components, relativePath w) :: seen) ws with
        | error e' => simpa [bind, Except.bind, hlookup, hothers] using h
        | ok listed => simp [bind, Except.bind, hlookup, hothers, pure, Except.pure] at h
      obtain ⟨before, w', after, first, files', hcut, hbefore, he, hw', hfirst⟩ := ih hws hrest
      refine ⟨w :: before, w', after, first, files', by rw [hcut, List.cons_append], ?_, he, hw', ?_⟩
      · rw [distinctSources, hw]
        simp [bind, Except.bind, hlookup, hbefore, pure, Except.pure]
      · rcases hfirst with ⟨v, hv, hrelative, hsame⟩ | hseen
        · exact .inl ⟨v, List.mem_cons_of_mem _ hv, hrelative, hsame⟩
        · rw [List.lookup_cons] at hseen
          split at hseen
          · next hkey =>
            obtain rfl := Option.some.inj hseen
            exact .inl ⟨w, List.mem_cons_self, rfl, files, hw, (eq_of_beq hkey).symm⟩
          · exact .inr hseen

section Listed

variable (hnamed : fs.WellNamed) (hdistinct : fs.Distinct)
  (hbase : fs.find f.base = .ok (place, .directory))

/-- The sources that a walk of the base meets. -/
def sourcesBelow (f : Fixtures) (fs : FileSystem) (place : Place) : List Walked :=
  ((fs.below place).map fun found => ⟨f.base.behind found.1, found.1, found.2⟩).filter isSource

include hbase in
theorem list_eq : f.list fs = distinctSources [] (f.sourcesBelow fs place) := by
  have hexists : fs.pathExists f.base = true := by rw [pathExists, hbase]; rfl
  rw [list, if_pos hexists, walk, hbase]
  rfl

include hnamed hdistinct in
theorem met_of_mem_sourcesBelow (h : w ∈ f.sourcesBelow fs place) :
    Met f.base w ∧ IsSource fs place w.names := by
  obtain ⟨hmem, hsource⟩ := List.mem_filter.mp h
  obtain ⟨found, hfound, rfl⟩ := List.mem_map.mp hmem
  have hmet := met_of_mem_below hnamed hfound f.base
  obtain ⟨hne, hget⟩ := (mem_below_iff hdistinct).mp hfound
  exact ⟨hmet, exists_sourceAt hsource hmet hne hget⟩

include hnamed hdistinct in
/-- The walk meets every source. -/
theorem exists_mem_sourcesBelow (h : IsSource fs place names) :
    ∃ w ∈ f.sourcesBelow fs place, w.names = names := by
  obtain ⟨folder, stem, hsource⟩ := h
  obtain ⟨bytes, hget⟩ := hsource.regular
  have hne : names ≠ [] := by
    obtain ⟨extension, -, rfl⟩ := hsource.ends
    simp
  have hfound := (mem_below_iff hdistinct).mpr ⟨hne, hget⟩
  let w : Walked := ⟨f.base.behind names, names, .file bytes⟩
  have hsource' : SourceAt fs place folder stem w.names := hsource
  exact ⟨w, List.mem_filter.mpr ⟨List.mem_map_of_mem hfound,
    hsource'.isSource (met_of_mem_below hnamed hfound f.base) hget⟩, rfl⟩

include hdistinct in
theorem sourcesBelow_ascending :
    (f.sourcesBelow fs place).Pairwise fun v w => v.names < w.names := by
  refine List.Pairwise.filter _ (List.pairwise_map.mpr ?_)
  exact below_ascending hdistinct place

include hnamed hdistinct in
/-- Of two sources with the same golden file, the later one collides with the other. -/
theorem collides_of_golden {v w : Walked} {files files' : CaseFiles}
    (hv : v ∈ f.sourcesBelow fs place) (hw : w ∈ f.sourcesBelow fs place) (hlt : v.names < w.names)
    (hfiles : filesOf v.path = .ok files) (hfiles' : filesOf w.path = .ok files')
    (hgolden : files.golden.components = files'.golden.components) :
    Collides fs place v.names w.names := by
  obtain ⟨hmet, folder, stem, hsource⟩ := met_of_mem_sourcesBelow hnamed hdistinct hv
  obtain ⟨hmet', folder', stem', hsource'⟩ := met_of_mem_sourcesBelow hnamed hdistinct hw
  obtain ⟨_, hok, hcomponents⟩ := hsource.golden hmet
  obtain ⟨_, hok', hcomponents'⟩ := hsource'.golden hmet'
  obtain rfl := Except.ok.inj (hfiles.symm.trans hok)
  obtain rfl := Except.ok.inj (hfiles'.symm.trans hok')
  rw [hcomponents, hcomponents', golden_inj] at hgolden
  obtain ⟨rfl, rfl⟩ := hgolden
  exact ⟨hlt, folder, stem, hsource, hsource'⟩

include hnamed hdistinct in
/-- Sources that collide are met, and are told apart by no golden file. -/
theorem golden_of_collides (h : Collides fs place m n) :
    ∃ v ∈ f.sourcesBelow fs place, ∃ w ∈ f.sourcesBelow fs place, v.names = m ∧ w.names = n ∧
      ∃ files files', filesOf v.path = .ok files ∧ filesOf w.path = .ok files' ∧
        files.golden.components = files'.golden.components := by
  obtain ⟨-, folder, stem, hm, hn⟩ := h
  obtain ⟨v, hv, rfl⟩ := exists_mem_sourcesBelow (f := f) hnamed hdistinct ⟨folder, stem, hm⟩
  obtain ⟨w, hw, rfl⟩ := exists_mem_sourcesBelow (f := f) hnamed hdistinct ⟨folder, stem, hn⟩
  obtain ⟨files, hfiles, hcomponents⟩ :=
    hm.golden (met_of_mem_sourcesBelow hnamed hdistinct hv).1
  obtain ⟨files', hfiles', hcomponents'⟩ :=
    hn.golden (met_of_mem_sourcesBelow hnamed hdistinct hw).1
  exact ⟨v, hv, w, hw, rfl, rfl, files, files', hfiles, hfiles',
    hcomponents.trans hcomponents'.symm⟩

include hnamed hdistinct in
theorem exists_filesOf (h : w ∈ f.sourcesBelow fs place) :
    ∃ files, filesOf w.path = .ok files := by
  obtain ⟨hmet, folder, stem, hsource⟩ := met_of_mem_sourcesBelow hnamed hdistinct h
  obtain ⟨files, hfiles, -⟩ := hsource.golden hmet
  exact ⟨files, hfiles⟩

include hnamed hdistinct in
/-- Where sources were accepted, none of them collide. -/
theorem not_collides_of_ok {vs : List Walked} {listed : List Path}
    (h : distinctSources [] vs = .ok listed)
    (hvs : ∀ w ∈ f.sourcesBelow fs place, w.names = m ∨ w.names = n → w ∈ vs) :
    ¬ Collides fs place m n := by
  intro hcollides
  obtain ⟨v, hv, w, hw, rfl, rfl, files, files', hfiles, hfiles', hgolden⟩ :=
    golden_of_collides (f := f) hnamed hdistinct hcollides
  have hapart := (distinctSources_eq_ok h).2.2
  have hsymm : Std.Symm fun v w : Walked => ∀ files files', filesOf v.path = .ok files →
      filesOf w.path = .ok files' → files.golden.components ≠ files'.golden.components :=
    ⟨fun v w hne files files' hfiles hfiles' => (hne files' files hfiles' hfiles).symm⟩
  have hne : v ≠ w := by
    rintro rfl
    exact lt_irrefl _ hcollides.1
  exact hapart.forall (hvs v hv (.inl rfl)) (hvs w hw (.inr rfl)) hne files files' hfiles hfiles'
    hgolden

include hnamed hdistinct hbase

/-- What is refused is the first source that has the stem of one before it in its folder. -/
theorem collides_of_list_eq_error (h : f.list fs = .error e) :
    ∃ m n, e = .stemCollision (pathOf m) (pathOf n) ∧ Collides fs place m n ∧
      ∀ m' n', Collides fs place m' n' → n ≤ n' := by
  rw [list_eq hbase] at h
  obtain ⟨before, w, after, first, files, hcut, hbefore, rfl, hfiles, hfirst⟩ :=
    distinctSources_eq_error (fun w hw => exists_filesOf hnamed hdistinct hw) h
  obtain ⟨v, hv, rfl, files', hfiles', hgolden⟩ := hfirst.resolve_right (by simp)
  have hascending : (before ++ w :: after).Pairwise fun v w => v.names < w.names :=
    hcut ▸ sourcesBelow_ascending hdistinct
  obtain ⟨-, hrest, hcross⟩ := List.pairwise_append.mp hascending
  have hmem : ∀ u ∈ before ++ w :: after, u ∈ f.sourcesBelow fs place := fun u hu => hcut ▸ hu
  refine ⟨v.names, w.names, rfl, ?_, fun m' n' hcollides => le_of_not_gt fun hless => ?_⟩
  · exact collides_of_golden hnamed hdistinct (hmem v (List.mem_append_left _ hv))
      (hmem w (by simp)) (hcross v hv w List.mem_cons_self) hfiles' hfiles hgolden
  · -- Whatever comes before the source was accepted.
    refine not_collides_of_ok (f := f) hnamed hdistinct hbefore (fun u hu hnames => ?_) hcollides
    have hu' : u.names < w.names := by
      rcases hnames with hnames | hnames
      · exact hnames ▸ hcollides.1.trans hless
      · exact hnames ▸ hless
    rw [hcut, List.mem_append, List.mem_cons] at hu
    rcases hu with hu | rfl | hu
    · exact hu
    · exact absurd hu' (lt_irrefl _)
    · exact absurd (hu'.trans ((List.pairwise_cons.mp hrest).1 u hu)) (lt_irrefl _)

theorem listed_of_list_eq_ok {listed : List Path} (h : f.list fs = .ok listed) :
    (∀ m n, ¬ Collides fs place m n) ∧ ∃ found : List (List String),
      listed = found.map pathOf ∧ found.Pairwise (· < ·) ∧
      ∀ names, names ∈ found ↔ IsSource fs place names := by
  rw [list_eq hbase] at h
  refine ⟨fun m n => not_collides_of_ok (f := f) hnamed hdistinct h fun w hw _ => hw,
    (f.sourcesBelow fs place).map Walked.names, ?_,
    List.pairwise_map.mpr (sourcesBelow_ascending hdistinct), fun names => ?_⟩
  · rw [(distinctSources_eq_ok h).1, List.map_map]
    rfl
  · rw [List.mem_map]
    constructor
    · rintro ⟨w, hw, rfl⟩
      exact (met_of_mem_sourcesBelow hnamed hdistinct hw).2
    · exact fun hsource => exists_mem_sourcesBelow hnamed hdistinct hsource

end Listed

/-- Listing a directory fails with a collision just if two sources in one folder have the same stem:
the second is the first in the order of a walk that has the stem of an earlier one, and the first is
that one. Otherwise it gives the paths of all sources, each once and in ascending order. -/
theorem list_settles (f : Fixtures) (fs : FileSystem) (hnamed : fs.WellNamed)
    (hdistinct : fs.Distinct) (hbase : fs.find f.base = .ok (place, .directory)) :
    ((∃ first second, f.list fs = .error (.stemCollision first second)) ↔
      ∃ m n, Collides fs place m n) ∧
    (∀ first second, f.list fs = .error (.stemCollision first second) →
      ∃ m n, first = pathOf m ∧ second = pathOf n ∧ Collides fs place m n ∧
        ∀ m' n', Collides fs place m' n' → n ≤ n') ∧
    ((¬ ∃ m n, Collides fs place m n) → ∃ found : List (List String),
      f.list fs = .ok (found.map pathOf) ∧ found.Pairwise (· < ·) ∧
        ∀ names, names ∈ found ↔ IsSource fs place names) := by
  cases hlist : f.list fs with
  | error e =>
    obtain ⟨m, n, rfl, hcollides, hleast⟩ :=
      collides_of_list_eq_error hnamed hdistinct hbase hlist
    refine ⟨⟨fun _ => ⟨m, n, hcollides⟩, fun _ => ⟨_, _, rfl⟩⟩, fun first second h => ?_,
      fun hnone => absurd ⟨m, n, hcollides⟩ hnone⟩
    cases h
    exact ⟨m, n, rfl, rfl, hcollides, hleast⟩
  | ok listed =>
    obtain ⟨hnone, found, rfl, hascending, hmem⟩ :=
      listed_of_list_eq_ok hnamed hdistinct hbase hlist
    refine ⟨⟨?_, ?_⟩, ?_, fun _ => ⟨found, rfl, hascending, hmem⟩⟩
    · rintro ⟨first, second, h⟩
      cases h
    · rintro ⟨m, n, hcollides⟩
      exact absurd hcollides (hnone m n)
    · intro first second h
      cases h

/-- Two pairs of sources with one stem, the first of them in a directory named like a source, and a
hidden file that has no stem. -/
def twinDisk : FileSystem :=
  ⟨[(["t"], .directory), (["t", ".kt"], .file .empty), (["t", "a.kt"], .directory),
    (["t", "a.kt", "b.x.kt"], .file .empty), (["t", "a.kt", "b.x.kts"], .file .empty),
    (["t", "c.kt"], .file .empty), (["t", "c.kts"], .file .empty)]⟩

theorem list_settles_twinDisk :
    twinDisk.WellNamed ∧ twinDisk.Distinct ∧
    twinDisk.find ⟨"t"⟩ = .ok (["t"], .directory) ∧
    (∃ first second, (⟨⟨"t"⟩⟩ : Fixtures).list twinDisk =
      .error (.stemCollision first second)) ∧
    ∀ first second, (⟨⟨"t"⟩⟩ : Fixtures).list twinDisk = .error (.stemCollision first second) →
      ∃ m n, first = pathOf m ∧ second = pathOf n ∧ Collides twinDisk ["t"] m n ∧
        n ≤ ["a.kt", "b.x.kts"] := by
  have hnamed : twinDisk.WellNamed := by decide
  have hdistinct : twinDisk.Distinct := by
    rw [Distinct]
    decide
  have hfind : twinDisk.find ⟨"t"⟩ = .ok (["t"], .directory) := by decide +kernel
  have htwins : Collides twinDisk ["t"] ["a.kt", "b.x.kt"] ["a.kt", "b.x.kts"] :=
    ⟨by decide, ["a.kt"], "b.x",
      ⟨by decide, ⟨"kt", .inl rfl, by decide⟩, .empty, by decide +kernel⟩,
      ⟨by decide, ⟨"kts", .inr rfl, by decide⟩, .empty, by decide +kernel⟩⟩
  obtain ⟨hiff, hfirst, -⟩ := list_settles ⟨⟨"t"⟩⟩ twinDisk hnamed hdistinct hfind
  refine ⟨hnamed, hdistinct, hfind, hiff.mpr ⟨_, _, htwins⟩, fun first second h => ?_⟩
  obtain ⟨m, n, hm, hn, hcollides, hleast⟩ := hfirst first second h
  exact ⟨m, n, hm, hn, hcollides, hleast _ _ htwins⟩

end Fixtures

end GoldenTree
