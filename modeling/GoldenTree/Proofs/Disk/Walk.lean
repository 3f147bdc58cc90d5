import GoldenTree.Disk.Walk
import GoldenTree.Proofs.Disk.Components
import GoldenTree.Proofs.Disk.WellNamed
import Mathlib.Data.String.Basic

/-! Walks. What is in a directory is met once, in the order of the names that lead to it, and under
a path that leads where it is. -/
namespace GoldenTree.Disk

open GoldenTree.Disk.Path

namespace FileSystem

variable {fs : FileSystem} {p root : Path} {place other : Place} {names : List String}
  {ws : List Walked}

/-! File systems that list every place once. All operations put entries or erase them. -/

def Distinct (fs : FileSystem) : Prop := (fs.entries.map Prod.fst).Nodup

theorem distinct_empty : empty.Distinct := List.nodup_nil

theorem Distinct.filter (h : fs.Distinct) (p : Place × Entry → Bool) :
    ((fs.entries.filter p).map Prod.fst).Nodup :=
  h.sublist (List.filter_sublist.map _)

theorem Distinct.put (h : fs.Distinct) (place : Place) (entry : Entry) :
    (fs.put place entry).Distinct := by
  refine List.nodup_cons.mpr ⟨fun hplace => ?_, h.filter _⟩
  obtain ⟨e, he, heq⟩ := List.mem_map.mp hplace
  have hne : e.1 ≠ place := by simpa using (List.mem_filter.mp he).2
  exact hne heq

theorem Distinct.erase (h : fs.Distinct) (place : Place) : (fs.erase place).Distinct := h.filter _

/-! What is below a place. -/

theorem mem_below {found : List String × Entry} (h : found ∈ fs.below place) :
    found.1 ≠ [] ∧ ∃ e ∈ fs.entries, place ++ found.1 = e.1 := by
  obtain ⟨e, he, hfound⟩ := List.mem_filterMap.mp (List.mem_mergeSort.mp h)
  split at hfound
  · next name names hprefix =>
    obtain rfl := Option.some.inj hfound
    exact ⟨List.cons_ne_nil _ _, e, he, List.isPrefixOf?_eq_some_iff_append_eq.mp hprefix⟩
  · cases hfound

theorem nodup_below (h : fs.Distinct) (place : Place) : ((fs.below place).map Prod.fst).Nodup := by
  refine ((List.mergeSort_perm _ _).map Prod.fst).nodup_iff.mpr ?_
  refine List.pairwise_map.mpr (List.pairwise_filterMap.mpr ?_)
  refine (List.pairwise_map.mp h).imp fun {d e} hne found hfound found' hfound' hsame => hne ?_
  split at hfound
  · next name names hprefix =>
    split at hfound'
    · next name' names' hprefix' =>
      obtain rfl := Option.some.inj hfound
      obtain rfl := Option.some.inj hfound'
      -- Both entries are at the place that the names lead to.
      have hd : place ++ name :: names = d.1 :=
        List.isPrefixOf?_eq_some_iff_append_eq.mp hprefix
      have he : place ++ name' :: names' = e.1 :=
        List.isPrefixOf?_eq_some_iff_append_eq.mp hprefix'
      rw [← hd, ← he]
      exact congrArg (place ++ ·) hsame
    · cases hfound'
  · cases hfound

theorem below_ascending (h : fs.Distinct) (place : Place) :
    (fs.below place).Pairwise fun a b => a.1 < b.1 := by
  have hsorted : (fs.below place).Pairwise fun a b => decide (¬ b.1 < a.1) = true := by
    apply List.pairwise_mergeSort
    · intro a b c hab hbc
      simp only [decide_eq_true_eq, not_lt] at hab hbc ⊢
      exact hab.trans hbc
    · intro a b
      simpa using le_total a.1 b.1
  have hnodup := List.pairwise_map.mp (nodup_below h place)
  refine (hsorted.and hnodup).imp fun {a b} hab => ?_
  exact lt_of_le_of_ne (not_lt.mp (of_decide_eq_true hab.1)) hab.2

/-! Where the paths of a walk lead. -/

theorem locate_join {n : String} (hn : IsName n.toList) (hne : p.chars ≠ [])
    (h : fs.locate (p.join ⟨n⟩) = .ok place) :
    ∃ directory, fs.locate p = .ok directory ∧ place = directory ++ [n] := by
  have hnames := names_join (p := p) hn
  obtain ⟨directory, hfolder, hplace⟩ := isFolder_of_names hnames h
  rw [String.ofList_toList] at hplace
  refine ⟨directory, followAll_eq_ok_iff.mpr ⟨?_, ?_⟩, hplace⟩
  · have hbegins : p.chars <+: p.asFolder := by
      unfold asFolder
      split
      · exact List.prefix_rfl
      · exact List.prefix_append _ _
    refine usable_of_isPrefix (followAll_eq_ok_iff.mp h).1 hne (hbegins.trans ?_)
    rw [hnames.chars]
    exact List.prefix_append _ _
  · obtain ⟨empties, hempties, hpieces⟩ := pieces_asFolder p
    rw [hpieces]
    exact foldlM_append_eq_ok_iff.mpr
      ⟨directory, hfolder.leads, foldlM_empties hempties hfolder.isDirectory⟩

end FileSystem

/-- The path that goes on from a root along some names. -/
def Path.behind (root : Path) (names : List String) : Path :=
  names.foldl (fun p name => p.join ⟨name⟩) root

namespace Path

variable {root : Path} {names : List String} {n : String}

theorem behind_concat (root : Path) (names : List String) (n : String) :
    root.behind (names ++ [n]) = (root.behind names).join ⟨n⟩ := List.foldl_concat ..

theorem chars_behind_ne_nil (hroot : root.chars ≠ [])
    (hnames : ∀ name ∈ names, IsName name.toList) : (root.behind names).chars ≠ [] := by
  induction names using List.reverseRecOn with
  | nil => exact hroot
  | append_singleton names n =>
    have hn : IsName n.toList := hnames n List.mem_concat_self
    rw [behind_concat, chars_join (isAbsolute_of_isName hn)]
    exact List.append_ne_nil_of_right_ne_nil _ hn.nonempty

end Path

namespace FileSystem

variable {fs : FileSystem} {root : Path} {place directory : Place} {names : List String}
  {ws : List Walked}

/-- Behind a root, names lead below the place of the root or nowhere. -/
theorem locate_behind (hnames : ∀ name ∈ names, IsName name.toList)
    (hroot : fs.locate root = .ok directory) (h : fs.locate (root.behind names) = .ok place) :
    place = directory ++ names := by
  induction names using List.reverseRecOn generalizing place with
  | nil =>
    obtain rfl := Except.ok.inj (hroot.symm.trans h)
    simp
  | append_singleton names n ih =>
    have hinit : ∀ name ∈ names, IsName name.toList :=
      fun name hname => hnames name (List.mem_append_left _ hname)
    have hne := chars_behind_ne_nil (followAll_eq_ok_iff.mp hroot).1.nonempty hinit
    rw [behind_concat] at h
    obtain ⟨parent, hparent, rfl⟩ := locate_join (hnames n List.mem_concat_self) hne h
    rw [ih hinit hparent, List.append_assoc]

/-- Met on a walk of a root: names lead there, and the path goes along them. -/
structure Met (root : Path) (w : Walked) : Prop where
  names : ∀ name ∈ w.names, IsName name.toList
  path : w.path = root.behind w.names

/-- A walk finds the root alone, if that is a file, or a directory and what is in it. -/
theorem walk_eq_ok (hnamed : fs.WellNamed) (h : fs.walk root = .ok ws) :
    ∃ place entry inside, fs.find root = .ok (place, entry) ∧
      ws = ⟨root, [], entry⟩ :: inside ∧ (inside ≠ [] → entry = .directory) ∧
      ∀ w ∈ inside, w.names ≠ [] ∧ Met root w := by
  unfold walk at h
  split at h
  · cases h
  · next place entry hfind =>
    dsimp only at h
    split at h
    · obtain rfl := Except.ok.inj h
      exact ⟨place, _, [], hfind, rfl, by simp, by simp⟩
    · obtain rfl := Except.ok.inj h
      refine ⟨place, _, _, hfind, rfl, fun _ => rfl, fun w hw => ?_⟩
      obtain ⟨found, hfound, rfl⟩ := List.mem_map.mp hw
      obtain ⟨hne, e, he, happend⟩ := mem_below hfound
      refine ⟨hne, fun name hname => hnamed e he name ?_, rfl⟩
      rw [← happend]
      exact List.mem_append_right place hname

theorem walk_ascending (hdistinct : fs.Distinct) (h : fs.walk root = .ok ws) :
    ws.Pairwise fun v w => v.names < w.names := by
  unfold walk at h
  split at h
  · cases h
  · next place entry hfind =>
    dsimp only at h
    split at h
    · obtain rfl := Except.ok.inj h
      exact List.pairwise_singleton _ _
    · obtain rfl := Except.ok.inj h
      refine List.pairwise_cons.mpr ⟨fun w hw => ?_, ?_⟩
      · obtain ⟨found, hfound, rfl⟩ := List.mem_map.mp hw
        obtain ⟨name, names, hnames⟩ := List.exists_cons_of_ne_nil (mem_below hfound).1
        simp [hnames]
      · exact List.pairwise_map.mpr (below_ascending hdistinct place)

end FileSystem

end GoldenTree.Disk
