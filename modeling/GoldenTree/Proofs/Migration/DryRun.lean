import GoldenTree.Proofs.Disk.Walk
import GoldenTree.Proofs.Migration.Audit

/-! A dry run foretells the run that writes. The golden file of a dump comes before the dump in the
order of a walk, so that what has been written is not read again: every dump is audited against the
files as they were at first, also where a golden file is a dump itself. -/
namespace GoldenTree.Migration

open Disk FileSystem Path

variable {rule : Rule} {a : Audit} {base fs fs' : FileSystem} {root dir actual p : Path}
  {d : Decision} {done : List Decision} {actuals : List Path} {bytes : ByteArray}
  {place directory : Place} {e : AuditError} {v w : Walked} {walked : List Walked}

/-! Dry runs. -/

/-- The decision as a dry run gives it. -/
def Decision.unapplied (d : Decision) : Decision := { d with applied := false }

theorem review_dry (rule : Rule) (fs : FileSystem) (actual : Path) :
    (⟨rule, true⟩ : Audit).review fs actual =
      ((⟨rule, false⟩ : Audit).review fs actual).map fun (d, bytes) => (d.unapplied, bytes) := by
  rw [Audit.review, Audit.review]
  cases Audit.reading fs actual with
  | error e => rfl
  | ok found => simp [Except.map, Audit.decide, Decision.unapplied]

theorem auditFile_dry_error (h : (⟨rule, false⟩ : Audit).review fs actual = .error e) :
    (⟨rule, true⟩ : Audit).auditFile fs actual = .error e :=
  Audit.auditFile_eq_error_iff.mpr (by rw [review_dry, h]; rfl)

theorem auditFile_dry_ok (h : (⟨rule, false⟩ : Audit).review fs actual = .ok (d, bytes)) :
    (⟨rule, true⟩ : Audit).auditFile fs actual = .ok (d.unapplied, fs) := by
  have hdry : (⟨rule, true⟩ : Audit).review fs actual = .ok (d.unapplied, bytes) := by
    rw [review_dry, h]
    rfl
  obtain ⟨place, old, -, haudit⟩ := Audit.auditFile_of_review hdry
  exact haudit

/-! Audits of dumps that are kept apart. -/

/-- A golden file is not where a dump is and not where the golden file of that dump is. -/
def Clear (fs : FileSystem) (golden actual : Path) : Prop :=
  ∀ place, fs.locate golden = .ok place →
    fs.locate actual ≠ .ok place ∧ fs.locate (goldenOf actual) ≠ .ok place

/-- The golden files of compatible dumps hold what these dumps held at first, and all else is as it
was at first. -/
structure Promoted (base fs : FileSystem) (ds : List Decision) : Prop where
  places : ∀ p, fs.locate p = base.locate p
  golden : ∀ d ∈ ds, d.isCompatible = true → ∃ place bytes, base.locate d.golden = .ok place ∧
    base.read d.actual = .ok bytes ∧ fs.get? place = some (.file bytes)
  others : ∀ place, (∀ d ∈ ds, d.isCompatible = true → base.locate d.golden ≠ .ok place) →
    fs.get? place = base.get? place

namespace Promoted

theorem nil (fs : FileSystem) : Promoted fs fs [] := ⟨fun _ => rfl, by simp, fun _ _ => rfl⟩

theorem find_eq (h : Promoted base fs done)
    (hp : ∀ d ∈ done, ∀ place, base.locate d.golden = .ok place → base.locate p ≠ .ok place) :
    fs.find p = base.find p := by
  rw [find, find, h.places]
  cases hlocate : base.locate p with
  | error cause => rfl
  | ok place =>
    have hsame := h.others place fun d hd _ hgolden => hp d hd place hgolden hlocate
    simp only [bind, Except.bind, hsame]

theorem review_eq (h : Promoted base fs done) (hclear : ∀ d ∈ done, Clear base d.golden actual) :
    a.review fs actual = a.review base actual :=
  Audit.review_congr (h.find_eq fun d hd place hplace => (hclear d hd place hplace).1)
    (h.find_eq fun d hd place hplace => (hclear d hd place hplace).2)

/-- One more dump is promoted if it is compatible. -/
theorem audit (h : Promoted base fs done) (hclear : ∀ d ∈ done, Clear base d.golden actual)
    (haudit : (⟨rule, false⟩ : Audit).auditFile fs actual = .ok (d, fs')) :
    Promoted base fs' (done ++ [d]) := by
  obtain ⟨bytes, place, old, hreview, hfind, rfl⟩ := Audit.auditFile_eq_ok_iff.mp haudit
  obtain ⟨hlocate, hfile⟩ := find_eq_ok_iff.mp hfind
  rw [h.places] at hlocate
  rw [h.review_eq hclear] at hreview
  obtain ⟨hactual, hgolden, hread, happlied⟩ := Audit.of_review hreview
  rw [← hgolden] at hlocate
  rw [← hactual] at hread
  cases hcompatible : d.isCompatible with
  | false =>
    rw [happlied, hcompatible]
    refine ⟨h.places, fun d' hd' hcompatible' => ?_, fun other hother => ?_⟩
    · rcases List.mem_append.mp hd' with hd' | hd'
      · exact h.golden d' hd' hcompatible'
      · obtain rfl := List.mem_singleton.mp hd'
        cases hcompatible.symm.trans hcompatible'
    · exact h.others other fun d' hd' => hother d' (List.mem_append_left _ hd')
  | true =>
    rw [happlied, hcompatible]
    have hput := get?_put fs (ne_nil_of_file hfile) (.file bytes)
    refine ⟨fun p => (locate_put_file hfile p).trans (h.places p), fun d' hd' hcompatible' => ?_,
      fun other hother => ?_⟩
    · rcases List.mem_append.mp hd' with hd' | hd'
      · obtain ⟨place', bytes', hlocate', hread', hholds⟩ := h.golden d' hd' hcompatible'
        refine ⟨place', bytes', hlocate', hread', ?_⟩
        have hne : place' ≠ place := by
          rintro rfl
          exact (hclear d' hd' place' hlocate').2 (hgolden ▸ hlocate)
        exact (hput place').trans ((if_neg hne).trans hholds)
      · obtain rfl := List.mem_singleton.mp hd'
        exact ⟨place, bytes, hlocate, hread, (hput place).trans (if_pos rfl)⟩
    · have hne : other ≠ place := by
        rintro rfl
        exact hother d List.mem_concat_self hcompatible hlocate
      refine (hput other).trans ((if_neg hne).trans ?_)
      exact h.others other fun d' hd' => hother d' (List.mem_append_left _ hd')

end Promoted

/-- What was promoted stays so, since it is clear of all dumps that are still to come. -/
theorem auditAll_promoted (rule : Rule)
    (hapart : actuals.Pairwise fun p q =>
      base.isFile (goldenOf p) = true → Clear base (goldenOf p) q)
    (h : Promoted base fs done) (hclear : ∀ d ∈ done, ∀ p ∈ actuals, Clear base d.golden p) :
    Promoted base ((⟨rule, false⟩ : Audit).auditAll actuals fs).2
        (done ++ (⟨rule, false⟩ : Audit).decided actuals fs) ∧
      (⟨rule, true⟩ : Audit).auditAll actuals base =
        (((⟨rule, false⟩ : Audit).auditAll actuals fs).1.map (List.map Decision.unapplied),
          base) := by
  induction actuals generalizing fs done with
  | nil => exact ⟨by simpa [Audit.decided, Audit.auditAll] using h, rfl⟩
  | cons actual rest ih =>
    obtain ⟨hfirst, hrest⟩ := List.pairwise_cons.mp hapart
    have hreview : (⟨rule, false⟩ : Audit).review fs actual =
        (⟨rule, false⟩ : Audit).review base actual :=
      h.review_eq fun d hd => hclear d hd actual List.mem_cons_self
    cases hfound : (⟨rule, false⟩ : Audit).review fs actual with
    | error e =>
      have haudit := Audit.auditFile_eq_error_iff.mpr hfound
      have hdry := auditFile_dry_error (hreview ▸ hfound)
      rw [Audit.auditAll_cons_of_error haudit, Audit.auditAll_cons_of_error hdry,
        Audit.decided_cons_of_error haudit, List.append_nil]
      exact ⟨h, rfl⟩
    | ok reviewed =>
      obtain ⟨d, bytes⟩ := reviewed
      obtain ⟨place, old, hfind, haudit⟩ := Audit.auditFile_of_review hfound
      have hdry := auditFile_dry_ok (hreview ▸ hfound)
      have hclear' : ∀ d' ∈ done ++ [d], ∀ p ∈ rest, Clear base d'.golden p := by
        intro d' hd' p hp
        rcases List.mem_append.mp hd' with hd' | hd'
        · exact hclear d' hd' p (List.mem_cons_of_mem _ hp)
        · obtain rfl := List.mem_singleton.mp hd'
          obtain ⟨golden, hgolden, -, -⟩ := Audit.review_eq_ok_iff.mp (hreview ▸ hfound)
          rw [(Audit.of_review hfound).2.1]
          exact hfirst p hp (isFile_of_readText hgolden)
      obtain ⟨hpromoted, hothers⟩ := ih hrest
        (h.audit (fun d' hd' => hclear d' hd' actual List.mem_cons_self) haudit) hclear'
      rw [Audit.auditAll_cons_of_ok haudit, Audit.auditAll_cons_of_ok hdry,
        Audit.decided_cons_of_ok haudit, hothers]
      refine ⟨by simpa using hpromoted, ?_⟩
      rw [map_map, map_map]
      rfl

/-! The order of a walk. -/

/-- The golden file of a dump that was met has a path along names, of which the last is that of the
dump without its suffix. -/
theorem exists_names_golden (hmet : Met root w) (hne : w.names ≠ [])
    (hsuffix : Audit.hasSuffix CaseFiles.actualSuffix w = true)
    (hfile : fs.isFile (goldenOf w.path) = true) :
    ∃ front name, w.names = front ++ [name ++ CaseFiles.actualSuffix] ∧
      (∀ n ∈ front ++ [name], IsName n.toList) ∧
      goldenOf w.path = root.behind (front ++ [name]) := by
  obtain ⟨front, last, hnames⟩ := (List.eq_nil_or_concat' w.names).resolve_left hne
  have hall : ∀ n ∈ front ++ [last], IsName n.toList := hnames ▸ hmet.names
  have hlast : IsName last.toList := hall last List.mem_concat_self
  have hpath : w.path = (root.behind front).join ⟨last⟩ := by
    rw [hmet.path, hnames, behind_concat]
  have hjoined := names_join (p := root.behind front) hlast
  have hfileName : w.fileName = last := by
    have hcomponents := fileName?_eq_some_iff.mpr
      ((congrArg List.getLast? hjoined.components).trans List.getLast?_concat)
    rw [Walked.fileName, hpath, hcomponents, Option.getD_some, String.ofList_toList]
  simp only [Audit.hasSuffix, hfileName, Bool.and_eq_true] at hsuffix
  obtain ⟨name, hname⟩ := List.isSuffixOf_iff_suffix.mp hsuffix.2
  have hchars : w.path.chars =
      ((root.behind front).asFolder ++ name) ++ CaseFiles.actualSuffix.toList := by
    rw [hpath, hjoined.chars, ← hname, List.append_assoc]
  have hgolden := goldenOf_eq hchars
  have hslash : '/' ∉ name := fun hmem =>
    hlast.noSlash (hname ▸ List.mem_append_left _ hmem)
  rw [hgolden] at hfile
  have hnamed : IsName (String.ofList name).toList := by
    rw [String.toList_ofList]
    exact (names_of_isFile (chars_ofList _) (asFolder_cases _) hslash hfile).name
  refine ⟨front, String.ofList name, ?_, fun n hn => ?_, ?_⟩
  · rw [hnames, ← String.ofList_toList (s := last), ← hname, String.ofList_append,
      String.ofList_toList]
  · rcases List.mem_append.mp hn with hn | hn
    · exact hall n (List.mem_append_left _ hn)
    · obtain rfl := List.mem_singleton.mp hn
      exact hnamed
  · rw [hgolden, behind_concat]
    refine eq_of_chars ?_
    rw [chars_ofList, (names_join hnamed).chars, String.toList_ofList]

/-- A golden file stands before its dump. -/
theorem names_golden_lt (front : List String) (name : String) :
    front ++ [name] < front ++ [name ++ CaseFiles.actualSuffix] := by
  have hlonger : name < name ++ CaseFiles.actualSuffix := by
    have hlt : name.toList ++ [] < name.toList ++ CaseFiles.actualSuffix.toList :=
      List.append_left_lt (by decide)
    rwa [List.append_nil, ← String.toList_append, ← String.lt_iff] at hlt
  exact List.append_left_lt (List.cons_lt_cons_iff.mpr (.inl hlonger))

theorem clear_of_lt (hroot : fs.locate root = .ok directory) (hv : Met root v) (hw : Met root w)
    (hvne : v.names ≠ []) (hwne : w.names ≠ [])
    (hvsuffix : Audit.hasSuffix CaseFiles.actualSuffix v = true)
    (hwsuffix : Audit.hasSuffix CaseFiles.actualSuffix w = true) (hlt : v.names < w.names)
    (hfile : fs.isFile (goldenOf v.path) = true) : Clear fs (goldenOf v.path) w.path := by
  intro place hplace
  obtain ⟨front, name, hvnames, hisName, hgolden⟩ := exists_names_golden hv hvne hvsuffix hfile
  have hthere : place = directory ++ (front ++ [name]) :=
    locate_behind hisName hroot (hgolden ▸ hplace)
  constructor
  · intro hsame
    rw [hw.path] at hsame
    have hnames : front ++ [name] = w.names :=
      List.append_cancel_left (hthere.symm.trans (locate_behind hw.names hroot hsame))
    rw [← hnames, hvnames] at hlt
    exact lt_asymm hlt (names_golden_lt front name)
  · intro hsame
    have hfile' : fs.isFile (goldenOf w.path) = true := by
      obtain ⟨found, bytes, hfind⟩ := isFile_iff.mp hfile
      obtain ⟨hlocate, hentry⟩ := find_eq_ok_iff.mp hfind
      obtain rfl := Except.ok.inj (hlocate.symm.trans hplace)
      exact isFile_iff.mpr ⟨_, _, find_eq_ok_iff.mpr ⟨hsame, hentry⟩⟩
    obtain ⟨front', name', hwnames, hisName', hgolden'⟩ :=
      exists_names_golden hw hwne hwsuffix hfile'
    have hnames : front ++ [name] = front' ++ [name'] :=
      List.append_cancel_left
        (hthere.symm.trans (locate_behind hisName' hroot (hgolden' ▸ hsame)))
    obtain ⟨rfl, hlast⟩ := List.append_inj' hnames rfl
    obtain rfl := List.singleton_inj.mp hlast
    rw [hvnames, hwnames] at hlt
    exact lt_irrefl _ hlt

theorem dumps_apart (hnamed : fs.WellNamed) (hdistinct : fs.Distinct)
    (hwalk : fs.walk dir = .ok walked) : (Audit.dumps walked).Pairwise fun p q =>
      fs.isFile (goldenOf p) = true → Clear fs (goldenOf p) q := by
  obtain ⟨place, entry, inside, hfind, rfl, hentry, hinside⟩ := walk_eq_ok hnamed hwalk
  refine List.pairwise_map.mpr ?_
  by_cases hempty : inside = []
  · subst hempty
    exact (List.pairwise_singleton _ _).filter _
  · obtain rfl := hentry hempty
    obtain ⟨-, hascending⟩ := List.pairwise_cons.mp (walk_ascending hdistinct hwalk)
    rw [List.filter_cons_of_neg (by simp [Audit.hasSuffix, Walked.isFile])]
    refine (hascending.filter _).imp_of_mem fun {v w} hv hw hlt hfile => ?_
    obtain ⟨hv, hvsuffix⟩ := List.mem_filter.mp hv
    obtain ⟨hw, hwsuffix⟩ := List.mem_filter.mp hw
    exact clear_of_lt (find_eq_ok_iff.mp hfind).1 (hinside v hv).2 (hinside w hw).2
      (hinside v hv).1 (hinside w hw).1 hvsuffix hwsuffix hlt hfile

/-- A dry run writes nothing and gives the error or, but for what is applied, the decisions of the
run that writes. That run, also one that an error ends, leaves in the golden file of each compatible
dump what the dump held before the run, and all other files as they were. -/
theorem dryRun_predicts (rule : Rule) (fs : FileSystem) (dir : Path) (hnamed : fs.WellNamed)
    (hdistinct : fs.Distinct) :
    (⟨rule, true⟩ : Audit).run fs dir =
        (((⟨rule, false⟩ : Audit).run fs dir).1.map (List.map Decision.unapplied), fs) ∧
      (∀ ds, ((⟨rule, false⟩ : Audit).run fs dir).1 = .ok ds →
        (⟨rule, false⟩ : Audit).decisions fs dir = ds) ∧
      Promoted fs ((⟨rule, false⟩ : Audit).run fs dir).2
        ((⟨rule, false⟩ : Audit).decisions fs dir) := by
  suffices hrun : (⟨rule, true⟩ : Audit).run fs dir =
        (((⟨rule, false⟩ : Audit).run fs dir).1.map (List.map Decision.unapplied), fs) ∧
      Promoted fs ((⟨rule, false⟩ : Audit).run fs dir).2
        ((⟨rule, false⟩ : Audit).decisions fs dir) from
    ⟨hrun.1, fun ds => Audit.decisions_of_run, hrun.2⟩
  rw [Audit.decisions]
  cases hwalk : fs.walk dir with
  | error cause =>
    rw [Audit.run_of_walk_error hwalk, Audit.run_of_walk_error hwalk]
    exact ⟨rfl, .nil fs⟩
  | ok walked =>
    rw [Audit.run_of_walk hwalk, Audit.run_of_walk hwalk]
    obtain ⟨hpromoted, hdry⟩ := auditAll_promoted rule
      (dumps_apart hnamed hdistinct hwalk) (.nil fs) (by simp)
    exact ⟨hdry, by simpa using hpromoted⟩

/-! A dump that has a dump of its own. -/

def chainGolden : String := "h\n  Identifier(\"value\")\n"

def chainDump : String := "h\n  VALUE(\"value\")\n"

def chainLast : String := "h\n    VALUE(\"value\")\n"

def chainDisk : FileSystem :=
  ⟨[(["t"], .directory), (["t", "x"], .file chainGolden.toUTF8),
    (["t", "x.actual"], .file chainDump.toUTF8),
    (["t", "x.actual.actual"], .file chainLast.toUTF8)]⟩

/-- The decisions on the chain. Both dumps are applied. -/
def chainDecisions : List Decision :=
  [⟨⟨"t/x.actual"⟩, ⟨"t/x"⟩, 1, [], true⟩,
    ⟨⟨"t/x.actual.actual"⟩, ⟨"t/x.actual"⟩, 0, [], true⟩]

theorem wellNamed_chainDisk : chainDisk.WellNamed := by decide

theorem dumps_chainDisk : ∃ walked, chainDisk.walk ⟨"t"⟩ = .ok walked ∧
    Audit.dumps walked = [⟨"t/x.actual"⟩, ⟨"t/x.actual.actual"⟩] := by
  have hfind : chainDisk.find ⟨"t"⟩ = .ok (["t"], .directory) := by decide +kernel
  have hbelow : chainDisk.below ["t"] = [(["x"], .file chainGolden.toUTF8),
      (["x.actual"], .file chainDump.toUTF8), (["x.actual.actual"], .file chainLast.toUTF8)] :=
    List.mergeSort_of_pairwise (by decide +kernel)
  have hwalk : chainDisk.walk ⟨"t"⟩ = .ok [⟨⟨"t"⟩, [], .directory⟩,
      ⟨⟨"t/x"⟩, ["x"], .file chainGolden.toUTF8⟩,
      ⟨⟨"t/x.actual"⟩, ["x.actual"], .file chainDump.toUTF8⟩,
      ⟨⟨"t/x.actual.actual"⟩, ["x.actual.actual"], .file chainLast.toUTF8⟩] := by
    rw [walk, hfind]
    dsimp only
    rw [hbelow]
    rfl
  exact ⟨_, hwalk, by decide +kernel⟩

theorem decisions_chainDisk :
    (⟨.identifierToValue, false⟩ : Audit).decisions chainDisk ⟨"t"⟩ = chainDecisions := by
  have hfirst : (⟨.identifierToValue, false⟩ : Audit).auditFile chainDisk ⟨"t/x.actual"⟩ =
      .ok (⟨⟨"t/x.actual"⟩, ⟨"t/x"⟩, 1, [], true⟩,
        chainDisk.put ["t", "x"] (.file chainDump.toUTF8)) := by
    have hgolden : chainDisk.find (goldenOf ⟨"t/x.actual"⟩) =
        .ok (["t", "x"], .file chainGolden.toUTF8) := by decide +kernel
    have hdump : chainDisk.read ⟨"t/x.actual"⟩ = .ok chainDump.toUTF8 := by decide +kernel
    have hdecision : (⟨.identifierToValue, false⟩ : Audit).decide ⟨"t/x.actual"⟩
        (Dump.parse chainGolden) (Dump.parse chainDump) =
        ⟨⟨"t/x.actual"⟩, ⟨"t/x"⟩, 1, [], true⟩ := by decide +kernel
    rw [Audit.auditFile_of_texts _ hgolden hdump, hdecision]
    rfl
  have hsecond : (⟨.identifierToValue, false⟩ : Audit).auditFile
      (chainDisk.put ["t", "x"] (.file chainDump.toUTF8)) ⟨"t/x.actual.actual"⟩ =
      .ok (⟨⟨"t/x.actual.actual"⟩, ⟨"t/x.actual"⟩, 0, [], true⟩,
        (chainDisk.put ["t", "x"] (.file chainDump.toUTF8)).put ["t", "x.actual"]
          (.file chainLast.toUTF8)) := by
    have hgolden : (chainDisk.put ["t", "x"] (.file chainDump.toUTF8)).find
        (goldenOf ⟨"t/x.actual.actual"⟩) = .ok (["t", "x.actual"], .file chainDump.toUTF8) := by
      decide +kernel
    have hdump : (chainDisk.put ["t", "x"] (.file chainDump.toUTF8)).read
        ⟨"t/x.actual.actual"⟩ = .ok chainLast.toUTF8 := by decide +kernel
    have hdecision : (⟨.identifierToValue, false⟩ : Audit).decide ⟨"t/x.actual.actual"⟩
        (Dump.parse chainDump) (Dump.parse chainLast) =
        ⟨⟨"t/x.actual.actual"⟩, ⟨"t/x.actual"⟩, 0, [], true⟩ := by decide +kernel
    rw [Audit.auditFile_of_texts _ hgolden hdump, hdecision]
    rfl
  obtain ⟨walked, hwalk, hdumps⟩ := dumps_chainDisk
  simp only [Audit.decisions, hwalk]
  rw [hdumps, Audit.decided_cons_of_ok hfirst, Audit.decided_cons_of_ok hsecond]
  rfl

theorem dryRun_predicts_chainDisk :
    chainDisk.WellNamed ∧ chainDisk.Distinct ∧
      (⟨.identifierToValue, false⟩ : Audit).decisions chainDisk ⟨"t"⟩ = chainDecisions ∧
      Promoted chainDisk ((⟨.identifierToValue, false⟩ : Audit).run chainDisk ⟨"t"⟩).2
        ((⟨.identifierToValue, false⟩ : Audit).decisions chainDisk ⟨"t"⟩) :=
  have hdistinct : chainDisk.Distinct := (by decide : (chainDisk.entries.map Prod.fst).Nodup)
  ⟨wellNamed_chainDisk, hdistinct, decisions_chainDisk,
    (dryRun_predicts .identifierToValue chainDisk ⟨"t"⟩ wellNamed_chainDisk hdistinct).2.2⟩

end GoldenTree.Migration
