import GoldenTree.Golden.Reconcile
import GoldenTree.Proofs.Disk.Siblings

/-! All the ways in which a golden file and a fresh text are reconciled, as one relation between
what is there before and after. -/
namespace GoldenTree.Golden

open Disk FileSystem

theorem compare?_eq_none_iff {expected actual : String} :
    compare? expected actual = none ↔ normalize expected = normalize actual := by
  unfold compare?
  by_cases h : normalize expected = normalize actual <;> simp [h]

theorem compare?_eq_none_iff_normalChars {expected actual : String} :
    compare? expected actual = none ↔ normalChars expected.toList = normalChars actual.toList := by
  rw [compare?_eq_none_iff, normalize, normalize, String.ofList_inj]

namespace Reconciler

variable {fs fs' : FileSystem} {p q golden : Path} {folder name other : List Char}
  {place directory : Place} {made : Except IoError Unit} {done : Except ReconcileError Unit}
  {text actual : String} {r : Reconciler} {regenerate : Bool}
  {agreement : Except ReconcileError Agreement}

/-- How a file is installed: room is made for it, then it is written. -/
inductive Installs (fs : FileSystem) (p : Path) (text : String) :
    Except ReconcileError Unit → FileSystem → Prop
  | noRoom {cause : IoError} {fs' : FileSystem} : makeRoom fs p = (.error cause, fs') →
      Installs fs p text (.error (.io p cause)) fs'
  | unwritten {cause : IoError} {fs' : FileSystem} : makeRoom fs p = (.ok (), fs') →
      fs'.writeText p text = .error cause → Installs fs p text (.error (.io p cause)) fs'
  | written {room fs' : FileSystem} : makeRoom fs p = (.ok (), room) →
      room.writeText p text = .ok fs' → Installs fs p text (.ok ()) fs'

theorem install_iff : install fs p text = (done, fs') ↔ Installs fs p text done fs' := by
  constructor
  · intro h
    unfold install at h
    split at h
    · next cause room hroom =>
      obtain ⟨rfl, rfl⟩ := Prod.mk.inj h
      exact .noRoom hroom
    · next room hroom =>
      split at h
      · next cause hwrite =>
        obtain ⟨rfl, rfl⟩ := Prod.mk.inj h
        exact .unwritten hroom hwrite
      · next fs'' hwrite =>
        obtain ⟨rfl, rfl⟩ := Prod.mk.inj h
        exact .written hroom hwrite
  · intro h
    cases h with
    | noRoom hroom => simp only [install, hroom]
    | unwritten hroom hwrite => simp only [install, hroom, hwrite]
    | written hroom hwrite => simp only [install, hroom, hwrite]

/-! Making room. -/

theorem grows_makeRoom (h : makeRoom fs p = (made, fs')) : Grows fs fs' := by
  unfold makeRoom at h
  split at h
  · exact grows_makeDirectories h
  · obtain ⟨-, rfl⟩ := Prod.mk.inj h
    exact .refl fs

theorem makeRoom_again (h : makeRoom fs p = (made, fs')) :
    ∃ made', makeRoom fs' p = (made', fs') ∧ made'.isOk = made.isOk := by
  unfold makeRoom at h ⊢
  split at h
  · exact makeDirectories_again h
  · obtain ⟨rfl, rfl⟩ := Prod.mk.inj h
    exact ⟨.ok (), rfl, rfl⟩

/-- In a folder there is room. -/
theorem makeRoom_of_isFolder (hfolder : IsFolder fs folder directory)
    (hp : p.Names folder name) : makeRoom fs p = (.ok (), fs) := by
  unfold makeRoom
  split
  · next parent hparent =>
    exact makeDirectories_of_isDirectory (hfolder.isDirectory_parent hp hparent)
  · rfl

/-- Beside a file there is room. -/
theorem makeRoom_of_names (hp : p.Names folder name) (hq : q.Names folder other)
    (hplace : fs.locate q = .ok place) : makeRoom fs p = (.ok (), fs) := by
  obtain ⟨directory, hfolder, -⟩ := isFolder_of_names hq hplace
  exact makeRoom_of_isFolder hfolder hp

/-- Beside a file, installing is writing. -/
theorem installs_of_names (hp : p.Names folder name) (hq : q.Names folder other)
    (hplace : fs.locate q = .ok place) (h : Installs fs p text done fs') :
    (∃ cause, fs.writeText p text = .error cause ∧ done = .error (.io p cause) ∧ fs' = fs) ∨
      (fs.writeText p text = .ok fs' ∧ done = .ok ()) := by
  have hroom := makeRoom_of_names hp hq hplace
  cases h with
  | noRoom hnoroom =>
    rw [hroom] at hnoroom
    cases hnoroom
  | unwritten hroom' hwrite =>
    obtain rfl := (Prod.mk.inj (hroom.symm.trans hroom')).2
    exact .inl ⟨_, hwrite, rfl, rfl⟩
  | written hroom' hwrite =>
    obtain rfl := (Prod.mk.inj (hroom.symm.trans hroom')).2
    exact .inr ⟨hwrite, rfl⟩

/-- What is said about a golden file that differs. -/
def mismatch (r : Reconciler) (golden : Path) (expected actual : String)
    (difference : Difference) (dump? : Option Path) : Mismatch :=
  ⟨r.message ++ ": " ++ golden.fileName?.getD "", golden, expected, actual, difference, dump?⟩

/-- How a golden file and a fresh text are reconciled. -/
inductive Reconciles (r : Reconciler) (fs : FileSystem) (golden : Path) (actual : String)
    (regenerate : Bool) : Except ReconcileError Agreement → FileSystem → Prop
  | created {fs' : FileSystem} : fs.pathExists golden = false →
      Installs fs golden (normalize actual) (.ok ()) fs' →
      Reconciles r fs golden actual regenerate (.ok .created) fs'
  | uncreated {e : ReconcileError} {fs' : FileSystem} : fs.pathExists golden = false →
      Installs fs golden (normalize actual) (.error e) fs' →
      Reconciles r fs golden actual regenerate (.error e) fs'
  | unread {cause : IoError} : fs.pathExists golden = true → fs.readText golden = .error cause →
      Reconciles r fs golden actual regenerate (.error (.io golden cause)) fs
  | matched {expected : String} : fs.readText golden = .ok expected →
      normalize expected = normalize (normalize actual) →
      Reconciles r fs golden actual regenerate (.ok .matched) fs
  | regenerated {expected : String} {difference : Difference} {fs' : FileSystem} :
      fs.readText golden = .ok expected →
      compare? expected (normalize actual) = some difference → regenerate = true →
      Installs fs golden (normalize actual) (.ok ()) fs' →
      Reconciles r fs golden actual regenerate (.ok .regenerated) fs'
  | unregenerated {expected : String} {difference : Difference} {e : ReconcileError}
      {fs' : FileSystem} : fs.readText golden = .ok expected →
      compare? expected (normalize actual) = some difference → regenerate = true →
      Installs fs golden (normalize actual) (.error e) fs' →
      Reconciles r fs golden actual regenerate (.error e) fs'
  | refused {expected : String} {difference : Difference} : fs.readText golden = .ok expected →
      compare? expected (normalize actual) = some difference → regenerate = false →
      r.dumpsActual = false →
      Reconciles r fs golden actual regenerate
        (.error (.mismatch (r.mismatch golden expected actual difference none))) fs
  | dumped {expected : String} {difference : Difference} {fs' : FileSystem} :
      fs.readText golden = .ok expected →
      compare? expected (normalize actual) = some difference → regenerate = false →
      r.dumpsActual = true →
      Installs fs (CaseFiles.actualDump golden) (normalize actual) (.ok ()) fs' →
      Reconciles r fs golden actual regenerate
        (.error (.mismatch (r.mismatch golden expected actual difference
          (some (CaseFiles.actualDump golden))))) fs'
  | undumped {expected : String} {difference : Difference} {e : ReconcileError}
      {fs' : FileSystem} : fs.readText golden = .ok expected →
      compare? expected (normalize actual) = some difference → regenerate = false →
      r.dumpsActual = true →
      Installs fs (CaseFiles.actualDump golden) (normalize actual) (.error e) fs' →
      Reconciles r fs golden actual regenerate (.error e) fs'

theorem pathExists_of_readText (h : fs.readText p = .ok text) : fs.pathExists p = true := by
  obtain ⟨bytes, hread, -⟩ := readText_eq_ok_iff.mp h
  obtain ⟨place, hfind⟩ := read_eq_ok_iff.mp hread
  exact pathExists_iff.mpr ⟨place, _, hfind⟩

theorem reconciles_of_refuse {expected : String} {difference : Difference} {e : ReconcileError}
    (hread : fs.readText golden = .ok expected)
    (hdiffers : compare? expected (normalize actual) = some difference)
    (h : r.refuse fs golden expected actual difference = (e, fs')) :
    Reconciles r fs golden actual false (.error e) fs' := by
  by_cases hdumps : r.dumpsActual = true
  · cases hinstall : install fs (CaseFiles.actualDump golden) (normalize actual) with
    | mk done fs'' =>
      simp only [refuse, hdumps, hinstall, if_true] at h
      cases done with
      | error e =>
        obtain ⟨rfl, rfl⟩ := Prod.mk.inj h
        exact .undumped hread hdiffers rfl hdumps (install_iff.mp hinstall)
      | ok _ =>
        obtain ⟨rfl, rfl⟩ := Prod.mk.inj h
        exact .dumped hread hdiffers rfl hdumps (install_iff.mp hinstall)
  · simp only [refuse, hdumps] at h
    obtain ⟨rfl, rfl⟩ := Prod.mk.inj h
    exact .refused hread hdiffers rfl (Bool.eq_false_iff.mpr hdumps)

theorem reconciles_of_reconcile
    (h : r.reconcile fs golden actual regenerate = (agreement, fs')) :
    Reconciles r fs golden actual regenerate agreement fs' := by
  unfold reconcile at h
  cases hinstall : install fs golden (normalize actual) with
  | mk done fs'' =>
    rw [hinstall] at h
    have hinstalls := install_iff.mp hinstall
    split at h
    · next hexists =>
      split at h
      · next cause hread =>
        obtain ⟨rfl, rfl⟩ := Prod.mk.inj h
        exact .unread hexists hread
      · next expected hread =>
        split at h
        · next hsame =>
          obtain ⟨rfl, rfl⟩ := Prod.mk.inj h
          exact .matched hread (compare?_eq_none_iff.mp hsame)
        · next difference hdiffers =>
          cases regenerate with
          | true =>
            obtain ⟨rfl, rfl⟩ := Prod.mk.inj h
            cases done with
            | error e => exact .unregenerated hread hdiffers rfl hinstalls
            | ok _ => exact .regenerated hread hdiffers rfl hinstalls
          | false =>
            obtain ⟨rfl, rfl⟩ := Prod.mk.inj h
            exact reconciles_of_refuse hread hdiffers rfl
    · next hexists =>
      obtain ⟨rfl, rfl⟩ := Prod.mk.inj h
      cases done with
      | error e => exact .uncreated (Bool.eq_false_iff.mpr hexists) hinstalls
      | ok _ => exact .created (Bool.eq_false_iff.mpr hexists) hinstalls

theorem reconcile_of_reconciles (h : Reconciles r fs golden actual regenerate agreement fs') :
    r.reconcile fs golden actual regenerate = (agreement, fs') := by
  cases h with
  | created hexists hinstall =>
    simp [reconcile, hexists, install_iff.mpr hinstall, Except.map]
  | uncreated hexists hinstall =>
    simp [reconcile, hexists, install_iff.mpr hinstall, Except.map]
  | unread hexists hread => simp [reconcile, hexists, hread]
  | matched hread hsame =>
    simp [reconcile, pathExists_of_readText hread, hread, compare?_eq_none_iff.mpr hsame]
  | regenerated hread hdiffers hregenerate hinstall =>
    simp [reconcile, pathExists_of_readText hread, hread, hdiffers, hregenerate,
      install_iff.mpr hinstall, Except.map]
  | unregenerated hread hdiffers hregenerate hinstall =>
    simp [reconcile, pathExists_of_readText hread, hread, hdiffers, hregenerate,
      install_iff.mpr hinstall, Except.map]
  | refused hread hdiffers hregenerate hdumps =>
    simp [reconcile, pathExists_of_readText hread, hread, hdiffers, hregenerate, refuse, hdumps,
      mismatch]
  | dumped hread hdiffers hregenerate hdumps hinstall =>
    simp [reconcile, pathExists_of_readText hread, hread, hdiffers, hregenerate, refuse, hdumps,
      install_iff.mpr hinstall, mismatch]
  | undumped hread hdiffers hregenerate hdumps hinstall =>
    simp [reconcile, pathExists_of_readText hread, hread, hdiffers, hregenerate, refuse, hdumps,
      install_iff.mpr hinstall]

theorem reconcile_iff : r.reconcile fs golden actual regenerate = (agreement, fs') ↔
    Reconciles r fs golden actual regenerate agreement fs' :=
  ⟨reconciles_of_reconcile, reconcile_of_reconciles⟩

/-! What reconciling changes. -/

theorem grows_of_installs {e : ReconcileError} (h : Installs fs p text (.error e) fs') :
    Grows fs fs' := by
  cases h with
  | noRoom hroom => exact grows_makeRoom hroom
  | unwritten hroom _ => exact grows_makeRoom hroom

/-- What is written where, by how the two came to agree or not. -/
inductive Changes (r : Reconciler) (fs : FileSystem) (golden : Path) (actual : String)
    (regenerate : Bool) : Except ReconcileError Agreement → FileSystem → Prop
  | created {fs' : FileSystem} : fs.pathExists golden = false →
      Installs fs golden (normalize actual) (.ok ()) fs' →
      Changes r fs golden actual regenerate (.ok .created) fs'
  | matched {expected : String} : fs.readText golden = .ok expected →
      normalize expected = normalize (normalize actual) →
      Changes r fs golden actual regenerate (.ok .matched) fs
  | regenerated {expected : String} {fs' : FileSystem} : fs.readText golden = .ok expected →
      regenerate = true → fs.writeText golden (normalize actual) = .ok fs' →
      Changes r fs golden actual regenerate (.ok .regenerated) fs'
  | refused {expected : String} {m : Mismatch} : fs.readText golden = .ok expected →
      regenerate = false → r.dumpsActual = false →
      Changes r fs golden actual regenerate (.error (.mismatch m)) fs
  | dumped {expected : String} {m : Mismatch} {fs' : FileSystem} :
      fs.readText golden = .ok expected → regenerate = false → r.dumpsActual = true →
      fs.writeText (CaseFiles.actualDump golden) (normalize actual) = .ok fs' →
      Changes r fs golden actual regenerate (.error (.mismatch m)) fs'
  | failed {path : Path} {cause : IoError} {fs' : FileSystem} : Grows fs fs' →
      (fs.pathExists golden = true → fs' = fs) →
      Changes r fs golden actual regenerate (.error (.io path cause)) fs'

theorem locate_of_readText (h : fs.readText p = .ok text) : ∃ place, fs.locate p = .ok place := by
  obtain ⟨bytes, hread, -⟩ := readText_eq_ok_iff.mp h
  obtain ⟨place, hplace, -⟩ := read_eq_ok_iff_file?.mp hread
  exact ⟨place, hplace⟩

theorem changes_of_reconciles (hgolden : golden.Names folder name)
    (hdump : (CaseFiles.actualDump golden).Names folder other)
    (h : Reconciles r fs golden actual regenerate agreement fs') :
    Changes r fs golden actual regenerate agreement fs' := by
  cases h with
  | created hmissing hinstall => exact .created hmissing hinstall
  | uncreated hmissing hinstall =>
    have hgrows := grows_of_installs hinstall
    cases hinstall <;> exact .failed hgrows fun hexists => by simp [hmissing] at hexists
  | unread _ _ => exact .failed (.refl fs) fun _ => rfl
  | matched hread hequal => exact .matched hread hequal
  | regenerated hread _ hforce hinstall =>
    obtain ⟨place, hplace⟩ := locate_of_readText hread
    rcases installs_of_names hgolden hgolden hplace hinstall with ⟨_, -, hdone, -⟩ | ⟨hwrite, -⟩
    · cases hdone
    · exact .regenerated hread hforce hwrite
  | unregenerated hread _ _ hinstall =>
    obtain ⟨place, hplace⟩ := locate_of_readText hread
    rcases installs_of_names hgolden hgolden hplace hinstall with ⟨_, -, hdone, rfl⟩ | ⟨-, hdone⟩
    · obtain rfl := Except.error.inj hdone
      exact .failed (.refl fs') fun _ => rfl
    · cases hdone
  | refused hread _ hkeep hquiet => exact .refused hread hkeep hquiet
  | dumped hread _ hkeep hdumps hinstall =>
    obtain ⟨place, hplace⟩ := locate_of_readText hread
    rcases installs_of_names hdump hgolden hplace hinstall with ⟨_, -, hdone, -⟩ | ⟨hwrite, -⟩
    · cases hdone
    · exact .dumped hread hkeep hdumps hwrite
  | undumped hread _ _ _ hinstall =>
    obtain ⟨place, hplace⟩ := locate_of_readText hread
    rcases installs_of_names hdump hgolden hplace hinstall with ⟨_, -, hdone, rfl⟩ | ⟨-, hdone⟩
    · obtain rfl := Except.error.inj hdone
      exact .failed (.refl fs') fun _ => rfl
    · cases hdone

end Reconciler

end GoldenTree.Golden
