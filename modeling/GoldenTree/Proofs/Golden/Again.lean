import GoldenTree.Proofs.Case.Loaded
import GoldenTree.Proofs.Disk.Overwrite
import GoldenTree.Proofs.Golden.Written

/-! Reconciling again with the same text. A golden file that came to agree with it agrees ever
after, whoever asks; one that differs is left alone, and is found to differ in the same way. -/
namespace GoldenTree.Golden.Reconciler

open Disk FileSystem

variable {r : Reconciler} {fs fs' : FileSystem} {golden : Path} {actual : String}
  {regenerate : Bool} {outcome : Except ReconcileError Agreement} {folder name other : List Char}

/-- Reconciles a golden file with one text time and again, by one reconciler after the other. -/
def reconcileAll (golden : Path) (actual : String) :
    List (Reconciler × Bool) → FileSystem → List (Except ReconcileError Agreement) × FileSystem
  | [], fs => ([], fs)
  | (r, regenerate) :: calls, fs =>
    let (outcome, fs) := r.reconcile fs golden actual regenerate
    let (outcomes, fs) := reconcileAll golden actual calls fs
    (outcome :: outcomes, fs)

/-- What leaves everything as it is can be had any number of times. -/
theorem reconcileAll_of_settled (calls : List (Reconciler × Bool))
    (h : ∀ call ∈ calls, call.1.reconcile fs golden actual call.2 = (outcome, fs)) :
    reconcileAll golden actual calls fs = (List.replicate calls.length outcome, fs) := by
  induction calls with
  | nil => rfl
  | cons call calls ih =>
    obtain ⟨hcall, hcalls⟩ := List.forall_mem_cons.mp h
    simp only [reconcileAll, hcall, ih hcalls, List.length_cons, List.replicate_succ]

/-- A golden file that was written for a text matches it. The two are the same before they are
normalized for the comparison, so that it does not matter what normalizing them again changes. -/
theorem Reconciles.matched_of_read (h : fs.read golden = .ok (normalize actual).toUTF8) :
    Reconciles r fs golden actual regenerate (.ok .matched) fs :=
  .matched (readText_of_read h) rfl

/-- Once they agree, the golden file matches the text for every reconciler. -/
theorem Reconciles.matched_again {agreement : Agreement} {r' : Reconciler} {regenerate' : Bool}
    (h : Reconciles r fs golden actual regenerate (.ok agreement) fs') :
    Reconciles r' fs' golden actual regenerate' (.ok .matched) fs' := by
  cases h with
  | created _ hinstall => exact .matched_of_read (hinstall.read rfl)
  | matched hread hequal => exact .matched hread hequal
  | regenerated _ _ _ hinstall => exact .matched_of_read (hinstall.read rfl)

/-- A mismatch is found again: at most the dump was written, and it is written as it stands. -/
theorem Reconciles.mismatch_again {m : Mismatch} (hgolden : golden.Names folder name)
    (hdump : (CaseFiles.actualDump golden).Names folder other) (hne : name ≠ other)
    (h : Reconciles r fs golden actual regenerate (.error (.mismatch m)) fs') :
    Keeps fs fs' golden ∧
      Reconciles r fs' golden actual regenerate (.error (.mismatch m)) fs' := by
  cases h with
  | refused hread hdiffers hkeep hquiet =>
    exact ⟨.refl fs golden, .refused hread hdiffers hkeep hquiet⟩
  | dumped hread hdiffers hkeep hdumps hinstall =>
    obtain ⟨place, hplace⟩ := locate_of_readText hread
    rcases installs_of_names hdump hgolden hplace hinstall with ⟨_, -, hdone, -⟩ | ⟨hwrite, -⟩
    · cases hdone
    · have hkeeps : Keeps fs fs' golden := keeps_write_of_names hgolden hdump hne hwrite
      have hread' := hkeeps.readText hread
      obtain ⟨place', hplace'⟩ := locate_of_readText hread'
      exact ⟨hkeeps, .dumped hread' hdiffers hkeep hdumps
        (.written (makeRoom_of_names hdump hgolden hplace') (write_again hdump hwrite))⟩
  | uncreated _ hinstall => cases hinstall
  | unregenerated _ _ _ hinstall => cases hinstall
  | undumped _ _ _ _ hinstall => cases hinstall

/-- Only a golden file that was read is found to differ. -/
theorem Reconciles.exists_text_of_mismatch {m : Mismatch}
    (h : Reconciles r fs golden actual regenerate (.error (.mismatch m)) fs') :
    ∃ text, fs.readText golden = .ok text := by
  cases h with
  | refused hread _ _ _ => exact ⟨_, hread⟩
  | dumped hread _ _ _ _ => exact ⟨_, hread⟩
  | uncreated _ hinstall => cases hinstall
  | unregenerated _ _ _ hinstall => cases hinstall
  | undumped _ _ _ _ hinstall => cases hinstall

/-- Whatever came of reconciling, it is settled. After an agreement, any reconcilers find the golden
file to match and write nothing. After a mismatch, the golden file is what it was, and each further
attempt ends in the same mismatch and leaves the files as the first one did. -/
theorem reconcile_settles (h : r.reconcile fs golden actual regenerate = (outcome, fs')) :
    (∀ agreement, outcome = .ok agreement → ∀ later : List (Reconciler × Bool),
      reconcileAll golden actual later fs' =
        (List.replicate later.length (.ok .matched), fs')) ∧
    ∀ m, outcome = .error (.mismatch m) →
      (∃ bytes, fs.read golden = .ok bytes ∧ fs'.read golden = .ok bytes) ∧
      ∀ times, reconcileAll golden actual (List.replicate times (r, regenerate)) fs' =
        (List.replicate times (.error (.mismatch m)), fs') := by
  constructor
  · rintro agreement rfl later
    exact reconcileAll_of_settled later fun call _ =>
      reconcile_of_reconciles (reconciles_of_reconcile h).matched_again
  · rintro m rfl
    have hmismatch := reconciles_of_reconcile h
    obtain ⟨text, hread⟩ := hmismatch.exists_text_of_mismatch
    obtain ⟨folder, name, hgolden⟩ := exists_names_of_isFile (isFile_of_readText hread)
    obtain ⟨hkeeps, hagain⟩ := hmismatch.mismatch_again hgolden
      (CaseFiles.names_actualDump hgolden) (by simp [CaseFiles.actualSuffix])
    obtain ⟨bytes, hbytes, -⟩ := readText_eq_ok_iff.mp hread
    refine ⟨⟨bytes, hbytes, (hkeeps bytes).mpr hbytes⟩, fun times => ?_⟩
    have hall := reconcileAll_of_settled (List.replicate times (r, regenerate))
      fun call hcall => by
        rw [List.eq_of_mem_replicate hcall]
        exact reconcile_of_reconciles hagain
    rwa [List.length_replicate] at hall

/-- A text whose normal form is not normal: a no-break space hides blank lines at its end. -/
def restlessText : String := "a\n\n\u00A0"

def isMismatch : Except ReconcileError Agreement → Bool
  | .error (.mismatch _) => true
  | _ => false

theorem exists_of_isMismatch (h : isMismatch outcome = true) :
    ∃ m, outcome = .error (.mismatch m) := by
  unfold isMismatch at h
  split at h
  · exact ⟨_, rfl⟩
  · cases h

/-- The golden file is created for that text and then compared with another. -/
theorem reconcile_settles_restlessText :
    let golden : Path := ⟨"t/a.txt"⟩
    let created := standard.reconcile .empty golden restlessText false
    let refused := standard.reconcile created.2 golden "b" false
    created.1 = .ok .created ∧
      reconcileAll golden restlessText [(⟨false, ""⟩, true), (standard, false)] created.2 =
        ([.ok .matched, .ok .matched], created.2) ∧
      refused.2.isFile (CaseFiles.actualDump golden) = true ∧
      ∃ m, refused.1 = .error (.mismatch m) ∧
        (∃ bytes, created.2.read golden = .ok bytes ∧ refused.2.read golden = .ok bytes) ∧
        reconcileAll golden "b" [(standard, false), (standard, false)] refused.2 =
          ([.error (.mismatch m), .error (.mismatch m)], refused.2) := by
  intro golden created refused
  have hcreated : created.1 = .ok .created := by decide +kernel
  obtain ⟨m, hrefused⟩ : ∃ m, refused.1 = .error (.mismatch m) :=
    exists_of_isMismatch (by decide +kernel)
  obtain ⟨hagreed, -⟩ := reconcile_settles (Prod.ext hcreated rfl : created = (.ok .created, _))
  obtain ⟨-, hdiffers⟩ :=
    reconcile_settles (Prod.ext hrefused rfl : refused = (.error (.mismatch m), _))
  obtain ⟨hkept, hagain⟩ := hdiffers m rfl
  exact ⟨hcreated, hagreed _ rfl _, by decide +kernel, m, hrefused, hkept, hagain 2⟩

end GoldenTree.Golden.Reconciler
