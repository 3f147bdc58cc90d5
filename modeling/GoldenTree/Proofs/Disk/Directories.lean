import GoldenTree.Proofs.Disk.Parent

/-! Making the directories that lead to a file adds directories and nothing else. Making them a
second time changes nothing and fails exactly if the first time failed. -/
namespace GoldenTree.Disk.FileSystem

variable {fs fs' : FileSystem} {p q : Path} {place : Place} {pieces rest : List (List Char)}
  {e : IoError} {made : Except IoError Unit}

/-- The content of the file at a place. -/
def file? (fs : FileSystem) (place : Place) : Option ByteArray :=
  match fs.get? place with
  | some (.file bytes) => some bytes
  | _ => none

theorem file?_eq_some_iff {bytes : ByteArray} :
    fs.file? place = some bytes ↔ fs.get? place = some (.file bytes) := by
  unfold file?
  split
  · next found h => simp [h]
  · next h => simpa using fun hfile => h bytes hfile

/-- The second file system has the entries of the first and maybe more directories. -/
def Grows (fs fs' : FileSystem) : Prop :=
  ∀ place, fs'.get? place = fs.get? place ∨
    fs.get? place = none ∧ fs'.get? place = some .directory

theorem Grows.refl (fs : FileSystem) : Grows fs fs := fun _ => .inl rfl

theorem Grows.trans {fs'' : FileSystem} (h : Grows fs fs') (h' : Grows fs' fs'') :
    Grows fs fs'' := by
  intro place
  rcases h place with hsame | ⟨hnone, hdir⟩
  · rcases h' place with hsame' | ⟨hnone, hdir⟩
    · exact .inl (hsame'.trans hsame)
    · exact .inr ⟨hsame ▸ hnone, hdir⟩
  · rcases h' place with hsame' | ⟨hnone', -⟩
    · exact .inr ⟨hnone, hsame'.trans hdir⟩
    · exact absurd (hdir.symm.trans hnone') (by simp)

theorem Grows.keepsDirectories (h : Grows fs fs') : KeepsDirectories fs fs' := by
  intro place hdir
  rcases h place with hsame | ⟨hnone, -⟩
  · exact hsame.trans hdir
  · exact absurd (hdir.symm.trans hnone) (by simp)

theorem Grows.file? (h : Grows fs fs') (place : Place) : fs'.file? place = fs.file? place := by
  rcases h place with hsame | ⟨hnone, hdir⟩
  · simp only [FileSystem.file?, hsame]
  · simp only [FileSystem.file?, hnone, hdir]

theorem grows_put (h : fs.get? place = none) : Grows fs (fs.put place .directory) := by
  intro other
  have hfree : fs.get? place ≠ some .directory := by simp [h]
  have hne := ne_nil_of_get? hfree
  by_cases hother : other = place
  · subst hother
    exact .inr ⟨h, get?_put_self fs _ hne⟩
  · exact .inl (get?_put_ne fs _ hother)

/-! A directory and its parent. -/

/-- What follows the pieces of a path passes its place. -/
theorem isDirectory_of_append (husable : q.Usable) (hne : rest ≠ [])
    (h : (q.pieces ++ rest).foldlM fs.follow [] = .ok place) : fs.isDirectory q = true := by
  obtain ⟨mid, hmid, hrest⟩ := foldlM_append_eq_ok_iff.mp h
  obtain ⟨piece, pieces, rfl⟩ := List.exists_cons_of_ne_nil hne
  obtain ⟨next, hnext, -⟩ := foldlM_cons_eq_ok_iff.mp hrest
  exact isDirectory_iff.mpr ⟨mid, find_eq_ok_iff.mpr
    ⟨followAll_eq_ok_iff.mpr ⟨husable, hmid⟩, follow_directory hnext⟩⟩

theorem isDirectory_here (h : p.text = ".") : fs.isDirectory p = true := by
  obtain rfl : p = ⟨"."⟩ := by cases p; simp_all
  refine isDirectory_iff.mpr ⟨[], find_eq_ok_iff.mpr ⟨followAll_eq_ok_iff.mpr ⟨?_, ?_⟩, rfl⟩⟩
  · exact ⟨by decide, by decide, by decide, by decide⟩
  · rfl

theorem usable_of_isPrefix (hp : p.Usable) (hne : q.chars ≠ []) (h : q.chars <+: p.chars) :
    q.Usable := by
  obtain ⟨rest, hrest⟩ := h
  have htext : p.text = q.text ++ String.ofList rest := by
    rw [← String.toList_inj, String.toList_append, String.toList_ofList]
    exact hrest.symm
  obtain ⟨hnul, hshort, -, hrel⟩ := hp
  refine ⟨?_, ?_, hne, ?_⟩
  · rw [← hrest] at hnul
    simp at hnul ⊢
    exact hnul.1
  · rw [htext, String.utf8ByteSize_append] at hshort
    omega
  · obtain ⟨c, s, hchars⟩ := List.exists_cons_of_ne_nil hne
    simp only [Path.isAbsolute, ← hrest, hchars, List.cons_append, List.head?_cons] at hrel ⊢
    exact hrel

/-- A path whose name is reached has a parent that is a directory. -/
theorem isDirectory_parent (hparent : p.parent? = some q)
    (h : fs.followAll p (namePieces p) = .ok place) : q.text = "" ∨ fs.isDirectory q = true := by
  obtain ⟨husable, hfold⟩ := followAll_eq_ok_iff.mp h
  rcases Path.parent?_isPrefix hparent husable.relative with hempty | hhere | hbegins
  · exact .inl hempty
  · exact .inr (isDirectory_here hhere)
  · obtain ⟨hne, hstart, rest, hrest, hpieces⟩ := hbegins
    rw [hpieces] at hfold
    exact .inr (isDirectory_of_append (usable_of_isPrefix husable hne hstart) hrest hfold)

theorem parent?_of_empty (h : p.text = "") : p.parent? = none := by
  obtain rfl : p = ⟨""⟩ := by cases p; simp_all
  decide

theorem pieces_eq_namePieces (p : Path) :
    ∃ empties, p.pieces = namePieces p ++ empties ∧ ∀ piece ∈ empties, piece = [] := by
  refine ⟨(p.pieces.reverse.takeWhile List.isEmpty).reverse, ?_, ?_⟩
  · rw [namePieces, ← List.reverse_append, List.takeWhile_append_dropWhile, List.reverse_reverse]
  · intro piece hpiece
    have hempty := List.mem_takeWhile_imp (List.mem_reverse.mp hpiece)
    simpa using hempty

theorem foldlM_empties (h : ∀ piece ∈ rest, piece = []) (hdir : fs.get? place = some .directory) :
    rest.foldlM fs.follow place = .ok place := by
  induction rest with
  | nil => rfl
  | cons piece rest ih =>
    obtain ⟨rfl, hrest⟩ := List.forall_mem_cons.mp h
    have hfollow : fs.follow place [] = .ok place := by simp [follow, hdir]
    exact foldlM_cons_eq_ok_iff.mpr ⟨place, hfollow, ih hrest⟩

/-- The slashes behind the name of a directory lead nowhere else. -/
theorem isDirectory_iff_name : fs.isDirectory p = true ↔
    ∃ place, fs.followAll p (namePieces p) = .ok place ∧ fs.get? place = some .directory := by
  obtain ⟨empties, hpieces, hempties⟩ := pieces_eq_namePieces p
  simp only [isDirectory_iff, find_eq_ok_iff, locate, followAll_eq_ok_iff, hpieces,
    foldlM_append_eq_ok_iff]
  constructor
  · rintro ⟨place, ⟨husable, mid, hmid, hplace⟩, hdir⟩
    have hmiddir : fs.get? mid = some .directory := by
      cases empties with
      | nil =>
        obtain rfl := Except.ok.inj hplace
        exact hdir
      | cons piece empties =>
        obtain ⟨next, hnext, -⟩ := foldlM_cons_eq_ok_iff.mp hplace
        exact follow_directory hnext
    exact ⟨mid, ⟨husable, hmid⟩, hmiddir⟩
  · rintro ⟨place, ⟨husable, hplace⟩, hdir⟩
    exact ⟨place, ⟨husable, place, hplace, foldlM_empties hempties hdir⟩, hdir⟩

/-! One directory. -/

theorem makeDirectory_eq_ok_iff : fs.makeDirectory p = .ok fs' ↔
    ∃ place, fs.followAll p (namePieces p) = .ok place ∧ endsInDots (namePieces p) = false ∧
      fs.get? place = none ∧ fs' = fs.put place .directory := by
  rw [makeDirectory, bind_eq_ok]
  refine exists_congr fun place => and_congr_right fun _ => ?_
  constructor
  · intro h
    split at h
    · cases h
    · next hfree =>
      obtain ⟨hdots, hnone⟩ := not_or.mp hfree
      exact ⟨by simpa using hdots, by simpa using hnone, (Except.ok.inj h).symm⟩
  · rintro ⟨hdots, hnone, rfl⟩
    rw [if_neg (by simp [hdots, hnone])]
    rfl

theorem makeDirectory_of_isDirectory (h : fs.isDirectory p = true) :
    fs.makeDirectory p = .error .alreadyExists := by
  obtain ⟨place, hfollow, hdir⟩ := isDirectory_iff_name.mp h
  simp [makeDirectory, hfollow, hdir, bind, Except.bind, throw, throwThe, MonadExceptOf.throw]

theorem grows_makeDirectory (h : fs.makeDirectory p = .ok fs') : Grows fs fs' := by
  obtain ⟨place, -, -, hnone, rfl⟩ := makeDirectory_eq_ok_iff.mp h
  exact grows_put hnone

theorem isDirectory_makeDirectory (h : fs.makeDirectory p = .ok fs') :
    fs'.isDirectory p = true := by
  have hgrows := grows_makeDirectory h
  obtain ⟨place, hfollow, -, hnone, rfl⟩ := makeDirectory_eq_ok_iff.mp h
  have hfree : fs.get? place ≠ some .directory := by simp [hnone]
  have hne := ne_nil_of_get? hfree
  exact isDirectory_iff_name.mpr ⟨place, followAll_mono hgrows.keepsDirectories hfollow,
    get?_put_self fs _ hne⟩

/-- What one attempt at a directory comes to; that it is there already is no failure. -/
inductive Attempts (fs : FileSystem) (p : Path) : Except IoError Unit → FileSystem → Prop
  | made {fs' : FileSystem} : fs.makeDirectory p = .ok fs' → Attempts fs p (.ok ()) fs'
  | there : fs.isDirectory p = true → Attempts fs p (.ok ()) fs
  | refused {e : IoError} : fs.makeDirectory p = .error e → fs.isDirectory p = false →
      Attempts fs p (.error e) fs

theorem attempts_iff : Attempts fs p made fs' ↔
    (match fs.makeDirectory p with
      | .ok fs => (.ok (), fs)
      | .error e =>
        if e = .alreadyExists ∧ fs.isDirectory p then (.ok (), fs) else (.error e, fs)) =
      (made, fs') := by
  constructor
  · intro h
    cases h with
    | made hmade => rw [hmade]
    | there hthere =>
      rw [makeDirectory_of_isDirectory hthere]
      simp [hthere]
    | refused hrefused hnot =>
      rw [hrefused]
      simp [hnot]
  · intro h
    split at h
    · next fs'' hmade =>
      obtain ⟨rfl, rfl⟩ := Prod.mk.inj h
      exact .made hmade
    · next e hrefused =>
      split at h
      · next hthere =>
        obtain ⟨rfl, rfl⟩ := Prod.mk.inj h
        exact .there hthere.2
      · next hnot =>
        obtain ⟨rfl, rfl⟩ := Prod.mk.inj h
        refine .refused hrefused (Bool.eq_false_iff.mpr fun hdir => hnot ⟨?_, hdir⟩)
        rw [makeDirectory_of_isDirectory hdir] at hrefused
        exact (Except.error.inj hrefused).symm

theorem ensureDirectory_iff {prepare : FileSystem → Except IoError Unit × FileSystem} :
    fs.ensureDirectory p prepare = (made, fs') ↔
      (fs.makeDirectory p ≠ .error .notFound ∧ Attempts fs p made fs') ∨
      (fs.makeDirectory p = .error .notFound ∧
        ((∃ e, made = .error e ∧ prepare fs = (.error e, fs')) ∨
          ∃ mid, prepare fs = (.ok (), mid) ∧ Attempts mid p made fs')) := by
  unfold ensureDirectory
  by_cases hmissing : fs.makeDirectory p = .error .notFound
  · simp only [hmissing, ne_eq, not_true_eq_false, false_and, true_and, false_or]
    rcases hprepare : prepare fs with ⟨_ | _, mid⟩
    · simp only [Prod.mk.injEq, Except.error.injEq, reduceCtorEq, false_and, exists_false, or_false]
      constructor
      · rintro ⟨rfl, rfl⟩
        exact ⟨_, rfl, rfl, rfl⟩
      · rintro ⟨_, rfl, rfl, rfl⟩
        exact ⟨rfl, rfl⟩
    · simp only [Prod.mk.injEq, reduceCtorEq, false_and, and_false, exists_false, false_or,
        true_and, exists_eq_left']
      exact attempts_iff.symm
  · simp only [hmissing, ne_eq, not_false_eq_true, true_and, false_and, or_false]
    exact attempts_iff.symm

theorem Attempts.grows (h : Attempts fs p made fs') : Grows fs fs' := by
  cases h with
  | made hmade => exact grows_makeDirectory hmade
  | there _ => exact .refl fs
  | refused _ _ => exact .refl fs

theorem Attempts.isDirectory (h : Attempts fs p (.ok ()) fs') : fs'.isDirectory p = true := by
  cases h with
  | made hmade => exact isDirectory_makeDirectory hmade
  | there hthere => exact hthere

/-! All directories that lead to a path. -/

theorem grows_makeChain {ps : List Path} (h : makeChain ps fs = (made, fs')) : Grows fs fs' := by
  induction ps generalizing fs fs' made with
  | nil =>
    obtain ⟨-, rfl⟩ := Prod.mk.inj h
    exact .refl fs
  | cons p ps ih =>
    rcases ensureDirectory_iff.mp h with
      ⟨-, hattempt⟩ | ⟨-, ⟨e, -, hprepare⟩ | ⟨mid, hprepare, hattempt⟩⟩
    · exact hattempt.grows
    · exact ih hprepare
    · exact (ih hprepare).trans hattempt.grows

theorem isDirectory_of_makeChain {ps : List Path} (h : makeChain (p :: ps) fs = (.ok (), fs')) :
    fs'.isDirectory p = true := by
  rcases ensureDirectory_iff.mp h with ⟨-, hattempt⟩ | ⟨-, ⟨e, hmade, -⟩ | ⟨mid, -, hattempt⟩⟩
  · exact hattempt.isDirectory
  · cases hmade
  · exact hattempt.isDirectory

theorem makeChain_of_isDirectory {ps : List Path} (h : fs.isDirectory p = true) :
    makeChain (p :: ps) fs = (.ok (), fs) :=
  ensureDirectory_iff.mpr (.inl ⟨by simp [makeDirectory_of_isDirectory h], .there h⟩)

theorem makeChain_again {ps : List Path} (h : makeChain ps fs = (.ok (), fs')) :
    makeChain ps fs' = (.ok (), fs') := by
  cases ps with
  | nil => rfl
  | cons p ps => exact makeChain_of_isDirectory (isDirectory_of_makeChain h)

/-- Each path of a chain has the next one as its parent, and all have parents. -/
inductive Chain : List Path → Prop
  | nil : Chain []
  | last {p : Path} : p.parent?.isSome → Chain [p]
  | step {p q : Path} {ps : List Path} : p.parent? = some q → Chain (q :: ps) → Chain (p :: q :: ps)

theorem Chain.parent?_isSome {ps : List Path} (h : Chain (p :: ps)) : p.parent?.isSome := by
  cases h with
  | last hsome => exact hsome
  | step hparent _ => simp [hparent]

/-- Where the parent is no directory, nothing is reached and nothing made. -/
theorem makeDirectory_without_parent (hparent : p.parent? = some q) (hq : q.parent?.isSome)
    (hmissing : fs.isDirectory q = false) :
    fs.isDirectory p = false ∧ ∃ e, fs.makeDirectory p = .error e := by
  have hstuck : ∀ place, fs.followAll p (namePieces p) ≠ .ok place := by
    intro place hplace
    rcases isDirectory_parent hparent hplace with hempty | hdir
    · simp [parent?_of_empty hempty] at hq
    · simp [hmissing] at hdir
  constructor
  · refine Bool.eq_false_iff.mpr fun hdir => ?_
    obtain ⟨place, hplace, -⟩ := isDirectory_iff_name.mp hdir
    exact hstuck place hplace
  · cases hmake : fs.makeDirectory p with
    | ok fs' =>
      obtain ⟨place, hplace, -⟩ := makeDirectory_eq_ok_iff.mp hmake
      exact absurd hplace (hstuck place)
    | error e => exact ⟨e, rfl⟩

/-- Where making directories fails, it fails again in the same place. -/
theorem makeChain_fails_again {ps : List Path} (hchain : Chain ps)
    (h : makeChain ps fs = (.error e, fs')) :
    (∀ p ∈ ps.head?, fs'.isDirectory p = false) ∧ ∃ e', makeChain ps fs' = (.error e', fs') := by
  induction ps generalizing fs fs' e with
  | nil => cases h
  | cons p ps ih =>
    simp only [List.head?_cons, Option.mem_def, Option.some.injEq, forall_eq']
    rcases ensureDirectory_iff.mp h with
      ⟨-, hattempt⟩ | ⟨-, ⟨e', -, hprepare⟩ | ⟨mid, hprepare, hattempt⟩⟩
    · cases hattempt with
      | refused hrefused hnot => exact ⟨hnot, e, h⟩
    · cases hchain with
      | last _ => cases hprepare
      | step hparent hchain =>
        obtain ⟨hnotparent, e'', hagain⟩ := ih hchain hprepare
        -- The parent is missing still, so nothing below it can be reached.
        obtain ⟨hnot, cause, hmake⟩ :=
          makeDirectory_without_parent hparent hchain.parent?_isSome (hnotparent _ rfl)
        refine ⟨hnot, ?_⟩
        by_cases hmissing : fs'.makeDirectory p = .error .notFound
        · exact ⟨e'', ensureDirectory_iff.mpr (.inr ⟨hmissing, .inl ⟨e'', rfl, hagain⟩⟩)⟩
        · exact ⟨cause, ensureDirectory_iff.mpr (.inl ⟨hmissing, .refused hmake hnot⟩)⟩
    · cases hattempt with
      | refused hrefused hnot =>
        refine ⟨hnot, e, ensureDirectory_iff.mpr ?_⟩
        by_cases hmissing : fs'.makeDirectory p = .error .notFound
        · exact .inr ⟨hmissing, .inr ⟨fs', makeChain_again hprepare, .refused hrefused hnot⟩⟩
        · exact .inl ⟨hmissing, .refused hrefused hnot⟩

theorem chain_climb (fuel : Nat) (p : Path) :
    Chain ((Path.climb fuel p).takeWhile fun p => p.parent?.isSome) := by
  induction fuel generalizing p with
  | zero => exact .nil
  | succ fuel ih =>
    cases hparent : p.parent? with
    | none =>
      simp only [Path.climb, hparent, List.takeWhile_cons, Option.isSome_none]
      exact .nil
    | some q =>
      simp only [Path.climb, hparent, List.takeWhile_cons, Option.isSome_some, if_true,
        Option.map_some, Option.getD_some]
      have hchain := ih q
      cases fuel with
      | zero => exact .last (by simp [hparent])
      | succ fuel =>
        cases hq : q.parent? with
        | none =>
          simp only [Path.climb, hq, List.takeWhile_cons, Option.isSome_none]
          exact .last (by simp [hparent])
        | some r =>
          simp only [Path.climb, List.takeWhile_cons, hq, Option.isSome_some, if_true] at hchain ⊢
          exact .step hparent hchain

theorem grows_makeDirectories (h : fs.makeDirectories p = (made, fs')) : Grows fs fs' :=
  grows_makeChain h

/-- Nothing is made where a directory is, nor where there is no parent. -/
theorem makeDirectories_of_isDirectory (h : p.text = "" ∨ fs.isDirectory p = true) :
    fs.makeDirectories p = (.ok (), fs) := by
  rw [makeDirectories, Path.ancestors, Path.climb]
  rcases h with hempty | hdir
  · simp [parent?_of_empty hempty, makeChain]
  · by_cases hparent : p.parent?.isSome = true
    · rw [List.takeWhile_cons, if_pos hparent]
      exact makeChain_of_isDirectory hdir
    · rw [List.takeWhile_cons, if_neg hparent]
      rfl

/-- Made again, the directories stay as they are, and what failed fails again. -/
theorem makeDirectories_again (h : fs.makeDirectories p = (made, fs')) :
    ∃ made', fs'.makeDirectories p = (made', fs') ∧ made'.isOk = made.isOk := by
  cases made with
  | ok _ => exact ⟨.ok (), makeChain_again h, rfl⟩
  | error e =>
    obtain ⟨-, e', hagain⟩ := makeChain_fails_again (chain_climb _ _) h
    exact ⟨.error e', hagain, rfl⟩

end GoldenTree.Disk.FileSystem
