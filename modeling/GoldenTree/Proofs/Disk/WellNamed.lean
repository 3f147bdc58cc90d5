import GoldenTree.Proofs.Disk.Folder

/-! File systems whose places consist of names. All operations keep to names, so that none but such
file systems are ever made. -/
namespace GoldenTree.Disk.FileSystem

open Text

variable {fs fs' : FileSystem} {p : Path} {place other : Place} {bytes : ByteArray}
  {pieces : List (List Char)} {made : Except IoError Unit}

def WellNamed (fs : FileSystem) : Prop := ∀ e ∈ fs.entries, ∀ name ∈ e.1, IsName name.toList

instance (fs : FileSystem) : Decidable fs.WellNamed :=
  inferInstanceAs (Decidable (∀ e ∈ fs.entries, ∀ name ∈ e.1, IsName name.toList))

theorem wellNamed_empty : empty.WellNamed := fun _ he => by cases he

theorem WellNamed.put (h : fs.WellNamed) (hplace : ∀ name ∈ place, IsName name.toList)
    (entry : Entry) : (fs.put place entry).WellNamed := by
  intro e he
  rcases List.mem_cons.mp he with rfl | he
  · exact hplace
  · exact h e (List.mem_filter.mp he).1

theorem WellNamed.erase (h : fs.WellNamed) (place : Place) : (fs.erase place).WellNamed :=
  fun e he => h e (List.mem_filter.mp he).1

/-- The pieces of a path that are followed are names, or lead up or nowhere. -/
theorem isName_of_foldlM (hpieces : ∀ piece ∈ pieces, '/' ∉ piece)
    (hplace : ∀ name ∈ place, IsName name.toList)
    (h : pieces.foldlM fs.follow place = .ok other) : ∀ name ∈ other, IsName name.toList := by
  induction pieces generalizing place with
  | nil =>
    obtain rfl := Except.ok.inj h
    exact hplace
  | cons piece pieces ih =>
    obtain ⟨hslash, hpieces⟩ := List.forall_mem_cons.mp hpieces
    obtain ⟨mid, hmid, hrest⟩ := foldlM_cons_eq_ok_iff.mp h
    refine ih hpieces ?_ hrest
    simp only [follow, follow_directory hmid] at hmid
    split at hmid
    · obtain rfl := Except.ok.inj hmid
      exact hplace
    · next hreal =>
      obtain ⟨hne, hdot⟩ := not_or.mp hreal
      split at hmid
      · split at hmid
        · cases hmid
        · obtain rfl := Except.ok.inj hmid
          exact fun name hname => hplace name (List.dropLast_subset place hname)
      · next hup =>
        split at hmid
        · cases hmid
        · obtain rfl := Except.ok.inj hmid
          intro name hname
          rcases List.mem_append.mp hname with hname | hname
          · exact hplace name hname
          · obtain rfl := List.mem_singleton.mp hname
            rw [String.toList_ofList]
            exact ⟨hslash, hne, hdot, hup⟩

theorem isName_of_followAll (h : fs.followAll p (namePieces p) = .ok place) :
    ∀ name ∈ place, IsName name.toList := by
  obtain ⟨-, hfold⟩ := followAll_eq_ok_iff.mp h
  obtain ⟨empties, hpieces, -⟩ := pieces_eq_namePieces p
  refine isName_of_foldlM (fun piece hpiece => ?_) (by simp) hfold
  exact not_mem_of_mem_splitAt (s := p.chars)
    (hpieces ▸ List.mem_append_left empties hpiece : piece ∈ p.pieces)

theorem isName_of_target (h : fs.target p = .ok place) : ∀ name ∈ place, IsName name.toList :=
  isName_of_followAll (target_eq_ok_iff.mp h).1

theorem WellNamed.write (h : fs.WellNamed) (hwrite : fs.write p bytes = .ok fs') :
    fs'.WellNamed := by
  obtain ⟨place, htarget, rfl⟩ := write_eq_ok_iff.mp hwrite
  exact h.put (isName_of_target htarget) _

theorem WellNamed.touch (h : fs.WellNamed) (htouch : fs.touch p = .ok fs') : fs'.WellNamed := by
  obtain ⟨place, htarget, rfl⟩ := touch_eq_ok_iff.mp htouch
  split
  · exact h
  · exact h.put (isName_of_target htarget) _

theorem WellNamed.remove (h : fs.WellNamed) (hremove : fs.remove p = .ok fs') :
    fs'.WellNamed := by
  obtain ⟨found, -, hdone⟩ := bind_eq_ok.mp hremove
  obtain rfl := Except.ok.inj hdone
  exact h.erase _

theorem WellNamed.makeDirectory (h : fs.WellNamed) (hmake : fs.makeDirectory p = .ok fs') :
    fs'.WellNamed := by
  obtain ⟨place, hfollow, -, -, rfl⟩ := makeDirectory_eq_ok_iff.mp hmake
  exact h.put (isName_of_followAll hfollow) _

theorem WellNamed.attempts (h : fs.WellNamed) (hattempt : Attempts fs p made fs') :
    fs'.WellNamed := by
  cases hattempt with
  | made hmade => exact h.makeDirectory hmade
  | there _ => exact h
  | refused _ _ => exact h

theorem WellNamed.makeChain {ps : List Path} (h : fs.WellNamed)
    (hchain : FileSystem.makeChain ps fs = (made, fs')) : fs'.WellNamed := by
  induction ps generalizing fs fs' made with
  | nil =>
    obtain ⟨-, rfl⟩ := Prod.mk.inj hchain
    exact h
  | cons p ps ih =>
    rcases ensureDirectory_iff.mp hchain with
      ⟨-, hattempt⟩ | ⟨-, ⟨e, -, hprepare⟩ | ⟨mid, hprepare, hattempt⟩⟩
    · exact h.attempts hattempt
    · exact ih h hprepare
    · exact (ih h hprepare).attempts hattempt

theorem WellNamed.makeDirectories (h : fs.WellNamed)
    (hmake : fs.makeDirectories p = (made, fs')) : fs'.WellNamed := h.makeChain hmake

end GoldenTree.Disk.FileSystem
