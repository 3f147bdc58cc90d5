import GoldenTree.Diff.Edit

/-! Compaction of an edit script. Every deletion, and then every insertion, is shifted up as far as
it goes and down again, and merges with edits of its kind that it meets on the way. -/
namespace GoldenTree.Diff

variable {α : Type} [DecidableEq α]

/-- One edit of a script, with the edits before it, the nearest first, and those after it. -/
structure Focus where
  before : List Edit
  this : Edit
  after : List Edit

-- The sum of naturals is the same one whatever is imported.
attribute [local instance (2000)] Zero.ofOfNat0

/-- A count of edits and of the lines they cover. -/
def weight (edits : List Edit) : Nat := (edits.map fun e => e.length + 1).sum

@[simp] theorem weight_nil : weight [] = 0 := rfl

@[simp] theorem weight_cons (e : Edit) (edits : List Edit) :
    weight (e :: edits) = e.length + 1 + weight edits := by simp [weight]

/-- The lines that an insertion shares with the end of the kept lines before it. -/
def sharedAbove (as bs : List α) (kept this : Edit) : Nat :=
  commonSuffix (slice as kept.old kept.oldLength) (slice bs this.new this.newLength)

/-- The lines that an insertion shares with the beginning of the kept lines after it. -/
def sharedBelow (as bs : List α) (kept this : Edit) : Nat :=
  commonPrefix (slice as kept.old kept.oldLength) (slice bs this.new this.newLength)

/-- Puts kept lines in front of the edits that follow; kept lines there grow up by them. -/
def keepAbove (kept : Edit) : List Edit → List Edit
  | next :: rest =>
    if next.kind = .equal then (next.up kept.length).grow kept.length :: rest
    else kept :: next :: rest
  | [] => [kept]

/-- Puts kept lines behind the edits before them, the nearest first; kept lines there grow. -/
def keepBelow (kept : Edit) : List Edit → List Edit
  | prev :: rest =>
    if prev.kind = .equal then prev.grow kept.length :: rest else kept :: prev :: rest
  | [] => [kept]

/-- Shifts an edit up. Kept lines above an insertion that equal its last lines move below it. -/
def shiftUp (as bs : List α) (f : Focus) : Focus :=
  match f with
  | ⟨[], _, _⟩ => f
  | ⟨prev :: before, this, after⟩ =>
    if prev.kind = this.kind then shiftUp as bs ⟨before, prev.grow this.length, after⟩
    else if prev.kind ≠ .equal then shiftUp as bs ⟨before, this, prev :: after⟩
    else
      let n := sharedAbove as bs prev this
      if n = 0 then
        if prev.length = 0 then shiftUp as bs ⟨before, this, after⟩ else f
      else
        let kept : Edit :=
          ⟨.equal, prev.old + prev.length - n, this.new + this.length - n, n⟩
        if n < prev.length then
          shiftUp as bs ⟨prev.shrink n :: before, this.up n, keepAbove kept after⟩
        else shiftUp as bs ⟨before, this.up n, keepAbove kept after⟩
termination_by weight f.before
decreasing_by all_goals simp_all [Edit.shrink]; try omega

/-- Shifts an edit down. Kept lines below an insertion that equal its first lines move above it. -/
def shiftDown (as bs : List α) (f : Focus) : Focus :=
  match f with
  | ⟨_, _, []⟩ => f
  | ⟨before, this, next :: after⟩ =>
    if next.kind = this.kind then shiftDown as bs ⟨before, this.grow next.length, after⟩
    else if next.kind ≠ .equal then shiftDown as bs ⟨next :: before, this, after⟩
    else
      let n := sharedBelow as bs next this
      if n = 0 then
        if next.length = 0 then shiftDown as bs ⟨before, this, after⟩ else f
      else
        let kept : Edit := ⟨.equal, next.old, this.new, n⟩
        if n < next.length then
          shiftDown as bs ⟨keepBelow kept before, this.down n, (next.down n).shrink n :: after⟩
        else shiftDown as bs ⟨keepBelow kept before, this.down n, after⟩
termination_by weight f.after
decreasing_by all_goals simp_all [Edit.shrink, Edit.down]; try omega

/-- How many edits are of a kind. -/
def countOf (kind : Kind) (edits : List Edit) : Nat := edits.countP (·.kind = kind)

theorem countOf_cons (kind : Kind) (e : Edit) (edits : List Edit) :
    countOf kind (e :: edits) = countOf kind edits + if e.kind = kind then 1 else 0 := by
  simp [countOf, List.countP_cons]

theorem countOf_keepAbove {kind : Kind} {kept : Edit} (edits : List Edit) (hk : kept.kind = .equal)
    (h : kind ≠ .equal) : countOf kind (keepAbove kept edits) = countOf kind edits := by
  cases edits with
  | nil => simp [keepAbove, countOf, hk, h.symm]
  | cons e edits =>
    by_cases he : e.kind = .equal <;>
      simp [keepAbove, he, countOf_cons, hk, h.symm, Edit.grow, Edit.up]

/-- Shifting up keeps the kind and brings no other edit of that kind below. -/
theorem shiftUp_kind (as bs : List α) (f : Focus) (h : f.this.kind ≠ .equal) :
    (shiftUp as bs f).this.kind = f.this.kind ∧
      countOf f.this.kind (shiftUp as bs f).after ≤ countOf f.this.kind f.after := by
  fun_induction shiftUp as bs f
  case case6 ih | case7 ih =>
    obtain ⟨kind, below⟩ := ih h
    exact ⟨kind, Nat.le_trans below (Nat.le_of_eq (countOf_keepAbove _ rfl h))⟩
  all_goals simp_all [countOf_cons, Edit.grow]

/-- Shifting down keeps the kind and brings no other edit of that kind below. -/
theorem shiftDown_kind (as bs : List α) (f : Focus) (h : f.this.kind ≠ .equal) :
    (shiftDown as bs f).this.kind = f.this.kind ∧
      countOf f.this.kind (shiftDown as bs f).after ≤ countOf f.this.kind f.after := by
  fun_induction shiftDown as bs f
  case case2 ih =>
    obtain ⟨kind, below⟩ := ih h
    exact ⟨kind, Nat.le_trans below (by simp only [countOf_cons]; exact Nat.le_add_right _ _)⟩
  all_goals simp_all [countOf_cons, Edit.down, Edit.shrink]

/-- One pass over the edits of one kind; those before the pass, the nearest first, are done. -/
def compactKind (as bs : List α) (kind : Kind) (changes : kind ≠ .equal)
    (before after : List Edit) : List Edit :=
  match after with
  | [] => before.reverse
  | this :: after =>
    if _h : this.kind = kind then
      let f := shiftDown as bs (shiftUp as bs ⟨before, this, after⟩)
      compactKind as bs kind changes (f.this :: f.before) f.after
    else compactKind as bs kind changes (this :: before) after
termination_by (countOf kind after, after.length)
decreasing_by
  · obtain ⟨hu, hu'⟩ := shiftUp_kind as bs ⟨before, this, after⟩ (by simpa [_h] using changes)
    obtain ⟨_, hd⟩ := shiftDown_kind as bs (shiftUp as bs ⟨before, this, after⟩)
      (by simpa [hu, _h] using changes)
    apply Prod.Lex.left
    simp only [hu, _h, countOf_cons, if_true] at hu' hd ⊢
    omega
  · simp only [countOf_cons, _h, if_false, Nat.add_zero]
    apply Prod.Lex.right
    simp

def compact (as bs : List α) (edits : List Edit) : List Edit :=
  compactKind as bs .insert (by decide) [] (compactKind as bs .delete (by decide) [] edits)

end GoldenTree.Diff
