import GoldenTree.Proofs.Golden.Fixpoint
import GoldenTree.Proofs.Golden.Reconcile

/-! Where texts that differ are said to differ. Normal text is its lines with a newline behind each
of them, so that lines tell normal texts apart, and the first difference of two lists of lines
stands right behind the longest list that both begin with. -/
namespace GoldenTree.Golden

open Text

section Lists

variable {α : Type} {common as bs : List α} {a b : α}

/-- Both lists begin with the same elements up to here and no further. -/
structure IsLongestCommonPrefix (common as bs : List α) : Prop where
  left : common <+: as
  right : common <+: bs
  longest : ∀ other, other <+: as → other <+: bs → other <+: common

theorem IsLongestCommonPrefix.nil_left (bs : List α) : IsLongestCommonPrefix [] [] bs :=
  ⟨List.nil_prefix, List.nil_prefix, fun _ hleft _ => hleft⟩

theorem IsLongestCommonPrefix.nil_right (as : List α) : IsLongestCommonPrefix [] as [] :=
  ⟨List.nil_prefix, List.nil_prefix, fun _ _ hright => hright⟩

theorem IsLongestCommonPrefix.of_ne (h : a ≠ b) (as bs : List α) :
    IsLongestCommonPrefix [] (a :: as) (b :: bs) := by
  refine ⟨List.nil_prefix, List.nil_prefix, fun other hleft hright => ?_⟩
  cases other with
  | nil => exact List.nil_prefix
  | cons c other =>
    obtain ⟨rfl, -⟩ := List.cons_prefix_cons.mp hleft
    obtain ⟨rfl, -⟩ := List.cons_prefix_cons.mp hright
    exact absurd rfl h

theorem IsLongestCommonPrefix.cons (h : IsLongestCommonPrefix common as bs) (a : α) :
    IsLongestCommonPrefix (a :: common) (a :: as) (a :: bs) := by
  refine ⟨List.cons_prefix_cons.mpr ⟨rfl, h.left⟩, List.cons_prefix_cons.mpr ⟨rfl, h.right⟩,
    fun other hleft hright => ?_⟩
  cases other with
  | nil => exact List.nil_prefix
  | cons c other =>
    obtain ⟨rfl, hbelow⟩ := List.cons_prefix_cons.mp hleft
    obtain ⟨-, hbelow'⟩ := List.cons_prefix_cons.mp hright
    exact List.cons_prefix_cons.mpr ⟨rfl, h.longest other hbelow hbelow'⟩

/-- Lists that differ have a first difference, which stands behind all that they have in common at
their beginning. -/
theorem firstDifference?_of_ne [DecidableEq α] (h : as ≠ bs) : ∃ common,
    IsLongestCommonPrefix common as bs ∧ firstDifference? as bs = some (common.length + 1) := by
  induction as generalizing bs with
  | nil =>
    cases bs with
    | nil => exact absurd rfl h
    | cons b bs => exact ⟨[], .nil_left _, rfl⟩
  | cons a as ih =>
    cases bs with
    | nil => exact ⟨[], .nil_right _, rfl⟩
    | cons b bs =>
      by_cases hab : a = b
      · subst hab
        obtain ⟨common, hcommon, hfirst⟩ := ih fun has => h (congrArg (a :: ·) has)
        refine ⟨a :: common, hcommon.cons a, ?_⟩
        rw [firstDifference?, if_pos rfl, hfirst]
        rfl
      · exact ⟨[], .of_ne hab as bs, by rw [firstDifference?, if_neg hab]; rfl⟩

end Lists

variable {text : List Char} {expected actual : String} {d : Difference}

/-- Lined text has no carriage return that its lines could lack. -/
theorem Lined.lines_eq (h : Lined text) : lines text = splitAt '\n' text.dropLast := by
  have hreturn : ∀ piece ∈ splitAt '\n' text.dropLast, piece.getLast? ≠ some '\r' :=
    fun piece hpiece => getLast?_ne_return (h.trimmed_dropLast piece hpiece)
  conv_lhs => rw [← h.dropLast_append]
  rw [lines, splitAt_append_sep, splitAt, terminated_concat_nil, map_dropReturn hreturn]

/-- Lined text is its lines with a newline behind each of them. -/
theorem Lined.unlines_lines (h : Lined text) : unlines (lines text) = text := by
  rw [h.lines_eq, unlines_eq_join (splitAt_ne_nil _ _), join_splitAt, h.dropLast_append]

/-- Texts that differ in normal form have different lines there. -/
theorem linesOf_normalize_ne (h : normalize expected ≠ normalize actual) :
    linesOf (normalize expected) ≠ linesOf (normalize actual) := by
  intro hlines
  have hchars : lines (normalChars expected.toList) = lines (normalChars actual.toList) := by
    simp only [linesOf, normalize, String.toList_ofList] at hlines
    exact List.map_injective_iff.mpr (fun _ _ => String.ofList_inj.mp) hlines
  have hsame : normalChars expected.toList = normalChars actual.toList := by
    rw [← (lined_normalChars expected.toList).unlines_lines, hchars,
      (lined_normalChars actual.toList).unlines_lines]
  exact h (congrArg String.ofList hsame)

theorem compare?_eq_some_iff : compare? expected actual = some d ↔
    normalize expected ≠ normalize actual ∧
      d = .ofNormal (normalize expected) (normalize actual) := by
  unfold compare?
  by_cases h : normalize expected = normalize actual <;> simp [h, eq_comm]

theorem Difference.render_of_firstLine? {line : Nat} (h : d.firstLine? = some line) :
    d.render = "first difference at line " ++ toString line ++ "\n" ++ d.unified := by
  rw [render, h]

/-- A reported difference names the line behind the longest common beginning of the two texts, and
its report opens with that line. -/
theorem firstLine?_of_compare? (h : compare? expected actual = some d) : ∃ common,
    IsLongestCommonPrefix common (linesOf (normalize expected)) (linesOf (normalize actual)) ∧
      d.firstLine? = some (common.length + 1) ∧
      d.render = "first difference at line " ++ toString (common.length + 1) ++ "\n" ++
        d.unified := by
  obtain ⟨hne, hd⟩ := compare?_eq_some_iff.mp h
  obtain ⟨common, hcommon, hfirst⟩ := firstDifference?_of_ne (linesOf_normalize_ne hne)
  have hline : d.firstLine? = some (common.length + 1) := by rw [hd, ← hfirst, Difference.ofNormal]
  exact ⟨common, hcommon, hline, d.render_of_firstLine? hline⟩

/-- The second of these texts has one line more, which is blank. -/
theorem firstLine?_of_compare?_blank : ∃ d,
    compare? "a \r\n\n" "a\r\n\r\u00A0" = some d ∧ d.firstLine? = some 2 ∧
      IsLongestCommonPrefix ["a"] (linesOf (normalize "a \r\n\n"))
        (linesOf (normalize "a\r\n\r\u00A0")) := by
  have hne : normalize "a \r\n\n" ≠ normalize "a\r\n\r\u00A0" := by decide +kernel
  have hcompare := compare?_eq_some_iff.mpr ⟨hne, rfl⟩
  obtain ⟨common, hcommon, hfirst, -⟩ := firstLine?_of_compare? hcompare
  have hsecond : (Difference.ofNormal (normalize "a \r\n\n")
      (normalize "a\r\n\r\u00A0")).firstLine? = some 2 := by decide +kernel
  have hlines : linesOf (normalize "a \r\n\n") = ["a"] := by decide +kernel
  -- One line in common is all that the first text has.
  have hlength : common.length = 1 := by simpa [hsecond, eq_comm] using hfirst
  have hall : common = ["a"] := (hlines ▸ hcommon.left).eq_of_length hlength
  exact ⟨_, hcompare, hsecond, hall ▸ hcommon⟩

end GoldenTree.Golden
