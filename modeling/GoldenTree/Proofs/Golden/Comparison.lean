import GoldenTree.Proofs.Golden.Header
import GoldenTree.Proofs.Golden.Reconcile
import GoldenTree.Proofs.ParseTree.ReadBack
import GoldenTree.Proofs.ParseTree.Terminals

/-! Golden comparison of rendered trees. Normal form leaves a rendering as it is, and two renderings
are the same text only if they have the same header and show the same nodes. -/
namespace GoldenTree

open Text Golden

namespace ParseTree

/-! Labels tell trees apart. -/

theorem takeWhile_shown {a : String} (ha : '(' ∉ a.toList) (x : String) :
    (terminal a x).shown.toList.takeWhile (· ≠ '(') = a.toList := by
  have hkept : ∀ c ∈ a.toList, decide (c ≠ '(') = true :=
    fun c hc => decide_eq_true fun h => ha (h ▸ hc)
  simp only [shown, String.toList_append, List.append_assoc]
  exact takeWhile_append_stop hkept (by simp)

theorem shown_terminal_inj {a b x y : String} (ha : '(' ∉ a.toList) (hb : '(' ∉ b.toList)
    (h : (terminal a x).shown = (terminal b y).shown) : a = b ∧ x = y := by
  have hname : a = b := by
    rw [← String.toList_inj, ← takeWhile_shown ha x, h, takeWhile_shown hb y]
  subst hname
  have htext : x.toList = y.toList := by simpa [shown] using congrArg String.toList h
  exact ⟨rfl, String.toList_inj.mp htext⟩

theorem shown_terminal_ne {a b y : String} (ha : '(' ∉ a.toList) :
    a ≠ (terminal b y).shown := by
  rintro rfl
  simp [shown] at ha

mutual

theorem labels_inj : ∀ {t u : ParseTree}, (∀ v ∈ t.subtrees, '(' ∉ v.name.toList) →
    (∀ v ∈ u.subtrees, '(' ∉ v.name.toList) → t.labels = u.labels → t = u
  | .rule a ts, .rule b us, ht, hu, h => by
    obtain ⟨rfl, hbelow⟩ := Tree.node.inj h
    rw [forestLabels_inj (fun v hv => ht v (List.mem_cons_of_mem _ hv))
      (fun v hv => hu v (List.mem_cons_of_mem _ hv)) hbelow]
  -- What a terminal shows has a parenthesis, and the name of a rule has none.
  | .rule a ts, .terminal b y, ht, _, h =>
    absurd (Tree.node.inj h).1 (shown_terminal_ne (ht _ (List.mem_cons_self ..)))
  | .terminal a x, .rule b us, _, hu, h =>
    absurd (Tree.node.inj h).1.symm (shown_terminal_ne (hu _ (List.mem_cons_self ..)))
  | .terminal a x, .terminal b y, ht, hu, h => by
    obtain ⟨rfl, rfl⟩ := shown_terminal_inj (ht _ (List.mem_cons_self ..))
      (hu _ (List.mem_cons_self ..)) (Tree.node.inj h).1
    rfl

theorem forestLabels_inj : ∀ {ts us : List ParseTree},
    (∀ v ∈ forestSubtrees ts, '(' ∉ v.name.toList) →
    (∀ v ∈ forestSubtrees us, '(' ∉ v.name.toList) → forestLabels ts = forestLabels us → ts = us
  | [], [], _, _, _ => rfl
  | t :: ts, u :: us, ht, hu, h => by
    obtain ⟨hfirst, hothers⟩ := List.cons.inj h
    rw [labels_inj (fun v hv => ht v (List.mem_append_left _ hv))
        (fun v hv => hu v (List.mem_append_left _ hv)) hfirst,
      forestLabels_inj (fun v hv => ht v (List.mem_append_right _ hv))
        (fun v hv => hu v (List.mem_append_right _ hv)) hothers]

end

theorem Plain.legible {t : ParseTree} (ht : t.Plain) : t.Legible where
  ne_empty := ht.ne_empty
  names v hv c hc := (ht.names v hv c hc).1.1
  texts v hv s hs c hc := (ht.texts v hv s hs c hc).1

end ParseTree

namespace Golden

open ParseTree

variable {t u : ParseTree} {h k : String}

/-- A header line as it is written above a tree. -/
def IsHeaderLine (h : String) : Prop := ∃ fileName hash marker,
  ('\n' ∉ fileName.toList ∧ '\r' ∉ fileName.toList) ∧ Header.isHash hash.toList = true ∧
    h = Header.render fileName hash marker

theorem IsHeaderLine.solid (hh : IsHeaderLine h) : StartsSolid h.toList ∧ EndsSolid h.toList := by
  obtain ⟨fileName, hash, marker, -, hhash, rfl⟩ := hh
  exact ⟨Header.startsSolid_render, Header.endsSolid_render hhash⟩

theorem IsHeaderLine.no_break (hh : IsHeaderLine h) : '\n' ∉ h.toList ∧ '\r' ∉ h.toList := by
  obtain ⟨fileName, hash, marker, ⟨hnewline, hreturn⟩, hhash, rfl⟩ := hh
  exact ⟨Header.render_no_break (.inl rfl) hhash hnewline,
    Header.render_no_break (.inr rfl) hhash hreturn⟩

theorem IsHeaderLine.trim_eq (hh : IsHeaderLine h) : trim h.toList = h.toList :=
  hh.solid.1.trim hh.solid.2

/-- A rendering is in normal form. -/
theorem normalize_render (ht : t.Plain) (hh : IsHeaderLine h) :
    normalize (t.render h) = t.render h := by
  have htidy : Tidy (h.toList :: t.lines) := ht.tidy hh.solid.1 hh.solid.2 hh.no_break
  have hlines : (t.render h).toList = join ['\n'] (h.toList :: t.lines) ++ ['\n'] := by
    rw [render_toList, unlines_eq_join (by simp)]
  rw [normalize, hlines, htidy.normalChars_eq_self, ← hlines, String.ofList_toList]

/-- The text gives back the header and the trees below the root. -/
theorem render_inj (ht : t.Plain) (hu : u.Plain) (hh : IsHeaderLine h) (hk : IsHeaderLine k)
    (heq : t.render h = u.render k) : h = k ∧ t.children = u.children := by
  have hread := parse_render ht.legible hh.no_break.1 hh.trim_eq
  rw [heq, parse_render hu.legible hk.no_break.1 hk.trim_eq] at hread
  simp only [Tree.node.injEq, List.cons.injEq, true_and, and_true] at hread
  refine ⟨hread.1.symm, (forestLabels_inj (fun v hv hmem => ?_) (fun v hv hmem => ?_) hread.2).symm⟩
  · exact (hu.names v hv _ hmem).2 rfl
  · exact (ht.names v hv _ hmem).2 rfl

/-- Under header lines, the rendering of a tree is normal, and its comparison with that of another
finds nothing exactly if the headers are equal and `same` holds. -/
def ComparesBy (t u : ParseTree) (same : Prop) : Prop :=
  ∀ h k, IsHeaderLine h → IsHeaderLine k → normalize (t.render h) = t.render h ∧
    (compare? (t.render h) (u.render k) = none ↔ h = k ∧ same)

theorem comparesBy_children (ht : t.Plain) (hu : u.Plain) :
    ComparesBy t u (t.children = u.children) := by
  intro h k hh hk
  refine ⟨normalize_render ht hh, ?_⟩
  rw [compare?_eq_none_iff, normalize_render ht hh, normalize_render hu hk]
  constructor
  · exact render_inj ht hu hh hk
  · rintro ⟨rfl, hchildren⟩
    rw [render, render, hchildren]

theorem eq_iff_children (hname : t.name = u.name) (ht : t.isTerminal = false)
    (hu : u.isTerminal = false) : t.children = u.children ↔ t = u := by
  cases t with
  | terminal _ _ => cases ht
  | rule a ts =>
    cases u with
    | terminal _ _ => cases hu
    | rule b us =>
      obtain rfl : a = b := hname
      simp [ParseTree.children]

theorem comparesBy_built {b b' : TreeBuilder} {source source' : String} {built built' : BuiltTree}
    (hroot : b.rootRule = b'.rootRule)
    (hbuilt : (b.build Grammar.recognizer source).built = .ok built)
    (hbuilt' : (b'.build Grammar.recognizer source').built = .ok built') :
    ComparesBy built.tree built'.tree (built.tree = built'.tree) := by
  obtain ⟨tree, htree⟩ := exists_ofRoot_of_build hbuilt
  obtain ⟨tree', htree'⟩ := exists_ofRoot_of_build hbuilt'
  have hsame : built.tree.children = built'.tree.children ↔ built.tree = built'.tree := by
    rw [eq_rule_of_ofRoot htree, eq_rule_of_ofRoot htree', hroot]
    simp [ParseTree.children]
  rw [← hsame]
  exact comparesBy_children (plain_of_isNode (isNode_of_ofRoot htree))
    (plain_of_isNode (isNode_of_ofRoot htree'))

/-- Golden comparison misses no change of a header or below a root, and adds none. With rules of
one name at their roots the trees themselves are compared, and so they are if the grammar built
them. -/
theorem comparison_exact :
    (∀ t u : ParseTree, t.Plain → u.Plain → ComparesBy t u (t.children = u.children)) ∧
    (∀ t u : ParseTree, t.Plain → u.Plain → t.name = u.name → t.isTerminal = false →
      u.isTerminal = false → ComparesBy t u (t = u)) ∧
    ∀ (b b' : TreeBuilder) (source source' : String) (built built' : BuiltTree),
      b.rootRule = b'.rootRule → (b.build Grammar.recognizer source).built = .ok built →
      (b'.build Grammar.recognizer source').built = .ok built' →
      ComparesBy built.tree built'.tree (built.tree = built'.tree) := by
  refine ⟨fun t u => comparesBy_children, fun t u ht hu hname hrule hrule' => ?_,
    fun b b' source source' built built' => comparesBy_built⟩
  rw [← eq_iff_children hname hrule hrule']
  exact comparesBy_children ht hu

-- Letters are looked at one by one, whatever is imported.
attribute [local instance (2000)] List.decidableBAll

/-- A header line over trees of one file. -/
def sampleLine : String := "File: a.kt - d41d8cd98f00b204e9800998ecf8427e"

theorem isHeaderLine_sampleLine : IsHeaderLine sampleLine :=
  ⟨"a.kt", "d41d8cd98f00b204e9800998ecf8427e", none, by decide, by decide, by decide⟩

/-- A file without declarations is another file than one with a broken function. -/
theorem comparison_exact_brokenFunction :
    brokenFunction.Plain ∧ (rule "kotlinFile" []).Plain ∧
    normalize (brokenFunction.render sampleLine) = brokenFunction.render sampleLine ∧
    compare? (brokenFunction.render sampleLine) ((rule "kotlinFile" []).render sampleLine) ≠ none ∧
    ∃ built built' : BuiltTree,
      (TreeBuilder.standard.build Grammar.recognizer "fun f(\n").built = .ok built ∧
      (TreeBuilder.standard.build Grammar.recognizer "").built = .ok built' ∧
      ComparesBy built.tree built'.tree (built.tree = built'.tree) := by
  have hbroken : brokenFunction.Plain := by constructor <;> decide
  have hempty : (rule "kotlinFile" []).Plain := by constructor <;> decide
  obtain ⟨-, hrules, hbuilder⟩ := comparison_exact
  obtain ⟨hnormal, hcompare⟩ := hrules brokenFunction (rule "kotlinFile" []) hbroken hempty rfl rfl
    rfl sampleLine sampleLine isHeaderLine_sampleLine isHeaderLine_sampleLine
  refine ⟨hbroken, hempty, hnormal, fun h => ?_, ?_⟩
  · exact absurd (hcompare.mp h).2 (by decide)
  · obtain ⟨built, hbuilt, -⟩ := exists_build 10000 "fun f(\n"
    obtain ⟨built', hbuilt', -⟩ := exists_build 10000 ""
    exact ⟨built, built', hbuilt, hbuilt', hbuilder _ _ _ _ _ _ rfl hbuilt hbuilt'⟩

/-- The header stands in for the root, so a rule and a terminal of the same name are not told apart
there, nor is the text of that terminal seen. -/
theorem roots_not_compared :
    IsHeaderLine sampleLine ∧ (rule "kotlinFile" []).Plain ∧ (terminal "kotlinFile" "x").Plain ∧
    IsPlainName "kotlinFile" ∧ (rule "kotlinFile" []).name = (terminal "kotlinFile" "x").name ∧
    compare? ((rule "kotlinFile" []).render sampleLine)
      ((terminal "kotlinFile" "x").render sampleLine) = none ∧
    rule "kotlinFile" [] ≠ terminal "kotlinFile" "x" := by
  have hsame : (rule "kotlinFile" []).render sampleLine =
      (terminal "kotlinFile" "x").render sampleLine := rfl
  refine ⟨isHeaderLine_sampleLine, by constructor <;> decide, by constructor <;> decide,
    by decide, rfl, ?_, by decide⟩
  rw [compare?_eq_none_iff, hsame]

end Golden

end GoldenTree
