import GoldenTree.Proofs.Golden.Comparison
import GoldenTree.Proofs.Migration.Audit

/-! The migration of the identifier `value` to a token of its own. On dumps of parse trees it
accepts the new name of these terminals, any number of them, and nothing else. -/
namespace GoldenTree.Migration

open Disk FileSystem GoldenTree.Tree ParseTree

/-! Trees of which terminals got the new name. -/

mutual

/-- In the second tree, as many terminals `value` as counted are tokens of their own, and all else
is as in the first. -/
inductive Renamed : ParseTree → ParseTree → Nat → Prop
  | rule {name : String} {ts us : List ParseTree} {count : Nat} :
      RenamedAll ts us count → Renamed (.rule name ts) (.rule name us) count
  | kept {name text : String} : Renamed (.terminal name text) (.terminal name text) 0
  | renamed : Renamed (.terminal "Identifier" "value") (.terminal "VALUE" "value") 1

inductive RenamedAll : List ParseTree → List ParseTree → Nat → Prop
  | nil : RenamedAll [] [] 0
  | cons {t u : ParseTree} {ts us : List ParseTree} {first rest : Nat} :
      Renamed t u first → RenamedAll ts us rest → RenamedAll (t :: ts) (u :: us) (first + rest)

end

theorem RenamedAll.length_eq {ts us : List ParseTree} {count : Nat} (h : RenamedAll ts us count) :
    ts.length = us.length := by
  match h with
  | .nil => rfl
  | .cons _ hrest => simp [hrest.length_eq]

theorem length_forestLabels (ts : List ParseTree) : (forestLabels ts).length = ts.length := by
  induction ts with
  | nil => rfl
  | cons t ts ih => simp [forestLabels, ih]

/-! What is renamed is explained. -/

theorem explains_identifierToValue_iff {old new : Dump} :
    Rule.identifierToValue.explains old new = true ↔
      old.label = (ParseTree.terminal "Identifier" "value").shown ∧
        new.label = (ParseTree.terminal "VALUE" "value").shown := by
  simp [Rule.explains, ParseTree.shown]

mutual

theorem Renamed.explained : ∀ {t u : ParseTree} {count : Nat}, Renamed t u count →
    Rule.identifierToValue.ExplainsAll (t.labels.differences u.labels) ∧
      (t.labels.differences u.labels).length = count
  | .rule _ ts, .rule _ us, _, .rule h => by
    have hlength : (forestLabels ts).length = (forestLabels us).length := by
      rw [length_forestLabels, length_forestLabels, h.length_eq]
    rw [labels, labels, differences, if_pos ⟨rfl, hlength⟩]
    exact h.explained
  | _, _, _, .kept => by simp [labels, differences, forestDifferences, Rule.ExplainsAll]
  | _, _, _, .renamed => by
    rw [labels, labels, differences, if_neg (by decide)]
    exact ⟨Rule.explainsAll_singleton.mpr (explains_identifierToValue_iff.mpr ⟨rfl, rfl⟩), rfl⟩

theorem RenamedAll.explained : ∀ {ts us : List ParseTree} {count : Nat}, RenamedAll ts us count →
    Rule.identifierToValue.ExplainsAll (forestDifferences (forestLabels ts) (forestLabels us)) ∧
      (forestDifferences (forestLabels ts) (forestLabels us)).length = count
  | _, _, _, .nil => by simp [forestLabels, forestDifferences, Rule.ExplainsAll]
  | _, _, _, .cons hfirst hrest => by
    obtain ⟨hfirst, hcount⟩ := hfirst.explained
    obtain ⟨hrest, hcount'⟩ := hrest.explained
    rw [forestLabels, forestLabels, forestDifferences, List.length_append, hcount, hcount']
    exact ⟨Rule.explainsAll_append.mpr ⟨hfirst, hrest⟩, rfl⟩

end

/-! What is explained is renamed. -/

mutual

theorem renamed_of_explained : ∀ {t u : ParseTree}, (∀ v ∈ t.subtrees, '(' ∉ v.name.toList) →
    (∀ v ∈ u.subtrees, '(' ∉ v.name.toList) →
    Rule.identifierToValue.ExplainsAll (t.labels.differences u.labels) →
    ∃ count, Renamed t u count
  | .rule a ts, .rule b us, ht, hu, h => by
    rw [labels, labels, differences] at h
    split at h
    · next hsame =>
      obtain ⟨rfl, hlength⟩ := hsame
      rw [length_forestLabels, length_forestLabels] at hlength
      obtain ⟨count, hcount⟩ := renamedAll_of_explained
        (fun v hv => ht v (List.mem_cons_of_mem _ hv))
        (fun v hv => hu v (List.mem_cons_of_mem _ hv)) hlength h
      exact ⟨count, .rule hcount⟩
    · obtain ⟨hold, -⟩ := explains_identifierToValue_iff.mp (Rule.explainsAll_singleton.mp h)
      exact absurd hold (shown_terminal_ne (ht _ List.mem_cons_self))
  | .rule a ts, .terminal b y, ht, hu, h => by
    have hne : a ≠ (ParseTree.terminal b y).shown := shown_terminal_ne (ht _ List.mem_cons_self)
    rw [labels, labels, differences, if_neg fun hsame => hne hsame.1] at h
    obtain ⟨hold, -⟩ := explains_identifierToValue_iff.mp (Rule.explainsAll_singleton.mp h)
    exact absurd hold (shown_terminal_ne (ht _ List.mem_cons_self))
  | .terminal a x, .rule b us, ht, hu, h => by
    have hne : b ≠ (ParseTree.terminal a x).shown := shown_terminal_ne (hu _ List.mem_cons_self)
    rw [labels, labels, differences, if_neg fun hsame => hne hsame.1.symm] at h
    obtain ⟨-, hnew⟩ := explains_identifierToValue_iff.mp (Rule.explainsAll_singleton.mp h)
    exact absurd hnew (shown_terminal_ne (hu _ List.mem_cons_self))
  | .terminal a x, .terminal b y, ht, hu, h => by
    have ha : '(' ∉ a.toList := ht _ List.mem_cons_self
    have hb : '(' ∉ b.toList := hu _ List.mem_cons_self
    rw [labels, labels, differences] at h
    split at h
    · next hsame =>
      obtain ⟨rfl, rfl⟩ := shown_terminal_inj ha hb hsame.1
      exact ⟨0, .kept⟩
    · obtain ⟨hold, hnew⟩ := explains_identifierToValue_iff.mp (Rule.explainsAll_singleton.mp h)
      obtain ⟨rfl, rfl⟩ := shown_terminal_inj ha (by decide) hold
      obtain ⟨rfl, rfl⟩ := shown_terminal_inj hb (by decide) hnew
      exact ⟨1, .renamed⟩

theorem renamedAll_of_explained : ∀ {ts us : List ParseTree},
    (∀ v ∈ forestSubtrees ts, '(' ∉ v.name.toList) →
    (∀ v ∈ forestSubtrees us, '(' ∉ v.name.toList) → ts.length = us.length →
    Rule.identifierToValue.ExplainsAll (forestDifferences (forestLabels ts) (forestLabels us)) →
    ∃ count, RenamedAll ts us count
  | [], [], _, _, _, _ => ⟨0, .nil⟩
  | t :: ts, u :: us, ht, hu, hlength, h => by
    rw [forestLabels, forestLabels, forestDifferences] at h
    obtain ⟨hfirst, hothers⟩ := Rule.explainsAll_append.mp h
    obtain ⟨first, hfirst⟩ := renamed_of_explained
      (fun v hv => ht v (List.mem_append_left _ hv))
      (fun v hv => hu v (List.mem_append_left _ hv)) hfirst
    obtain ⟨rest, hrest⟩ := renamedAll_of_explained
      (fun v hv => ht v (List.mem_append_right _ hv))
      (fun v hv => hu v (List.mem_append_right _ hv)) (by simpa using hlength) hothers
    exact ⟨first + rest, .cons hfirst hrest⟩

end

/-! Audits of rendered trees. -/

/-- Names without white space and without a parenthesis that opens, and texts on one line. -/
abbrev Nameable (t : ParseTree) : Prop :=
  t.Spelled (fun c => Text.isBlank c = false ∧ c ≠ '(') (· ≠ '\n')

theorem Nameable.legible {t : ParseTree} (ht : Nameable t) : t.Legible where
  ne_empty := ht.ne_empty
  names u hu c hc := (ht.names u hu c hc).1
  texts := ht.texts

theorem Nameable.not_mem {t : ParseTree} (ht : Nameable t) :
    ∀ u ∈ forestSubtrees t.children, '(' ∉ u.name.toList :=
  fun u hu hmem => (ht.names u hu _ hmem).2 rfl

/-- Under one header, two forests differ where they differ, or as a whole if their lengths do. -/
theorem differences_headed (root header : String) (cs ds : List Dump) :
    (Tree.node root [.node header cs]).differences (.node root [.node header ds]) =
      if cs.length = ds.length then forestDifferences cs ds
      else [(.node header cs, .node header ds)] := by
  simp [differences, forestDifferences]

theorem explainsAll_headed_iff {t u : ParseTree} (root header : String) (ht : Nameable t)
    (hu : Nameable u) : Rule.identifierToValue.ExplainsAll
        ((Tree.node root [.node header (forestLabels t.children)]).differences
          (.node root [.node header (forestLabels u.children)])) ↔
      ∃ count, RenamedAll t.children u.children count := by
  rw [differences_headed, length_forestLabels, length_forestLabels]
  constructor
  · intro h
    split at h
    · next hlength => exact renamedAll_of_explained ht.not_mem hu.not_mem hlength h
    · -- The header has the same label in both, so that the rule does not explain it.
      obtain ⟨hold, hnew⟩ := explains_identifierToValue_iff.mp (Rule.explainsAll_singleton.mp h)
      exact absurd (hold.symm.trans hnew) (by decide)
  · rintro ⟨count, hcount⟩
    rw [if_pos hcount.length_eq]
    exact hcount.explained.1

/-- The dump of one tree against the golden file of another is compatible just if some terminals
`value` below the root have got the new name, and their number is that of the differences. -/
theorem renaming_exact (fs : FileSystem) (actual : Path) (dryRun : Bool) (t u : ParseTree)
    (header : String) (ht : Nameable t) (hu : Nameable u) (hnewline : '\n' ∉ header.toList)
    (htrim : Text.trim header.toList = header.toList)
    (hgolden : fs.read (goldenOf actual) = .ok (t.render header).toUTF8)
    (hdump : fs.read actual = .ok (u.render header).toUTF8) :
    ∃ decision fs', (⟨.identifierToValue, dryRun⟩ : Audit).auditFile fs actual =
        .ok (decision, fs') ∧
      (decision.isCompatible = true ↔ ∃ count, RenamedAll t.children u.children count) ∧
      ∀ count, RenamedAll t.children u.children count → decision.differences = count := by
  obtain ⟨place, hfind⟩ := read_eq_ok_iff.mp hgolden
  refine ⟨_, _, Audit.auditFile_of_texts _ hfind hdump, ?_, fun count hcount => ?_⟩
  · rw [Audit.isCompatible_decide_iff, parse_render ht.legible hnewline htrim,
      parse_render hu.legible hnewline htrim]
    exact explainsAll_headed_iff _ _ ht hu
  · rw [Audit.decide, parse_render ht.legible hnewline htrim,
      parse_render hu.legible hnewline htrim, differences_headed, if_pos]
    · exact hcount.explained.2
    · rw [length_forestLabels, length_forestLabels, hcount.length_eq]

-- Letters are looked at one by one, whatever is imported.
attribute [local instance (2000)] List.decidableBAll

/-- A tree with two identifiers, one of them `value`, as a grammar with that token has it or not. -/
def valueTree (value : String) : ParseTree :=
  .rule "kotlinFile" [.rule "simpleIdentifier" [.terminal value "value"],
    .rule "simpleIdentifier" [.terminal "Identifier" "values"], .terminal "EOF" "<EOF>"]

def valueDisk : FileSystem :=
  ⟨[(["x"], .file ((valueTree "Identifier").render "File: x.kt").toUTF8),
    (["x.actual"], .file ((valueTree "VALUE").render "File: x.kt").toUTF8)]⟩

theorem renaming_exact_valueDisk :
    Nameable (valueTree "Identifier") ∧ Nameable (valueTree "VALUE") ∧
      ∃ decision fs', (⟨.identifierToValue, false⟩ : Audit).auditFile valueDisk ⟨"x.actual"⟩ =
        .ok (decision, fs') ∧ decision.isCompatible = true ∧ decision.differences = 1 := by
  have hold : Nameable (valueTree "Identifier") := by constructor <;> decide
  have hnew : Nameable (valueTree "VALUE") := by constructor <;> decide
  have hcount : RenamedAll (valueTree "Identifier").children (valueTree "VALUE").children 1 :=
    .cons (.rule (.cons .renamed .nil)) (.cons (.rule (.cons .kept .nil)) (.cons .kept .nil))
  obtain ⟨decision, fs', haudit, hcompatible, hdifferences⟩ :=
    renaming_exact valueDisk ⟨"x.actual"⟩ false (valueTree "Identifier") (valueTree "VALUE")
      "File: x.kt" hold hnew (by decide) (by decide) rfl rfl
  exact ⟨hold, hnew, decision, fs', haudit, hcompatible.mpr ⟨1, hcount⟩, hdifferences 1 hcount⟩

end GoldenTree.Migration
