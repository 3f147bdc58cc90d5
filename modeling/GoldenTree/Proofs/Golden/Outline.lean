import GoldenTree.Proofs.Golden.LineStyle
import GoldenTree.Proofs.Migration.Again

/-! Golden texts that compare equal and the trees of their lines. A tree has a node for every line,
blank lines among them, and the white space before a line is its depth; the comparison drops blank
lines and white space around the whole text and takes a lone carriage return for a line break. Texts
that compare equal are read as the same tree where they do not differ in that. -/
namespace GoldenTree

open Text

namespace Golden

variable {s t blanks : List Char} {pieces : List (List Char)}

theorem trimEnd_endLine (s : List Char) : trimEnd (endLine s) = trimEnd s := by
  rw [endLine]
  split
  · rfl
  · exact dropEndWhile_append_of_pos (List.forall_mem_singleton.mpr rfl) s

/-- White space behind a text gives blank lines, but for what goes to its last line. -/
theorem exists_map_trimEnd_splitAt (h : ∀ c ∈ blanks, isBlank c = true) (s : List Char) :
    ∃ n, (splitAt '\n' (s ++ blanks)).map trimEnd =
      (splitAt '\n' s).map trimEnd ++ List.replicate n [] := by
  induction blanks generalizing s with
  | nil => exact ⟨0, by simp⟩
  | cons c blanks ih =>
    obtain ⟨hc, hblanks⟩ := List.forall_mem_cons.mp h
    obtain ⟨n, hn⟩ := ih hblanks (s ++ [c])
    rw [List.append_assoc, List.singleton_append] at hn
    by_cases hnewline : c = '\n'
    · refine ⟨n + 1, ?_⟩
      rw [hn, hnewline, splitAt_append_sep, List.map_append, List.append_assoc,
        List.replicate_succ]
      rfl
    · refine ⟨n, ?_⟩
      rw [hn, map_trimEnd_splitAt_append (by simpa using hc) (by simpa using Ne.symm hnewline)]

/-- In front of texts with the same lines, any text gives the same lines. -/
theorem map_trimEnd_splitAt_front (front : List Char)
    (h : (splitAt '\n' s).map trimEnd = (splitAt '\n' t).map trimEnd) :
    (splitAt '\n' (front ++ s)).map trimEnd = (splitAt '\n' (front ++ t)).map trimEnd := by
  obtain ⟨pieces, last, hfront⟩ := exists_splitAt_front '\n' front
  obtain ⟨first, rest, hs⟩ := List.exists_cons_of_ne_nil (splitAt_ne_nil '\n' s)
  obtain ⟨first', rest', ht⟩ := List.exists_cons_of_ne_nil (splitAt_ne_nil '\n' t)
  rw [hs, ht, List.map_cons, List.map_cons] at h
  obtain ⟨hfirst, hrest⟩ := List.cons_eq_cons.mp h
  rw [hfront hs, hfront ht, List.map_append, List.map_append, List.map_cons, List.map_cons, hrest,
    ← trimEnd_append_trimEnd last first, hfirst, trimEnd_append_trimEnd]

/-- Blank lines at the end are trimmed with the last line break. -/
theorem trimEnd_join_append_replicate (hne : pieces ≠ []) (n : Nat) :
    trimEnd (join ['\n'] (pieces ++ List.replicate n [])) = trimEnd (join ['\n'] pieces) := by
  induction n with
  | zero => rw [List.replicate_zero, List.append_nil]
  | succ n ih =>
    rw [List.replicate_succ', ← List.append_assoc, join_append_singleton (by simp [hne]), ← ih]
    exact dropEndWhile_append_of_pos (List.forall_mem_singleton.mpr rfl) _

/-- Trimming the lines of a trimmed text leaves it trimmed. -/
theorem trimEnd_join_map_trimEnd (h : trimEnd s = s) :
    trimEnd (join ['\n'] ((splitAt '\n' s).map trimEnd)) =
      join ['\n'] ((splitAt '\n' s).map trimEnd) := by
  rcases List.eq_nil_or_concat' s with rfl | ⟨front, c, rfl⟩
  · rfl
  · have hc : isBlank c = false := getLast?_dropEndWhile_not
      (by rw [← trimEnd, h, List.getLast?_concat])
    have hkept : ∀ s, trimEnd (s ++ [c]) = s ++ [c] :=
      fun s => by rw [trimEnd, dropEndWhile_append_singleton, if_neg (by simp [hc])]
    have hnewline : '\n' ∉ [c] := by
      rintro hmem
      rw [← List.mem_singleton.mp hmem] at hc
      cases hc
    obtain ⟨pieces, last, hpieces⟩ := exists_splitAt_append front hnewline
    rw [hpieces, List.map_append, List.map_singleton, hkept, join_concat_append, hkept]

end Golden

namespace Dump

open Golden

variable {s t line : List Char} {ls ms zs : List (List Char)} {a b : String}

/-- The white space and controls that a text begins with. -/
def front (s : List Char) : List Char := (unifyBreaks s).takeWhile isEdge

/-- What stands between the front of a text and the white space it ends with. -/
def core (s : List Char) : List Char := trimEnd ((unifyBreaks s).dropWhile isEdge)

def allBlank (line : List Char) : Bool := line.all isBlank

/-- The nodes of the lines that hold white space alone. They have no text but a depth. -/
def blankEntries (s : List Char) : List (Nat × String) :=
  ((lines s).filter allBlank).map entry

/-- Text in which every carriage return stands before a newline, and the last character that is not
white space is no control. -/
structure Plain (s : List Char) : Prop where
  returns : '\r' ∉ replacePair '\r' '\n' ['\n'] s
  ends : ∀ c ∈ (core s).getLast?, isEdge c = false

theorem exists_eq_front_append (s : List Char) : ∃ blanks,
    unifyBreaks s = front s ++ core s ++ blanks ∧
      (unifyBreaks s).dropWhile isEdge = core s ++ blanks ∧ ∀ c ∈ blanks, isBlank c = true := by
  obtain ⟨blanks, hrest, hblanks⟩ :=
    exists_dropEndWhile isBlank ((unifyBreaks s).dropWhile isEdge)
  refine ⟨blanks, ?_, hrest, hblanks⟩
  conv_lhs => rw [← List.takeWhile_append_dropWhile (p := isEdge) (l := unifyBreaks s), hrest]
  exact (List.append_assoc ..).symm

/-- The lines of a text are those up to its last text, and blank lines. -/
theorem Plain.exists_map_trimEnd_lines (h : Plain s) : ∃ k n,
    (lines s).map trimEnd ++ List.replicate k [] =
      (splitAt '\n' (front s ++ core s)).map trimEnd ++ List.replicate n [] := by
  obtain ⟨blanks, hs, -, hblanks⟩ := exists_eq_front_append s
  obtain ⟨n, hn⟩ := exists_map_trimEnd_splitAt hblanks (front s ++ core s)
  obtain ⟨k, hk⟩ := exists_splitAt_eq_lines (not_mem_unifyBreaks s)
  have hunified : unifyBreaks s = replacePair '\r' '\n' ['\n'] s := replaceChar_of_not_mem h.returns
  have hlines : lines (unifyBreaks s) = lines s := by rw [hunified, lines_replacePair h.returns]
  refine ⟨k, n, ?_⟩
  rw [← hn, ← hs, hk, hlines, List.map_append, List.map_replicate]
  rfl

/-- The normal form shows the lines up to the last text. -/
theorem Plain.trimEnd_normalChars (h : Plain s) :
    trimEnd (normalChars s) = join ['\n'] ((splitAt '\n' (core s)).map trimEnd) := by
  obtain ⟨blanks, -, hrest, hblanks⟩ := exists_eq_front_append s
  have htrim : trimEdges (unifyBreaks s) = core s ++ dropEndWhile isEdge blanks := by
    rw [trimEdges, hrest]
    rcases List.eq_nil_or_concat' (core s) with hcore | ⟨kept, c, hcore⟩
    · rw [hcore, List.nil_append, List.nil_append]
    · rw [hcore]
      exact dropEndWhile_append (h.ends c (by rw [hcore, List.getLast?_concat]; rfl)) blanks
  have hdropped : ∀ c ∈ dropEndWhile isEdge blanks, isBlank c = true :=
    fun c hc => hblanks c ((List.rdropWhile_prefix isEdge blanks).subset hc)
  obtain ⟨n, hn⟩ := exists_map_trimEnd_splitAt hdropped (core s)
  have hne : (splitAt '\n' (core s)).map trimEnd ≠ [] := by simpa using splitAt_ne_nil _ _
  rw [Golden.normalChars_eq, normalLines_eq_trimmedLines, trimmedLines, htrim, hn, trimEnd_endLine,
    trimEnd_join_append_replicate hne, trimEnd_join_map_trimEnd (s := core s) (trimEnd_trimEnd _)]

/-- Plain texts with the same normal form have the same lines up to the last text. -/
theorem Plain.map_trimEnd_core_eq (ha : Plain s) (hb : Plain t)
    (h : normalChars s = normalChars t) :
    (splitAt '\n' (core s)).map trimEnd = (splitAt '\n' (core t)).map trimEnd := by
  have hcut : ∀ u, splitAt '\n' (join ['\n'] ((splitAt '\n' (core u)).map trimEnd)) =
      (splitAt '\n' (core u)).map trimEnd := by
    refine fun u => splitAt_join (by simpa using splitAt_ne_nil _ _) fun piece hpiece hmem => ?_
    obtain ⟨found, hfound, rfl⟩ := List.mem_map.mp hpiece
    exact not_mem_of_mem_splitAt hfound (mem_of_mem_trimEnd hmem)
  rw [← hcut s, ← hcut t, ← ha.trimEnd_normalChars, ← hb.trimEnd_normalChars, h]

theorem allBlank_iff : allBlank line = true ↔ trimEnd line = [] :=
  List.all_eq_true.trans trimEnd_eq_nil_iff.symm

/-- Where a line has a text, the white space at its end does not show. -/
theorem entry_trimEnd (h : allBlank line = false) : entry (trimEnd line) = entry line := by
  obtain ⟨c, hmem, hc⟩ := List.all_eq_false.mp h
  obtain ⟨hmargin, htrim⟩ := margin_trimEnd ⟨c, hmem, by simpa using hc⟩
  rw [entry, entry, hmargin, htrim]

/-- Lines with the same texts and the same blank lines have the same nodes. -/
theorem map_entry_eq (htrim : ls.map trimEnd = ms.map trimEnd)
    (hblank : (ls.filter allBlank).map entry = (ms.filter allBlank).map entry) :
    ls.map entry = ms.map entry := by
  induction ls generalizing ms with
  | nil =>
    rw [List.map_nil, eq_comm, List.map_eq_nil_iff] at htrim
    rw [htrim]
  | cons l ls ih =>
    obtain ⟨m, ms, rfl⟩ : ∃ m rest, ms = m :: rest := by
      cases ms with
      | nil => cases htrim
      | cons m ms => exact ⟨m, ms, rfl⟩
    obtain ⟨hhead, htail⟩ := List.cons_eq_cons.mp htrim
    have hsame : allBlank l = allBlank m := by
      rw [Bool.eq_iff_iff, allBlank_iff, allBlank_iff, hhead]
    -- A blank line has its node from `hblank`, any other from what is left of it at its end.
    cases hl : allBlank l with
    | true =>
      rw [List.filter_cons_of_pos hl, List.filter_cons_of_pos (hsame ▸ hl)] at hblank
      obtain ⟨hentry, hrest⟩ := List.cons_eq_cons.mp hblank
      rw [List.map_cons, List.map_cons, hentry, ih htail hrest]
    | false =>
      have hm : allBlank m = false := hsame.symm.trans hl
      have hentry : entry l = entry m := by rw [← entry_trimEnd hl, hhead, entry_trimEnd hm]
      rw [List.filter_cons_of_neg (by simp [hl]), List.filter_cons_of_neg (by simp [hm])] at hblank
      rw [List.map_cons, List.map_cons, hentry, ih htail hblank]

theorem count_map_trimEnd (ls : List (List Char)) : (ls.map trimEnd).count [] =
    ((ls.filter allBlank).map entry).length := by
  rw [List.length_map, ← List.countP_eq_length_filter, List.count, List.countP_map]
  refine List.countP_congr fun line _ => ?_
  rw [allBlank_iff]
  simp

/-- Lines that begin alike and go on with blank lines are the same if as many of them are blank. -/
theorem eq_of_append_replicate {k n k' n' : Nat}
    (hl : ls ++ List.replicate k [] = zs ++ List.replicate n [])
    (hm : ms ++ List.replicate k' [] = zs ++ List.replicate n' [])
    (hcount : ls.count [] = ms.count []) : ls = ms := by
  have hlCount := congrArg (List.count []) hl
  have hmCount := congrArg (List.count []) hm
  simp only [List.count_append, List.count_replicate_self] at hlCount hmCount
  have hlong : ls ++ List.replicate (k + n') [] = ms ++ List.replicate (k + n') [] :=
    calc ls ++ List.replicate (k + n') []
        = zs ++ List.replicate (n' + n) [] := by
          rw [List.replicate_add, ← List.append_assoc, hl, List.append_assoc, ← List.replicate_add,
            Nat.add_comm]
      _ = ms ++ List.replicate (k' + n) [] := by
          rw [List.replicate_add, ← List.append_assoc, ← hm, List.append_assoc,
            ← List.replicate_add]
      _ = ms ++ List.replicate (k + n') [] := by rw [show k' + n = k + n' by omega]
  exact List.append_cancel_right hlong

/-- Plain texts that compare equal are read as the same tree, if they begin with the same white
space and have the same blank lines. -/
theorem parse_eq_of_compare? (ha : Plain a.toList) (hb : Plain b.toList)
    (hfront : front a.toList = front b.toList)
    (hblank : blankEntries a.toList = blankEntries b.toList) (hequal : compare? a b = none) :
    parse a = parse b := by
  have hnormal : normalChars a.toList = normalChars b.toList :=
    compare?_eq_none_iff_normalChars.mp hequal
  have hcore := map_trimEnd_splitAt_front (front b.toList) (ha.map_trimEnd_core_eq hb hnormal)
  obtain ⟨k, n, hl⟩ := ha.exists_map_trimEnd_lines
  obtain ⟨k', n', hm⟩ := hb.exists_map_trimEnd_lines
  rw [hfront, hcore] at hl
  have hcount : ((lines a.toList).map trimEnd).count [] =
      ((lines b.toList).map trimEnd).count [] := by
    rw [count_map_trimEnd, count_map_trimEnd]
    exact congrArg List.length hblank
  rw [parse, parse, ofLines, ofLines, map_entry_eq (eq_of_append_replicate hl hm hcount) hblank]

open Disk Migration in
/-- Between plain texts that compare equal, begin with the same white space and have the same blank
lines there is no difference, and an audit that finds one of them in a golden file and the other in
its dump has nothing to object to. -/
theorem differences_of_compare? (ha : Plain a.toList) (hb : Plain b.toList)
    (hfront : front a.toList = front b.toList)
    (hblank : blankEntries a.toList = blankEntries b.toList) (hequal : compare? a b = none) :
    (parse a).differences (parse b) = [] ∧
      ∀ (audit : Audit) (fs : FileSystem) (actual : Path),
        fs.read (goldenOf actual) = .ok a.toUTF8 → fs.read actual = .ok b.toUTF8 →
        ∃ d fs', audit.auditFile fs actual = .ok (d, fs') ∧ d.differences = 0 ∧
          d.isCompatible = true := by
  have hsame := parse_eq_of_compare? ha hb hfront hblank hequal
  refine ⟨Tree.differences_eq_nil_iff.mpr hsame, fun audit fs actual hgolden hdump => ?_⟩
  obtain ⟨place, hfind⟩ := FileSystem.read_eq_ok_iff.mp hgolden
  have haudit := Audit.auditFile_of_texts audit hfind hdump
  rw [hsame, Audit.decide_self] at haudit
  exact ⟨_, _, haudit, rfl, rfl⟩

/-- A disk with a golden file and its dump. -/
def dumpDisk (golden dump : String) : Disk.FileSystem :=
  ⟨[(["x"], .file golden.toUTF8), (["x.actual"], .file dump.toUTF8)]⟩

theorem find_dumpDisk (golden dump : String) :
    (dumpDisk golden dump).find (Migration.goldenOf ⟨"x.actual"⟩) =
      .ok (["x"], .file golden.toUTF8) := rfl

theorem read_dumpDisk (golden dump : String) :
    (dumpDisk golden dump).read ⟨"x.actual"⟩ = .ok dump.toUTF8 := rfl

-- One character is looked at and not all there are, whatever is imported.
attribute [local instance (2000)] Option.decidableForallMem

/-- Blank lines and indentation in front, a blank line between, and white space at the ends. -/
theorem differences_of_compare?_restyled :
    let golden := "\n  a \n \n\tb\n"
    let dump := "\r\n  a\r\n\t\r\n\tb\u00A0 "
    compare? golden dump = none ∧ (parse golden).differences (parse dump) = [] ∧
      ∃ d fs', Migration.Audit.auditFile ⟨.identifierToValue, true⟩ (dumpDisk golden dump)
        ⟨"x.actual"⟩ = .ok (d, fs') ∧ d.differences = 0 ∧ d.isCompatible = true := by
  intro golden dump
  have hequal : compare? golden dump = none :=
    compare?_eq_none_iff_normalChars.mpr (by decide +kernel)
  have hgolden : Plain golden.toList := ⟨by decide +kernel, by decide +kernel⟩
  have hdump : Plain dump.toList := ⟨by decide +kernel, by decide +kernel⟩
  have hfront : front golden.toList = front dump.toList := by decide +kernel
  have hblank : blankEntries golden.toList = blankEntries dump.toList := by decide +kernel
  obtain ⟨hnone, haudit⟩ := differences_of_compare? hgolden hdump hfront hblank hequal
  exact ⟨hequal, hnone, haudit _ _ _ (Disk.FileSystem.read_eq_ok_iff.mpr ⟨_, find_dumpDisk _ _⟩)
    (read_dumpDisk _ _)⟩

/-- Texts with blank lines behind them, in front of them and of other depths inside them, with
indentation, a lone carriage return or a control, and the same texts without. -/
def noisyTexts : List (String × String) :=
  [("a\n\n", "a\n"), ("\na\n", "a\n"), ("a\n  \n b\n", "a\n\n b\n"), ("  a\n b\n", "a\n b\n"),
    ("a\rb\n", "a\nb\n"), ("a\u0001\n", "a\n")]

/-- By any rule, an audit rejects a dump for noise that the comparison ignores. -/
theorem noise_changes_tree : ∀ texts ∈ noisyTexts, compare? texts.1 texts.2 = none ∧
    (parse texts.1).differences (parse texts.2) ≠ [] ∧
      ∀ audit : Migration.Audit, ∃ d, audit.auditFile (dumpDisk texts.1 texts.2) ⟨"x.actual"⟩ =
        .ok (d, dumpDisk texts.1 texts.2) ∧ d.isCompatible = false := by
  have hnoise : ∀ texts ∈ noisyTexts,
      normalChars texts.1.toList = normalChars texts.2.toList ∧
      ∃ pair ∈ (parse texts.1).differences (parse texts.2),
        ∀ rule ∈ Migration.Rule.all, rule.explains pair.1 pair.2 = false := by
    decide +kernel
  intro texts htexts
  obtain ⟨hnormal, pair, hpair, hrules⟩ := hnoise texts htexts
  refine ⟨compare?_eq_none_iff_normalChars.mpr hnormal, List.ne_nil_of_mem hpair, fun audit => ?_⟩
  have hrule : audit.rule ∈ Migration.Rule.all := by
    cases audit.rule <;> decide
  have hrejected : (audit.decide ⟨"x.actual"⟩ (parse texts.1) (parse texts.2)).isCompatible =
      false := by
    rw [← Bool.not_eq_true, Migration.Audit.isCompatible_decide_iff]
    intro hall
    have hexplained := hall pair hpair
    rw [hrules audit.rule hrule] at hexplained
    cases hexplained
  have haudit := Migration.Audit.auditFile_of_texts audit (find_dumpDisk texts.1 texts.2)
    (read_dumpDisk texts.1 texts.2)
  rw [Migration.Audit.applied_decide, hrejected] at haudit
  exact ⟨_, haudit, hrejected⟩

/-- Texts that compare equal need not be read as the same tree. -/
theorem tree_depends_on_noise : ¬ ∀ a b : String, compare? a b = none →
    (parse a).differences (parse b) = [] := by
  intro hnone
  obtain ⟨hequal, hdiffer, -⟩ := noise_changes_tree ("a\n\n", "a\n") (List.mem_cons_self ..)
  exact hdiffer (hnone _ _ hequal)

end Dump

end GoldenTree
