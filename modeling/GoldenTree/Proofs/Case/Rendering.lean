import GoldenTree.Case.Run
import GoldenTree.Proofs.Golden.Header
import GoldenTree.Proofs.ParseTree.Lines

/-! The rendering of a case. It reads back with the hash and the marker it was written with, and a
golden text that agrees with it has no other hash in its header. -/
namespace GoldenTree.CaseRun

open Text Golden ParseTree

variable {c : Case} {marker : Option Marker} {tree : ParseTree} {line : List Char}

/-- The header line of a rendering. -/
def headerLine (c : Case) (marker : Option Marker) : List Char :=
  (Header.render c.fileName c.hash marker).toList

theorem headerLine_eq (c : Case) (marker : Option Marker) : headerLine c marker =
    "File: ".toList ++ c.fileName.toList ++ " - ".toList ++ c.hash.toList ++
      Header.tail (Header.written marker) := Header.render_toList ..

theorem startsSolid_headerLine : StartsSolid (headerLine c marker) := Header.startsSolid_render

theorem endsSolid_headerLine (hhash : Header.isHash c.hash.toList = true) :
    EndsSolid (headerLine c marker) := Header.endsSolid_render hhash

theorem headerLine_no_break (hhash : Header.isHash c.hash.toList = true)
    (hnewline : '\n' ∉ c.fileName.toList) (hreturn : '\r' ∉ c.fileName.toList) :
    '\n' ∉ headerLine c marker ∧ '\r' ∉ headerLine c marker :=
  ⟨Header.render_no_break (.inl rfl) hhash hnewline,
    Header.render_no_break (.inr rfl) hhash hreturn⟩

theorem rendering_toList (c : Case) (marker : Option Marker) (tree : ParseTree) :
    (rendering c marker tree).toList =
      join ['\n'] (headerLine c marker :: tree.lines) ++ ['\n'] := by
  rw [rendering, render_toList, unlines_eq_join (by simp)]
  rfl

section Header

variable (hhash : Header.isHash c.hash.toList = true) (hnewline : '\n' ∉ c.fileName.toList)
  (hreturn : '\r' ∉ c.fileName.toList)
include hhash hnewline hreturn

theorem firstLine_rendering :
    Header.firstLine (normalize (rendering c marker tree)).toList = headerLine c marker := by
  rw [Golden.normalize, String.toList_ofList, rendering, render_toList_append]
  exact Header.firstLine_normalChars_render hhash hnewline hreturn _

/-- What is written reads back, with the marker it was written with. -/
theorem ofText?_rendering (hname : Header.namesSource c.fileName.toList = true) :
    Header.ofText? (normalize (rendering c marker tree)) =
      some ⟨c.hash, Header.written marker⟩ := by
  rw [Header.ofText?, firstLine_rendering hhash hnewline hreturn]
  exact Header.parse?_render hname hhash marker

/-- Whatever the source is named, no other header is read. -/
theorem eq_of_ofText?_rendering {h : Header}
    (hread : Header.ofText? (normalize (rendering c marker tree)) = some h) :
    h = ⟨c.hash, Header.written marker⟩ := by
  rw [Header.ofText?, firstLine_rendering hhash hnewline hreturn, headerLine_eq] at hread
  exact Header.eq_of_parse? hhash hread

end Header

section Grammar

variable (hnodes : ∀ u ∈ forestSubtrees tree.children, IsNode Grammar.recognizer u)
include hnodes

theorem endsSolid_lines (hhash : Header.isHash c.hash.toList = true) :
    ∀ line ∈ headerLine c marker :: tree.lines, EndsSolid line := by
  intro line hline
  rcases List.mem_cons.mp hline with rfl | hline
  · exact endsSolid_headerLine hhash
  · exact (plain_of_isNode hnodes).endsSolid hline

/-- Normal form is reached in one step. -/
theorem normalize_normalize_rendering (hhash : Header.isHash c.hash.toList = true) :
    normalize (normalize (rendering c marker tree)) = normalize (rendering c marker tree) := by
  have hstart : StartsSolid (join ['\n'] (headerLine c marker :: tree.lines)) :=
    startsSolid_join startsSolid_headerLine _
  have hend : EndsSolid (join ['\n'] (headerLine c marker :: tree.lines)) :=
    endsSolid_join (by simp) (endsSolid_lines hnodes hhash)
  have htrim : trimEdges (rendering c marker tree).toList =
      join ['\n'] (headerLine c marker :: tree.lines) := by
    rw [rendering_toList, trimEdges_append hstart hend]
    exact List.append_nil _
  simp only [Golden.normalize, String.toList_ofList]
  rw [normalChars_normalChars (htrim ▸ hstart) (htrim ▸ hend)]

theorem tidy_rendering (hhash : Header.isHash c.hash.toList = true)
    (hnewline : '\n' ∉ c.fileName.toList) (hreturn : '\r' ∉ c.fileName.toList) :
    Tidy (headerLine c marker :: tree.lines) :=
  (plain_of_isNode hnodes).tidy startsSolid_headerLine (endsSolid_headerLine hhash)
    (headerLine_no_break hhash hnewline hreturn)

/-- A text that agrees with the rendering has its lines, but for what is empty at the end. -/
theorem lines_of_normalize_eq {s : String} (hhash : Header.isHash c.hash.toList = true)
    (hnewline : '\n' ∉ c.fileName.toList) (hreturn : '\r' ∉ c.fileName.toList)
    (hnormal : normalize s = normalize (rendering c marker tree)) :
    ∃ behind, normalLines s.toList ++ behind = headerLine c marker :: tree.lines ++ [[]] := by
  have htidy : Tidy (headerLine c marker :: tree.lines) :=
    tidy_rendering hnodes hhash hnewline hreturn
  obtain ⟨behind, hbehind, -⟩ := splitAt_normalChars s.toList
  refine ⟨behind, ?_⟩
  have hchars :
      normalChars s.toList = join ['\n'] (headerLine c marker :: tree.lines) ++ ['\n'] := by
    have heq := String.ofList_inj.mp hnormal
    rwa [rendering_toList, htidy.normalChars_eq_self] at heq
  rw [← hbehind, hchars, splitAt_append_sep,
    splitAt_join htidy.ne_nil fun line hline => (htidy.noBreak line hline).1]
  rfl

/-- A golden text that agrees with the rendering has the hash of the case in its header. Its first
line may hold carriage returns, and then what stands behind the last of them would have to be a line
of the tree; but no such line ends like a header. -/
theorem hash_of_normalize_eq {s : String} {h : Header}
    (hhash : Header.isHash c.hash.toList = true)
    (hnewline : '\n' ∉ c.fileName.toList) (hreturn : '\r' ∉ c.fileName.toList)
    (hnormal : normalize s = normalize (rendering c marker tree)) (hs : Header.ofText? s = some h) :
    h.hash = c.hash := by
  obtain ⟨start, hfirst, hhash', -⟩ := Header.parse?_eq_some_iff.mp hs
  obtain ⟨hstart, hend⟩ := Header.solid_of_parse? hs
  obtain ⟨rest, hrest, hbreak⟩ := Header.exists_firstLine s.toList
  obtain ⟨more, hmore⟩ :=
    normalLines_append hstart hend (Header.newline_not_mem_firstLine s.toList) hbreak
  obtain ⟨behind, hlines⟩ := lines_of_normalize_eq hnodes hhash hnewline hreturn hnormal
  obtain ⟨pieces, last, hpieces, hhyphen⟩ := Header.splitAt_return_of_parse? hs
  have hlast : EndsSolid (last ++ h.hash.toList ++ Header.tail h.marker) :=
    Header.endsSolid_header hhash' _ _
  rw [hrest, hmore, hpieces, List.map_append, List.map_singleton, hlast.trimEnd] at hlines
  cases pieces with
  | nil =>
    have hheader : Header.firstLine s.toList = headerLine c marker := by
      rw [← join_splitAt '\r' (Header.firstLine s.toList), hpieces]
      exact (List.cons.inj hlines).1
    rw [hfirst, headerLine_eq] at hheader
    exact String.toList_inj.mp (Header.hash_unique hhash' hhash hheader)
  | cons piece pieces =>
    have hmem : last ++ h.hash.toList ++ Header.tail h.marker ∈ tree.lines ++ [[]] := by
      have htail := (List.cons.inj hlines).2
      simp only [List.append_eq] at htail
      rw [← htail]
      simp
    rcases List.mem_append.mp hmem with hmem | hmem
    · rcases no_hyphen_or_quoted hnodes hmem with hnone | ⟨front, hquoted⟩
      · exact absurd (by simp [hhyphen]) hnone
      · exact absurd hquoted (Header.header_ne_quoted hhash' _ _ _)
    · obtain ⟨hnil, -⟩ := List.append_eq_nil_iff.mp (List.mem_singleton.mp hmem)
      obtain ⟨rfl, -⟩ := List.append_eq_nil_iff.mp hnil
      cases hhyphen

end Grammar

end GoldenTree.CaseRun
