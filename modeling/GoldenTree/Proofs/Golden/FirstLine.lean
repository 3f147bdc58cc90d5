import GoldenTree.Proofs.Cut
import GoldenTree.Proofs.Golden.Written

/-! Headers of golden texts that compare equal. The header is read from the first line as it stands,
with only its line break taken off, while the comparison sees that line in normal form. White space
and controls around the line can therefore hide its header. A carriage return in the line breaks it
for the comparison alone, so that hash and marker are those of a later line in normal form. -/
namespace GoldenTree.Golden

open Text Disk

namespace Header

variable {s : List Char} {text text' : String} {fs fs' : FileSystem} {golden golden' : Path}

/-- The first line begins and ends with characters that normal form drops nowhere. -/
def Bare (s : List Char) : Prop := StartsSolid (firstLine s) ∧ EndsSolid (firstLine s)

instance (s : List Char) : Decidable (Bare s) := inferInstanceAs (Decidable (_ ∧ _))

/-- A bare line without carriage returns stays the first line in normal form. -/
theorem firstLine_normalChars_of_bare (hbare : Bare s) (hreturn : '\r' ∉ firstLine s) :
    firstLine (normalChars s) = firstLine s := by
  obtain ⟨hstart, hend⟩ := hbare
  have hnewline := newline_not_mem_firstLine s
  obtain ⟨rest, hs, hrest⟩ := exists_firstLine s
  obtain ⟨more, hlines⟩ := normalLines_append hstart hend hnewline hrest
  rw [← hs, splitAt_of_not_mem hreturn, List.map_singleton, hend.trimEnd] at hlines
  exact firstLine_of_normalLines hend hnewline hlines

/-- A text has the header of its normal form if its first line is bare, and none otherwise. -/
theorem ofText?_eq_ite (hreturn : '\r' ∉ firstLine text.toList) :
    ofText? text = if Bare text.toList then ofText? (normalize text) else none := by
  split
  · next hbare =>
    rw [ofText?, ofText?, normalize, String.toList_ofList,
      firstLine_normalChars_of_bare hbare hreturn]
  · next hbare =>
    exact Option.eq_none_iff_forall_ne_some.mpr fun header hparse =>
      hbare (solid_of_parse? hparse)

/-! A header line with a carriage return in it. What stands before the last return, and behind the
word that a header begins with, makes no difference. -/

variable {front behind suffix : List Char} {header : Header}

theorem append_eq_append_return (hsuffix : '\r' ∉ suffix) :
    s ++ suffix = front ++ '\r' :: behind ↔
      ∃ last, s = front ++ '\r' :: last ∧ behind = last ++ suffix := by
  constructor
  · intro h
    rcases append_eq_append_cons h with ⟨last, rfl⟩ | ⟨between, -, rfl⟩
    · rw [List.append_assoc, List.cons_append] at h
      exact ⟨last, rfl, (List.cons.inj (List.append_cancel_left h)).2.symm⟩
    · exact absurd (List.mem_append_right between List.mem_cons_self) hsuffix
  · rintro ⟨last, rfl, rfl⟩
    rw [List.append_assoc, List.cons_append]

theorem before?_append_return (hsuffix : '\r' ∉ suffix) (front behind : List Char) :
    before? suffix (front ++ '\r' :: behind) =
      (before? suffix behind).map (front ++ '\r' :: ·) := by
  ext start
  rw [before?_eq_some_iff, eq_comm, append_eq_append_return hsuffix, Option.map_eq_some_iff]
  constructor
  · rintro ⟨last, rfl, hbehind⟩
    exact ⟨last, before?_eq_some_iff.mpr hbehind, rfl⟩
  · rintro ⟨last, hlast, rfl⟩
    exact ⟨last, rfl, before?_eq_some_iff.mp hlast⟩

theorem namesSource_append_return (hfront : '\n' ∉ front) :
    namesSource (front ++ '\r' :: behind) = namesSource ('\r' :: behind) := by
  have hkts : '\r' ∉ ['k', 't', 's'] := by decide
  have hkt : '\r' ∉ ['k', 't'] := by decide
  have hkts' := before?_append_return hkts [] behind
  have hkt' := before?_append_return hkt [] behind
  rw [List.nil_append] at hkts' hkt'
  rw [namesSource, namesSource, before?_append_return hkts, before?_append_return hkt, hkts', hkt']
  cases before? ['k', 't', 's'] behind with
  | some start => simp [hfront]
  | none => cases before? ['k', 't'] behind <;> simp [hfront]

/-- How a header line with a carriage return in it ends. -/
theorem parse?_return_eq_some_iff (hfront : '\n' ∉ front) :
    parse? ("File: ".toList ++ front ++ '\r' :: behind) = some header ↔
      ∃ last, behind = last ++ (" - ".toList ++ header.hash.toList ++ tail header.marker) ∧
        isHash header.hash.toList = true ∧ namesSource ('\r' :: last) = true := by
  rw [parse?_eq_some_iff]
  constructor
  · rintro ⟨start, hline, hhash, hopens⟩
    obtain ⟨name, rfl, hname⟩ := opensHeader_iff.mp hopens
    have hname' : name ++ (" - ".toList ++ header.hash.toList ++ tail header.marker) =
        front ++ '\r' :: behind := by
      simp only [List.append_assoc] at hline ⊢
      exact (List.append_cancel_left hline).symm
    obtain ⟨last, rfl, hbehind⟩ :=
      (append_eq_append_return (return_not_mem_ending hhash _)).mp hname'
    rw [namesSource_append_return hfront] at hname
    exact ⟨last, hbehind, hhash, hname⟩
  · rintro ⟨last, rfl, hhash, hname⟩
    rw [← namesSource_append_return hfront] at hname
    refine ⟨_, ?_, hhash, opensHeader_iff.mpr ⟨_, rfl, hname⟩⟩
    simp only [List.append_assoc, List.cons_append]

theorem parse?_return (hfront : '\n' ∉ front) :
    parse? ("File: ".toList ++ front ++ '\r' :: behind) =
      parse? ("File: \r".toList ++ behind) := by
  ext header
  rw [parse?_return_eq_some_iff hfront]
  exact (parse?_return_eq_some_iff (List.not_mem_nil : '\n' ∉ [])).symm

/-! The header of a text, told from its normal form. -/

/-- The first line begins as a header does and ends with a character that normal form drops
nowhere. -/
def Shown (s : List Char) : Prop := "File: ".toList <+: firstLine s ∧ EndsSolid (firstLine s)

instance (s : List Char) : Decidable (Shown s) := inferInstanceAs (Decidable (_ ∧ _))

/-- How many carriage returns break the first line for the comparison. -/
def returns (s : List Char) : Nat := (firstLine s).count '\r'

/-- The header of a normal text whose first lines were one line, broken by so many carriage
returns. -/
def headerAt (normal : String) (returns : Nat) : Option Header :=
  ((splitAt '\n' normal.toList)[returns]?).bind fun line =>
    parse? (if returns = 0 then line else "File: \r".toList ++ line)

theorem Shown.bare (h : Shown s) : Bare s := by
  obtain ⟨⟨rest, hrest⟩, hend⟩ := h
  exact ⟨hrest ▸ startsSolid_header rest, hend⟩

theorem shown_of_ofText? (h : ofText? text = some header) : Shown text.toList := by
  obtain ⟨start, hline, -, hopens⟩ := parse?_eq_some_iff.mp h
  obtain ⟨name, rfl, -⟩ := opensHeader_iff.mp hopens
  refine ⟨⟨name ++ " - ".toList ++ header.hash.toList ++ tail header.marker, ?_⟩,
    (solid_of_parse? h).2⟩
  rw [hline]
  simp only [List.append_assoc]

theorem length_splitAt (sep : Char) (s : List Char) :
    (splitAt sep s).length = s.count sep + 1 := by
  induction s with
  | nil => rfl
  | cons c s ih =>
    by_cases hc : c = sep
    · rw [splitAt, if_pos hc, List.length_cons, ih, hc, List.count_cons_self]
    · obtain ⟨piece, pieces, hs⟩ := List.exists_cons_of_ne_nil (splitAt_ne_nil sep s)
      rw [splitAt, if_neg hc, List.count_cons_of_ne hc, ← ih, hs]
      rfl

/-- Behind its last carriage return, the first line stands in normal form as it is. -/
theorem getElem?_splitAt_normalChars (h : Bare s) : ∃ pieces last,
    splitAt '\r' (firstLine s) = pieces ++ [last] ∧ pieces.length = returns s ∧
      (splitAt '\n' (normalChars s))[returns s]? = some last := by
  obtain ⟨hstart, hend⟩ := h
  obtain ⟨rest, hs, hrest⟩ := exists_firstLine s
  obtain ⟨more, hlines⟩ := normalLines_append hstart hend (newline_not_mem_firstLine s) hrest
  obtain ⟨blank, hcut, -⟩ := splitAt_normalChars s
  obtain ⟨start, c, hfirst, hc⟩ := hend
  obtain ⟨pieces, last, hpieces⟩ : ∃ pieces last,
      splitAt '\r' (start ++ [c]) = pieces ++ [last ++ [c]] :=
    exists_splitAt_append start (by simpa using hc.ne_return.symm)
  rw [← hfirst] at hpieces
  have hcount : pieces.length = returns s := by
    have hlength := length_splitAt '\r' (firstLine s)
    rw [hpieces, List.length_append, List.length_singleton] at hlength
    exact Nat.add_right_cancel hlength
  have hlast : trimEnd (last ++ [c]) = last ++ [c] := EndsSolid.trimEnd ⟨last, c, rfl, hc⟩
  refine ⟨pieces, last ++ [c], hpieces, hcount, ?_⟩
  rw [← hs, hpieces, List.map_append, List.map_singleton, hlast] at hlines
  rw [hcut, hlines, ← hcount]
  simp

theorem prefix_of_append_return (hs : '\r' ∉ s) (h : s <+: front ++ '\r' :: behind) :
    s <+: front := by
  obtain ⟨rest, hrest⟩ := h
  rcases append_eq_append_cons hrest with ⟨last, rfl⟩ | ⟨between, rfl, -⟩
  · exact absurd (List.mem_append_right front List.mem_cons_self) hs
  · exact List.prefix_append s between

theorem ofText?_eq_headerAt (h : Shown text.toList) :
    ofText? text = headerAt (normalize text) (returns text.toList) := by
  obtain ⟨pieces, last, hpieces, hcount, hlast⟩ := getElem?_splitAt_normalChars h.bare
  have hline := join_splitAt '\r' (firstLine text.toList)
  rw [hpieces] at hline
  rw [headerAt, normalize, String.toList_ofList, hlast, Option.bind_some, ofText?, ← hline,
    ← hcount]
  cases pieces with
  | nil => rfl
  | cons piece pieces =>
    have hbegins := h.1
    rw [← hline, join_append_singleton (List.cons_ne_nil _ _)] at hbegins
    obtain ⟨front, hfront⟩ := prefix_of_append_return (by decide) hbegins
    have hnewline : '\n' ∉ front := by
      intro hmem
      refine newline_not_mem_firstLine text.toList ?_
      rw [← hline, join_append_singleton (List.cons_ne_nil _ _), ← hfront]
      simp [hmem]
    rw [join_append_singleton (List.cons_ne_nil _ _), ← hfront, parse?_return hnewline]
    rfl

/-- The header of a golden file that holds a text. -/
theorem read_eq_ite (hread : fs.read golden = .ok text.toUTF8) : Header.read fs golden =
    .ok (if Shown text.toList then headerAt (normalize text) (returns text.toList) else none) := by
  rw [read_of_read hread, ofBytes_toUTF8]
  by_cases hshown : Shown text.toList
  · rw [if_pos hshown, ofText?_eq_headerAt hshown]
  · have hnone : ofText? text = none :=
      Option.eq_none_iff_forall_ne_some.mpr fun _ hheader => hshown (shown_of_ofText? hheader)
    rw [if_neg hshown, hnone]

/-- Golden files whose texts compare equal have the header that their common normal form tells for
the number of carriage returns in the first line, each if its first line is shown, and otherwise
none. So they have the same header if their first lines agree in this; without carriage returns
there, it is enough that both are bare or neither is. -/
theorem read_of_compare?_eq_none (hequal : compare? text text' = none)
    (hread : fs.read golden = .ok text.toUTF8) (hread' : fs'.read golden' = .ok text'.toUTF8) :
    (Header.read fs golden =
        .ok (if Shown text.toList then headerAt (normalize text) (returns text.toList) else none) ∧
      Header.read fs' golden' =
        .ok (if Shown text'.toList then headerAt (normalize text) (returns text'.toList)
          else none)) ∧
    ((Shown text.toList ↔ Shown text'.toList) → returns text.toList = returns text'.toList →
      Header.read fs golden = Header.read fs' golden') ∧
    ((Bare text.toList ↔ Bare text'.toList) → '\r' ∉ firstLine text.toList →
      '\r' ∉ firstLine text'.toList → Header.read fs golden = Header.read fs' golden') := by
  have hnormal : normalize text = normalize text' := compare?_eq_none_iff.mp hequal
  have hleft := read_eq_ite hread
  have hright := read_eq_ite hread'
  rw [← hnormal] at hright
  refine ⟨⟨hleft, hright⟩, fun hboth hreturns => ?_, fun hboth hreturn hreturn' => ?_⟩
  · rw [hleft, hright, hreturns]
    simp only [hboth]
  · rw [read_of_read hread, read_of_read hread', ofBytes_toUTF8, ofBytes_toUTF8,
      ofText?_eq_ite hreturn, ofText?_eq_ite hreturn', hnormal]
    simp only [hboth]

/-- Two header lines, the second of a muted case. -/
def twoHeaders (lineBreak : Char) : List Char :=
  "File: a.kt - d41d8cd98f00b204e9800998ecf8427e".toList ++ lineBreak ::
    "File: a.kt - d41d8cd98f00b204e9800998ecf8427e (MUTE)\n  x\n".toList

-- A carriage return between the lines puts the second header in the place of the first.
example : normalChars (twoHeaders '\n') = normalChars (twoHeaders '\r') ∧
    Shown (twoHeaders '\n') ∧ Shown (twoHeaders '\r') ∧
    (parse? (firstLine (twoHeaders '\n'))).map Header.marker = some none ∧
    (parse? (firstLine (twoHeaders '\r'))).map Header.marker = some (some .mute) := by
  decide +kernel

/-- A disk with one golden file. -/
def goldenDisk (text : String) : FileSystem := ⟨[(["x"], .file text.toUTF8)]⟩

theorem read_goldenDisk (text : String) : (goldenDisk text).read ⟨"x"⟩ = .ok text.toUTF8 := rfl

/-- The golden text of a muted case, with something in front of its header line and behind it. -/
def mutedChars (front behind : List Char) : List Char :=
  front ++ "File: a.kt - d41d8cd98f00b204e9800998ecf8427e (MUTE)".toList ++ behind

def mutedGolden (front behind : List Char) : String := String.ofList (mutedChars front behind)

theorem toList_mutedGolden (front behind : List Char) :
    (mutedGolden front behind).toList = mutedChars front behind := String.toList_ofList

theorem compare?_mutedGolden {front behind front' behind' : List Char}
    (h : normalChars (mutedChars front behind) = normalChars (mutedChars front' behind')) :
    compare? (mutedGolden front behind) (mutedGolden front' behind') = none := by
  rwa [compare?_eq_none_iff_normalChars, toList_mutedGolden, toList_mutedGolden]

theorem read_mutedGolden (front behind : List Char) :
    Header.read (goldenDisk (mutedGolden front behind)) ⟨"x"⟩ =
      .ok (parse? (firstLine (mutedChars front behind))) := by
  rw [read_of_read (read_goldenDisk _), ofBytes_toUTF8, ofText?, toList_mutedGolden]

/-- Other line breaks, and blanks and a control behind the header line. -/
theorem read_of_compare?_eq_none_restyled :
    let plain := mutedGolden [] "\n  x\n".toList
    let restyled := mutedGolden [] "\r\n  x\u00A0\r\n\u0001 \n".toList
    compare? plain restyled = none ∧
      Header.read (goldenDisk plain) ⟨"x"⟩ = Header.read (goldenDisk restyled) ⟨"x"⟩ := by
  intro plain restyled
  have hequal : compare? plain restyled = none := compare?_mutedGolden (by decide +kernel)
  have hbare : ∀ behind ∈ ["\n  x\n".toList, "\r\n  x\u00A0\r\n\u0001 \n".toList],
      Bare (mutedGolden [] behind).toList ∧ '\r' ∉ firstLine (mutedGolden [] behind).toList := by
    simp only [toList_mutedGolden]
    decide +kernel
  obtain ⟨hplain, hreturn⟩ := hbare _ (List.mem_cons_self ..)
  obtain ⟨hrestyled, hreturn'⟩ := hbare _ (List.mem_cons_of_mem _ (List.mem_cons_self ..))
  obtain ⟨-, -, hsame⟩ := read_of_compare?_eq_none hequal (read_goldenDisk plain)
    (read_goldenDisk restyled)
  exact ⟨hequal, hsame (iff_of_true hplain hrestyled) hreturn hreturn'⟩

/-- What may stand in front of a header line and behind it: a line break or a space before it, a
space or a carriage return after it. -/
def noises : List (List Char × List Char) :=
  [(['\n'], ['\n']), ([' '], ['\n']), ([], [' ', '\n']), ([], ['\r'])]

/-- A case does not stay muted when its header line gets blanks or a lone carriage return that the
comparison ignores. -/
theorem noise_hides_header : ∀ noise ∈ noises,
    let plain := mutedGolden [] "\n  x\n".toList
    let noisy := mutedGolden noise.1 (noise.2 ++ "  x\n".toList)
    compare? plain noisy = none ∧ Header.read (goldenDisk noisy) ⟨"x"⟩ = .ok none ∧
      Header.read (goldenDisk plain) ⟨"x"⟩ =
        .ok (some ⟨"d41d8cd98f00b204e9800998ecf8427e", some .mute⟩) := by
  have hmuted : parse? (firstLine (mutedChars [] "\n  x\n".toList)) =
      some ⟨"d41d8cd98f00b204e9800998ecf8427e", some .mute⟩ := by decide +kernel
  have hnoisy : ∀ noise ∈ noises,
      normalChars (mutedChars [] "\n  x\n".toList) =
        normalChars (mutedChars noise.1 (noise.2 ++ "  x\n".toList)) ∧
      parse? (firstLine (mutedChars noise.1 (noise.2 ++ "  x\n".toList))) = none := by
    decide +kernel
  intro noise hnoise
  obtain ⟨hequal, hnone⟩ := hnoisy noise hnoise
  dsimp only
  rw [read_mutedGolden, read_mutedGolden, hnone, hmuted]
  exact ⟨compare?_mutedGolden hequal, rfl, rfl⟩

/-- Golden texts that compare equal need not have the same header. -/
theorem header_depends_on_noise : ¬ ∀ text text' : String, compare? text text' = none →
    Header.read (goldenDisk text) ⟨"x"⟩ = Header.read (goldenDisk text') ⟨"x"⟩ := by
  intro hsame
  obtain ⟨hequal, hnone, hmuted⟩ := noise_hides_header (['\n'], ['\n']) (List.mem_cons_self ..)
  have hread := hsame _ _ hequal
  rw [hnone, hmuted] at hread
  cases hread

end Header

end GoldenTree.Golden
