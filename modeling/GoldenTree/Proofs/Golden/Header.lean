import GoldenTree.Golden.Header
import GoldenTree.Proofs.Golden.Normal

/-! Golden headers read back as they were written. A header line falls apart into its beginning, the
hash and what the marker adds in one way only. -/
namespace GoldenTree.Golden.Header

open Text Digest

/-- What stands behind the hash of a header line. -/
def tail : Option Marker → List Char
  | none => []
  | some m => markerSuffix m

variable {body line hash : List Char} {marker : Option Marker} {h : Header} {c : Char}

theorem before?_eq_none {q s : List Char} (h : ∀ t, s ≠ t ++ q) : before? q s = none := by
  cases hs : before? q s with
  | none => rfl
  | some t => exact absurd (before?_eq_some_iff.mp hs) (h t)

/-- No marker is read where the line ends otherwise, and none in place of another. -/
theorem splitMarker_append (h : body.getLast? ≠ some ')') (marker : Option Marker) :
    splitMarker (body ++ tail marker) = (body, marker) := by
  have hnone : ∀ m, before? (markerSuffix m) body = none := by
    intro m
    refine before?_eq_none fun t ht => h ?_
    rw [ht, markerSuffix, ← List.append_assoc]
    exact List.getLast?_concat
  have hsome : ∀ m, before? (markerSuffix m) (body ++ markerSuffix m) = some body :=
    fun m => before?_eq_some_iff.mpr rfl
  have hother : ∀ m n : Marker, m ≠ n →
      before? (markerSuffix m) (body ++ markerSuffix n) = none := by
    intro m n hne
    have hrev : ∀ t, after? (markerSuffix m).reverse ((markerSuffix n).reverse ++ t) = none := by
      intro t
      cases m <;> cases n <;> first | exact absurd rfl hne | rfl
    rw [before?, List.reverse_append, hrev]
    rfl
  unfold splitMarker
  rcases marker with _ | _ | _ | _
  · simp [Marker.all, tail, hnone]
  · simp [Marker.all, tail, hsome, hother]
  · simp [Marker.all, tail, hsome]
  · simp [Marker.all, tail, hsome, hother]

theorem splitMarker_eq (line : List Char) :
    line = (splitMarker line).1 ++ tail (splitMarker line).2 := by
  unfold splitMarker
  cases h : Marker.all.findSome? fun m => (before? (markerSuffix m) line).map (·, some m) with
  | none => simp [tail]
  | some found =>
    obtain ⟨m, -, hm⟩ := List.exists_of_findSome?_eq_some h
    obtain ⟨body, hbody, rfl⟩ := Option.map_eq_some_iff.mp hm
    exact before?_eq_some_iff.mp hbody

theorem tail_no_break (hc : c = '\n' ∨ c = '\r') (marker : Option Marker) : c ∉ tail marker := by
  rcases marker with _ | _ | _ | _ <;> rcases hc with rfl | rfl <;> decide

theorem isHash_length (h : isHash hash = true) : hash.length = hashLength := by
  simp only [isHash, Bool.and_eq_true, beq_iff_eq] at h
  exact h.1

theorem isHash_mem (h : isHash hash = true) (hc : c ∈ hash) : isHexDigit c = true := by
  simp only [isHash, Bool.and_eq_true, List.all_eq_true] at h
  exact h.2 c hc

theorem solid_of_isHexDigit (h : isHexDigit c = true) : Solid c := by
  have hrange : 0x30 ≤ c.toNat ∧ c.toNat ≤ 0x66 := by
    simp only [isHexDigit, Bool.or_eq_true, Bool.and_eq_true, decide_eq_true_eq] at h
    rcases h with ⟨hlow, hhigh⟩ | ⟨hlow, hhigh⟩
    · have hlow' : '0'.toNat ≤ c.toNat := hlow
      have hhigh' : c.toNat ≤ '9'.toNat := hhigh
      have h0 : '0'.toNat = 0x30 := rfl
      have h9 : '9'.toNat = 0x39 := rfl
      omega
    · have hlow' : 'a'.toNat ≤ c.toNat := hlow
      have hhigh' : c.toNat ≤ 'f'.toNat := hhigh
      have ha : 'a'.toNat = 0x61 := rfl
      have hf : 'f'.toNat = 0x66 := rfl
      omega
  constructor
  · simp [isBlank]
    omega
  · simp [isEdge]
    omega

theorem exists_isHash_concat (h : isHash hash = true) :
    ∃ front c, hash = front ++ [c] ∧ isHexDigit c = true := by
  have hne : hash ≠ [] := by
    rintro rfl
    exact absurd h (by decide)
  exact ⟨hash.dropLast, hash.getLast hne, (List.dropLast_append_getLast hne).symm,
    isHash_mem h (List.getLast_mem hne)⟩

/-- The hash ends before the marker. -/
theorem splitMarker_hash (h : isHash hash = true) (start : List Char) (marker : Option Marker) :
    splitMarker (start ++ hash ++ tail marker) = (start ++ hash, marker) := by
  obtain ⟨front, c, rfl, hc⟩ := exists_isHash_concat h
  apply splitMarker_append
  rw [← List.append_assoc, List.getLast?_concat]
  rintro ⟨⟩
  exact absurd hc (by decide)

/-- A header line is its beginning, the hash and the marker. -/
theorem parse?_eq_some_iff : parse? line = some h ↔ ∃ start,
    line = start ++ h.hash.toList ++ tail h.marker ∧ isHash h.hash.toList = true ∧
      opensHeader start = true := by
  constructor
  · intro hparse
    unfold parse? at hparse
    have hline := splitMarker_eq line
    generalize splitMarker line = split at hparse hline
    obtain ⟨body, marker⟩ := split
    dsimp only at hparse hline
    split at hparse
    · next hboth =>
      obtain rfl := Option.some.inj hparse
      obtain ⟨hhash, hopens⟩ := Bool.and_eq_true_iff.mp hboth
      refine ⟨body.take (body.length - hashLength), ?_, by simpa using hhash, hopens⟩
      rw [String.toList_ofList, List.take_append_drop, hline]
    · cases hparse
  · rintro ⟨start, rfl, hhash, hopens⟩
    have hcut : (start ++ h.hash.toList).length - hashLength = start.length := by
      rw [List.length_append, isHash_length hhash]
      omega
    unfold parse?
    rw [splitMarker_hash hhash]
    dsimp only
    rw [hcut, List.drop_left, List.take_left, hhash, hopens]
    simp

/-- Two ways to take a header line apart give the same hash. -/
theorem hash_unique {start start' hash' : List Char} {marker' : Option Marker}
    (hhash : isHash hash = true) (hhash' : isHash hash' = true)
    (h : start ++ hash ++ tail marker = start' ++ hash' ++ tail marker') : hash = hash' := by
  have hsplit := splitMarker_hash hhash start marker
  rw [h, splitMarker_hash hhash' start' marker'] at hsplit
  have hlength := (isHash_length hhash).trans (isHash_length hhash').symm
  exact (List.append_inj' (congrArg Prod.fst hsplit).symm hlength).2

/-- A line is read, if at all, with the hash and the marker at its end. -/
theorem eq_of_parse? {start : List Char} {digest : String} (hdigest : isHash digest.toList = true)
    (hparse : parse? (start ++ digest.toList ++ tail marker) = some h) : h = ⟨digest, marker⟩ := by
  obtain ⟨start', hline, hhash, -⟩ := parse?_eq_some_iff.mp hparse
  have hsplit := splitMarker_hash hdigest start marker
  rw [hline, splitMarker_hash hhash start' h.marker] at hsplit
  have hsame : digest = h.hash := String.toList_inj.mp (hash_unique hdigest hhash hline)
  have hmarker : h.marker = marker := congrArg Prod.snd hsplit
  rw [hsame, ← hmarker]

theorem opensHeader_iff {start : List Char} : opensHeader start = true ↔
    ∃ name, start = "File: ".toList ++ name ++ " - ".toList ∧ namesSource name = true := by
  unfold opensHeader
  constructor
  · intro h
    split at h
    · next name hname =>
      obtain ⟨front, hfront, hafter⟩ := Option.bind_eq_some_iff.mp hname
      rw [before?_eq_some_iff.mp hfront, after?_eq_some_iff.mp hafter]
      exact ⟨name, rfl, h⟩
    · cases h
  · rintro ⟨name, rfl, hname⟩
    have hbefore : before? " - ".toList ("File: ".toList ++ name ++ " - ".toList) =
        some ("File: ".toList ++ name) := before?_eq_some_iff.mpr rfl
    have hafter : after? "File: ".toList ("File: ".toList ++ name) = some name :=
      after?_eq_some_iff.mpr rfl
    rw [hbefore, Option.bind_some, hafter]
    exact hname

/-- The names of source files name sources. -/
theorem namesSource_append {stem : List Char} (hstem : '\n' ∉ stem) :
    namesSource (stem ++ ".kt".toList) = true ∧ namesSource (stem ++ ".kts".toList) = true := by
  constructor
  · have hnone : before? ['k', 't', 's'] (stem ++ ".kt".toList) = none := by
      refine before?_eq_none fun t ht => ?_
      have hlast := congrArg List.getLast? ht
      simp at hlast
    have hsome : before? ['k', 't'] (stem ++ ".kt".toList) = some (stem ++ ['.']) :=
      before?_eq_some_iff.mpr (List.append_assoc stem ['.'] ['k', 't']).symm
    rw [namesSource, hnone, hsome]
    simp [hstem]
  · have hsome : before? ['k', 't', 's'] (stem ++ ".kts".toList) = some (stem ++ ['.']) :=
      before?_eq_some_iff.mpr (List.append_assoc stem ['.'] ['k', 't', 's']).symm
    rw [namesSource, hsome]
    simp [hstem]

theorem namesSource_of_extension {stem name : String}
    (hname : name = stem ++ ".kt" ∨ name = stem ++ ".kts") (hnewline : '\n' ∉ name.toList) :
    namesSource name.toList = true := by
  rcases hname with rfl | rfl
  · rw [String.toList_append] at hnewline ⊢
    exact (namesSource_append fun hmem => hnewline (List.mem_append_left _ hmem)).1
  · rw [String.toList_append] at hnewline ⊢
    exact (namesSource_append fun hmem => hnewline (List.mem_append_left _ hmem)).2

/-! The header line that is written. -/

/-- A muted case is never written. -/
def written (marker : Option Marker) : Option Marker := marker.filter (· ≠ .mute)

theorem render_toList (fileName hash : String) (marker : Option Marker) :
    (render fileName hash marker).toList = "File: ".toList ++ fileName.toList ++ " - ".toList ++
      hash.toList ++ tail (written marker) := by
  have hmarker : (markerText marker).toList = tail (written marker) := by
    rcases marker with _ | _ | _ | _ <;> rfl
  simp [render, String.join, hmarker]

theorem parse?_render {fileName hash : String} (hname : namesSource fileName.toList = true)
    (hhash : isHash hash.toList = true) (marker : Option Marker) :
    parse? (render fileName hash marker).toList = some ⟨hash, written marker⟩ :=
  parse?_eq_some_iff.mpr ⟨_, render_toList .., hhash, opensHeader_iff.mpr ⟨_, rfl, hname⟩⟩

/-! The first line of a golden text. -/

theorem startsSolid_header (rest : List Char) : StartsSolid ("File: ".toList ++ rest) :=
  ⟨'F', _, rfl, by decide⟩

theorem endsSolid_header (hhash : isHash hash = true) (start : List Char)
    (marker : Option Marker) : EndsSolid (start ++ hash ++ tail marker) := by
  cases marker with
  | none =>
    obtain ⟨front, c, rfl, hc⟩ := exists_isHash_concat hhash
    exact ⟨start ++ front, c, by simp [tail], solid_of_isHexDigit hc⟩
  | some m =>
    exact ⟨start ++ hash ++ (" (".toList ++ m.name.toList), ')', by simp [tail, markerSuffix],
      by decide⟩

section Render

variable {fileName hash : String} {marker : Option Marker}

theorem startsSolid_render : StartsSolid (render fileName hash marker).toList := by
  rw [render_toList]
  simp only [List.append_assoc]
  exact startsSolid_header _

theorem endsSolid_render (hhash : isHash hash.toList = true) :
    EndsSolid (render fileName hash marker).toList := by
  rw [render_toList]
  exact endsSolid_header hhash _ _

theorem render_no_break {c : Char} (hc : c = '\n' ∨ c = '\r') (hhash : isHash hash.toList = true)
    (hname : c ∉ fileName.toList) : c ∉ (render fileName hash marker).toList := by
  rw [render_toList]
  simp only [List.mem_append, not_or]
  refine ⟨⟨⟨⟨?_, hname⟩, ?_⟩, ?_⟩, ?_⟩
  · rcases hc with rfl | rfl <;> decide
  · rcases hc with rfl | rfl <;> decide
  · intro hmem
    have hhex := isHash_mem hhash hmem
    rcases hc with rfl | rfl <;> exact absurd hhex (by decide)
  · exact tail_no_break hc _

end Render

theorem solid_of_parse? (hparse : parse? line = some h) : StartsSolid line ∧ EndsSolid line := by
  obtain ⟨start, rfl, hhash, hopens⟩ := parse?_eq_some_iff.mp hparse
  obtain ⟨name, rfl, -⟩ := opensHeader_iff.mp hopens
  refine ⟨?_, endsSolid_header hhash _ _⟩
  simp only [List.append_assoc]
  exact startsSolid_header _

/-- What ends a header line has no carriage return. -/
theorem return_not_mem_ending (hhash : isHash hash = true) (marker : Option Marker) :
    '\r' ∉ " - ".toList ++ hash ++ tail marker := by
  simp only [List.mem_append, not_or]
  refine ⟨⟨by decide, fun hmem => ?_⟩, tail_no_break (.inr rfl) _⟩
  exact absurd (isHash_mem hhash hmem) (by decide)

/-- The hash of a header line stands behind its last carriage return. -/
theorem splitAt_return_of_parse? (hparse : parse? line = some h) : ∃ pieces last,
    splitAt '\r' line = pieces ++ [last ++ h.hash.toList ++ tail h.marker] ∧ '-' ∈ last := by
  obtain ⟨start, rfl, hhash, hopens⟩ := parse?_eq_some_iff.mp hparse
  obtain ⟨name, rfl, -⟩ := opensHeader_iff.mp hopens
  obtain ⟨pieces, last, hpieces⟩ :=
    exists_splitAt_append ("File: ".toList ++ name) (return_not_mem_ending hhash h.marker)
  refine ⟨pieces, last ++ " - ".toList, ?_, by simp⟩
  simpa only [List.append_assoc] using hpieces

/-- No header line ends in a quote and a parenthesis. -/
theorem header_ne_quoted (hhash : isHash hash = true) (start front : List Char)
    (marker : Option Marker) : start ++ hash ++ tail marker ≠ front ++ ['"', ')'] := by
  intro h
  cases marker with
  | none =>
    obtain ⟨digits, c, rfl, hc⟩ := exists_isHash_concat hhash
    have hlast := congrArg List.getLast? h
    simp only [tail, List.append_nil, ← List.append_assoc, List.getLast?_concat] at hlast
    rw [List.getLast?_append] at hlast
    obtain rfl : c = ')' := by simpa using hlast
    exact absurd hc (by decide)
  | some m =>
    obtain ⟨name, x, hsuffix, hx⟩ : ∃ name x, markerSuffix m = name ++ [x, ')'] ∧ x ≠ '"' := by
      cases m
      · exact ⟨" (MUT".toList, 'E', rfl, by decide⟩
      · exact ⟨" (WITH_ERROR".toList, 'S', rfl, by decide⟩
      · exact ⟨" (MUTE_PSI_ERROR".toList, 'S', rfl, by decide⟩
    rw [tail, hsuffix, ← List.append_assoc] at h
    have hend := (List.append_inj' h rfl).2
    exact hx (List.cons.inj hend).1

theorem firstLine_append (hend : EndsSolid line) (hline : '\n' ∉ line) (rest : List Char) :
    firstLine (line ++ '\n' :: rest) = line := by
  have htake : (line ++ '\n' :: rest).takeWhile (· ≠ '\n') = line := by
    rw [List.takeWhile_append_of_pos (by
      intro c hc
      have hne : c ≠ '\n' := fun heq => hline (heq ▸ hc)
      simpa using hne)]
    simp
  obtain ⟨front, c, rfl, hc⟩ := hend
  rw [firstLine, htake, dropEndWhile_append_singleton, if_neg]
  simp [hc.ne_newline, hc.ne_return]

theorem newline_not_mem_firstLine (s : List Char) : '\n' ∉ firstLine s := by
  intro h
  have hmem := (List.rdropWhile_prefix _ _).subset h
  simpa using List.mem_takeWhile_imp hmem

/-- A line break follows the first line, unless it is all there is. -/
theorem exists_firstLine (s : List Char) :
    ∃ rest, s = firstLine s ++ rest ∧ ∀ c ∈ rest.head?, c = '\n' ∨ c = '\r' := by
  obtain ⟨dropped, hdropped, hbreaks⟩ :=
    exists_dropEndWhile (fun c => c == '\n' || c == '\r') (s.takeWhile (· ≠ '\n'))
  refine ⟨dropped ++ s.dropWhile (· ≠ '\n'), ?_, ?_⟩
  · rw [firstLine, ← List.append_assoc, ← hdropped, List.takeWhile_append_dropWhile]
  · intro c hc
    cases dropped with
    | nil =>
      have hstop := List.head?_dropWhile_not (fun c : Char => decide (c ≠ '\n')) s
      rw [List.nil_append] at hc
      rw [Option.mem_def.mp hc] at hstop
      exact .inl (by simpa using hstop)
    | cons d dropped =>
      obtain rfl : d = c := by simpa using hc
      simpa using hbreaks d (List.mem_cons_self ..)

theorem ofBytes_toUTF8 (text : String) : ofBytes text.toUTF8 = .ok (ofText? text) := by
  rw [ofBytes, ofUtf8?_toUTF8]

theorem firstLine_of_normalLines {s : List Char} {more : List (List Char)} (hend : EndsSolid line)
    (hnewline : '\n' ∉ line) (hlines : normalLines s = line :: more) :
    firstLine (normalChars s) = line := by
  obtain ⟨behind, hbehind⟩ : ∃ behind, normalChars s = line ++ '\n' :: behind := by
    rw [normalChars_eq, hlines]
    cases more with
    | nil =>
      obtain ⟨front, c, hline, hc⟩ := hend
      refine ⟨[], ?_⟩
      rw [join, endLine, if_neg]
      simpa [hline] using hc.ne_newline
    | cons next more =>
      simp only [join, List.append_assoc, List.singleton_append, endLine]
      split
      · exact ⟨_, rfl⟩
      · exact ⟨join ['\n'] (next :: more) ++ ['\n'], by simp⟩
  rw [hbehind, firstLine_append hend hnewline]

/-- The header stays the first line of normal text. -/
theorem firstLine_normalChars (hstart : StartsSolid line) (hend : EndsSolid line)
    (hnewline : '\n' ∉ line) (hreturn : '\r' ∉ line) (rest : List Char) :
    firstLine (normalChars (line ++ '\n' :: rest)) = line := by
  obtain ⟨more, hlines⟩ := normalLines_append (t := '\n' :: rest) hstart hend hnewline (by simp)
  rw [splitAt_of_not_mem hreturn, List.map_singleton, hend.trimEnd] at hlines
  exact firstLine_of_normalLines hend hnewline hlines

theorem firstLine_normalChars_render {fileName digest : String}
    (hhash : isHash digest.toList = true) (hnewline : '\n' ∉ fileName.toList)
    (hreturn : '\r' ∉ fileName.toList) (rest : List Char) :
    firstLine (normalChars ((render fileName digest marker).toList ++ '\n' :: rest)) =
      (render fileName digest marker).toList :=
  firstLine_normalChars startsSolid_render (endsSolid_render hhash)
    (render_no_break (.inl rfl) hhash hnewline) (render_no_break (.inr rfl) hhash hreturn) rest

end GoldenTree.Golden.Header
