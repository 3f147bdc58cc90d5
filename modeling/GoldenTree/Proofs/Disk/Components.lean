import GoldenTree.Proofs.Disk.Folder

/-! The components of a path: those of its parent and then its last name, however many slashes and
dots stand between. -/
namespace GoldenTree.Disk.Path

open Text

variable {p q : Path} {folder name body : List Char} {kept : List (List Char)}

/-- What comes before the components that are read off the pieces. -/
def leading (p : Path) : List Component :=
  if p.isAbsolute then [.root] else if p.pieces.head? = some ['.'] then [.here] else []

theorem components_eq (p : Path) : p.components = p.leading ++ p.pieces.filterMap component? := rfl

theorem leading_congr (habsolute : p.isAbsolute = q.isAbsolute)
    (hhead : p.pieces.head? = q.pieces.head?) : p.leading = q.leading := by
  rw [leading, leading, habsolute, hhead]

@[simp] theorem component?_nil : component? [] = none := rfl

theorem component?_of_isName (h : IsName name) :
    component? name = some (.name (String.ofList name)) := by
  simp [component?, h.nonempty, h.noDot, h.noDots]

@[simp] theorem chars_ofList (chars : List Char) : (⟨String.ofList chars⟩ : Path).chars = chars :=
  String.toList_ofList

theorem ofList_chars (p : Path) : (⟨String.ofList p.chars⟩ : Path) = p := by
  cases p
  simp [chars]

theorem eq_of_chars (h : p.chars = q.chars) : p = q := by
  rw [← ofList_chars p, h, ofList_chars]

theorem pieces_ne_nil (p : Path) : p.pieces ≠ [] := splitAt_ne_nil _ _

/-- A slash at the end adds no component. -/
theorem components_append_slash {front : List Char} (hchars : p.chars = front ++ ['/'])
    (hfront : q.chars = front) (hne : front ≠ []) : p.components = q.components := by
  have hpieces : p.pieces = q.pieces ++ [[]] := by
    rw [pieces, pieces, hchars, hfront, splitAt_append_sep]
    rfl
  have hleading : p.leading = q.leading := by
    apply leading_congr
    · rw [isAbsolute, isAbsolute, hchars, hfront, List.head?_append_of_ne_nil _ hne]
    · rw [hpieces, List.head?_append_of_ne_nil _ (pieces_ne_nil q)]
  rw [components_eq, components_eq, hleading, hpieces, List.filterMap_append]
  simp

theorem components_asFolder (p : Path) :
    (⟨String.ofList p.asFolder⟩ : Path).components = p.components := by
  unfold asFolder
  by_cases hend : p.chars = [] ∨ p.chars.getLast? = some '/'
  · rw [if_pos hend, ofList_chars]
  · rw [if_neg hend]
    exact components_append_slash (chars_ofList _) rfl (not_or.mp hend).1

/-- What is named in a folder has one component more than the folder. -/
theorem Names.components (h : p.Names folder name) : p.components =
    (⟨String.ofList folder⟩ : Path).components ++ [.name (String.ofList name)] := by
  have hname := component?_of_isName h.name
  rcases h.folder with rfl | ⟨front, rfl⟩
  · have habsolute : p.isAbsolute = false := h.isAbsolute (by simp)
    have hpieces : p.pieces = [name] := h.pieces
    rw [components_eq, leading, habsolute, hpieces]
    simp only [List.head?_cons, Option.some.injEq, h.name.noDot, if_false, Bool.false_eq_true,
      List.filterMap_cons, hname, List.filterMap_nil]
    rfl
  · have hfolder :
        (⟨String.ofList (front ++ ['/'])⟩ : Path).pieces = splitAt '/' front ++ [[]] := by
      rw [Path.pieces, chars_ofList, splitAt_append_sep]
      rfl
    have hpieces : p.pieces = splitAt '/' front ++ [name] := by
      rw [h.pieces, splitAt_append_sep]
      simp [splitAt]
    have hleading : p.leading = (⟨String.ofList (front ++ ['/'])⟩ : Path).leading := by
      apply leading_congr
      · rw [Path.isAbsolute, Path.isAbsolute, h.chars, chars_ofList,
          List.head?_append_of_ne_nil _ (by simp)]
      · rw [hpieces, hfolder, List.head?_append_of_ne_nil _ (splitAt_ne_nil _ _),
          List.head?_append_of_ne_nil _ (splitAt_ne_nil _ _)]
    rw [components_eq, components_eq, hleading, hpieces, hfolder]
    simp [hname]

/-! Parents. -/

theorem component?_eq_none_iff {piece : List Char} :
    component? piece = none ↔ (piece.isEmpty || piece == ['.']) = true := by
  unfold component?
  by_cases hdrop : piece = [] ∨ piece = ['.']
  · simp [hdrop]
  · rw [if_neg hdrop]
    split <;> simpa using not_or.mp hdrop

theorem trimPieces_concat (pieces : List (List Char)) (last : List Char) :
    trimPieces (pieces ++ [last]) =
      if component? last = none then trimPieces pieces else pieces ++ [last] := by
  have hconcat := List.rdropWhile_concat
    (fun piece : List Char => piece.isEmpty || piece == ['.']) pieces last
  simp only [component?_eq_none_iff]
  exact hconcat

/-- The pieces that are dropped at the end are no components. -/
theorem filterMap_trimPieces (pieces : List (List Char)) :
    (trimPieces pieces).filterMap component? = pieces.filterMap component? := by
  induction pieces using List.reverseRecOn with
  | nil => rfl
  | append_singleton pieces last ih =>
    rw [trimPieces_concat]
    split
    · next hnone => simp [ih, hnone]
    · rfl

/-- The pieces that are kept for the parent lack the last component. -/
theorem filterMap_kept (pieces : List (List Char)) :
    (trimPieces (trimPieces pieces).dropLast).filterMap component? =
      (pieces.filterMap component?).dropLast := by
  induction pieces using List.reverseRecOn with
  | nil => rfl
  | append_singleton pieces last ih =>
    rw [trimPieces_concat]
    split
    · next hnone => simp [ih, hnone]
    · next hsome =>
      obtain ⟨c, hc⟩ := Option.ne_none_iff_exists'.mp hsome
      simp [filterMap_trimPieces, hc]

theorem filterMap_join_kept (h : kept <+: splitAt '/' body) :
    (splitAt '/' (Text.join ['/'] kept)).filterMap component? = kept.filterMap component? := by
  by_cases hne : kept = []
  · subst hne
    rfl
  · rw [splitAt_join hne fun piece hpiece => not_mem_of_mem_splitAt (h.subset hpiece)]

theorem kept_isPrefix_self (pieces : List (List Char)) :
    trimPieces (trimPieces pieces).dropLast <+: pieces :=
  (trimPieces_isPrefix _).trans ((List.dropLast_prefix _).trans (trimPieces_isPrefix _))

theorem components_root (h : p.chars = '/' :: body) :
    p.components = .root :: (splitAt '/' body).filterMap component? := by
  have habsolute : p.isAbsolute = true := by simp [isAbsolute, h]
  rw [components_eq, leading, if_pos habsolute, pieces, h, splitAt, if_pos rfl]
  rfl

theorem components_here (h : p.chars = '.' :: '/' :: body) :
    p.components = .here :: (splitAt '/' body).filterMap component? := by
  have habsolute : p.isAbsolute = false := by simp [isAbsolute, h]
  have hpieces : p.pieces = ['.'] :: splitAt '/' body := by simp [pieces, h, splitAt]
  rw [components_eq, leading, habsolute, hpieces]
  rfl

theorem components_dot (h : p.chars = ['.']) : p.components = [.here] := by
  obtain rfl : p = ⟨"."⟩ := by rw [← ofList_chars p, h]
  rfl

theorem leading_of_plain (hroot : ∀ body, p.chars ≠ '/' :: body) (hdot : p.chars ≠ ['.'])
    (hhere : ∀ body, p.chars ≠ '.' :: '/' :: body) : p.leading = [] := by
  have habsolute : p.isAbsolute = false := by
    refine decide_eq_false fun hhead => ?_
    obtain ⟨body, hbody⟩ := List.head?_eq_some_iff.mp hhead
    exact hroot body hbody
  have hfirst : p.pieces.head? ≠ some ['.'] := by
    intro hhead
    obtain ⟨rest, hrest⟩ := List.head?_eq_some_iff.mp hhead
    have hchars : p.chars = Text.join ['/'] (['.'] :: rest) := by
      rw [← hrest, pieces, join_splitAt]
    cases rest with
    | nil => exact hdot hchars
    | cons next rest => exact hhere _ hchars
  rw [leading, habsolute, if_neg hfirst]
  rfl

/-- Pieces that are kept of a path without a leading component. -/
theorem components_join_kept (hleading : p.leading = []) (hbegins : kept <+: p.pieces)
    (hend : kept.getLast? ≠ some []) :
    (⟨String.ofList (Text.join ['/'] kept)⟩ : Path).components = kept.filterMap component? := by
  by_cases hne : kept = []
  · subst hne
    rfl
  · obtain ⟨hsplit, hnonempty, rest, hrest⟩ := splitAt_join_kept hne hend hbegins
    obtain ⟨more, hmore⟩ := hbegins
    have hpieces : (⟨String.ofList (Text.join ['/'] kept)⟩ : Path).pieces = kept := by
      rw [pieces, chars_ofList, hsplit]
    rw [components_eq, leading_congr (q := p), hleading, hpieces]
    · rfl
    · rw [isAbsolute, isAbsolute, chars_ofList, ← hrest, List.head?_append_of_ne_nil _ hnonempty]
    · rw [hpieces, ← hmore, List.head?_append_of_ne_nil _ hne]

/-- Pieces that are kept behind a leading dot. -/
theorem components_dot_kept (hbegins : kept <+: [] :: splitAt '/' body)
    (hend : kept.getLast? ≠ some []) :
    (⟨String.ofList ('.' :: Text.join ['/'] kept)⟩ : Path).components =
      .here :: kept.filterMap component? := by
  match kept with
  | [] => exact components_dot (chars_ofList _)
  | [piece] =>
    obtain ⟨rfl, -⟩ := List.cons_prefix_cons.mp hbegins
    exact absurd rfl hend
  | piece :: next :: more =>
    obtain ⟨rfl, hmore⟩ := List.cons_prefix_cons.mp hbegins
    have hchars : (⟨String.ofList ('.' :: Text.join ['/'] ([] :: next :: more))⟩ : Path).chars =
        '.' :: '/' :: Text.join ['/'] (next :: more) := chars_ofList _
    rw [components_here hchars, filterMap_join_kept hmore, List.filterMap_cons_none component?_nil]

/-- The parent of a named path has all components but the name. -/
theorem components_parent? {n : String} (hname : p.fileName? = some n)
    (hparent : p.parent? = some q) : p.components = q.components ++ [.name n] := by
  have hlast := fileName?_eq_some_iff.mp hname
  suffices hdrop : q.components = p.components.dropLast by
    rw [hdrop]
    exact (List.dropLast_append_getLast? _ hlast).symm
  -- A leading component is not the last one, so the parent has it too.
  have hbehind : ∀ {c : Component} {cs : List Component}, c ≠ .name n →
      p.components = c :: cs → c :: cs.dropLast = p.components.dropLast := by
    intro c cs hc hcomponents
    rw [hcomponents] at hlast ⊢
    cases cs with
    | nil => exact absurd (by simpa using hlast) hc
    | cons => rfl
  unfold parent? at hparent
  rw [hlast] at hparent
  dsimp only at hparent
  split at hparent
  · next body hchars =>
    obtain rfl := Option.some.inj hparent
    rw [List.singleton_append, components_root (chars_ofList _),
      filterMap_join_kept (kept_isPrefix_self _), filterMap_kept]
    exact hbehind (by simp) (components_root hchars)
  · next hchars =>
    rw [components_dot hchars] at hlast
    simp at hlast
  · next body hchars =>
    obtain rfl := Option.some.inj hparent
    have hpieces : splitAt '/' ('/' :: body) = [] :: splitAt '/' body := by
      rw [splitAt, if_pos rfl]
    rw [List.singleton_append, hpieces,
      components_dot_kept (kept_isPrefix_self _) (getLast?_trimPieces _), filterMap_kept,
      List.filterMap_cons_none component?_nil]
    exact hbehind (by simp) (components_here hchars)
  · next body hroot hdot hhere =>
    obtain rfl := Option.some.inj hparent
    have hleading := leading_of_plain hroot hdot hhere
    have hpieces : splitAt '/' p.chars = p.pieces := rfl
    rw [List.nil_append, hpieces, components_join_kept hleading (kept_isPrefix_self _)
      (getLast?_trimPieces _), filterMap_kept, components_eq, hleading]
    rfl

/-! Joins. -/

theorem asFolder_join {n : String} (h : IsName n.toList) :
    (p.join ⟨n⟩).asFolder = p.asFolder ++ (n.toList ++ ['/']) := by
  have hchars := (names_join (p := p) h).chars
  have hne : p.asFolder ++ n.toList ≠ [] := List.append_ne_nil_of_right_ne_nil _ h.nonempty
  have hlast : (p.asFolder ++ n.toList).getLast? ≠ some '/' := by
    rw [List.getLast?_append_of_ne_nil _ h.nonempty]
    exact fun hslash => h.noSlash (List.mem_of_getLast? hslash)
  rw [asFolder, hchars, if_neg (not_or.mpr ⟨hne, hlast⟩), List.append_assoc]

theorem isAbsolute_intercalate {n : String} {names : List String} (h : IsName n.toList) :
    (⟨"/".intercalate (n :: names)⟩ : Path).isAbsolute = false := by
  have hchars : ∃ rest, (⟨"/".intercalate (n :: names)⟩ : Path).chars = n.toList ++ rest := by
    cases names with
    | nil => exact ⟨[], by simp [chars]⟩
    | cons m names =>
      refine ⟨("/" ++ "/".intercalate (m :: names)).toList, ?_⟩
      rw [chars, String.intercalate_cons_cons, String.append_assoc, String.toList_append]
  obtain ⟨rest, hrest⟩ := hchars
  refine decide_eq_false fun hhead => h.head?_ne ?_
  rwa [hrest, List.head?_append_of_ne_nil _ h.nonempty] at hhead

/-- Names are joined one by one or all at once. -/
theorem foldl_join_eq {names : List String} (h : ∀ n ∈ names, IsName n.toList)
    (hne : names ≠ []) :
    names.foldl (fun p n => p.join ⟨n⟩) p = p.join ⟨"/".intercalate names⟩ := by
  induction names generalizing p with
  | nil => exact absurd rfl hne
  | cons n names ih =>
    obtain ⟨hn, hnames⟩ := List.forall_mem_cons.mp h
    cases names with
    | nil => simp
    | cons m names =>
      have hone : ((p.join ⟨n⟩).join ⟨"/".intercalate (m :: names)⟩).chars =
          p.asFolder ++ (n.toList ++ ['/']) ++ ("/".intercalate (m :: names)).toList := by
        rw [chars_join (isAbsolute_intercalate (hnames m (by simp))), asFolder_join hn]
        rfl
      have hall : (p.join ⟨"/".intercalate (n :: m :: names)⟩).chars =
          p.asFolder ++ (n.toList ++ ['/']) ++ ("/".intercalate (m :: names)).toList := by
        rw [chars_join (isAbsolute_intercalate hn), chars, String.intercalate_cons_cons]
        simp
      rw [List.foldl_cons, ih hnames (by simp)]
      exact eq_of_chars (hone.trans hall.symm)

section Names

variable {names : List String} (h : ∀ n ∈ names, IsName n.toList)
include h

theorem ofParts_eq (hne : names ≠ []) : ofParts names = ⟨"/".intercalate names⟩ := by
  obtain ⟨n, rest, rfl⟩ := List.exists_cons_of_ne_nil hne
  have habsolute : (⟨"/".intercalate (n :: rest)⟩ : Path).isAbsolute = false :=
    isAbsolute_intercalate (h n (List.mem_cons_self ..))
  rw [ofParts, foldl_join_eq h hne]
  exact eq_of_chars (chars_join habsolute)

/-- A path of names has them for its components. -/
theorem components_intercalate :
    (⟨"/".intercalate names⟩ : Path).components = names.map .name := by
  cases names with
  | nil => rfl
  | cons n rest =>
    have hn : IsName n.toList := h n (List.mem_cons_self ..)
    have hpieces : (⟨"/".intercalate (n :: rest)⟩ : Path).pieces = (n :: rest).map String.toList := by
      rw [pieces, chars, toList_intercalate]
      refine splitAt_join (by simp) fun piece hpiece => ?_
      obtain ⟨name, hname, rfl⟩ := List.mem_map.mp hpiece
      exact (h name hname).noSlash
    have hleading : (⟨"/".intercalate (n :: rest)⟩ : Path).leading = [] := by
      rw [leading, isAbsolute_intercalate hn, hpieces]
      simp [hn.noDot]
    have hname : ∀ name ∈ n :: rest, component? name.toList = some (.name name) := by
      intro name hmem
      rw [component?_of_isName (h name hmem), String.ofList_toList]
    rw [components_eq, hleading, hpieces, List.filterMap_map, List.nil_append,
      ← List.filterMap_eq_map]
    exact List.filterMap_congr hname

end Names

/-- What a component is made of is in the path. -/
theorem mem_chars_of_name {n : String} {c : Char} (h : .name n ∈ p.components)
    (hc : c ∈ n.toList) : c ∈ p.chars := by
  rw [components_eq, List.mem_append] at h
  rcases h with h | h
  · rw [leading] at h
    split at h
    · simp at h
    · split at h <;> simp at h
  · obtain ⟨piece, hpiece, hname⟩ := List.mem_filterMap.mp h
    rw [component?] at hname
    split at hname
    · cases hname
    · split at hname
      · cases hname
      · cases hname
        rw [String.toList_ofList] at hc
        exact mem_of_mem_splitAt hpiece hc

theorem mem_chars_join {c : Char} (h : c ∈ (p.join q).chars) :
    c = '/' ∨ c ∈ p.chars ∨ c ∈ q.chars := by
  unfold join at h
  split at h
  · exact .inr (.inr h)
  · split at h
    · rw [chars, String.toList_append] at h
      exact .inr (List.mem_append.mp h)
    · rw [chars, String.toList_append, String.toList_append, List.mem_append, List.mem_append] at h
      rcases h with (h | h) | h
      · exact .inr (.inl h)
      · exact .inl (List.mem_singleton.mp h)
      · exact .inr (.inr h)

/-- Joining adds nothing but slashes. -/
theorem mem_chars_ofParts {parts : List String} {c : Char} (h : c ∈ (ofParts parts).chars) :
    c = '/' ∨ ∃ part ∈ parts, c ∈ part.toList := by
  induction parts using List.reverseRecOn with
  | nil => simp [ofParts, chars] at h
  | append_singleton parts part ih =>
    rw [ofParts, List.foldl_concat, ← ofParts] at h
    rcases mem_chars_join h with h | h | h
    · exact .inl h
    · rcases ih h with hslash | ⟨found, hfound, hc⟩
      · exact .inl hslash
      · exact .inr ⟨found, List.mem_append_left _ hfound, hc⟩
    · exact .inr ⟨part, List.mem_concat_self, h⟩

end GoldenTree.Disk.Path
