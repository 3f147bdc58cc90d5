import GoldenTree.ParseTree.Build
import GoldenTree.ParseTree.Render
import GoldenTree.Proofs.Golden.Normal

/-! The lines of a rendered tree. Each shows one node, and in a tree of the grammar a line with a
rule has no hyphen and one with a token ends in a quote and a parenthesis. -/
namespace GoldenTree

open Text Golden

namespace ParseTree

/-- A line of a rendered tree without its newline. -/
def lineOf (entry : Nat × String) : List Char :=
  List.replicate (2 * entry.1) ' ' ++ entry.2.toList

/-- The lines below the header. -/
def lines (t : ParseTree) : List (List Char) :=
  (Tree.flatForest 1 (forestLabels t.children)).map lineOf

theorem render_toList (t : ParseTree) (header : String) :
    (t.render header).toList = unlines (header.toList :: t.lines) := by
  have hline : Dump.line 0 = fun entry => lineOf entry ++ ['\n'] := by
    funext entry
    simp [Dump.line, lineOf]
  rw [render, String.toList_ofList, hline, unlines, lines, List.flatMap_cons, List.flatMap_map]

theorem render_toList_append (t : ParseTree) (header : String) :
    (t.render header).toList = header.toList ++ '\n' :: unlines t.lines := by
  rw [render_toList, unlines, List.flatMap_cons, List.append_assoc]
  rfl

mutual

theorem exists_of_mem_flat {depth : Nat} {entry : Nat × String} :
    ∀ {t : ParseTree}, entry ∈ t.labels.flat depth → ∃ u ∈ t.subtrees, entry.2 = u.shown
  | .rule name children, h => by
    simp only [labels, Tree.flat, List.mem_cons] at h
    rcases h with rfl | h
    · exact ⟨_, List.mem_cons_self .., rfl⟩
    · obtain ⟨u, hu, hshown⟩ := exists_of_mem_flatForest h
      exact ⟨u, List.mem_cons_of_mem _ hu, hshown⟩
  | .terminal name text, h => by
    simp only [labels, Tree.flat, Tree.flatForest, List.mem_singleton] at h
    subst h
    exact ⟨_, List.mem_singleton_self _, rfl⟩

theorem exists_of_mem_flatForest {depth : Nat} {entry : Nat × String} :
    ∀ {ts : List ParseTree}, entry ∈ Tree.flatForest depth (forestLabels ts) →
      ∃ u ∈ forestSubtrees ts, entry.2 = u.shown
  | [], h => by simp [forestLabels, Tree.flatForest] at h
  | t :: ts, h => by
    simp only [forestLabels, Tree.flatForest, List.mem_append] at h
    rcases h with h | h
    · obtain ⟨u, hu, hshown⟩ := exists_of_mem_flat h
      exact ⟨u, List.mem_append_left _ hu, hshown⟩
    · obtain ⟨u, hu, hshown⟩ := exists_of_mem_flatForest h
      exact ⟨u, List.mem_append_right _ hu, hshown⟩

end

theorem exists_of_mem_lines {t : ParseTree} {line : List Char} (h : line ∈ t.lines) :
    ∃ depth, ∃ u ∈ forestSubtrees t.children,
      line = List.replicate depth ' ' ++ u.shown.toList := by
  obtain ⟨entry, hentry, rfl⟩ := List.mem_map.mp h
  obtain ⟨u, hu, hshown⟩ := exists_of_mem_flatForest hentry
  exact ⟨2 * entry.1, u, hu, by rw [lineOf, hshown]⟩

/-- A rule shows its name, and a terminal its text in quotes and parentheses behind its name. -/
theorem shown_toList (u : ParseTree) :
    (u.text? = none ∧ u.shown.toList = u.name.toList) ∨ ∃ s, u.text? = some s ∧
      u.shown.toList = u.name.toList ++ '(' :: '"' :: (s.toList ++ ['"', ')']) := by
  cases u with
  | rule name children => exact .inl ⟨rfl, rfl⟩
  | terminal name text => exact .inr ⟨text, rfl, by simp [shown, ParseTree.name]⟩

section Shown

variable {u : ParseTree} {p : Char → Prop} {c : Char}

theorem exists_name_of_shown (hne : u.name ≠ "") (hp : ∀ c ∈ u.name.toList, p c) :
    ∃ c rest, u.shown.toList = c :: rest ∧ p c := by
  obtain ⟨c, rest, hname⟩ := List.exists_cons_of_ne_nil (mt String.toList_eq_nil_iff.mp hne)
  have hc : p c := hp c (by simp [hname])
  rcases shown_toList u with ⟨-, hshown⟩ | ⟨s, -, hshown⟩
  · exact ⟨c, rest, by rw [hshown, hname], hc⟩
  · exact ⟨c, _, by rw [hshown, hname, List.cons_append], hc⟩

theorem exists_end_of_shown (hne : u.name ≠ "") (hp : ∀ c ∈ u.name.toList, p c) (hclose : p ')') :
    ∃ front c, u.shown.toList = front ++ [c] ∧ p c := by
  rcases shown_toList u with ⟨-, hshown⟩ | ⟨s, -, hshown⟩
  · obtain ⟨front, c, hname⟩ :=
      (List.eq_nil_or_concat' u.name.toList).resolve_left (mt String.toList_eq_nil_iff.mp hne)
    exact ⟨front, c, hshown.trans hname, hp c (by simp [hname])⟩
  · exact ⟨u.name.toList ++ '(' :: '"' :: (s.toList ++ ['"']), ')', by simp [hshown], hclose⟩

theorem not_mem_shown (hname : c ∉ u.name.toList) (htext : ∀ s, u.text? = some s → c ∉ s.toList)
    (hquotes : c ∉ ['(', '"', ')']) : c ∉ u.shown.toList := by
  rcases shown_toList u with ⟨-, hshown⟩ | ⟨s, hs, hshown⟩
  · rwa [hshown]
  · have htext' := htext s hs
    simp_all

end Shown

/-- Below the root, all names are of one kind of character and not empty, and all texts are of
another kind. -/
structure Spelled (name text : Char → Prop) (t : ParseTree) : Prop where
  ne_empty : ∀ u ∈ forestSubtrees t.children, u.name ≠ ""
  names : ∀ u ∈ forestSubtrees t.children, ∀ c ∈ u.name.toList, name c
  texts : ∀ u ∈ forestSubtrees t.children, ∀ s, u.text? = some s → ∀ c ∈ s.toList, text c

/-- A node as a recognizer gives it: a rule of its table or a token. -/
inductive IsNode (r : Recognition.Recognizer) : ParseTree → Prop
  | rule {name : String} {children : List ParseTree} : name ∈ r.ruleNames →
      IsNode r (.rule name children)
  | token (t : Token) : IsNode r (ofToken r t)

section Built

variable {r : Recognition.Recognizer}

mutual

theorem isNode_of_ofConcrete : ∀ {tree : ConcreteTree} {t : ParseTree},
    ofConcrete r tree = .ok t → ∀ u ∈ t.subtrees, IsNode r u
  | .terminal token, t, h => by
    obtain rfl := Except.ok.inj h
    intro u hu
    obtain rfl := List.mem_singleton.mp hu
    exact .token token
  | .rule index slots, t, h => by
    rw [ofConcrete] at h
    split at h
    · cases h
    · next name hname =>
      split at h
      · next children hchildren =>
        obtain rfl := Except.ok.inj h
        intro u hu
        rcases List.mem_cons.mp hu with rfl | hu
        · exact .rule (List.mem_of_getElem? hname)
        · exact isNode_of_ofSlots hchildren u hu
      · cases h

theorem isNode_of_ofSlots : ∀ {slots : List (Option ConcreteTree)} {ts : List ParseTree},
    ofSlots r slots = .ok ts → ∀ u ∈ forestSubtrees ts, IsNode r u
  | [], ts, h => by
    obtain rfl := Except.ok.inj h
    simp [forestSubtrees]
  | none :: slots, ts, h => by
    rw [ofSlots] at h
    exact isNode_of_ofSlots h
  | some tree :: slots, ts, h => by
    rw [ofSlots] at h
    split at h
    · cases h
    · next child hchild =>
      split at h
      · next children hchildren =>
        obtain rfl := Except.ok.inj h
        intro u hu
        rcases List.mem_append.mp hu with hu | hu
        · exact isNode_of_ofConcrete hchild u hu
        · exact isNode_of_ofSlots hchildren u hu
      · cases h

end

/-- Below the root, which is named as asked, every node is one of the recognizer. -/
theorem isNode_of_ofRoot {name : String} {tree : ConcreteTree} {t : ParseTree}
    (h : ofRoot r name tree = .ok t) : ∀ u ∈ forestSubtrees t.children, IsNode r u := by
  cases tree with
  | rule index slots =>
    rw [ofRoot] at h
    cases hslots : ofSlots r slots with
    | error e => rw [hslots] at h; cases h
    | ok children =>
      rw [hslots] at h
      obtain rfl := Except.ok.inj h
      exact isNode_of_ofSlots hslots
  | terminal token =>
    obtain rfl := Except.ok.inj h
    intro u hu
    simp only [children, forestSubtrees, List.append_nil] at hu
    obtain rfl := List.mem_singleton.mp hu
    exact .token token

/-- The root is a rule of the name that was asked for. -/
theorem eq_rule_of_ofRoot {name : String} {tree : ConcreteTree} {t : ParseTree}
    (h : ofRoot r name tree = .ok t) : t = rule name t.children := by
  cases tree with
  | rule index slots =>
    rw [ofRoot] at h
    cases hslots : ofSlots r slots with
    | error e => rw [hslots] at h; cases h
    | ok children =>
      rw [hslots] at h
      obtain rfl := Except.ok.inj h
      rfl
  | terminal token =>
    obtain rfl := Except.ok.inj h
    rfl

/-- A tree that is built comes from a parse. -/
theorem exists_ofRoot_of_build {b : TreeBuilder} {source : String} {built : BuiltTree}
    (h : (b.build r source).built = .ok built) :
    ∃ tree, ofRoot r b.rootRule tree = .ok built.tree := by
  rw [TreeBuilder.build] at h
  split at h
  · cases h
  · next index hindex =>
    dsimp only at h
    cases htree : ofRoot r b.rootRule (r.parse (r.tokenize source).1 index).tree with
    | error e => rw [htree] at h; cases h
    | ok tree =>
      rw [htree] at h
      obtain rfl := Except.ok.inj h
      exact ⟨_, htree⟩

end Built

/-! Trees whose lines are in normal form. -/

section Plain

variable {t : ParseTree} {line : List Char}

/-- Names of characters that stay, none of them a parenthesis that opens, and texts on one line. -/
abbrev Plain (t : ParseTree) : Prop :=
  t.Spelled (fun c => Solid c ∧ c ≠ '(') (fun c => c ≠ '\n' ∧ c ≠ '\r')

theorem Plain.endsSolid (ht : t.Plain) (h : line ∈ t.lines) : EndsSolid line := by
  obtain ⟨depth, u, hu, rfl⟩ := exists_of_mem_lines h
  have hname : ∀ c ∈ u.name.toList, Solid c := fun c hc => (ht.names u hu c hc).1
  exact EndsSolid.append _ (exists_end_of_shown (ht.ne_empty u hu) hname (by decide))

theorem Plain.no_break (ht : t.Plain) (h : line ∈ t.lines) : '\n' ∉ line ∧ '\r' ∉ line := by
  obtain ⟨depth, u, hu, rfl⟩ := exists_of_mem_lines h
  have hname : ∀ c ∈ u.name.toList, c ≠ '\n' ∧ c ≠ '\r' := by
    intro c hc
    have hsolid := (ht.names u hu c hc).1
    exact ⟨hsolid.ne_newline, hsolid.ne_return⟩
  have hnewline : '\n' ∉ u.shown.toList :=
    not_mem_shown (fun hmem => (hname _ hmem).1 rfl)
      (fun s hs hmem => (ht.texts u hu s hs _ hmem).1 rfl) (by decide)
  have hreturn : '\r' ∉ u.shown.toList :=
    not_mem_shown (fun hmem => (hname _ hmem).2 rfl)
      (fun s hs hmem => (ht.texts u hu s hs _ hmem).2 rfl) (by decide)
  exact ⟨by simp [hnewline], by simp [hreturn]⟩

/-- Below a header with solid ends, the lines are as normal form leaves them. -/
theorem Plain.tidy (ht : t.Plain) {header : List Char} (hstart : StartsSolid header)
    (hend : EndsSolid header) (hbreak : '\n' ∉ header ∧ '\r' ∉ header) :
    Tidy (header :: t.lines) := by
  refine tidy_of_endsSolid hstart fun line hline => ?_
  rcases List.mem_cons.mp hline with rfl | hline
  · exact ⟨hend, hbreak⟩
  · exact ⟨ht.endsSolid hline, ht.no_break hline⟩

end Plain

/-! Trees of the grammar. -/

/-- A name that a line of normal text can begin with. -/
def IsPlainName (name : String) : Prop := name ≠ "" ∧ ∀ c ∈ name.toList, Solid c ∧ c ≠ '('

-- The letters of a name are looked at one by one, whatever is imported.
attribute [local instance (2000)] List.decidableBAll

instance (name : String) : Decidable (IsPlainName name) := inferInstanceAs (Decidable (_ ∧ _))

theorem plain_of_isDigit {c : Char} (h : c.isDigit = true) : Solid c ∧ c ≠ '(' := by
  have hrange : 0x30 ≤ c.toNat ∧ c.toNat ≤ 0x39 := by
    simpa [Char.isDigit, UInt32.le_iff_toNat_le] using h
  refine ⟨⟨?_, ?_⟩, ?_⟩
  · simp [isBlank]
    omega
  · simp [isEdge]
    omega
  · rintro rfl
    exact absurd h (by decide)

theorem isPlainName_repr (n : Nat) : IsPlainName n.repr := by
  refine ⟨Nat.repr_ne_empty, fun c hc => plain_of_isDigit ?_⟩
  rw [Nat.toList_repr] at hc
  exact Nat.isDigit_of_mem_toDigits (by decide) (by decide) hc

theorem isPlainName_toString (n : Int) : IsPlainName (toString n) := by
  rw [Int.toString_eq_repr, Int.repr_eq_if]
  split
  · exact isPlainName_repr _
  · refine ⟨by simp, fun c hc => ?_⟩
    rw [String.toList_append] at hc
    rcases List.mem_append.mp hc with hc | hc
    · obtain rfl := List.mem_singleton.mp hc
      decide
    · exact (isPlainName_repr _).2 c hc

theorem isPlainName_of_name? {symbol : Grammar.Symbol} {name : String}
    (h : symbol.name? = some name) : IsPlainName name := by
  cases symbol with
  | other n => cases h
  | _ =>
    obtain rfl := Option.some.inj h
    decide +kernel

theorem isPlainName_symbolName (n : Int) :
    IsPlainName ((Grammar.recognizer.symbolName? n).getD (toString n)) := by
  cases h : Grammar.recognizer.symbolName? n with
  | none => exact isPlainName_toString n
  | some name => exact isPlainName_of_name? h

theorem isPlainName_rule (r : Grammar.Rule) : IsPlainName r.name := by
  cases r <;> decide +kernel

theorem isPlainName_of_isNode {u : ParseTree} (h : IsNode Grammar.recognizer u) :
    IsPlainName u.name := by
  cases h with
  | rule hname =>
    obtain ⟨rule, -, rfl⟩ := List.mem_map.mp hname
    exact isPlainName_rule rule
  | token t => exact isPlainName_symbolName t.type

section Nodes

variable {t : ParseTree} (hnodes : ∀ u ∈ forestSubtrees t.children, IsNode Grammar.recognizer u)
include hnodes

theorem plain_of_isNode : t.Plain where
  ne_empty u hu := (isPlainName_of_isNode (hnodes u hu)).1
  names u hu := (isPlainName_of_isNode (hnodes u hu)).2
  texts u hu s hs c hc := by
    cases hnodes u hu with
    | rule hname => cases hs
    | token token =>
      obtain rfl := Option.some.inj hs
      rw [String.toList_ofList] at hc
      obtain ⟨hnewline, hreturn⟩ := not_mem_escapeBreaks token.text.toList
      exact ⟨fun h => hnewline (h ▸ hc), fun h => hreturn (h ▸ hc)⟩

/-- No line of a tree of the grammar ends like a header: with a rule it has no hyphen, and with a
token it ends in a quote and a parenthesis. -/
theorem no_hyphen_or_quoted {line : List Char} (h : line ∈ t.lines) :
    '-' ∉ line ∨ ∃ front, line = front ++ ['"', ')'] := by
  obtain ⟨depth, u, hu, rfl⟩ := exists_of_mem_lines h
  cases hnodes u hu with
  | rule hname =>
    obtain ⟨rule, -, rfl⟩ := List.mem_map.mp hname
    have hhyphen : '-' ∉ rule.name.toList := by cases rule <;> decide +kernel
    exact .inl (by simp [shown, hhyphen])
  | token token =>
    exact .inr ⟨List.replicate depth ' ' ++ (ofToken Grammar.recognizer token).name.toList ++
      '(' :: '"' :: escapeBreaks token.text.toList, by simp [ofToken, shown, ParseTree.name]⟩

end Nodes

end ParseTree

end GoldenTree
