import GoldenTree.Tree.Basic

/-! Parse trees as dumps show them. A rule has children and no text, a terminal has text and no
children. -/
namespace GoldenTree

inductive ParseTree where
  | rule (name : String) (children : List ParseTree)
  | terminal (name : String) (text : String)
  deriving Repr

namespace ParseTree

def name : ParseTree → String
  | rule name _ => name
  | terminal name _ => name

def children : ParseTree → List ParseTree
  | rule _ children => children
  | terminal _ _ => []

def text? : ParseTree → Option String
  | rule _ _ => none
  | terminal _ text => some text

def isTerminal : ParseTree → Bool
  | rule _ _ => false
  | terminal _ _ => true

/-- A terminal was given a child. -/
structure AttachError where
  terminal : String
  deriving Repr, DecidableEq

def AttachError.message (e : AttachError) : String :=
  String.join ["terminal `", e.terminal, "` cannot have children"]

/-- The tree with one more child behind the others. -/
def attach (parent child : ParseTree) : Except AttachError ParseTree :=
  match parent with
  | rule name children => .ok (rule name (children ++ [child]))
  | terminal name _ => .error ⟨name⟩

mutual

/-- The number of nodes. -/
def nodeCount : ParseTree → Nat
  | rule _ children => forestCount children + 1
  | terminal _ _ => 1

def forestCount : List ParseTree → Nat
  | [] => 0
  | t :: ts => t.nodeCount + forestCount ts

end

@[simp] theorem forestCount_append (ts us : List ParseTree) :
    forestCount (ts ++ us) = forestCount ts + forestCount us := by
  induction ts with
  | nil => simp [forestCount]
  | cons t ts ih => simp [forestCount, ih, Nat.add_assoc]

@[simp] theorem forestCount_reverse (ts : List ParseTree) :
    forestCount ts.reverse = forestCount ts := by
  induction ts with
  | nil => rfl
  | cons t ts ih => simp [forestCount, ih, Nat.add_comm]

theorem nodeCount_eq (t : ParseTree) : t.nodeCount = forestCount t.children + 1 := by
  cases t <;> rfl

mutual

/-- The subtrees in pre-order: a node, then those of its children from left to right. -/
def subtrees : ParseTree → List ParseTree
  | rule name children => rule name children :: forestSubtrees children
  | terminal name text => [terminal name text]

def forestSubtrees : List ParseTree → List ParseTree
  | [] => []
  | t :: ts => t.subtrees ++ forestSubtrees ts

end

/-- One call of an iterator that keeps what is still to come on a stack, the next tree last: that tree
is handed out, and its children are put in its place, the first of them last. -/
def next? (stack : List ParseTree) : Option (ParseTree × List ParseTree) :=
  stack.getLast?.map fun t => (t, stack.dropLast ++ t.children.reverse)

@[simp] theorem next?_nil : next? [] = none := rfl

@[simp] theorem next?_concat (stack : List ParseTree) (t : ParseTree) :
    next? (stack ++ [t]) = some (t, stack ++ t.children.reverse) := by
  simp [next?]

theorem next?_eq_none_iff {stack : List ParseTree} : next? stack = none ↔ stack = [] := by
  simp [next?]

theorem next?_eq_some_iff {stack rest : List ParseTree} {t : ParseTree} :
    next? stack = some (t, rest) ↔
      ∃ below, stack = below ++ [t] ∧ rest = below ++ t.children.reverse := by
  constructor
  · intro h
    rcases List.eq_nil_or_concat stack with rfl | ⟨below, last, rfl⟩
    · cases h
    · rw [List.concat_eq_append, next?_concat] at h
      cases h
      exact ⟨below, List.concat_eq_append, rfl⟩
  · rintro ⟨below, rfl, rfl⟩
    exact next?_concat below t

theorem forestCount_lt_of_next? {stack rest : List ParseTree} {t : ParseTree}
    (h : next? stack = some (t, rest)) : forestCount rest < forestCount stack := by
  obtain ⟨below, rfl, rfl⟩ := next?_eq_some_iff.mp h
  simp [forestCount, nodeCount_eq]

/-- What an iterator hands out until nothing is left. -/
def drain (stack : List ParseTree) : List ParseTree :=
  match _ : next? stack with
  | none => []
  | some (t, rest) => t :: drain rest
termination_by forestCount stack
decreasing_by exact forestCount_lt_of_next? ‹_›

/-- The subtrees in the order in which an iterator over the tree hands them out. -/
def iterate (t : ParseTree) : List ParseTree := drain [t]

/-- How a node is shown on its line. -/
def shown : ParseTree → String
  | rule name _ => name
  | terminal name text => name ++ "(\"" ++ text ++ "\")"

mutual

/-- The tree of the lines that show the nodes. -/
def labels : ParseTree → Tree String
  | rule name children => .node name (forestLabels children)
  | terminal name text => .node (shown (terminal name text)) []

def forestLabels : List ParseTree → List (Tree String)
  | [] => []
  | t :: ts => t.labels :: forestLabels ts

end

mutual

def decEq : (s t : ParseTree) → Decidable (s = t)
  | rule a cs, rule b ds =>
    match decEqForest cs ds with
    | isTrue h =>
      if h' : a = b then isTrue (by rw [h, h']) else isFalse (by simp [h'])
    | isFalse h => isFalse (by simp [h])
  | rule _ _, terminal _ _ => isFalse (by simp)
  | terminal _ _, rule _ _ => isFalse (by simp)
  | terminal a x, terminal b y =>
    if h : a = b ∧ x = y then isTrue (by rw [h.1, h.2]) else isFalse (by simpa using h)

def decEqForest : (ts us : List ParseTree) → Decidable (ts = us)
  | [], [] => isTrue rfl
  | [], _ :: _ => isFalse (by simp)
  | _ :: _, [] => isFalse (by simp)
  | t :: ts, u :: us =>
    match decEq t u, decEqForest ts us with
    | isTrue h, isTrue h' => isTrue (by rw [h, h'])
    | isFalse h, _ => isFalse (by simp [h])
    | _, isFalse h => isFalse (by simp [h])

end

instance : DecidableEq ParseTree := decEq

end ParseTree

end GoldenTree
