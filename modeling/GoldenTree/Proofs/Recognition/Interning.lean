import GoldenTree.Proofs.Recognition.Contents

/-! A memo of contexts under any sequence of requests. Until it is emptied, equal contexts are one
object, and no object is given out again once it was emptied. What the memo holds at any time are
the contexts interned since it was last emptied. -/
namespace GoldenTree.Recognition.ContextMemo

/-- What can be asked of a memo. -/
inductive Request (α : Type) where
  | intern (context : α)
  | contains (context : α)
  | clear
  | trim (ceiling : Nat)
  deriving Repr, DecidableEq

variable {α : Type} [DecidableEq α] [Hashable α]

def perform (memo : ContextMemo α) : Request α → ContextMemo α
  | .intern context => (memo.intern context).2
  | .contains _ => memo
  | .clear => Memo.clear memo
  | .trim ceiling => (Memo.trim ceiling memo).2

def performAll (memo : ContextMemo α) (requests : List (Request α)) : ContextMemo α :=
  requests.foldl perform memo

/-- The request empties the memo: it is to be cleared, or it is trimmed and says that it was
cleared. -/
def Empties (memo : ContextMemo α) : Request α → Prop
  | .intern _ => False
  | .contains _ => False
  | .clear => True
  | .trim ceiling => (Memo.trim ceiling memo).1 = true

/-- One of the requests, made one after the other, empties the memo. -/
def EmptiedBy (memo : ContextMemo α) : List (Request α) → Prop
  | [] => False
  | request :: rest => memo.Empties request ∨ (memo.perform request).EmptiedBy rest

/-- A new memo with this history has interned the context and was not emptied since. -/
def InternedSince (history : List (Request α)) (context : α) : Prop :=
  ∃ before after, history = before ++ .intern context :: after ∧
    ¬(empty.performAll (before ++ [.intern context])).EmptiedBy after

variable {memo : ContextMemo α} {context other : α} {serial : Nat} {request : Request α}
  {requests history : List (Request α)}

theorem performAll_append (memo : ContextMemo α) (requests others : List (Request α)) :
    memo.performAll (requests ++ others) = (memo.performAll requests).performAll others :=
  List.foldl_append

theorem performAll_concat (memo : ContextMemo α) (requests : List (Request α))
    (request : Request α) :
    memo.performAll (requests ++ [request]) = (memo.performAll requests).perform request :=
  performAll_append ..

/-- What every request preserves still holds after a number of them. -/
theorem performAll_preserves {P : ContextMemo α → Prop}
    (hstep : ∀ memo request, P memo → P (memo.perform request)) (h : P memo)
    (requests : List (Request α)) : P (memo.performAll requests) := by
  induction requests generalizing memo with
  | nil => exact h
  | cons request requests ih => exact ih (hstep memo request h)

theorem emptiedBy_append (memo : ContextMemo α) (requests others : List (Request α)) :
    memo.EmptiedBy (requests ++ others) ↔
      memo.EmptiedBy requests ∨ (memo.performAll requests).EmptiedBy others := by
  induction requests generalizing memo with
  | nil => simp [EmptiedBy, performAll]
  | cons request requests ih =>
    simp only [List.cons_append, EmptiedBy, ih, or_assoc]
    rfl

theorem emptiedBy_concat :
    memo.EmptiedBy (requests ++ [request]) ↔
      memo.EmptiedBy requests ∨ (memo.performAll requests).Empties request := by
  rw [emptiedBy_append, EmptiedBy, EmptiedBy, or_false]

/-! Steps. -/

theorem trim_eq (ceiling : Nat) (memo : ContextMemo α) :
    Memo.trim ceiling memo = if ceiling < memo.size then (true, memo.clear) else (false, memo) :=
  rfl

theorem empties_trim {ceiling : Nat} : memo.Empties (.trim ceiling) ↔ ceiling < memo.size := by
  rw [Empties, trim_eq]
  split <;> simp_all

theorem intern_of_serial?_eq_none (h : memo.serial? context = none) :
    memo.intern context =
      (memo.next, ⟨memo.serials.insert context memo.next, memo.next + 1⟩) := by
  simp [intern, h]

theorem serial?_intern_of_eq_none (h : memo.serial? context = none) (other : α) :
    (memo.intern context).2.serial? other =
      if other = context then some memo.next else memo.serial? other := by
  rw [serial?_intern, intern_of_serial?_eq_none h]

theorem next_intern_of_eq_none (h : memo.serial? context = none) :
    (memo.intern context).2.next = memo.next + 1 := by
  rw [intern_of_serial?_eq_none h]

/-- A request empties the memo, changes nothing, or stores a context that is new. -/
theorem perform_cases (memo : ContextMemo α) (request : Request α) :
    memo.Empties request ∧ memo.perform request = memo.clear ∨
    ¬memo.Empties request ∧ memo.perform request = memo ∧
      (∀ context, request = .intern context → memo.contains context = true) ∨
    ∃ context, request = .intern context ∧ memo.serial? context = none ∧
      memo.perform request = (memo.intern context).2 := by
  cases request with
  | intern context =>
    refine .inr ?_
    cases hserial : memo.serial? context with
    | none => exact .inr ⟨context, rfl, hserial, rfl⟩
    | some serial =>
      refine .inl ⟨id, by rw [perform, intern_of_serial? hserial], fun other hother => ?_⟩
      obtain rfl := Request.intern.inj hother
      rw [contains, hserial, Option.isSome_some]
  | contains context => exact .inr (.inl ⟨id, rfl, by simp⟩)
  | clear => exact .inl ⟨trivial, rfl⟩
  | trim ceiling =>
    by_cases h : ceiling < memo.size
    · exact .inl ⟨empties_trim.mpr h, by rw [perform, trim_eq, if_pos h]⟩
    · exact .inr (.inl ⟨mt empties_trim.mp h, by rw [perform, trim_eq, if_neg h], by simp⟩)

theorem contains_perform :
    (memo.perform request).contains context = true ↔
      request = .intern context ∨ memo.contains context = true ∧ ¬memo.Empties request := by
  rcases memo.perform_cases request with ⟨h, hmemo⟩ | ⟨h, hmemo, hheld⟩ | ⟨new, rfl, hnew, hmemo⟩
  · have hintern : request ≠ .intern context := by
      rintro rfl
      exact h
    simp [hmemo, contains, h, hintern]
  · rw [hmemo]
    exact ⟨fun hc => .inr ⟨hc, h⟩, fun hc => hc.elim (hheld context) (·.1)⟩
  · rw [hmemo, contains, serial?_intern_of_eq_none hnew]
    by_cases hc : context = new
    · simp [hc]
    · simp [hc, Ne.symm hc, contains, Empties]

/-! Runs. -/

theorem internedSince_concat :
    InternedSince (history ++ [request]) context ↔ request = .intern context ∨
      InternedSince history context ∧ ¬(empty.performAll history).Empties request := by
  constructor
  · rintro ⟨before, after, hsplit, hkept⟩
    rcases List.eq_nil_or_concat' after with rfl | ⟨after, last, rfl⟩
    · exact .inl (List.append_inj_right' hsplit rfl |> List.singleton_inj.mp)
    · rw [← List.cons_append, ← List.append_assoc] at hsplit
      obtain ⟨rfl, hlast⟩ := List.append_inj' hsplit rfl
      obtain rfl := List.singleton_inj.mp hlast
      rw [emptiedBy_concat, not_or, ← performAll_append, List.append_assoc] at hkept
      exact .inr ⟨⟨before, after, rfl, hkept.1⟩, hkept.2⟩
  · rintro (rfl | ⟨⟨before, after, rfl, hkept⟩, hlast⟩)
    · exact ⟨history, [], rfl, id⟩
    · refine ⟨before, after ++ [request], by simp, ?_⟩
      rw [emptiedBy_concat, not_or, ← performAll_append, List.append_assoc]
      exact ⟨hkept, hlast⟩

/-- By induction on the history, the latest request last. -/
theorem contains_performAll (history : List (Request α)) (context : α) :
    (empty.performAll history).contains context = true ↔ InternedSince history context := by
  induction history using List.reverseRecOn with
  | nil => simp [performAll, contains, InternedSince]
  | append_singleton history request ih =>
    rw [performAll_concat, contains_perform, internedSince_concat, ih]

/-- Serial numbers were given out before, each to one context. -/
structure WellFormed (memo : ContextMemo α) : Prop where
  lt_next : ∀ {context serial}, memo.serial? context = some serial → serial < memo.next
  injective : ∀ {context other serial}, memo.serial? context = some serial →
    memo.serial? other = some serial → context = other

theorem WellFormed.perform (h : memo.WellFormed) (request : Request α) :
    (memo.perform request).WellFormed := by
  rcases memo.perform_cases request with ⟨-, hmemo⟩ | ⟨-, hmemo, -⟩ | ⟨new, -, hnew, hmemo⟩
  · rw [hmemo]
    constructor <;> simp
  · rwa [hmemo]
  · rw [hmemo]
    constructor
    · intro context serial hserial
      rw [next_intern_of_eq_none hnew]
      rw [serial?_intern_of_eq_none hnew] at hserial
      split at hserial
      · cases hserial
        exact Nat.lt_succ_self _
      · exact Nat.lt_succ_of_lt (h.lt_next hserial)
    · intro context other serial hcontext hother
      rw [serial?_intern_of_eq_none hnew] at hcontext hother
      -- A stored context has an older serial number than the new one.
      split at hcontext <;> split at hother
      · simp_all
      · cases hcontext
        exact absurd (h.lt_next hother) (Nat.lt_irrefl _)
      · cases hother
        exact absurd (h.lt_next hcontext) (Nat.lt_irrefl _)
      · exact h.injective hcontext hother

theorem WellFormed.performAll (h : memo.WellFormed) (requests : List (Request α)) :
    (memo.performAll requests).WellFormed :=
  performAll_preserves (fun _ request h => h.perform request) h requests

theorem wellFormed_empty : (empty : ContextMemo α).WellFormed := by constructor <;> simp

/-- The serial number was given out, and is that of no context any more. -/
structure Retired (memo : ContextMemo α) (serial : Nat) : Prop where
  lt_next : serial < memo.next
  ne : ∀ context, memo.serial? context ≠ some serial

theorem Retired.perform (h : memo.Retired serial) (request : Request α) :
    (memo.perform request).Retired serial := by
  rcases memo.perform_cases request with ⟨-, hmemo⟩ | ⟨-, hmemo, -⟩ | ⟨new, -, hnew, hmemo⟩
  · rw [hmemo]
    exact ⟨h.lt_next, by simp⟩
  · rwa [hmemo]
  · rw [hmemo]
    constructor
    · rw [next_intern_of_eq_none hnew]
      exact Nat.lt_succ_of_lt h.lt_next
    · intro context
      rw [serial?_intern_of_eq_none hnew]
      split
      · exact fun hserial => Nat.lt_irrefl _ (Option.some.inj hserial ▸ h.lt_next)
      · exact h.ne context

theorem Retired.performAll (h : memo.Retired serial) (requests : List (Request α)) :
    (memo.performAll requests).Retired serial :=
  performAll_preserves (P := (Retired · serial)) (fun _ request h => h.perform request) h requests

/-- Once a memo is emptied, no serial number given out before is that of a context again. -/
theorem retired_performAll (hserial : serial < memo.next) (h : memo.EmptiedBy requests) :
    (memo.performAll requests).Retired serial := by
  induction requests generalizing memo with
  | nil => exact h.elim
  | cons request requests ih =>
    rcases memo.perform_cases request with ⟨hempties, hmemo⟩ | ⟨hempties, hmemo, -⟩ |
      ⟨new, rfl, hnew, hmemo⟩
    · have hretired : (memo.perform request).Retired serial := by
        rw [hmemo]
        exact ⟨hserial, by simp⟩
      exact hretired.performAll requests
    · exact ih (by rwa [hmemo]) (h.resolve_left hempties)
    · have hnext : serial < (memo.perform (.intern new)).next := by
        rw [hmemo, next_intern_of_eq_none hnew]
        exact Nat.lt_succ_of_lt hserial
      exact ih hnext (h.resolve_left id)

theorem serial?_perform (h : memo.serial? context = some serial) (hkept : ¬memo.Empties request) :
    (memo.perform request).serial? context = some serial := by
  rcases memo.perform_cases request with ⟨hempties, -⟩ | ⟨-, hmemo, -⟩ | ⟨new, -, hnew, hmemo⟩
  · exact absurd hempties hkept
  · rwa [hmemo]
  · have hne : context ≠ new := by
      rintro rfl
      simp [hnew] at h
    rw [hmemo, serial?_intern_of_eq_none hnew, if_neg hne, h]

/-- Until a memo is emptied, a context keeps its serial number. -/
theorem serial?_performAll (h : memo.serial? context = some serial)
    (hkept : ¬memo.EmptiedBy requests) :
    (memo.performAll requests).serial? context = some serial := by
  induction requests generalizing memo with
  | nil => exact h
  | cons request requests ih =>
    obtain ⟨hfirst, hothers⟩ := not_or.mp hkept
    exact ih (serial?_perform h hfirst) hothers

theorem serial?_intern_self (memo : ContextMemo α) (context : α) :
    (memo.intern context).2.serial? context = some (memo.intern context).1 := by
  rw [serial?_intern, if_pos rfl]

/-- The object of a stored context is returned for that context only. -/
theorem eq_intern_iff (hmemo : memo.WellFormed) (h : memo.serial? context = some serial) :
    serial = (memo.intern other).1 ↔ context = other := by
  constructor
  · rintro rfl
    have hcontext : (memo.perform (.intern other)).serial? context = _ := serial?_perform h id
    exact (hmemo.perform (.intern other)).injective hcontext (serial?_intern_self memo other)
  · rintro rfl
    rw [intern_of_serial? h]

theorem Retired.ne_intern (h : memo.Retired serial) (other : α) :
    serial ≠ (memo.intern other).1 := by
  rintro rfl
  exact (h.perform (.intern other)).ne other (serial?_intern_self memo other)

theorem intern_eq_intern_iff (hmemo : memo.WellFormed) (context : α)
    (between : List (Request α)) (other : α) :
    (memo.intern context).1 = (((memo.intern context).2.performAll between).intern other).1 ↔
      context = other ∧ ¬(memo.intern context).2.EmptiedBy between := by
  have hfirst : (memo.intern context).2.WellFormed := hmemo.perform (.intern context)
  have hserial := serial?_intern_self memo context
  by_cases hempty : (memo.intern context).2.EmptiedBy between
  · have hne := (retired_performAll (hfirst.lt_next hserial) hempty).ne_intern other
    exact ⟨fun heq => absurd heq hne, fun h => absurd hempty h.2⟩
  · rw [eq_intern_iff (hfirst.performAll between) (serial?_performAll hserial hempty)]
    exact ⟨fun heq => ⟨heq, hempty⟩, fun h => h.1⟩

/-- Two uses of `intern` in the history of a memo return the same object exactly if their contexts
are equal and the memo was not emptied between them. It holds the contexts that were interned since
it was last emptied, its size is their number, each counted once, and trimming it empties it exactly
if that number is above the ceiling. -/
theorem interning_canonical (history : List (Request α)) :
    let memo := empty.performAll history
    (∀ context between other,
      let later := memo.performAll (.intern context :: between)
      (memo.intern context).1 = (later.intern other).1 ↔
        context = other ∧ ¬(memo.intern context).2.EmptiedBy between) ∧
    (∀ context, memo.contains context = true ↔ InternedSince history context) ∧
    ∃ contexts : Finset α, (∀ context, context ∈ contexts ↔ InternedSince history context) ∧
      memo.size = contexts.card ∧
      ∀ ceiling, (Memo.trim ceiling memo).1 = true ↔ ceiling < contexts.card := by
  intro memo
  have hmemo : memo.WellFormed := wellFormed_empty.performAll history
  refine ⟨intern_eq_intern_iff hmemo, contains_performAll history, memo.held, fun context => ?_,
    memo.card_held.symm, fun ceiling => ?_⟩
  · exact mem_held.trans (contains_performAll history context)
  · rw [card_held]
    exact empties_trim

end GoldenTree.Recognition.ContextMemo
