import GoldenTree.Grammar.Derivation
import GoldenTree.Recognition.Recognizer
import Mathlib.Tactic.Common

/-! What one piece of parsing yields. Whatever was reported, the trees hold the tokens that were
passed over, in order, under rules of the grammar; if nothing was reported, the trees fit the body
they were parsed by. -/
namespace GoldenTree.Grammar

open Body

theorem isEnd_iff_symbol {t : Token} : t.isEnd = true ↔ t.symbol = .endOfInput := by
  have hcode : t.isEnd = true ↔ t.type = Symbol.code .endOfInput := by
    simp [Token.isEnd, Symbol.code]
  rw [hcode]
  constructor
  · intro h
    rw [Token.symbol, h]
    decide
  · intro h
    rw [← h, Token.symbol, Symbol.code_ofCode]

namespace Cursor

/-- The tokens at hand go on to an end of input. -/
def Ends (c : Cursor) : Prop := ∃ t ∈ c.rest, t.isEnd = true

theorem Ends.head {c : Cursor} (h : c.Ends) :
    ∃ t rest, c.rest = t :: rest ∧ c.symbol = t.symbol := by
  obtain ⟨t, ht, -⟩ := h
  obtain ⟨first, rest, hrest⟩ := List.exists_cons_of_ne_nil (List.ne_nil_of_mem ht)
  exact ⟨first, rest, hrest, by simp [symbol, hrest]⟩

end Cursor

/-- No event is an error. -/
def Clean (events : List Event) : Prop := events.filterMap Event.error? = []

@[simp] theorem clean_nil : Clean [] := rfl

@[simp] theorem clean_append {e f : List Event} : Clean (e ++ f) ↔ Clean e ∧ Clean f := by
  simp [Clean, List.filterMap_append]

@[simp] theorem clean_enter {v : Visit} {e : List Event} :
    Clean (.enter v :: e) ↔ Clean e := by simp [Clean, Event.error?]

@[simp] theorem not_clean_report {e : SyntaxError} {events : List Event} :
    ¬ Clean (.report e :: events) := by simp [Clean, Event.error?]

theorem slotTokens_eq (slots : List (Option ConcreteTree)) :
    ConcreteTree.slotTokens slots = (slots.filterMap id).flatMap ConcreteTree.tokens := by
  induction slots with
  | nil => rfl
  | cons slot slots ih => cases slot <;> simp [ConcreteTree.slotTokens, ih]

@[simp] theorem tokens_rule (index : Nat) (slots : List (Option ConcreteTree)) :
    (ConcreteTree.rule index slots).tokens =
      (slots.filterMap id).flatMap ConcreteTree.tokens := slotTokens_eq slots

@[simp] theorem tokens_node (r : Rule) (children : List ConcreteTree) :
    (node r children).tokens = children.flatMap ConcreteTree.tokens := by
  simp [node, List.filterMap_map]

/-- Derivations whose roots form a row of the body. -/
def Fits (b : Body) (ts : List ConcreteTree) : Prop :=
  (∃ row, ts.map part? = row.map some ∧ b.Produces row) ∧ ∀ t ∈ ts, IsDerivation t

namespace Fits

theorem nil : Fits empty [] := ⟨⟨[], rfl, .empty⟩, by simp⟩

theorem seq {a b : Body} {ts us : List ConcreteTree} (h : Fits a ts) (h' : Fits b us) :
    Fits (seq a b) (ts ++ us) := by
  obtain ⟨⟨row, parts, first⟩, nested⟩ := h
  obtain ⟨⟨row', parts', second⟩, nested'⟩ := h'
  refine ⟨⟨row ++ row', by simp [parts, parts'], .seq first second⟩, ?_⟩
  intro t ht
  rcases List.mem_append.mp ht with ht | ht
  · exact nested t ht
  · exact nested' t ht

theorem mono {a b : Body} {ts : List ConcreteTree} (h : Fits a ts)
    (hab : ∀ row, a.Produces row → b.Produces row) : Fits b ts := by
  obtain ⟨⟨row, parts, production⟩, nested⟩ := h
  exact ⟨⟨row, parts, hab row production⟩, nested⟩

theorem many_nil {b : Body} : Fits (many b) [] := ⟨⟨[], rfl, .none⟩, by simp⟩

theorem many_append {b : Body} {ts us : List ConcreteTree} (h : Fits b ts)
    (h' : Fits (many b) us) : Fits (many b) (ts ++ us) := by
  have hs := h.seq h'
  refine hs.mono ?_
  rintro row production
  cases production with
  | seq first second => exact .more first second

/-- One more turn before those that a body begins with. -/
theorem many_seq {a b : Body} {ts us : List ConcreteTree} (h : Fits a ts)
    (h' : Fits (Body.seq (many a) b) us) : Fits (Body.seq (many a) b) (ts ++ us) := by
  have hs := h.seq h'
  refine hs.mono ?_
  intro row production
  cases production with
  | seq first second =>
    cases second with
    | seq others last =>
      rw [← List.append_assoc]
      exact .seq (.more first others) last

/-- A rule node over slots that fit the body of its rule. -/
theorem rule {r : Rule} {slots : List (Option ConcreteTree)}
    (h : Fits r.body (slots.filterMap id)) : Fits (rule r) [.rule r.index slots] := by
  obtain ⟨⟨row, parts, production⟩, nested⟩ := h
  refine ⟨⟨[.rule r], by simp [part?, Rule.getElem?_all_index], .part _⟩, ?_⟩
  intro t ht
  obtain rfl := List.mem_singleton.mp ht
  exact .rule parts production fun t ht => nested t (List.mem_filterMap.mpr ⟨some t, ht, rfl⟩)

end Fits

theorem Fits.node {r : Rule} {ts : List ConcreteTree} (h : Fits r.body ts) :
    Fits (.rule r) [node r ts] := by
  refine Fits.rule ?_
  simpa [List.filterMap_map] using h

/-- A tree in which every index is that of a rule. -/
inductive OfRules : ConcreteTree → Prop where
  | terminal (token : Token) : OfRules (.terminal token)
  | rule {r : Rule} {slots : List (Option ConcreteTree)}
      (nested : ∀ t, some t ∈ slots → OfRules t) : OfRules (.rule r.index slots)

/-- Parsing by a body from one cursor to another, with the trees and the events it yields. -/
structure Parses (b : Body) (c : Cursor) (ts : List ConcreteTree) (d : Cursor)
    (events : List Event) : Prop where
  rest : c.rest = ts.flatMap ConcreteTree.tokens ++ d.rest
  inner : ∀ t ∈ ts.flatMap ConcreteTree.tokens, t.isEnd = false
  rules : ∀ t ∈ ts, OfRules t
  fits : Clean events → Fits b ts

namespace Parses

variable {a b : Body} {c d e : Cursor} {ts us : List ConcreteTree} {events events' : List Event}

theorem ends (h : Parses b c ts d events) (hc : c.Ends) : d.Ends := by
  obtain ⟨t, ht, hend⟩ := hc
  rw [h.rest] at ht
  rcases List.mem_append.mp ht with ht | ht
  · have := h.inner t ht
    rw [hend] at this
    contradiction
  · exact ⟨t, ht, hend⟩

theorem size_eq (h : Parses b c ts d events) :
    c.size = (ts.flatMap ConcreteTree.tokens).length + d.size := by
  rw [Cursor.size, h.rest, List.length_append, Cursor.size]

theorem size_le (h : Parses b c ts d events) : d.size ≤ c.size := by
  have := h.size_eq
  omega

theorem size_lt (h : Parses b c ts d events) (hne : ts.flatMap ConcreteTree.tokens ≠ []) :
    d.size < c.size := by
  have := h.size_eq
  have := List.length_pos_iff.mpr hne
  omega

theorem nil (c : Cursor) : Parses empty c [] c [] := ⟨rfl, by simp, by simp, fun _ => Fits.nil⟩

theorem seq (h : Parses a c ts d events) (h' : Parses b d us e events') :
    Parses (seq a b) c (ts ++ us) e (events ++ events') where
  rest := by rw [h.rest, h'.rest, List.flatMap_append, List.append_assoc]
  inner := by
    intro t ht
    rw [List.flatMap_append] at ht
    rcases List.mem_append.mp ht with ht | ht
    · exact h.inner t ht
    · exact h'.inner t ht
  rules := by
    intro t ht
    rcases List.mem_append.mp ht with ht | ht
    · exact h.rules t ht
    · exact h'.rules t ht
  fits := by
    intro hclean
    obtain ⟨hl, hr⟩ := clean_append.mp hclean
    exact (h.fits hl).seq (h'.fits hr)

theorem last (h : Parses b c ts d events) : Parses (sequence [b]) c ts d events := by
  simpa [Body.sequence] using h.seq (nil d)

theorem before {bodies : List Body} (h : Parses b c ts d events)
    (h' : Parses (sequence bodies) d us e events') :
    Parses (sequence (b :: bodies)) c (ts ++ us) e (events ++ events') := h.seq h'

theorem mono (h : Parses a c ts d events) (hab : ∀ row, a.Produces row → b.Produces row) :
    Parses b c ts d events :=
  ⟨h.rest, h.inner, h.rules, fun hclean => (h.fits hclean).mono hab⟩

theorem left (h : Parses a c ts d events) : Parses (alt a b) c ts d events :=
  h.mono fun _ => .left

theorem right (h : Parses b c ts d events) : Parses (alt a b) c ts d events :=
  h.mono fun _ => .right

theorem present (h : Parses b c ts d events) : Parses (optional b) c ts d events := h.left

theorem absent (c : Cursor) : Parses (optional b) c [] c [] := (nil c).right

theorem many_nil (c : Cursor) : Parses (many b) c [] c [] :=
  ⟨rfl, by simp, by simp, fun _ => Fits.many_nil⟩

theorem many_append (h : Parses b c ts d events) (h' : Parses (many b) d us e events') :
    Parses (many b) c (ts ++ us) e (events ++ events') := by
  have hs := h.seq h'
  refine hs.mono ?_
  intro row production
  cases production with
  | seq first second => exact .more first second

/-- Trees parsed by the body of a rule become one tree of the rule, empty slots aside. -/
theorem slots {r : Rule} {v : Visit} {slots : List (Option ConcreteTree)}
    (h : Parses r.body c (slots.filterMap id) d events) :
    Parses (rule r) c [.rule r.index slots] d (.enter v :: events) where
  rest := by simpa using h.rest
  inner := by simpa using h.inner
  rules := by
    intro t ht
    obtain rfl := List.mem_singleton.mp ht
    exact .rule fun u hu => h.rules u (List.mem_filterMap.mpr ⟨some u, hu, rfl⟩)
  fits := by
    intro hclean
    exact Fits.rule (h.fits (clean_enter.mp hclean))

theorem node {r : Rule} {v : Visit} (h : Parses r.body c ts d events) :
    Parses (rule r) c [node r ts] d (.enter v :: events) := by
  refine slots ?_
  simpa [List.filterMap_map] using h

/-- Where an error was reported, the trees need fit nothing. -/
theorem of_report {error : SyntaxError} (h : Parses a c ts d events) :
    Parses b c ts d (.report error :: events) :=
  ⟨h.rest, h.inner, h.rules, fun hclean => absurd hclean not_clean_report⟩

end Parses

/-- A parser of a whole rule, at one place. -/
def ParsesRule (r : Rule) (p : Parser ConcreteTree) (c : Cursor) : Prop :=
  Parses (rule r) c [(p c).value] (p c).cursor (p c).events

/-- A parser of a body, at one place. -/
def ParsesBody (b : Body) (p : Parser (List ConcreteTree)) (c : Cursor) : Prop :=
  Parses b c (p c).value (p c).cursor (p c).events

end GoldenTree.Grammar
