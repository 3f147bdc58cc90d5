import GoldenTree.Text.Affix
import GoldenTree.Text.Blank

/-! The lines of a reference dump, which an independent parser wrote. Each is one of five forms,
tried in this order:

    UPPER_CASE
    PsiElement(type)('text')
    PsiErrorElement:description
    PsiWhiteSpace('content')
    anything else
-/
namespace GoldenTree.Reference

open Text

/-- What one line says. -/
inductive Element where
  | rule (type : String)
  | token (type text : String)
  | error (description : String)
  | whitespace (content : String)
  | other (content : String)
  deriving Repr, DecidableEq

namespace Element

def isUpper (c : Char) : Bool := ('A' ≤ c && c ≤ 'Z') || c == '_'

def isTypeChar (c : Char) : Bool := isUpper c || ('a' ≤ c && c ≤ 'z')

def rule? (s : List Char) : Option Element :=
  if !s.isEmpty && s.all isUpper then some (rule (String.ofList s)) else none

/-- A text without newlines. -/
def onLine? (s : List Char) : Option (List Char) := if s.contains '\n' then none else some s

def token? (s : List Char) : Option Element := do
  let s ← after? "PsiElement(".toList s
  let type := s.takeWhile isTypeChar
  let s ← after? ")('".toList (s.dropWhile isTypeChar)
  let text ← (before? "')".toList s).bind onLine?
  if type.isEmpty then none else some (token (String.ofList type) (String.ofList text))

def error? (s : List Char) : Option Element := do
  let description ← (after? "PsiErrorElement:".toList s).bind onLine?
  return error (String.ofList description)

def whitespace? (s : List Char) : Option Element := do
  let s ← after? "PsiWhiteSpace('".toList s
  let content ← (before? "')".toList s).bind onLine?
  return whitespace (String.ofList content)

def other? (s : List Char) : Option Element := do
  return other (String.ofList (← onLine? s))

/-- The element written on a line without its indentation. -/
def parse? (s : List Char) : Option Element :=
  (rule? s).orElse fun _ => (token? s).orElse fun _ => (error? s).orElse fun _ =>
    (whitespace? s).orElse fun _ => other? s

/-- The line of an element without its indentation. -/
def render : Element → List Char
  | rule type => type.toList
  | token type text =>
    (String.join ["PsiElement(", type, ")('", text, "')"]).toList
  | error description => (String.join ["PsiErrorElement:", description]).toList
  | whitespace content => (String.join ["PsiWhiteSpace('", content, "')"]).toList
  | other content => content.toList

end Element

/-- The bytes of indentation that make one level. -/
def indentWidth : Nat := 2

-- The sum of naturals is the same one whatever is imported.
attribute [local instance (2000)] Zero.ofOfNat0

def utf8Length (s : List Char) : Nat := (s.map Char.utf8Size).sum

/-- The depth of a line and what it says; blank lines say nothing. -/
def classify? (line : List Char) : Option (Nat × Element) :=
  if (trim line).isEmpty then none
  else (Element.parse? (trimStart line)).map (utf8Length (margin line) / indentWidth, ·)

end GoldenTree.Reference
