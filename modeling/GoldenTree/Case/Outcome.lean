import GoldenTree.Golden.Marker
import GoldenTree.Golden.Reconcile

/-! How a case ends. -/
namespace GoldenTree

open Golden

/-- Why a case was not judged. -/
inductive SkipReason where
  | muted
  | goldenCreated
  | goldenRegenerated (forced : Bool)
  | staleHash (recorded current : String)
  deriving Repr, DecidableEq

def SkipReason.render : SkipReason → String
  | muted => "muted"
  | goldenCreated => "golden file did not exist, generated"
  | goldenRegenerated true => "changes forcibly applied to golden file"
  | goldenRegenerated false => "source changed since capture, golden file regenerated"
  | staleHash recorded current =>
    String.join ["source hash ", current, " differs from recorded ", recorded]

/-- Errors that contradict the marker or the reference dump. -/
structure VerdictMismatch where
  marker : Option Marker
  lexerErrors : Nat
  parserErrors : Nat
  /-- The error elements of the reference dump, if there is one. -/
  referenceErrors : Option Nat
  deriving Repr, DecidableEq

namespace VerdictMismatch

def hasErrors (v : VerdictMismatch) : Bool := v.lexerErrors > 0 || v.parserErrors > 0

def render (v : VerdictMismatch) : String :=
  let reference := match v.referenceErrors with
    | some n => String.join [", reference has ", toString n, " error elements"]
    | none => ""
  String.join [if v.marker = some .withErrors then "errors expected" else "no errors expected",
    ", parser reported ", toString v.lexerErrors, " lexer and ", toString v.parserErrors,
    " parser errors", reference]

end VerdictMismatch

inductive FailReason where
  | goldenMismatch (mismatch : Mismatch)
  | verdict (mismatch : VerdictMismatch)
  deriving Repr, DecidableEq

def FailReason.render : FailReason → String
  | goldenMismatch m => m.render
  | verdict v => v.render

inductive Outcome where
  | pass
  | fail (reason : FailReason)
  | skipped (reason : SkipReason)
  deriving Repr, DecidableEq

namespace Outcome

def label : Outcome → String
  | pass => "PASS"
  | fail _ => "FAIL"
  | skipped _ => "SKIP"

/-- The reason given behind the label. -/
def reason? : Outcome → Option String
  | pass => none
  | fail reason => some reason.render
  | skipped reason => some reason.render

def render (o : Outcome) : String :=
  match o.reason? with
  | some reason => String.join [o.label, " - ", reason]
  | none => o.label

def isPass : Outcome → Bool
  | pass => true
  | _ => false

def isFail : Outcome → Bool
  | fail _ => true
  | _ => false

def isSkipped : Outcome → Bool
  | skipped _ => true
  | _ => false

end Outcome

end GoldenTree
