import GoldenTree.Case.Run
import GoldenTree.Report.Logger

/-! The report on a case: its files, the errors that were found, and the outcome. -/
namespace GoldenTree.Report

open Disk

def yesNo (b : Bool) : String := if b then "YES" else "NO"

/-- A field that tells whether there are errors, and a line for each. -/
def errorSteps (label : String) (errors : List String) : List Step :=
  .field label (yesNo !errors.isEmpty) :: errors.map fun e => .info ("    - " ++ e)

def diagnosticsSteps (d : Diagnostics) : List Step :=
  errorSteps "HAS ANTLR LEXER ERRORS" (d.lexerErrors.map SyntaxError.render) ++
    errorSteps "HAS ANTLR PARSER ERRORS" (d.parserErrors.map SyntaxError.render) ++
    match d.referenceErrors with
    | some elements =>
      errorSteps "HAS PSI ERROR ELEMENTS" (elements.map Reference.ErrorElement.render)
    | none => []

def fileSteps (fs : FileSystem) (files : CaseFiles) : List Step :=
  [.field "Source" files.source.text, .field "Golden" files.golden.text] ++
    if fs.pathExists files.reference then [.field "Reference" files.reference.text] else []

def caseSteps (fs : FileSystem) (run : CaseRun) (outcome : Outcome) (duration : Duration) :
    List Step :=
  [.section "Files" (fileSteps fs run.case.files)] ++
    (match run.diagnostics with
    | some d => [.section "Diagnostics" (diagnosticsSteps d)]
    | none => []) ++
    [.result outcome duration]

/-- Reports on a finished case, whose id stands in every line. -/
def Logger.caseReport (fs : FileSystem) (run : CaseRun) (outcome : Outcome) (duration : Duration)
    (l : Logger) : Logger :=
  let l := performAll { l with case := some run.case.id } (caseSteps fs run outcome duration)
  { l with case := none }

end GoldenTree.Report
