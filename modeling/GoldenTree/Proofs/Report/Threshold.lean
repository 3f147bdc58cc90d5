import GoldenTree.Report.Logger

/-! The threshold of a logger drops lines and does nothing else. Which lines a report has, and in
which sections they stand, does not depend on it: a heading that is dropped still nests what is
below it. -/
namespace GoldenTree.Report

mutual

/-- The lines of a step inside some sections. -/
def Step.lines (case : Option String) (sections : List String) : Step → List Line
  | .info message => [⟨.info, case, sections, message, none⟩]
  | .error message => [⟨.error, case, sections, message, none⟩]
  | .field key value => [⟨.info, case, sections, key ++ ": " ++ value, none⟩]
  | .section name steps =>
    ⟨.info, case, sections, name ++ ":", none⟩ :: reportLines case (sections ++ [name]) steps
  | .result outcome duration =>
    [⟨Logger.levelOf outcome, case, sections, Logger.resultMessage outcome duration,
      some ⟨outcome.label, duration⟩⟩]

def reportLines (case : Option String) (sections : List String) : List Step → List Line
  | [] => []
  | step :: steps => step.lines case sections ++ reportLines case sections steps

end

/-- Lines written one after the other. -/
def written (style : Style) (lines : List Line) : String :=
  String.join (lines.map (Line.render style))

namespace Logger

/-- The logger after some lines, of which it has written those that reach its threshold. -/
def write (l : Logger) (lines : List Line) : Logger :=
  { l with output := l.output ++ written l.style (lines.filter (·.level.reaches l.threshold)) }

@[simp] theorem case_write (l : Logger) (lines : List Line) : (l.write lines).case = l.case := rfl

@[simp] theorem sections_write (l : Logger) (lines : List Line) :
    (l.write lines).sections = l.sections := rfl

@[simp] theorem write_nil (l : Logger) : l.write [] = l := by
  simp [write, written]

theorem write_append (l : Logger) (lines others : List Line) :
    l.write (lines ++ others) = (l.write lines).write others := by
  simp [write, written, String.append_assoc]

theorem emit_eq (level : Level) (message : String) (result : Option Shown) (l : Logger) :
    l.emit level message result = l.write [⟨level, l.case, l.sections, message, result⟩] := by
  rw [emit, write]
  split
  · next h => simp [written, h]
  · next h => simp [written, h]

end Logger

mutual

theorem perform_eq : ∀ (step : Step) (l : Logger),
    step.perform l = l.write (step.lines l.case l.sections)
  | .info message, l => l.emit_eq ..
  | .error message, l => l.emit_eq ..
  | .field key value, l => l.emit_eq ..
  | .result outcome duration, l => l.emit_eq ..
  | .section name steps, l => by
    rw [Step.perform, Logger.section, Logger.info, Logger.emit_eq, performAll_eq steps, Step.lines]
    have hlines := l.write_append [⟨.info, l.case, l.sections, name ++ ":", none⟩]
      (reportLines l.case (l.sections ++ [name]) steps)
    rw [List.singleton_append] at hlines
    rw [hlines]
    simp [Logger.write]

/-- A report writes its lines. -/
theorem performAll_eq : ∀ (steps : List Step) (l : Logger),
    performAll l steps = l.write (reportLines l.case l.sections steps)
  | [], l => l.write_nil.symm
  | step :: steps, l => by
    rw [performAll, performAll_eq steps, perform_eq step l, Logger.case_write,
      Logger.sections_write, reportLines, Logger.write_append]

end

/-- Without timestamps, what a report writes at any threshold are those of the lines it writes at
`info` that reach the threshold, in the same order and each as it is written there; and every
section leaves the nesting as it found it, wherever it stands. -/
theorem threshold_filters (format : Format) (colors : Bool) (case : Option String)
    (sections : List String) (steps : List Step) :
    let style : Style := ⟨format, false, colors⟩
    let run := fun threshold => performAll ⟨threshold, style, case, sections, ""⟩ steps
    let records := reportLines case sections steps
    (run .info).output = written style records ∧
    (∀ threshold, (run threshold).output =
      written style (records.filter (·.level.reaches threshold))) ∧
    (∀ threshold, (run threshold).sections = sections) ∧
    ∀ (l : Logger) (name : String) (inner : List Step),
      ((Step.section name inner).perform l).sections = l.sections := by
  intro style run records
  have hrun : ∀ threshold, run threshold =
      (⟨threshold, style, case, sections, ""⟩ : Logger).write records :=
    fun threshold => performAll_eq steps _
  have houtput : ∀ threshold, (run threshold).output =
      written style (records.filter (·.level.reaches threshold)) := by
    intro threshold
    rw [hrun, Logger.write, String.empty_append]
  have hall : records.filter (·.level.reaches .info) = records :=
    List.filter_eq_self.mpr fun line _ => by simp [Level.reaches, Level.rank]
  refine ⟨?_, houtput, fun threshold => ?_, fun l name inner => ?_⟩
  · rw [houtput, hall]
  · rw [hrun, Logger.sections_write]
  · rw [perform_eq, Logger.sections_write]

/-- The line keeps the indentation of a section whose heading is dropped. -/
example : (performAll (.new .error ⟨.human, false, false⟩)
    [.section "Files" [.info "a", .error "b"], .info "c"]).output = "[ERROR]   b\n" := by
  decide +kernel

end GoldenTree.Report
