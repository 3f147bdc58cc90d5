import GoldenTree.Case.Outcome
import GoldenTree.Report.Duration
import GoldenTree.Report.Json

/-! Reports on cases, line by line. Lines below the threshold are dropped; sections nest the lines
inside them. -/
namespace GoldenTree.Report

inductive Level where
  | info
  | warn
  | error
  deriving Repr, DecidableEq

namespace Level

def name : Level → String
  | info => "INFO"
  | warn => "WARN"
  | error => "ERROR"

def rank : Level → Nat
  | info => 0
  | warn => 1
  | error => 2

/-- The terminal color code of a level. -/
def color : Level → String
  | info => "32"
  | warn => "33"
  | error => "31"

/-- Whether lines of this level are written at a threshold. -/
def reaches (level threshold : Level) : Bool := threshold.rank ≤ level.rank

end Level

inductive Format where
  /-- Indented text. -/
  | human
  /-- One JSON object a line. -/
  | json
  deriving Repr, DecidableEq

/-- How lines are written. -/
structure Style where
  format : Format
  /-- Each line begins with the time since the first; a star stands for it. -/
  timestamps : Bool
  /-- Results and everything above `info` are colored in human text. -/
  colors : Bool
  deriving Repr, DecidableEq

/-- What a line shows of an outcome. -/
structure Shown where
  label : String
  duration : Duration
  deriving Repr, DecidableEq

/-- One line, with the case and the sections it belongs to, the outermost first. -/
structure Line where
  level : Level
  case : Option String
  sections : List String
  message : String
  result : Option Shown
  deriving Repr, DecidableEq

namespace Line

def escape : String := "\x1b["

/-- The message in the color of its level, bold if it is a result. -/
def colored (l : Line) : String :=
  escape ++ "0m" ++ (if l.result.isSome then escape ++ "1m" else "") ++
    escape ++ l.level.color ++ "m" ++ l.message ++ escape ++ "0m"

def renderHuman (style : Style) (l : Line) : String :=
  let highlighted := style.colors && (l.result.isSome || l.level != .info)
  (if style.timestamps then "[*ms] " else "") ++ "[" ++ l.level.name ++ "] " ++
    (match l.case with
    | some id => id ++ " "
    | none => "") ++
    String.join (l.sections.map fun _ => "  ") ++
    (if highlighted then l.colored else l.message)

def renderJson (style : Style) (l : Line) : String :=
  jsonObject
    [("elapsed_ms", if style.timestamps then some (jsonString "*") else none),
     ("level", some (jsonString l.level.name)),
     ("case", l.case.map jsonString),
     ("section", if l.sections.isEmpty then none
        else some (jsonString ("::".intercalate l.sections))),
     ("message", some (jsonString l.message)),
     ("result", l.result.map fun shown => jsonString shown.label),
     ("duration_ms", l.result.bind fun shown => shown.duration.number?)]

def render (style : Style) (l : Line) : String :=
  (match style.format with
  | .human => l.renderHuman style
  | .json => l.renderJson style) ++ "\n"

end Line

/-- A logger with what it has written. -/
structure Logger where
  threshold : Level
  style : Style
  case : Option String
  sections : List String
  output : String
  deriving Repr, DecidableEq

namespace Logger

def new (threshold : Level) (style : Style) : Logger := ⟨threshold, style, none, [], ""⟩

def emit (level : Level) (message : String) (result : Option Shown) (l : Logger) : Logger :=
  if level.reaches l.threshold then
    { l with output :=
        l.output ++ (Line.mk level l.case l.sections message result).render l.style }
  else l

def info (message : String) : Logger → Logger := emit .info message none

def error (message : String) : Logger → Logger := emit .error message none

def field (key value : String) : Logger → Logger := info (key ++ ": " ++ value)

/-- Writes what `body` writes below a heading. -/
def «section» (name : String) (body : Logger → Logger) (l : Logger) : Logger :=
  let l := l.info (name ++ ":")
  let l := body { l with sections := l.sections ++ [name] }
  { l with sections := l.sections.dropLast }

/-- The level at which an outcome is reported. -/
def levelOf : Outcome → Level
  | .pass => .info
  | .fail _ => .error
  | .skipped _ => .warn

def resultMessage (o : Outcome) (d : Duration) : String :=
  let heading := String.join ["Result: ", o.label, " (", d.render, ")"]
  match o.reason? with
  | some reason => String.join [heading, " - ", reason]
  | none => heading

def result (o : Outcome) (d : Duration) : Logger → Logger :=
  emit (levelOf o) (resultMessage o d) (some ⟨o.label, d⟩)

end Logger

/-- One step of a report. -/
inductive Step where
  | info (message : String)
  | error (message : String)
  | field (key value : String)
  | section (name : String) (steps : List Step)
  | result (outcome : Outcome) (duration : Duration)
  deriving Repr

mutual

def Step.perform (l : Logger) : Step → Logger
  | .info message => l.info message
  | .error message => l.error message
  | .field key value => l.field key value
  | .section name steps => l.section name fun l => performAll l steps
  | .result outcome duration => l.result outcome duration

def performAll (l : Logger) : List Step → Logger
  | [] => l
  | step :: steps => performAll (step.perform l) steps

end

end GoldenTree.Report
