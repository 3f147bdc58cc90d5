import GoldenTree.ParseTree.Build
import GoldenTree.Pattern.Build
import GoldenTree.Text.Quoted

/-! How golden files are treated and which cases run. -/
namespace GoldenTree

/-- What happens to a case whose golden file was recorded for another version of the source. -/
inductive StalePolicy where
  /-- The case is skipped. -/
  | skip
  /-- The golden file is overwritten if its tree differs. -/
  | regenerate
  deriving Repr, DecidableEq

/-- A pattern that selects cases by their relative paths, with its notation. -/
structure PathFilter where
  written : String
  pattern : Pattern
  deriving Repr, DecidableEq

/-- The notation of a filter is malformed. -/
structure FilterError where
  name : String
  pattern : String
  deriving Repr, DecidableEq

/-- What is said before the particular reason. -/
def FilterError.message (e : FilterError) : String :=
  String.join ["invalid ", e.name, " pattern ", Text.quoted e.pattern, ": "]

structure Config where
  policy : StalePolicy
  /-- Golden files that differ are always overwritten. -/
  force : Bool
  /-- The tree that differs from its golden file is dumped beside it. -/
  dumpsActual : Bool
  builder : TreeBuilder
  filter? : Option PathFilter
  parallel : Bool
  deriving Repr, DecidableEq

/-- The variable that holds the path filter. -/
def pathFilterVariable : String := "TEST_PATH_FILTER"

/-- The variable that holds the flag for `Config.force`. -/
def forceVariable : String := "FORCE_APPLY_CHANGES"

def PathFilter.parse (written : String) : Except FilterError PathFilter :=
  match Pattern.parse? written with
  | some pattern => .ok ⟨written, pattern⟩
  | none => .error ⟨pathFilterVariable, written⟩

def PathFilter.selects (f : PathFilter) (relative : String) : Bool := f.pattern.isMatch relative

/-- Whether the value of a variable switches a flag on. -/
def isOn (value : String) : Bool :=
  let value := String.ofList ((Text.trim value.toList).map Char.toLower)
  ["1", "true", "yes", "on"].contains value

namespace Config

def new (policy : StalePolicy) : Config := ⟨policy, false, true, .standard, none, false⟩

/-- The configuration that variables ask for; an empty filter is none. -/
def ofVariables (policy : StalePolicy) (lookup : String → Option String) :
    Except FilterError Config := do
  let filter? ← match lookup pathFilterVariable with
    | none | some "" => pure none
    | some written => some <$> PathFilter.parse written
  return { new policy with filter?, force := ((lookup forceVariable).map isOn).getD false }

/-- Whether the case at a relative path is to run. -/
def selects (c : Config) (relative : String) : Bool := c.filter?.all (·.selects relative)

end Config

end GoldenTree
