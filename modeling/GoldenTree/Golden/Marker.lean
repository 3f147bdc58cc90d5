import GoldenTree.Text.Quoted

/-! Markers, by which a golden header says how its case is to be judged. -/
namespace GoldenTree.Golden

inductive Marker where
  /-- The case is skipped. -/
  | mute
  /-- The source is expected to have errors. -/
  | withErrors
  /-- Error elements of the reference dump are tolerated. -/
  | mutePsiErrors
  deriving Repr, DecidableEq

namespace Marker

def all : List Marker := [withErrors, mutePsiErrors, mute]

def name : Marker → String
  | mute => "MUTE"
  | withErrors => "WITH_ERRORS"
  | mutePsiErrors => "MUTE_PSI_ERRORS"

/-- The marker of that name. -/
def ofName? (name : String) : Option Marker := all.find? (·.name = name)

theorem ofName?_name (m : Marker) : ofName? m.name = some m := by cases m <;> decide

/-- No marker has this name. -/
structure UnknownMarker where
  name : String
  deriving Repr, DecidableEq

def UnknownMarker.message (e : UnknownMarker) : String :=
  String.join ["unknown golden marker: ", Text.quoted e.name]

def parse (name : String) : Except UnknownMarker Marker :=
  match ofName? name with
  | some m => .ok m
  | none => .error ⟨name⟩

end Marker

end GoldenTree.Golden
