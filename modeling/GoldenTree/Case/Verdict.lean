import GoldenTree.Golden.Marker

/-! Whether the errors of a source are as they should be. -/
namespace GoldenTree

open Golden

/-- Without a reference dump, there are errors exactly if the marker expects them. -/
def diagnosticsVerdict (hasErrors : Bool) (marker : Option Marker) : Bool :=
  hasErrors == (marker == some .withErrors)

/-- With a reference dump, both parsers find errors or neither does, unless the marker expects
errors that the reference lacks or tolerates those that it has. -/
def referenceVerdict (hasErrors referenceHasErrors : Bool) (marker : Option Marker) : Bool :=
  let expected := marker == some .withErrors
  let tolerated := marker == some .mutePsiErrors
  (hasErrors == referenceHasErrors && !expected) || (expected && !referenceHasErrors) ||
    (referenceHasErrors && tolerated)

end GoldenTree
