import GoldenTree.Text.Replace

/-! What a tool leaves behind for the one who called it. -/
namespace GoldenTree.Tool

structure Result where
  code : Nat
  stdout : String
  stderr : String
  deriving Repr, DecidableEq

namespace Result

def success (stdout : String) : Result := ⟨0, stdout, ""⟩

/-- The arguments were not understood. -/
def usage : Result := ⟨2, "", ""⟩

/-- A cause behind its heading; further lines of it are indented as far. -/
def causeEntry (heading cause : String) : String :=
  let indent := '\n' :: List.replicate heading.length ' '
  heading ++ String.ofList (Text.replaceChar '\n' indent cause.toList) ++ "\n"

/-- All causes, numbered if there are several. -/
def causeList : List String → String
  | [cause] => causeEntry "    " cause
  | causes => String.join (causes.zipIdx.map fun (cause, i) =>
      causeEntry ("    " ++ toString i ++ ": ") cause)

/-- A failure with what was attempted and why it failed, the nearest cause first. -/
def failure (stdout attempt : String) (causes : List String) : Result :=
  ⟨1, stdout, "Error: " ++ attempt ++ "\n\nCaused by:\n" ++ causeList causes⟩

end Result

end GoldenTree.Tool
