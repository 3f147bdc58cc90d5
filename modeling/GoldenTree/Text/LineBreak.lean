import GoldenTree.Text.Replace

/-! The three line breaks `\r\n`, `\r` and `\n`: unifying them, and writing them as backslash
sequences so that a text fits on one line. -/
namespace GoldenTree.Text

/-- Every line break becomes `\n`. -/
def unifyBreaks (s : List Char) : List Char :=
  replaceChar '\r' ['\n'] (replacePair '\r' '\n' ['\n'] s)

/-- `\r\n` and `\n` become a backslash and `n`, any other `\r` a backslash and `r`. -/
def escapeBreaks (s : List Char) : List Char :=
  replaceChar '\r' ['\\', 'r'] (replaceChar '\n' ['\\', 'n'] (replacePair '\r' '\n' ['\\', 'n'] s))

/-- `escapeBreaks` in one pass. -/
def escapeBreaksOnce : List Char → List Char
  | [] => []
  | '\r' :: '\n' :: r => '\\' :: 'n' :: escapeBreaksOnce r
  | '\n' :: r => '\\' :: 'n' :: escapeBreaksOnce r
  | '\r' :: r => '\\' :: 'r' :: escapeBreaksOnce r
  | c :: r => c :: escapeBreaksOnce r

/-- A backslash followed by `n` becomes a newline. -/
def unescapeNewlines (s : List Char) : List Char := replacePair '\\' 'n' ['\n'] s

end GoldenTree.Text
