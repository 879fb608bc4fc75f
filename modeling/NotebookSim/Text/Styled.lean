/-!
Terminal styling. A style is applied only when the output is coloured.
-/
namespace NotebookSim.Text

inductive Style where
  | bold
  | dimmed
  | green
  | red
  | boldRed
  deriving DecidableEq, Repr

/-- The select-graphic-rendition parameters of a style. -/
def Style.parameters : Style → List Char
  | .bold => ['1']
  | .dimmed => ['2']
  | .green => ['3', '2']
  | .red => ['3', '1']
  | .boldRed => ['1', ';', '3', '1']

/-- An escape sequence that selects a rendition. -/
def rendition (parameters : List Char) : List Char := '\x1b' :: '[' :: parameters ++ ['m']

/-- Repeats a style after every reset in the text, so that the style lasts to the end. -/
def resume (start : List Char) : List Char → List Char
  | '\x1b' :: '[' :: '0' :: 'm' :: cs => '\x1b' :: '[' :: '0' :: 'm' :: start ++ resume start cs
  | c :: cs => c :: resume start cs
  | [] => []

/-- Styled text starts with the style's escape sequence and ends with the reset. -/
def styled (color : Bool) (style : Style) (s : String) : String :=
  if color then
    let start := rendition style.parameters
    String.ofList (start ++ resume start s.toList ++ rendition ['0'])
  else s

end NotebookSim.Text
