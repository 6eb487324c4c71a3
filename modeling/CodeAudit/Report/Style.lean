/-!
Styled text for terminals. Styles are switched on by codes before the text and off after it; a
reset inside the text is followed by the codes again.
-/

namespace CodeAudit

inductive Style where
  | plain
  | bold
  | dimmed
  | red
  | green
  | yellow
  | blue
  | boldRed
  | boldCyan
deriving DecidableEq, Repr

namespace Style

def codes : Style → String
  | plain => ""
  | bold => "1"
  | dimmed => "2"
  | red => "31"
  | green => "32"
  | yellow => "33"
  | blue => "34"
  | boldRed => "1;31"
  | boldCyan => "1;36"

def reset : String := "\x1b[0m"

def opening (style : Style) : String :=
  "\x1b[" ++ style.codes ++ "m"

def reopen (mark : List Char) : List Char → List Char
  | '\x1b' :: '[' :: '0' :: 'm' :: rest => reset.toList ++ mark ++ reopen mark rest
  | character :: rest => character :: reopen mark rest
  | [] => []

def pad (width : Nat) (text : String) : String :=
  text ++ String.ofList (List.replicate (width - text.length) ' ')

/-- The text with a least width, in a style when colours are on. Padding is styled too. -/
def applyPadded (style : Style) (colors : Bool) (width : Nat) (text : String) : String :=
  if colors && style != plain then
    style.opening ++ pad width (String.ofList (reopen style.opening.toList text.toList)) ++ reset
  else
    pad width text

def apply (style : Style) (colors : Bool) (text : String) : String :=
  style.applyPadded colors 0 text

end Style
end CodeAudit
