/-!
# Coloured text

Output is a list of pieces. With colours, a styled piece begins with a reset and its style, and ends
with a reset.
-/

namespace CodeFold

/-- A colour of a terminal. -/
inductive Color where
  | red
  | green
  | yellow
  | cyan
deriving DecidableEq, Repr

namespace Color

/-- The digit of a colour in escapes. -/
def digit : Color → Char
  | red => '1'
  | green => '2'
  | yellow => '3'
  | cyan => '6'

end Color

/-- What a piece of text looks like. -/
structure Style where
  bold : Bool := false
  color : Option Color := none
deriving DecidableEq, Repr

/-- A piece of text. -/
inductive Piece where
  | plain (text : String)
  | styled (style : Style) (text : String)
deriving DecidableEq, Repr

namespace Piece

/-- The escape that ends all styles. -/
def reset : String := "\x1b[0m"

/-- The escapes that begin a style. -/
def opening (s : Style) : String :=
  reset ++ (if s.bold then "\x1b[1m" else "") ++
    s.color.elim "" fun c => "\x1b[3" ++ c.digit.toString ++ "m"

/-- The text of a piece, with escapes if there are colours. -/
def render (colors : Bool) : Piece → String
  | plain text => text
  | styled style text => if colors then opening style ++ text ++ reset else text

end Piece

/-- The text of some pieces. -/
def renderPieces (colors : Bool) (pieces : List Piece) : String :=
  String.join (pieces.map (Piece.render colors))

end CodeFold
