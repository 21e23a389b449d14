/-! Terminal window sizes in character cells. -/

namespace PseudoTerminal

structure WindowSize where
  rows : UInt16 := 24
  cols : UInt16 := 80
  deriving DecidableEq, Repr, Inhabited

namespace WindowSize

/-- Whether neither dimension is zero. -/
def isValid (size : WindowSize) : Bool := size.rows != 0 && size.cols != 0

/-- Rows and columns as a diagnostic shows them. -/
def text (size : WindowSize) : String := toString size.rows ++ "x" ++ toString size.cols

end WindowSize

end PseudoTerminal
