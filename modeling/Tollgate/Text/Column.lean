/-!
Text in columns of a given width. A text that is wider stays as it is.
-/

namespace Tollgate.Text

/-- A text at the right end of so many characters. -/
def toRight (width : Nat) (cs : List Char) : List Char :=
  List.replicate (width - cs.length) ' ' ++ cs

/-- A text at the left end of so many characters. -/
def toLeft (width : Nat) (cs : List Char) : List Char :=
  cs ++ List.replicate (width - cs.length) ' '

end Tollgate.Text
