/-!
# Columns of text

Texts are brought to a common width with blanks at the end; a wider text stays as it is.
-/

namespace ConsoleMemory.Text

/-- A text with blanks up to a least width. -/
def padRight (width : Nat) (text : String) : String :=
  text ++ String.ofList (List.replicate (width - text.length) ' ')

end ConsoleMemory.Text
