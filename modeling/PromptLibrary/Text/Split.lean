/-!
# Splitting texts

A text that is cut in two at the first place where a separator stands.
-/

namespace PromptLibrary.Text

/-- The text before the first separator, and the text after it if there is a separator. -/
def splitFirst (separator : Char) (s : String) : String × Option String :=
  let before := s.toList.takeWhile (· ≠ separator)
  let after := (s.toList.dropWhile (· ≠ separator)).tail?
  (String.ofList before, after.map String.ofList)

end PromptLibrary.Text
