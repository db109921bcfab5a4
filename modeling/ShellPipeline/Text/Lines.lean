/-!
# Lines

A line of a text runs up to a newline; no other character ends one. The last line may lack its
newline, and nothing follows a newline at the very end. Texts from outside may end their lines in
two other ways, by a carriage return and by one with a newline behind it; both are read as a
newline.

* `unifyNewlines` — line ends as single newlines;
* `lines` — the lines of a text, without their newlines.
-/

namespace ShellPipeline.Text

/-- Line ends as single newlines. -/
def unifyNewlines : List Char → List Char
  | [] => []
  | '\r' :: '\n' :: rest => '\n' :: unifyNewlines rest
  | '\r' :: rest => '\n' :: unifyNewlines rest
  | c :: rest => c :: unifyNewlines rest

/-- The lines of a list of characters. -/
def lineChars (s : List Char) : List (List Char) :=
  let pieces := s.splitOn '\n'
  if pieces.getLast? = some [] then pieces.dropLast else pieces

/-- **The lines of a text**, without their newlines. -/
def lines (s : String) : List String := (lineChars s.toList).map String.ofList

example : lines "a\n\nb" = ["a", "", "b"] := by decide +kernel

example : lines "a\n" = ["a"] := by decide +kernel

end ShellPipeline.Text
