import ShellPipeline.Text.Printable

/-!
# Quoted text

How a text is shown where its limits and its odd characters have to be visible: between two quote
marks, on one line. The mark is `'`, or `"` for a text that holds `'` and no `"`. The mark in use
and the backslash get a backslash in front; tab, newline and carriage return are written by name;
every other character that is not printable is written by its number in lower-case hexadecimal, in
the shortest of the three forms that holds it.

* `markFor` — the quote mark a text gets;
* `escapeChar` — one character between two such marks;
* `quote` — the whole.
-/

namespace ShellPipeline.Text

/-- The last `width` hexadecimal digits of a number, in lower case. -/
def hexDigits : Nat → Nat → List Char
  | 0, _ => []
  | width + 1, n => hexDigits width (n / 16) ++ [Nat.digitChar (n % 16)]

/-- The quote mark around a text: `'` unless the text holds that one and not the other. -/
def markFor (s : List Char) : Char :=
  if s.contains '\'' && !s.contains '"' then '"' else '\''

/-- The number of a character, in the shortest escape that holds it. -/
def escapeByNumber (n : Nat) : List Char :=
  if n < 0x100 then '\\' :: 'x' :: hexDigits 2 n
  else if n < 0x10000 then '\\' :: 'u' :: hexDigits 4 n
  else '\\' :: 'U' :: hexDigits 8 n

/-- One character as it stands between two marks. -/
def escapeChar (mark c : Char) : List Char :=
  if c = mark ∨ c = '\\' then ['\\', c]
  else if c = '\t' then ['\\', 't']
  else if c = '\n' then ['\\', 'n']
  else if c = '\r' then ['\\', 'r']
  else if isPrintable c then [c]
  else escapeByNumber c.toNat

/-- A list of characters between quote marks. -/
def quoteChars (s : List Char) : List Char :=
  markFor s :: (s.flatMap (escapeChar (markFor s)) ++ [markFor s])

/-- **A text between quote marks**, with its marks, backslashes and unprintable characters
escaped. -/
def quote (s : String) : String := String.ofList (quoteChars s.toList)

@[simp] theorem toList_quote (s : String) : (quote s).toList = quoteChars s.toList :=
  String.toList_ofList

example : quote "it's" = "\"it's\"" := by decide +kernel

example : quote "a\tb\x00\u200b" = "'a\\tb\\x00\\u200b'" := by decide +kernel

end ShellPipeline.Text
