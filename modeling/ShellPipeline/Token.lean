import ShellPipeline.Redirect

/-!
# Tokens

A token is a word of a segment together with the part it plays there: a redirection operator, the
filename that belongs to one, or a plain word. Tokens may also be built by hand, so the contents
need not be what the kind suggests.
-/

namespace ShellPipeline

/-- The part that a word plays in its segment. -/
inductive TokenKind where
  /-- A redirection operator. -/
  | redirect (operator : Redirect)
  /-- A plain word. -/
  | normal
  /-- The filename of a redirection. -/
  | filename
deriving DecidableEq, Repr

namespace TokenKind

/-- The operator of a redirection kind. -/
def operator? : TokenKind → Option Redirect
  | redirect r => some r
  | _ => none

/-- Whether a kind is a redirection operator. -/
def isRedirect (kind : TokenKind) : Bool := kind.operator?.isSome

/-- The text that stands for a kind: an operator's own spelling, or a word. -/
def value : TokenKind → String
  | redirect r => r.symbol
  | normal => "normal"
  | filename => "filename"

/-- The kind that a text stands for. -/
def ofValue? (s : String) : Option TokenKind :=
  match Redirect.ofSymbol? s with
  | some r => some (redirect r)
  | none => if s = "normal" then some normal else if s = "filename" then some filename else none

/-- What is said about a text that stands for no kind. -/
def unknownValue (s : String) : String := Text.quote s ++ " is not a valid TokenKind"

/-- The identifier of a kind, as diagnostics show it. -/
def name : TokenKind → String
  | redirect .input => "REDIRECT_INPUT"
  | redirect .append => "REDIRECT_OUTPUT_APPEND"
  | redirect .truncate => "REDIRECT_OUTPUT_TRUNCATE"
  | normal => "NORMAL"
  | filename => "FILENAME"

@[simp] theorem operator?_redirect (r : Redirect) : (redirect r).operator? = some r := rfl

@[simp] theorem operator?_normal : normal.operator? = none := rfl

@[simp] theorem operator?_filename : filename.operator? = none := rfl

@[simp] theorem ofValue?_value (k : TokenKind) : ofValue? k.value = some k := by
  match k with
  | redirect .input | redirect .append | redirect .truncate => decide
  | normal | filename => decide

end TokenKind

/-- A word with the part it plays. -/
structure Token where
  /-- The word. -/
  contents : String
  /-- Its part. -/
  kind : TokenKind
deriving DecidableEq, Repr

end ShellPipeline
