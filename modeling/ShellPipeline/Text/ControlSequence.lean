/-!
# Terminal control sequences

A control sequence is the escape character, an opening bracket, any number of digits, semicolons and
question marks, and one ASCII letter. Text echoed to a stream that is not a terminal loses its
control sequences. They are looked for once, from left to right: what stands around a removed
sequence is not looked at again, even where it now forms another one.

* `afterSequence?` — the rest of a text that begins with a control sequence;
* `stripSequences` — a text without its control sequences.
-/

namespace ShellPipeline.Text

/-- The characters between the bracket and the final letter of a control sequence. -/
def isParameter (c : Char) : Bool := c.isDigit || c == ';' || c == '?'

/-- What follows the parameters and the final letter, where both are there. -/
def afterParameters? : List Char → Option (List Char)
  | [] => none
  | c :: rest =>
    if isParameter c then afterParameters? rest else if c.isAlpha then some rest else none

/-- What follows the control sequence at the front of a text; none where no sequence stands
there. -/
def afterSequence? : List Char → Option (List Char)
  | '\x1b' :: '[' :: rest => afterParameters? rest
  | _ => none

theorem length_afterParameters? {s rest : List Char} (h : afterParameters? s = some rest) :
    rest.length < s.length := by
  induction s with
  | nil => simp [afterParameters?] at h
  | cons c t ih =>
    simp only [afterParameters?] at h
    split at h
    · exact Nat.lt_trans (ih h) (Nat.lt_succ_self _)
    · split at h
      · cases h; exact Nat.lt_succ_self _
      · cases h

/-- A control sequence is not empty, so the text behind it is shorter. -/
theorem length_afterSequence? {s rest : List Char} (h : afterSequence? s = some rest) :
    rest.length < s.length := by
  unfold afterSequence? at h
  split at h
  · have := length_afterParameters? h
    simp only [List.length_cons]; omega
  · cases h

/-- A list of characters without its control sequences. -/
def stripSequenceChars : List Char → List Char
  | [] => []
  | c :: rest =>
    match _h : afterSequence? (c :: rest) with
    | some behind => stripSequenceChars behind
    | none => c :: stripSequenceChars rest
termination_by s => s.length
decreasing_by
  · exact length_afterSequence? _h
  · exact Nat.lt_succ_self _

/-- **A text without its control sequences.** -/
def stripSequences (s : String) : String := String.ofList (stripSequenceChars s.toList)

@[simp] theorem toList_stripSequences (s : String) :
    (stripSequences s).toList = stripSequenceChars s.toList :=
  String.toList_ofList

end ShellPipeline.Text
