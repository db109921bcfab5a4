/-!
# The limits of a run

How far a run can go before the machine stops it. Calls can be made inside each other up to a
number, and how much of that number is left depends on what has called the run; so it can happen
that a document is not read for its depth alone. A file is decoded a stretch at a time while it is
being read; so bytes that are no text come to light only when the reader gets near them, and how
near depends on the buffers.

These numbers belong to the machine and not to the program. Nothing is assumed about them: whatever
is said of all runs holds for any limits.

* `Limits` — the numbers;
* `Limits.usual` — those of a run that is started from a terminal, more or less.
-/

namespace ShellPipeline

/-- **The limits of a run.** -/
class Limits where
  /-- The number of collections of a YAML document that can be open inside each other. -/
  openCollections : Nat
  /-- The room for the collections of a TOML document inside each other, of which an array takes two
  units and an inline table three. -/
  inlineRoom : Nat
  /-- The number of mappings of a YAML document that can be waiting for each other, each for the
  entries or the text that the next one lends it. -/
  lending : Nat
  /-- The number of values inside each other that can be written out. -/
  writing : Nat
  /-- Of the characters of a YAML file in front of bytes that are no text, the number that are
  looked at before these bytes come to light. -/
  readAhead : Nat → Nat

/-- The limits of a run that is started from a terminal, more or less. A file is decoded in
stretches of 8192 bytes. -/
instance Limits.usual : Limits where
  openCollections := 487
  inlineRoom := 980
  lending := 960
  writing := 980
  readAhead := fun length => length / 8192 * 8192

end ShellPipeline
