import ShellPipeline.Proofs.Loading

/-!
# The first candidate decides

A run takes its settings from one file at most. Which one is a matter of what is there, not of what
it holds: the file that is named explicitly, or else the first candidate that is there
(`FirstCandidate`). From then on no other file is looked at. Whatever is wrong with the selected
file, no later candidate is tried, so two runs that read the same from what they select and start
from the same base directory come to the same, however their trees differ elsewhere
(`Environment.load_congr`).

Of a document six values count (`SameValues`). A value counts as what it is when it is written out,
and not by the place in the document where it is kept: its truth, its kind and its text can all be
read off the value (`truth_value`, `kindName_value`, `directoryText_eq`). What is no mapping has
no values, so it counts as a section that is missing.
-/

namespace ShellPipeline

open Document (Graph Value)

/-! ### Selection -/

/-- **The file that is the configuration of a run**, if there is one: the one that is named, whether
it is there or not, or else the first candidate that is there. -/
def Environment.FirstCandidate (env : Environment) : Option Path → Option Path → Prop
  | some named, file => file = some named
  | none, some path => ∃ before after, env.candidates = before ++ path :: after ∧
      (∀ q ∈ before, env.tree.present env.cwd q = .ok false) ∧
      env.tree.present env.cwd path = .ok true
  | none, none => ∀ q ∈ env.candidates, env.tree.present env.cwd q = .ok false

theorem firstPresent?_eq_none {env : Environment} {paths : List Path}
    (h : env.firstPresent? paths = .ok none) :
    ∀ q ∈ paths, env.tree.present env.cwd q = .ok false := by
  induction paths with
  | nil => exact fun q hq => absurd hq List.not_mem_nil
  | cons path rest ih =>
    rw [Environment.firstPresent?] at h
    split at h
    · cases h
    · cases h
    · next habsent =>
      intro q hq
      rcases List.mem_cons.mp hq with rfl | hq
      · exact habsent
      · exact ih h q hq

theorem firstPresent?_eq_some {env : Environment} {paths : List Path} {path : Path}
    (h : env.firstPresent? paths = .ok (some path)) :
    ∃ before after, paths = before ++ path :: after ∧
      (∀ q ∈ before, env.tree.present env.cwd q = .ok false) ∧
      env.tree.present env.cwd path = .ok true := by
  induction paths with
  | nil => cases h
  | cons first rest ih =>
    rw [Environment.firstPresent?] at h
    split at h
    · cases h
    · next hpresent =>
      -- the first one is there, so nothing is passed over
      obtain rfl := Option.some.inj (Except.ok.inj h)
      exact ⟨[], rest, rfl, fun q hq => absurd hq List.not_mem_nil, hpresent⟩
    · next habsent =>
      obtain ⟨before, after, rfl, hbefore, hpresent⟩ := ih h
      refine ⟨first :: before, after, rfl, ?_, hpresent⟩
      intro q hq
      rcases List.mem_cons.mp hq with rfl | hq
      · exact habsent
      · exact hbefore q hq

/-- **What is selected is the first candidate**, wherever the places can be looked at. -/
theorem firstCandidate_of_findConfig {env : Environment} {config file : Option Path}
    (h : env.findConfig config = .ok file) : env.FirstCandidate config file := by
  cases config with
  | some named => exact (Except.ok.inj h).symm
  | none =>
    cases file with
    | none => exact firstPresent?_eq_none h
    | some path => exact firstPresent?_eq_some h

/-! ### Two runs -/

/-- **Two runs that read the same** come to the same, or that both have nothing to read. -/
theorem Environment.load_congr [Limits] {env env' : Environment}
    {config config' base base' file file' : Option Path}
    (hbase : env.baseDir base = env'.baseDir base') (hfile : env.findConfig config = .ok file)
    (hfile' : env'.findConfig config' = .ok file')
    (hread : file.map env.readConfig = file'.map env'.readConfig) :
    env.load config base = env'.load config' base' := by
  cases hdir : env.baseDir base with
  | error fault =>
    -- neither run gets to its file
    have hdir' := hbase.symm.trans hdir
    rw [load, load, hdir, hdir']
  | ok dir =>
    rw [load_of_file hdir hfile, load_of_file (hbase.symm.trans hdir) hfile']
    -- the path itself is not looked at again, so the two may differ
    cases file with
    | none =>
      cases file' with
      | none => rfl
      | some path' => cases hread
    | some path =>
      cases file' with
      | none => cases hread
      | some path' => rw [loadFile, loadFile, Option.some.inj hread]

/-! ### Values -/

namespace Document.Graph

theorem truth_value (g : Graph) : g.value.truth = g.truth := by
  rw [value, valueWithin, truth, outermost]
  -- a collection is written out with as many parts as it has
  cases g.object g.root <;> simp [Value.truth]

theorem kindName_value (g : Graph) : g.value.kindName = g.kindName := by
  rw [value, valueWithin, kindName, outermost]
  cases g.object g.root <;> simp [Value.kindName]

/-- The value that a document holds under a name in the section of a name. -/
def valueAt (document : Graph) (heading name : String) : Option Value :=
  ((document.sectionAt heading).get? name).map (·.value)

/-- **A section that is no mapping counts as missing**: it holds nothing. -/
theorem valueAt_of_not_isMap {document : Graph} {heading : String}
    (h : ∀ held ∈ document.get? heading, held.isMap = false) (name : String) :
    document.valueAt heading name = none := by
  rw [valueAt, sectionAt]
  split
  · next held hheld =>
    rw [h held hheld]
    rfl
  · rfl

end Document.Graph

theorem truthOf_eq (found : Option Graph) :
    truthOf found = ((found.map (·.value)).map (·.truth)).getD false := by
  cases found with
  | none => rfl
  | some g => exact (Graph.truth_value g).symm

theorem directoryText_eq (found : Option Graph) :
    directoryText found = directoryText ((found.map (·.value)).map .ofValue) := by
  cases found with
  | none => rfl
  | some g =>
    have htruth : (Graph.ofValue g.value).truth = g.truth := Graph.truth_value g
    have hkind : (Graph.ofValue g.value).kindName = g.kindName := Graph.kindName_value g
    rw [Option.map_some, Option.map_some, directoryText, directoryText, htruth, hkind,
      Graph.outermost_ofValue]
    -- only a text and bytes are told apart from the rest, and both are written out as they are
    rw [Graph.value, Graph.valueWithin, Graph.outermost]
    cases g.object g.root <;> simp

/-- **Two documents with the same values** where settings are looked for. -/
structure SameValues (document document' : Graph) : Prop where
  /-- The strict rule. -/
  strict : document.valueAt "parser" "strict" = document'.valueAt "parser" "strict"
  /-- The tokens shown. -/
  showTokens :
    document.valueAt "display" "show_tokens" = document'.valueAt "display" "show_tokens"
  /-- The prompt. -/
  prompt : document.valueAt "display" "prompt" = document'.valueAt "display" "prompt"
  /-- The directory of the journal. -/
  logs : document.valueAt "paths" "logs" = document'.valueAt "paths" "logs"
  /-- The level of the console. -/
  consoleLevel :
    document.valueAt "logging" "console_level" = document'.valueAt "logging" "console_level"
  /-- The details, which are in no section. -/
  debug : (document.get? "debug").map (·.value) = (document'.get? "debug").map (·.value)

/-- **Six values decide the settings**, and whether there are any. -/
theorem ofDocument_congr [Limits] (base : Path) {document document' : Graph}
    (h : SameValues document document') :
    DraftSettings.ofDocument base document = DraftSettings.ofDocument base document' := by
  have hpicked : Picked.ofDocument document = Picked.ofDocument document' := by
    obtain ⟨hstrict, hshow, hprompt, hlogs, hlevel, hdebug⟩ := h
    -- each of the six is looked up in the document and then used as a value only
    rw [Graph.valueAt, Graph.valueAt] at hstrict hshow hprompt hlogs hlevel
    rw [Picked.ofDocument, Picked.ofDocument]
    simp only [truthOf_eq, directoryText_eq ((document.sectionAt _).get? _),
      directoryText_eq ((document'.sectionAt _).get? _), hstrict, hshow, hprompt, hlogs, hlevel,
      hdebug]
  rw [DraftSettings.ofDocument, DraftSettings.ofDocument, hpicked]

/-! ### The selected file alone -/

section Selected

variable [Limits] {env env' : Environment} {config config' base base' : Option Path}
  {dir path path' : Path}

/-- Two runs that read documents with the same values come to the same, wherever they read them. -/
theorem Environment.load_of_sameValues (hbase : env.baseDir base = env'.baseDir base')
    (hfile : env.findConfig config = .ok (some path))
    (hfile' : env'.findConfig config' = .ok (some path')) {document document' : Graph}
    (hread : env.readConfig path = .ok document) (hread' : env'.readConfig path' = .ok document')
    (hsame : SameValues document document') :
    env.load config base = env'.load config' base' := by
  cases hdir : env.baseDir base with
  | error fault =>
    have hdir' := hbase.symm.trans hdir
    rw [load, load, hdir, hdir']
  | ok dir =>
    rw [load_of_document hdir hfile hread, load_of_document (hbase.symm.trans hdir) hfile' hread',
      Loaded.ofDocument, Loaded.ofDocument, ofDocument_congr dir hsame]

theorem Environment.readConfig_of_vacant {place : List String}
    (h : env.tree.find env.cwd path = .ok (.vacant place)) :
    env.readConfig path = .error (.path (.refused .notFound path.text)) := by
  rw [readConfig, FileTree.read, h]

theorem Environment.readConfig_of_directory {place : List String}
    (h : env.tree.find env.cwd path = .ok (.found place .directory)) :
    env.readConfig path = .error (.path (.refused .isDirectory path.text)) := by
  rw [readConfig, FileTree.read, h]

end Selected

/-- **One file decides, and of its document six values.** Let two runs, each of which can look at
the places for its configuration, start from the same base directory. What a run selects is the
file that is named, there or not, or else the first candidate that is there. Where both read the
same from what they select, they come to the same settings and the same report, or fail in the same
way, whatever else is in their trees. Where they read documents with the same six values, they do
so, too, and a section that is no mapping has no value. Where nothing is at the selected path, or a
directory, or what is there cannot be read as a mapping, the outcome is a report and the defaults
and nothing of a later candidate, except for a few faults that are about a value: those end the
run, again with nothing of a later candidate. -/
theorem load_follows_first_candidate [Limits] {env env' : Environment}
    {config config' base base' file file' : Option Path}
    (hfile : env.findConfig config = .ok file) (hfile' : env'.findConfig config' = .ok file')
    (hbase : env.baseDir base = env'.baseDir base') :
    env.FirstCandidate config file ∧
    (file.map env.readConfig = file'.map env'.readConfig →
      env.load config base = env'.load config' base') ∧
    (∀ path ∈ file, ∀ path' ∈ file', ∀ document document', env.readConfig path = .ok document →
      env'.readConfig path' = .ok document' → SameValues document document' →
      env.load config base = env'.load config' base') ∧
    (∀ (document : Graph) (heading : String),
      (∀ held ∈ document.get? heading, held.isMap = false) →
      ∀ name, document.valueAt heading name = none) ∧
    ∀ dir, env.baseDir base = .ok dir → ∀ path ∈ file,
      (∀ place, env.tree.find env.cwd path = .ok (.vacant place) → env.load config base =
        ⟨loadReport (.path (.refused .notFound path.text)), .ok (.defaults dir)⟩) ∧
      (∀ place, env.tree.find env.cwd path = .ok (.found place .directory) → env.load config base =
        ⟨loadReport (.path (.refused .isDirectory path.text)), .ok (.defaults dir)⟩) ∧
      ∀ fault, env.readConfig path = .error fault →
        env.load config base = ⟨loadReport fault, .ok (.defaults dir)⟩ ∨
          ∃ cause, fault = .value cause ∧ fault.isExpected = false ∧
            env.load config base = ⟨"", .error (.value cause)⟩ := by
  refine ⟨firstCandidate_of_findConfig hfile, ?_, ?_, ?_, ?_⟩
  · exact Environment.load_congr hbase hfile hfile'
  · rintro path rfl path' rfl document document' hread hread' hsame
    exact Environment.load_of_sameValues hbase hfile hfile' hread hread' hsame
  · intro document heading h name
    exact Graph.valueAt_of_not_isMap h name
  · -- a run that cannot read what it selected ends there, with or without a report
    rintro dir hdir path rfl
    refine ⟨fun place h => ?_, fun place h => ?_, fun fault h => ?_⟩
    · exact Environment.load_of_expected hdir hfile (Environment.readConfig_of_vacant h) rfl
    · exact Environment.load_of_expected hdir hfile (Environment.readConfig_of_directory h) rfl
    · cases hexpected : fault.isExpected with
      | true => exact .inl (Environment.load_of_expected hdir hfile h hexpected)
      | false =>
        obtain ⟨cause, hcause, hrun⟩ := Environment.load_of_unexpected hdir hfile h hexpected
        exact .inr ⟨cause, hcause, rfl, hrun⟩

/-- Two trees with the same malformed first candidate and different files behind it; in one of them
the home directory holds a directory under a known name. -/
theorem load_follows_first_candidate_malformed :
    let path : Path := ⟨.single, ["w", "pipeparse.toml"]⟩
    let first : List (List String × Node) :=
      [(["w"], .directory), (["w", "pipeparse.toml"], .file "a =".toUTF8)]
    let env : Environment :=
      ⟨⟨first ++ [(["w", "pipeparse.yaml"], .file "debug: true".toUTF8)]⟩, ["w"], [], none, "12:00"⟩
    let env' : Environment :=
      ⟨⟨first ++ [(["h"], .directory), (["h", ".config"], .directory),
        (["h", ".config", "pipeparse"], .directory),
        (["h", ".config", "pipeparse", "pipeparse.yml"], .directory)]⟩, ["w"], ["h"], none, "12:01"⟩
    env.FirstCandidate none (some path) ∧ env.load none none = env'.load none none ∧
      env.load none none =
        ⟨"Failed to load config: <parse error>\n", .ok (.defaults ⟨.single, ["w"]⟩)⟩ := by
  intro path first env env'
  have hfile : env.findConfig none = .ok (some path) := by decide +kernel
  have hfile' : env'.findConfig none = .ok (some path) := by decide +kernel
  have hdir : env.baseDir none = .ok ⟨.single, ["w"]⟩ := by decide +kernel
  have hbase : env.baseDir none = env'.baseDir none := by decide +kernel
  have hread : env.readConfig path = .error (.malformed .toml) :=
    map_eq_error_iff (f := fun _ => ()).mp (by decide +kernel)
  have hread' : env'.readConfig path = .error (.malformed .toml) :=
    map_eq_error_iff (f := fun _ => ()).mp (by decide +kernel)
  obtain ⟨hfirst, hcongr, -, -, hfault⟩ := load_follows_first_candidate hfile hfile' hbase
  refine ⟨hfirst, hcongr ?_, ?_⟩
  · rw [Option.map_some, Option.map_some, hread, hread']
  · rcases (hfault _ hdir path rfl).2.2 _ hread with hrun | ⟨cause, hcause, -⟩
    · exact hrun
    · cases hcause

/-- A list that is not closed, after a text with a number that no character has: the run ends,
though there is a good candidate behind it. -/
theorem load_ends_at_malformed_candidate :
    let path : Path := ⟨.single, ["pipeparse.yaml"]⟩
    let env : Environment :=
      ⟨⟨[(["pipeparse.yaml"], .file "[\"\\UFFFFFFFF\"".toUTF8),
        (["pipeparse.yml"], .file "debug: true".toUTF8)]⟩, [], [], none, "12:00"⟩
    env.findConfig none = .ok (some path) ∧ (env.readConfig path).isOk = false ∧
      (env.load none none).report = "" ∧
      (env.load none none).settings = .error (.value (.notCharacter 4294967295)) := by
  decide +kernel

end ShellPipeline
