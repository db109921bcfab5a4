import ShellPipeline.Proofs.LookUp
import ShellPipeline.Proofs.Outcomes
import ShellPipeline.Proofs.Writing
import ShellPipeline.Settings.Load

/-!
# What a configuration file can do to a run

A file that is selected as the configuration is read, and then six values of its document are made
into settings. Either can fail. A file that gives no document is reported and stands for an empty
one, whose settings are the defaults (`amountsTo_defaults`); but there are a few values that cannot
be made in a way that is not looked out for, and those end the run without a report. A document that
was read can still ask for something that is no setting: a directory that is not named by a text, or
by one that cannot be placed, and a prompt or a level that cannot be written (`Usable`). And a text
may be torn, which is not in the way of settings, but of settings that hold strings (`Whole`).

All this holds for any limits of a run. They decide which values are too deep to be read or written,
and nothing else.

* `Settings.defaults`, `amountsTo_defaults` — the settings where nothing is said;
* `exists_ofDocument_eq_ok_iff`, `isSome_of_ofDocument` — the documents that amount to settings, and
  the ones among them whose texts are whole;
* `Environment.load_of_expected`, `Environment.load_of_unexpected`, `Environment.load_of_document` —
  what loading gives for each way of reading.
-/

namespace ShellPipeline

open Document (Graph Value Wording)

/-! ### The directory of the journal -/

theorem directoryText_of_false {found : Option Graph} (h : ∀ held ∈ found, held.truth = false) :
    directoryText found = .ok none := by
  cases found with
  | none => rfl
  | some held => simp [directoryText, h held rfl]

theorem directoryText_of_text {held : Graph} {v : Value} {w : Wording} (htruth : held.truth = true)
    (h : held.outermost = .value v) (hw : v.wording? = some w) :
    directoryText (some held) = .ok (some w) := by
  cases v with
  | text s | torn s =>
    obtain rfl := Option.some.inj hw
    simp [directoryText, htruth, h]
  | _ => cases hw

/-- What counts as true names a directory only if it is a text. -/
theorem exists_wording_of_directoryText {held : Graph} {text : Option Wording}
    (htruth : held.truth = true) (h : directoryText (some held) = .ok text) :
    ∃ v w, held.outermost = .value v ∧ v.wording? = some w ∧ text = some w := by
  simp only [directoryText, htruth, Bool.not_true, Bool.false_eq_true, if_false] at h
  split at h
  · next s hs => exact ⟨.text s, .ofString s, hs, rfl, (Except.ok.inj h).symm⟩
  · next t ht => exact ⟨.torn t, t.val, ht, rfl, (Except.ok.inj h).symm⟩
  · cases h
  · cases h

/-- **The directory of the journal** can be made of what is missing, of what counts as false, and of
a text that can be placed. -/
theorem exists_logsDir_eq_ok_iff {base : Path} {found : Option Graph} :
    (∃ text, directoryText found = .ok text ∧ ∃ place?, logsDirOf base text = .ok place?) ↔
      ∀ held ∈ found, held.truth = true →
        ∃ v w, held.outermost = .value v ∧ v.wording? = some w ∧ w.CanBePlaced base := by
  constructor
  · rintro ⟨text, htext, place?, hplace⟩ held rfl htruth
    obtain ⟨v, w, hv, hw, rfl⟩ := exists_wording_of_directoryText htruth htext
    exact ⟨v, w, hv, hw, exists_logsDirOf_eq_ok_iff.mp ⟨place?, hplace⟩⟩
  · intro h
    by_cases hfound : ∀ held ∈ found, held.truth = false
    · exact ⟨none, directoryText_of_false hfound, some (base.child "logs"), rfl⟩
    · -- something counts as true there, and so it is a text that can be placed
      push Not at hfound
      obtain ⟨held, rfl, htruth⟩ := hfound
      have htruth : held.truth = true := by simpa using htruth
      obtain ⟨v, w, hv, hw, hplace⟩ := h held rfl htruth
      exact ⟨some w, directoryText_of_text htruth hv hw, exists_logsDirOf_eq_ok_iff.mpr hplace⟩

/-- The directory of the journal is a path unless a torn text names it. -/
theorem isSome_of_directoryText {base : Path} {found : Option Graph} {text : Option Wording}
    {place? : Option Path} (htext : directoryText found = .ok text)
    (hplace : logsDirOf base text = .ok place?) :
    place?.isSome = true ↔ ∀ held ∈ found, ∀ w, held.outermost ≠ .value (.torn w) := by
  have hnone : text = none → place?.isSome = true := by
    rintro rfl
    cases hplace
    rfl
  cases found with
  | none => simp [hnone (Except.ok.inj htext).symm]
  | some held =>
    simp only [Option.mem_some_iff, forall_eq']
    by_cases htruth : held.truth = true
    · obtain ⟨v, w, hv, hw, rfl⟩ := exists_wording_of_directoryText htruth htext
      rw [isSome_iff_of_logsDirOf hplace, ← Value.isWhole_iff_of_wording? hw, hv]
      simp [Value.IsWhole]
    · -- nothing names the directory then, and a torn text would count as true
      have hfalse : held.truth = false := by simpa using htruth
      rw [directoryText_of_false (by simpa using hfalse)] at htext
      refine iff_of_true (hnone (Except.ok.inj htext).symm) fun w hw => ?_
      rw [Graph.truth, hw] at hfalse
      cases hfalse

/-! ### Faults of reading -/

/-- **The faults that end a run** are about values: an unreadable file, one that holds no text, a
text that is malformed and a document that is no mapping are all looked out for. -/
theorem exists_value_of_unexpected {fault : ReadFault} (h : fault.isExpected = false) :
    ∃ cause, fault = .value cause := by
  cases fault with
  | value cause => exact ⟨cause, rfl⟩
  | path _ | notText | malformed _ | notMapping _ => cases h

section Limits

variable [Limits]

/-! ### The defaults -/

/-- **The settings of a run whose configuration says nothing.** -/
def Settings.defaults (base : Path) : Settings where
  baseDir := base
  logsDir := base.child "logs"
  strict := false
  showTokens := false
  prompt := "$ "
  consoleLevel := "WARNING"
  debug := false

/-- **A document amounts to settings** that hold strings. -/
def AmountsTo (base : Path) (document : Graph) (settings : Settings) : Prop :=
  ∃ draft, DraftSettings.ofDocument base document = .ok draft ∧ draft.settings? = some settings

theorem amountsTo_defaults (base : Path) :
    AmountsTo base (.ofValue (.map [])) (.defaults base) := by
  -- the level is put in upper case even where it is the default
  have hlevel : Text.upperCase "WARNING" = "WARNING" := by decide +kernel
  refine ⟨⟨base, some (base.child "logs"), false, false, some "$ ",
    some (Text.upperCase "WARNING"), false⟩, rfl, ?_⟩
  rw [hlevel]
  rfl

/-! ### Documents that amount to settings -/

/-- **A document from which settings can be made.** -/
structure Usable (base : Path) (document : Graph) : Prop where
  /-- What counts as true as the directory of the journal is a text, and one that can be placed
  below the base directory. -/
  logs : ∀ held ∈ (document.sectionAt "paths").get? "logs", held.truth = true →
    ∃ v w, held.outermost = .value v ∧ v.wording? = some w ∧ w.CanBePlaced base
  /-- The prompt can be written. -/
  prompt : ∀ held ∈ (document.sectionAt "display").get? "prompt", held.value.IsWritable
  /-- The level of the console can be written. -/
  consoleLevel : ∀ held ∈ (document.sectionAt "logging").get? "console_level",
    held.value.IsWritable

theorem exists_plainOr_eq_ok_iff {default : String} {found : Option Graph} :
    (∃ text?, plainOr default (found.map (·.value)) = .ok text?) ↔
      ∀ held ∈ found, held.value.IsWritable := by
  cases found with
  | none => simp [plainOr]
  | some held =>
    simp only [Option.mem_some_iff, forall_eq', Value.IsWritable, Option.map_some]
    rw [← Value.writeFault?_eq_none_iff]
    cases held.value with
    | text s | torn w => simp [plainOr, Value.wording?]
    | _ =>
      -- any other value is written out, and that may fail
      simp only [plainOr, Value.wording?]
      split <;> simp [*]

/-- **A document amounts to settings**, with a torn text or without, just where it is usable. -/
theorem exists_ofDocument_eq_ok_iff {base : Path} {document : Graph} :
    (∃ draft, DraftSettings.ofDocument base document = .ok draft) ↔ Usable base document := by
  unfold DraftSettings.ofDocument DraftSettings.ofPicked
  simp only [exists_bind_eq_ok_iff]
  constructor
  · rintro ⟨text, htext, place?, hplace, prompt?, hprompt, level?, hlevel, -⟩
    exact ⟨exists_logsDir_eq_ok_iff.mp ⟨text, htext, place?, hplace⟩,
      exists_plainOr_eq_ok_iff.mp ⟨prompt?, hprompt⟩, exists_plainOr_eq_ok_iff.mp ⟨level?, hlevel⟩⟩
  · intro h
    obtain ⟨text, htext, place?, hplace⟩ := exists_logsDir_eq_ok_iff.mpr h.logs
    obtain ⟨prompt?, hprompt⟩ := exists_plainOr_eq_ok_iff.mpr h.prompt
    obtain ⟨level?, hlevel⟩ := exists_plainOr_eq_ok_iff.mpr h.consoleLevel
    exact ⟨text, htext, place?, hplace, prompt?, hprompt, level?, hlevel, _, rfl⟩

/-- **A document whose texts are whole**, those among them that are made into settings. -/
structure Whole (document : Graph) : Prop where
  /-- The directory of the journal is not named by a torn text. -/
  logs : ∀ held ∈ (document.sectionAt "paths").get? "logs", ∀ w, held.outermost ≠ .value (.torn w)
  /-- The prompt is not a torn text. -/
  prompt : ∀ held ∈ (document.sectionAt "display").get? "prompt", held.value.IsWhole
  /-- The level of the console is not a torn text. -/
  consoleLevel : ∀ held ∈ (document.sectionAt "logging").get? "console_level", held.value.IsWhole

theorem isSome_of_plainOr {default : String} {found : Option Graph} {text? : Option String}
    (h : plainOr default (found.map (·.value)) = .ok text?) :
    text?.isSome = true ↔ ∀ held ∈ found, held.value.IsWhole := by
  cases found with
  | none =>
    cases h
    simp
  | some held =>
    simp only [Option.mem_some_iff, forall_eq', Value.IsWhole]
    rw [Option.map_some] at h
    generalize held.value = v at h ⊢
    cases v with
    | text s | torn w =>
      cases h
      simp
    | _ =>
      -- what is written out is a string
      simp only [plainOr] at h
      split at h <;> cases h
      simp

/-- **The settings hold strings** just where the texts of the document are whole. -/
theorem isSome_of_ofDocument {base : Path} {document : Graph} {draft : DraftSettings}
    (h : DraftSettings.ofDocument base document = .ok draft) :
    draft.settings?.isSome = true ↔ Whole document := by
  unfold DraftSettings.ofDocument DraftSettings.ofPicked at h
  obtain ⟨text, htext, h⟩ := bind_eq_ok_iff.mp h
  obtain ⟨place?, hplace, h⟩ := bind_eq_ok_iff.mp h
  obtain ⟨prompt?, hprompt, h⟩ := bind_eq_ok_iff.mp h
  obtain ⟨level?, hlevel, h⟩ := bind_eq_ok_iff.mp h
  have hlogs := isSome_of_directoryText htext hplace
  have hprompt := isSome_of_plainOr hprompt
  have hlevel := isSome_of_plainOr hlevel
  obtain rfl := Except.ok.inj h
  have hall : Whole document ↔
      place?.isSome = true ∧ prompt?.isSome = true ∧ level?.isSome = true := by
    rw [hlogs, hprompt, hlevel]
    exact ⟨fun h => ⟨h.logs, h.prompt, h.consoleLevel⟩, fun ⟨h, h', h''⟩ => ⟨h, h', h''⟩⟩
  rw [hall, DraftSettings.settings?]
  cases place? <;> cases prompt? <;> cases level? <;> simp

/-! ### Loading -/

namespace Environment

variable {env : Environment} {config base : Option Path} {dir path : Path}

theorem load_of_file {file : Option Path} (hbase : env.baseDir base = .ok dir)
    (hfile : env.findConfig config = .ok file) : env.load config base = env.loadFile dir file := by
  unfold load
  rw [hbase]
  simp only [hfile]

theorem ofDocument_eq_defaults (report : String) (dir : Path) :
    Loaded.ofDocument report dir (.ofValue (.map [])) = ⟨report, .ok (.defaults dir)⟩ := by
  obtain ⟨draft, hdraft, hsettings⟩ := amountsTo_defaults dir
  simp only [Loaded.ofDocument, hdraft, hsettings]

/-- **Where nothing is selected** the defaults are taken, and nothing is reported. -/
theorem load_of_none (hbase : env.baseDir base = .ok dir)
    (hfile : env.findConfig config = .ok none) :
    env.load config base = ⟨"", .ok (.defaults dir)⟩ := by
  rw [load_of_file hbase hfile]
  exact ofDocument_eq_defaults "" dir

section Selected

variable (hbase : env.baseDir base = .ok dir) (hfile : env.findConfig config = .ok (some path))

include hbase hfile

/-- **A document that is read** decides alone, and nothing is reported. -/
theorem load_of_document {document : Graph} (h : env.readConfig path = .ok document) :
    env.load config base = .ofDocument "" dir document := by
  rw [load_of_file hbase hfile, loadFile]
  simp only [h]

/-- **A fault that is looked out for** is reported, and the defaults are taken. -/
theorem load_of_expected {fault : ReadFault} (h : env.readConfig path = .error fault)
    (hexpected : fault.isExpected = true) :
    env.load config base = ⟨loadReport fault, .ok (.defaults dir)⟩ := by
  rw [load_of_file hbase hfile, ← ofDocument_eq_defaults, loadFile]
  cases fault <;> simp [h, hexpected]

/-- **Any other fault** ends the run, and nothing is reported. -/
theorem load_of_unexpected {fault : ReadFault} (h : env.readConfig path = .error fault)
    (hunexpected : fault.isExpected = false) :
    ∃ cause, fault = .value cause ∧ env.load config base = ⟨"", .error (.value cause)⟩ := by
  obtain ⟨cause, rfl⟩ := exists_value_of_unexpected hunexpected
  refine ⟨cause, rfl, ?_⟩
  rw [load_of_file hbase hfile, loadFile]
  simp [h, hunexpected]

end Selected

end Environment

section Document

variable {report : String} {base : Path} {document : Graph}

theorem settings_ofDocument_eq_ok_iff {settings : Settings} :
    (Loaded.ofDocument report base document).settings = .ok settings ↔
      AmountsTo base document settings := by
  rw [AmountsTo, Loaded.ofDocument]
  rcases DraftSettings.ofDocument base document with fault | draft
  · simp
  · cases hsettings : draft.settings? <;> simp [hsettings]

theorem settings_ofDocument_eq_torn_iff {draft : DraftSettings} :
    (Loaded.ofDocument report base document).settings = .error (.torn draft) ↔
      DraftSettings.ofDocument base document = .ok draft ∧ draft.settings? = none := by
  rw [Loaded.ofDocument]
  rcases DraftSettings.ofDocument base document with fault | other
  · simp
  · cases hsettings : other.settings? <;> grind

/-- **A usable document whose texts are whole** comes to settings that hold strings. -/
theorem exists_settings_ofDocument_iff :
    (∃ settings, (Loaded.ofDocument report base document).settings = .ok settings) ↔
      Usable base document ∧ Whole document := by
  simp only [settings_ofDocument_eq_ok_iff]
  constructor
  · rintro ⟨settings, draft, h, hsettings⟩
    exact ⟨exists_ofDocument_eq_ok_iff.mp ⟨draft, h⟩,
      (isSome_of_ofDocument h).mp (Option.isSome_of_eq_some hsettings)⟩
  · rintro ⟨husable, hwhole⟩
    obtain ⟨draft, h⟩ := exists_ofDocument_eq_ok_iff.mpr husable
    obtain ⟨settings, hsettings⟩ :=
      Option.isSome_iff_exists.mp ((isSome_of_ofDocument h).mpr hwhole)
    exact ⟨settings, draft, h, hsettings⟩

/-- **Any other usable document** comes to settings with a torn text. -/
theorem exists_torn_ofDocument_iff :
    (∃ draft, (Loaded.ofDocument report base document).settings = .error (.torn draft)) ↔
      Usable base document ∧ ¬ Whole document := by
  simp only [settings_ofDocument_eq_torn_iff]
  constructor
  · rintro ⟨draft, h, hnone⟩
    refine ⟨exists_ofDocument_eq_ok_iff.mp ⟨draft, h⟩, fun hwhole => ?_⟩
    have hsome := (isSome_of_ofDocument h).mpr hwhole
    rw [hnone] at hsome
    cases hsome
  · rintro ⟨husable, hwhole⟩
    obtain ⟨draft, h⟩ := exists_ofDocument_eq_ok_iff.mpr husable
    refine ⟨draft, h, Option.not_isSome_iff_eq_none.mp fun hsome => ?_⟩
    exact hwhole ((isSome_of_ofDocument h).mp hsome)

end Document

/-- **Which configuration files leave a run its settings.** Let a file be selected as the
configuration. Loading comes to settings just where the file is read, its document is usable and the
texts in it are whole, or where it is not read and the fault is one that is looked out for. Where
the document is usable and some text is torn, loading comes to settings that hold the torn text. A
document that is read decides the settings alone, and nothing is reported. A fault that is looked
out for is reported once, and the settings are those of an empty document, which are the defaults.
Any other fault is about a value; it ends the loading, and nothing is reported. All this holds for
any limits of the run. -/
theorem load_settles_iff {env : Environment} {config base : Option Path} {dir path : Path}
    (hbase : env.baseDir base = .ok dir) (hfile : env.findConfig config = .ok (some path)) :
    let loaded := env.load config base
    ((∃ settings, loaded.settings = .ok settings) ↔
      (∃ document, env.readConfig path = .ok document ∧ Usable dir document ∧ Whole document) ∨
        ∃ fault, env.readConfig path = .error fault ∧ fault.isExpected = true) ∧
    ((∃ draft, loaded.settings = .error (.torn draft)) ↔
      ∃ document, env.readConfig path = .ok document ∧ Usable dir document ∧
        ¬ Whole document) ∧
    (∀ document, env.readConfig path = .ok document → loaded.report = "" ∧
      ∀ settings, loaded.settings = .ok settings ↔ AmountsTo dir document settings) ∧
    (∀ fault, env.readConfig path = .error fault → fault.isExpected = true →
      loaded.report = "Failed to load config: " ++ fault.message ++ "\n" ∧
        loaded.settings = .ok (.defaults dir) ∧
        AmountsTo dir (.ofValue (.map [])) (.defaults dir)) ∧
    ∀ fault, env.readConfig path = .error fault → fault.isExpected = false →
      loaded.report = "" ∧
        ∃ cause, fault = .value cause ∧ loaded.settings = .error (.value cause) := by
  intro loaded
  have hdocument : ∀ document, env.readConfig path = .ok document →
      loaded = .ofDocument "" dir document := fun _ h => Environment.load_of_document hbase hfile h
  have hexpected : ∀ fault, env.readConfig path = .error fault → fault.isExpected = true →
      loaded = ⟨loadReport fault, .ok (.defaults dir)⟩ :=
    fun _ h hexpected => Environment.load_of_expected hbase hfile h hexpected
  have hunexpected : ∀ fault, env.readConfig path = .error fault → fault.isExpected = false →
      ∃ cause, fault = .value cause ∧ loaded = ⟨"", .error (.value cause)⟩ :=
    fun _ h hunexpected => Environment.load_of_unexpected hbase hfile h hunexpected
  refine ⟨?_, ?_, fun document h => ?_, fun fault h hcaught => ?_, fun fault h huncaught => ?_⟩
  · -- a document that is read, a fault that is looked out for, and one that is not
    cases h : env.readConfig path with
    | ok document => simp [hdocument document h, exists_settings_ofDocument_iff]
    | error fault =>
      cases hcaught : fault.isExpected with
      | true => simp [hexpected fault h hcaught, hcaught]
      | false =>
        obtain ⟨cause, -, hrun⟩ := hunexpected fault h hcaught
        simp [hrun, hcaught]
  · cases h : env.readConfig path with
    | ok document => simp [hdocument document h, exists_torn_ofDocument_iff]
    | error fault =>
      cases hcaught : fault.isExpected with
      | true => simp [hexpected fault h hcaught]
      | false =>
        obtain ⟨cause, -, hrun⟩ := hunexpected fault h hcaught
        simp [hrun]
  · rw [hdocument document h]
    exact ⟨rfl, fun settings => settings_ofDocument_eq_ok_iff⟩
  · rw [hexpected fault h hcaught]
    exact ⟨rfl, rfl, amountsTo_defaults dir⟩
  · obtain ⟨cause, hcause, hrun⟩ := hunexpected fault h huncaught
    rw [hrun]
    exact ⟨rfl, cause, hcause, rfl⟩

end Limits

/-- A list in place of a mapping is reported and leaves the defaults, and a mapping is read without
a report. -/
theorem load_settles_iff_reported :
    let path : Path := ⟨.relative, ["c"]⟩
    let env (text : String) : Environment :=
      ⟨⟨[(["w"], .directory), (["w", "c"], .file text.toUTF8)]⟩, ["w"], [], some "c", "12:00"⟩
    ((env "- a").baseDir none = .ok ⟨.single, ["w"]⟩ ∧
        (env "- a").findConfig none = .ok (some path) ∧
        (∃ settings, ((env "- a").load none none).settings = .ok settings) ∧
        ((env "- a").load none none).report =
          "Failed to load config: YAML config must be a mapping at top-level: c\n" ∧
        ((env "- a").load none none).settings = .ok (.defaults ⟨.single, ["w"]⟩)) ∧
      (env "debug: on").findConfig none = .ok (some path) ∧
        ((env "debug: on").load none none).report = "" := by
  intro path env
  have hbase : ∀ text, (env text).baseDir none = .ok ⟨.single, ["w"]⟩ := fun _ => rfl
  have hlist : (env "- a").findConfig none = .ok (some path) := by decide +kernel
  have hmap : (env "debug: on").findConfig none = .ok (some path) := by decide +kernel
  have hfault : (env "- a").readConfig path = .error (.notMapping "c") :=
    map_eq_error_iff (f := fun _ => ()).mp (by decide +kernel)
  obtain ⟨hsettings, -, -, hreported, -⟩ := load_settles_iff (hbase "- a") hlist
  obtain ⟨-, -, hread, -⟩ := load_settles_iff (hbase "debug: on") hmap
  obtain ⟨hreport, hdefaults, -⟩ := hreported _ hfault rfl
  refine ⟨⟨hbase _, hlist, hsettings.mpr (.inr ⟨_, hfault, rfl⟩), hreport, hdefaults⟩, hmap, ?_⟩
  obtain ⟨document, hdocument⟩ : ∃ document, (env "debug: on").readConfig path = .ok document :=
    exists_eq_ok_of_isOk (by decide +kernel)
  exact (hread document hdocument).1

/-- A whole number for a directory is read and leaves no settings, and a truth value that is none
ends the loading without a report. -/
theorem load_ends_without_settings :
    let path : Path := ⟨.single, ["pipeparse.yaml"]⟩
    let env (text : String) : Environment :=
      ⟨⟨[(["pipeparse.yaml"], .file text.toUTF8)]⟩, [], [], none, "12:00"⟩
    let number := env "paths:\n  logs: 5\n"
    let word := env "debug: !!bool maybe\n"
    (number.findConfig none = .ok (some path) ∧ (number.readConfig path).isOk = true ∧
        (number.load none none).settings = .error (.setting (.notPath "int"))) ∧
      word.findConfig none = .ok (some path) ∧ (word.readConfig path).isOk = false ∧
        (word.load none none).report = "" ∧
        (word.load none none).settings = .error (.value (.notTruth (.ofString "maybe"))) := by
  decide +kernel

end ShellPipeline
