import Mathlib.Data.Int.Order.Basic
import Mathlib.Data.List.Induction
import Mathlib.Order.MinMax
import ShellPipeline.Proofs.Rotation
import ShellPipeline.Proofs.Streams

/-!
# What becomes of records in a run

A process sets up the journal any number of times, with or without success, and hands it records in
between; meanwhile others may do what they like to the tree, as long as they leave the journal's
file alone. Such a run is a sequence of events.

One step says it all (`Step.journal_eq`): a call that succeeds gives the journal its one file and
its one console, and nothing else that happens touches the journal, a call that fails least of all.
So at any point of a run the journal is the one that the last successful call has set up
(`Run.journal_eq`), and a record goes to the file and to the console of that call, as their levels
have it (`deliveries_withHandlers`).

* `SetUpCall`, `Event`, `Step`, `Run` — processes that use the journal;
* `World.setUpBy_cases` — everything that setting up can do;
* `lastSetUp`, `Run.journal_eq` — the journal in a run;
* `exists_run_perform` — what a program does is a run;
* `records_follow_the_last_set_up` — where records go.
-/

namespace ShellPipeline

/-! ### Calls -/

/-- **A call that sets up the journal.** -/
structure SetUpCall where
  /-- The working directory at that time. -/
  cwd : List String
  /-- The name of the level of the file. -/
  level : String
  /-- The directory of the file, if one is given. -/
  dir : Option Path
  /-- The name of the level of the console. -/
  consoleLevel : String
deriving DecidableEq, Repr

namespace SetUpCall

variable (call : SetUpCall)

/-- The path of the file. -/
def path : Path :=
  (call.dir.getD ((Path.mk .single call.cwd).child "logs")).child World.journalName

/-- The path of the file from the root on. -/
def file : Path := call.path.absolute call.cwd

/-- The place of the file. -/
def place : List String := call.file.parts

/-- The level from which on the file takes records. -/
def fileFrom : Level := levelNamed call.level Level.info

/-- The level from which on the console takes records. -/
def consoleFrom : Level := levelNamed call.consoleLevel Level.warning

/-- The journal that the call sets up. -/
def journal : Journal := .withHandlers call.file call.fileFrom call.consoleFrom

/-- The file has the journal's name, in a directory that the call decides. -/
theorem exists_isJournalFile : ∃ directory, FileTree.IsJournalFile directory call.file := by
  have hname : World.journalName ≠ ".." := by decide
  have hplace : call.file.parts = Path.normalParts
      ((call.dir.getD ((Path.mk .single call.cwd).child "logs")).absoluteParts call.cwd ++
        [World.journalName]) :=
    congrArg Path.normalParts (Path.absoluteParts_child ..)
  exact ⟨_, Path.spellsPlace_absolute .., hplace.trans (Path.normalParts_concat _ hname)⟩

end SetUpCall

/-- Sets up the journal by a call. -/
def World.setUpBy (world : World) (call : SetUpCall) : World × Except PathFault Path :=
  world.setUp call.cwd call.level call.dir call.consoleLevel

/-- **Everything that setting up can do**: it fails and leaves the journal as it was, or it gives it
the file and the console of the call. If it fails, the tree may have grown. -/
theorem World.setUpBy_cases (world : World) (call : SetUpCall) :
    (∃ tree fault, world.tree.Grows tree ∧
        world.setUpBy call = ({ world with tree := tree }, .error fault)) ∨
      ∃ tree, tree.LeadsToFile call.file ∧
        world.setUpBy call =
          ({ world with tree := tree, journal := call.journal }, .ok call.path) := by
  have hgrows := world.tree.grows_makeDirectories call.cwd
    (call.dir.getD ((Path.mk .single call.cwd).child "logs"))
  unfold setUpBy setUp
  dsimp only
  split
  · next tree fault hmade =>
    rw [hmade] at hgrows
    exact .inl ⟨tree, fault, hgrows, rfl⟩
  · next made hmade =>
    rw [hmade] at hgrows
    split
    · next fault _ => exact .inl ⟨made, fault, hgrows, rfl⟩
    · next tree place hopen =>
      obtain ⟨directory, hfile⟩ := call.exists_isJournalFile
      have hne : call.file.parts ≠ [] := by simp [hfile.parts]
      exact .inr ⟨tree, FileTree.leadsToFile_of_openToAppend hfile.spells hne hopen, rfl⟩

/-! ### Runs -/

/-- What happens in a process that uses the journal. -/
inductive Event where
  /-- A call that sets up the journal, and what comes of it. -/
  | setUp (call : SetUpCall) (outcome : Except PathFault Path)
  /-- A record is handed to the journal, at a time. -/
  | record (clock : String) (record : Record)
  /-- Anything that has nothing to do with the journal. -/
  | other

/-- What others may do: everything that leaves the journal as it is, and its file where it is. -/
def World.Spares (world after : World) : Prop :=
  after.journal = world.journal ∧
    ∀ path level, .file path level ∈ world.journal.handlers →
      after.tree.find [] path = world.tree.find [] path

/-- **One event.** -/
inductive Step : World → Event → World → Prop
  | setUp {world : World} {call : SetUpCall} {outcome : Except PathFault Path}
      (h : (world.setUpBy call).2 = outcome) :
      Step world (.setUp call outcome) (world.setUpBy call).1
  | record {world : World} (clock : String) (record : Record) :
      Step world (.record clock record) (world.log clock record)
  | other {world after : World} (h : world.Spares after) : Step world .other after

/-- **A run**: the world after a sequence of events. -/
inductive Run (start : World) : List Event → World → Prop
  | nil : Run start [] start
  | snoc {events : List Event} {event : Event} {world after : World}
      (hrun : Run start events world) (hstep : Step world event after) :
      Run start (events ++ [event]) after

/-- The call of an event that sets up the journal with success. -/
def Event.setUp? : Event → Option SetUpCall
  | setUp call (.ok _) => some call
  | _ => none

/-- The calls of a run that set up the journal, in order. -/
def setUps (events : List Event) : List SetUpCall := events.filterMap Event.setUp?

/-- **The call that set up the journal last.** -/
def lastSetUp (events : List Event) : Option SetUpCall := (setUps events).getLast?

theorem lastSetUp_concat (events : List Event) (event : Event) :
    lastSetUp (events ++ [event]) = event.setUp?.or (lastSetUp events) := by
  unfold lastSetUp setUps
  rw [List.filterMap_append, List.getLast?_append]
  cases h : event.setUp? with
  | none => simp [h]
  | some call => simp [h]

/-- A record leaves the journal as it is. -/
theorem World.log_journal (clock : String) (world : World) (record : Record) :
    (world.log clock record).journal = world.journal :=
  (foldl_deliver world (world.journal.deliveries clock record)).2.1

/-- **One event** gives the journal what a successful call says, or leaves it as it is. -/
theorem Step.journal_eq {world after : World} {event : Event} (h : Step world event after) :
    after.journal = (event.setUp?.map SetUpCall.journal).getD world.journal := by
  cases h with
  | @setUp call outcome houtcome =>
    rcases world.setUpBy_cases call with ⟨tree, fault, -, heq⟩ | ⟨tree, -, heq⟩
    · rw [heq] at houtcome ⊢
      subst houtcome
      rfl
    · rw [heq] at houtcome ⊢
      subst houtcome
      rfl
  | record clock record => exact world.log_journal clock record
  | other hspares => exact hspares.1

/-- **At any point of a run** the journal is the one of the last successful call; before the first
one, it is what it was. -/
theorem Run.journal_eq {start world : World} {events : List Event} (h : Run start events world) :
    world.journal = ((lastSetUp events).map SetUpCall.journal).getD start.journal := by
  induction h with
  | nil => rfl
  | @snoc events event world after _ hstep ih =>
    rw [hstep.journal_eq, lastSetUp_concat, ih]
    cases event.setUp? with
    | none => rfl
    | some call => rfl

/-- **Carrying out effects is a run** in which nothing sets up the journal. -/
theorem exists_run_perform (world : World) (clock : String) (effects : List Effect) :
    ∃ events, Run world events (world.perform clock effects) ∧ setUps events = [] := by
  induction effects using List.reverseRecOn with
  | nil => exact ⟨[], .nil, rfl⟩
  | append_singleton effects effect ih =>
    obtain ⟨events, hrun, hsetUps⟩ := ih
    -- whatever the last effect is, its event sets up nothing
    have hsnoc : ∀ event : Event, event.setUp? = none → setUps (events ++ [event]) = [] := by
      intro event hevent
      unfold setUps at hsetUps ⊢
      rw [List.filterMap_append, hsetUps]
      simp [hevent]
    rw [World.perform_append]
    cases effect with
    | print text => exact ⟨_, hrun.snoc (.other ⟨rfl, fun _ _ _ => rfl⟩), hsnoc _ rfl⟩
    | report text => exact ⟨_, hrun.snoc (.other ⟨rfl, fun _ _ _ => rfl⟩), hsnoc _ rfl⟩
    | log record => exact ⟨_, hrun.snoc (.record clock record), hsnoc _ rfl⟩

/-! ### Deliveries -/

section Deliveries

variable {file : Path} {fileFrom consoleFrom : Level} {clock : String} {record : Record}

theorem passes_withHandlers_iff {level : Level} :
    (Journal.withHandlers file fileFrom consoleFrom).passes level = true ↔
      1 ≤ level ∧ (fileFrom ≤ level ∨ consoleFrom ≤ level) := by
  unfold Journal.passes Journal.withHandlers
  rw [Bool.and_eq_true, decide_eq_true_iff, decide_eq_true_iff, min_le_iff]
  rfl

/-- What a handler makes of a record that it takes. -/
def Handler.delivery (clock : String) (record : Record) : Handler → Delivery
  | .file path _ => .file path (record.fileLine clock)
  | .console _ => .console record.consoleLine

theorem deliver?_eq (handler : Handler) : handler.deliver? clock record =
    if handler.level ≤ record.level then some (handler.delivery clock record) else none := by
  unfold Handler.deliver? Handler.delivery
  split
  · next hlevel => rw [if_neg (Int.not_le.mpr hlevel)]
  · next hlevel =>
    rw [if_pos (Int.not_lt.mp hlevel)]
    cases handler <;> rfl

/-- **Where a record goes**: to the file if it reaches the level of the file, and to the console if
it reaches that of the console. The journal's own level is in the way of neither. -/
theorem deliveries_withHandlers (h : 1 ≤ record.level) :
    (Journal.withHandlers file fileFrom consoleFrom).deliveries clock record =
      (if fileFrom ≤ record.level then [.file file (record.fileLine clock)] else []) ++
        if consoleFrom ≤ record.level then [.console record.consoleLine] else [] := by
  unfold Journal.deliveries
  split
  · -- the two handlers decide for themselves
    rw [if_neg (by simp [Journal.withHandlers])]
    unfold Journal.withHandlers
    rw [List.filterMap_cons, List.filterMap_cons, deliver?_eq, deliver?_eq]
    unfold Handler.level Handler.delivery
    by_cases hfile : fileFrom ≤ record.level <;>
      by_cases hconsole : consoleFrom ≤ record.level <;> simp [hfile, hconsole]
  · next hpasses =>
    -- what is held back reaches neither level
    rw [passes_withHandlers_iff] at hpasses
    rw [if_neg fun hfile => hpasses ⟨h, .inl hfile⟩,
      if_neg fun hconsole => hpasses ⟨h, .inr hconsole⟩]
    rfl

/-- A record without urgency goes nowhere. -/
theorem deliveries_of_lt (journal : Journal) (clock : String) (h : record.level < 1) :
    journal.deliveries clock record = [] := by
  have hpasses : journal.passes record.level = false := by
    rw [Journal.passes, Bool.and_eq_false_iff]
    exact .inl (decide_eq_false (Int.not_lt.mpr (Int.le_of_lt_add_one h)))
  rw [Journal.deliveries, hpasses]
  rfl

/-- What handing over a record does to the tree, to the console and to the mishaps. -/
theorem World.log_withHandlers {world : World} (clock : String)
    (hjournal : world.journal = .withHandlers file fileFrom consoleFrom)
    (h : 1 ≤ record.level) :
    let written := world.tree.writeLine file (record.fileLine clock)
    let after := world.log clock record
    after.tree = (if fileFrom ≤ record.level then written.1 else world.tree) ∧
      after.mishaps =
        world.mishaps ++ (if fileFrom ≤ record.level then written.2.toList else []) ∧
      after.errors =
        world.errors ++ if consoleFrom ≤ record.level then record.consoleLine else "" := by
  unfold World.log
  rw [hjournal, deliveries_withHandlers h]
  by_cases hfile : fileFrom ≤ record.level <;>
    by_cases hconsole : consoleFrom ≤ record.level <;>
      simp [hfile, hconsole, deliver, report]

end Deliveries

/-! ### The file of the journal -/

section File

variable {world after : World} {last : SetUpCall}

/-- **One event that sets up nothing** leaves the path of the journal's file leading to it. -/
theorem Step.leadsToFile {event : Event} (h : Step world event after)
    (hsetUp : event.setUp? = none) (hjournal : world.journal = last.journal)
    (hleads : world.tree.LeadsToFile last.file) : after.tree.LeadsToFile last.file := by
  obtain ⟨dir, hfile⟩ := last.exists_isJournalFile
  cases h with
  | @setUp call outcome houtcome =>
    rcases world.setUpBy_cases call with ⟨tree, fault, hgrows, heq⟩ | ⟨tree, -, heq⟩
    · -- a call that fails only adds to the tree
      rw [heq]
      obtain ⟨bytes, hfound⟩ := hleads
      exact ⟨bytes, FileTree.find_of_grows hfile.spells hfound hgrows⟩
    · rw [heq] at houtcome
      subst houtcome
      cases hsetUp
  | record clock record =>
    by_cases hlevel : 1 ≤ record.level
    · rw [(World.log_withHandlers clock hjournal hlevel).1]
      split
      · exact hfile.leadsToFile_writeLine hleads _
      · exact hleads
    · rw [World.log, deliveries_of_lt _ _ (Int.not_le.mp hlevel)]
      exact hleads
  | other hspares =>
    obtain ⟨bytes, hfound⟩ := hleads
    refine ⟨bytes, (hspares.2 last.file last.fileFrom ?_).trans hfound⟩
    rw [hjournal]
    exact List.mem_cons_self

/-- **At any point of a run** the path of the last successful call leads to its file. -/
theorem Run.leadsToFile {start : World} {events : List Event} (h : Run start events world)
    (hlast : lastSetUp events = some last) : world.tree.LeadsToFile last.file := by
  induction h with
  | nil => cases hlast
  | @snoc events event world after hrun hstep ih =>
    cases hevent : event.setUp? with
    | some call =>
      obtain rfl : call = last := by simpa [lastSetUp_concat, hevent] using hlast
      -- only a call that succeeds sets up the journal, and it has opened the file
      cases hstep with
      | @setUp call' outcome houtcome =>
        rcases world.setUpBy_cases call' with ⟨tree, fault, -, heq⟩ | ⟨tree, hleads, heq⟩
        · rw [heq] at houtcome
          subst houtcome
          cases hevent
        · rw [heq] at houtcome ⊢
          subst houtcome
          obtain rfl := Option.some.inj hevent
          exact hleads
      | record clock record => cases hevent
      | other hspares => cases hevent
    | none =>
      have hbefore : lastSetUp events = some last := by
        simpa [lastSetUp_concat, hevent] using hlast
      have hjournal : world.journal = last.journal := by
        rw [hrun.journal_eq, hbefore]
        rfl
      exact hstep.leadsToFile hevent hjournal (ih hbefore)

end File

/-- **Records follow the last call that set up the journal.** A process sets up the journal as often
as it likes, in any directories and with any names of levels, each time with or without success, and
hands records to it in between. Wherever this has led:

* a call that succeeds now leaves the journal with exactly one file, that of the call, and one
  console, each with its level, and with the lower of the two for its own level;
* a call that fails now leaves the journal as it is;
* once a call has succeeded, the journal has the handlers of the last one that did, and the path of
  that call leads to a file. A record of level one or above, from whichever part of a program, goes
  to the file if it reaches the level of the file, then to the console if it reaches the level of
  the console, and nowhere else. The console shows it once more.

What goes to the file is lost if the file has to be put aside and cannot be: the tree stays as it is
then, and there is one more mishap. Otherwise the line of the record stands in the file once more,
behind what the file held or, if that had to be put aside, alone; and what was put aside is under
its new name. What stands at the places of earlier calls stays as it is, but for the places that the
file is put aside to and all that is below them. And what some handler accepts, the journal lets
pass. -/
theorem records_follow_the_last_set_up {tree : FileTree} {events : List Event} {world : World}
    (hrun : Run (.start tree) events world) :
    (∀ call path, (world.setUpBy call).2 = .ok path →
      path = call.path ∧
        (world.setUpBy call).1.journal.handlers =
          [.file call.file call.fileFrom, .console call.consoleFrom] ∧
        (world.setUpBy call).1.journal.level = min call.fileFrom call.consoleFrom) ∧
    (∀ call fault, (world.setUpBy call).2 = .error fault →
      (world.setUpBy call).1.journal = world.journal) ∧
    ∀ last, lastSetUp events = some last →
      world.journal.handlers =
        [.file last.file last.fileFrom, .console last.consoleFrom] ∧
      world.tree.LeadsToFile last.file ∧
      ∀ clock record, 1 ≤ record.level →
      let line := record.fileLine clock
      let deliveries := world.journal.deliveries clock record
      let after := world.log clock record
      let putsAside := world.tree.mustRotate last.place line = true
      deliveries =
        (if last.fileFrom ≤ record.level then [.file last.file line] else []) ++
          (if last.consoleFrom ≤ record.level then [.console record.consoleLine] else []) ∧
      after.errors =
        world.errors ++ (if last.consoleFrom ≤ record.level then record.consoleLine else "") ∧
      (record.level < last.fileFrom →
        after.tree = world.tree ∧ after.mishaps = world.mishaps) ∧
      (last.fileFrom ≤ record.level → putsAside ∧ world.tree.Blocks last.file →
        after.tree = world.tree ∧ ∃ fault, after.mishaps = world.mishaps ++ [fault]) ∧
      (last.fileFrom ≤ record.level → ¬ (putsAside ∧ world.tree.Blocks last.file) →
        after.mishaps = world.mishaps ∧
        after.tree.content last.place =
          (if world.tree.mustRotate last.place line then .empty
            else world.tree.content last.place) ++ line.toUTF8 ∧
        (putsAside →
          after.tree.content (asidePlace last.place 1) = world.tree.content last.place)) ∧
      (∀ earlier ∈ setUps events, earlier.place ≠ last.place →
        (∀ text, .file earlier.file text ∉ deliveries) ∧
        ((putsAside → ¬ last.place <+: earlier.place ∧
            ∀ number ∈ [1, 2, 3], ¬ asidePlace last.place number <+: earlier.place) →
          after.tree.content earlier.place = world.tree.content earlier.place)) ∧
      ∀ handler ∈ world.journal.handlers, handler.level ≤ record.level →
        world.journal.passes record.level = true := by
  refine ⟨fun call path h => ?_, fun call fault h => ?_, fun last hlast => ?_⟩
  · rcases world.setUpBy_cases call with ⟨made, fault, -, heq⟩ | ⟨made, -, heq⟩
    · rw [heq] at h
      cases h
    · rw [heq] at h ⊢
      exact ⟨(Except.ok.inj h).symm, rfl, rfl⟩
  · rcases world.setUpBy_cases call with ⟨made, fault', -, heq⟩ | ⟨made, -, heq⟩
    · rw [heq]
    · rw [heq] at h
      cases h
  · -- the journal is the one of the last call that succeeded, whatever came after it
    have hjournal : world.journal = last.journal := by
      rw [hrun.journal_eq, hlast]
      rfl
    have hleads := hrun.leadsToFile hlast
    obtain ⟨dir, hfile⟩ := last.exists_isJournalFile
    refine ⟨hjournal ▸ rfl, hleads, fun clock record hlevel => ?_⟩
    have hdeliveries : world.journal.deliveries clock record =
        (if last.fileFrom ≤ record.level then [.file last.file (record.fileLine clock)] else []) ++
          if last.consoleFrom ≤ record.level then [.console record.consoleLine] else [] := by
      rw [hjournal]
      exact deliveries_withHandlers hlevel
    obtain ⟨htree, hmishaps, herrors⟩ := World.log_withHandlers clock hjournal hlevel
    refine ⟨hdeliveries, herrors, fun hbelow => ?_, fun hreached hlost => ?_,
      fun hreached hkept => ?_, fun earlier _ hne => ⟨fun text hmem => ?_, fun hapart => ?_⟩,
      fun handler hhandler hreached => ?_⟩
    · rw [htree, hmishaps, if_neg (Int.not_le.mpr hbelow), if_neg (Int.not_le.mpr hbelow)]
      exact ⟨rfl, List.append_nil _⟩
    · obtain ⟨fault, hwrite⟩ := hfile.writeLine_of_blocks hleads hlost.1 hlost.2
      rw [htree, hmishaps, if_pos hreached, if_pos hreached, hwrite]
      exact ⟨rfl, fault, rfl⟩
    · obtain ⟨after, hwrite, -, hcontent, haside, -⟩ :=
        hfile.exists_writeLine_eq hleads fun hmust hblocks => hkept ⟨hmust, hblocks⟩
      rw [htree, hmishaps, if_pos hreached, if_pos hreached, hwrite]
      exact ⟨List.append_nil _, hcontent, haside⟩
    · -- the only file in the list is that of the last call
      rw [hdeliveries] at hmem
      rcases List.mem_append.mp hmem with hmem | hmem
      · split at hmem
        · have hsame := (Delivery.file.inj (List.mem_singleton.mp hmem)).1
          exact hne (congrArg Path.parts hsame)
        · cases hmem
      · split at hmem
        · cases List.mem_singleton.mp hmem
        · cases hmem
    · rw [htree]
      split
      · exact hfile.content_writeLine_of_apart hleads hne hapart
      · rfl
    · rw [hjournal] at hhandler ⊢
      refine passes_withHandlers_iff.mpr ⟨hlevel, ?_⟩
      rcases List.mem_cons.mp hhandler with rfl | hhandler
      · exact .inl hreached
      · rw [List.mem_singleton.mp hhandler] at hreached
        exact .inr hreached

/-- A call that succeeds, one that fails since a file is in its way, and one that succeeds in
another directory, with one name of a level that is not known and one that asks for everything. -/
theorem records_follow_the_last_set_up_past_a_failure :
    let first : SetUpCall := ⟨["home"], "debug", some ⟨.single, ["a"]⟩, "ERROR"⟩
    let failing : SetUpCall := ⟨["home"], "INFO", some ⟨.single, ["a", "pipeparse.log"]⟩, "INFO"⟩
    let second : SetUpCall := ⟨["home"], "verbose", none, "notset"⟩
    let record : Record := ⟨Level.info, "tool", "text"⟩
    let set := ((World.start ⟨[]⟩).setUpBy first).1
    let kept := (set.setUpBy failing).1
    let moved := (kept.setUpBy second).1
    kept.journal = set.journal ∧
      moved.journal.deliveries "12:00" record =
        [.file ⟨.single, ["home", "logs", "pipeparse.log"]⟩ "12:00 | INFO     | tool | text\n",
          .console "INFO: tool: text\n"] ∧
      (moved.log "12:00" record).tree.content ["home", "logs", "pipeparse.log"] =
        .empty ++ "12:00 | INFO     | tool | text\n".toUTF8 ∧
      (moved.log "12:00" record).tree.content ["a", "pipeparse.log"] =
        moved.tree.content ["a", "pipeparse.log"] := by
  intro first failing second record set kept moved
  have hset : Run (World.start ⟨[]⟩) [.setUp first _] set := .snoc .nil (.setUp rfl)
  have hkept : Run (World.start ⟨[]⟩) [.setUp first _, .setUp failing _] kept :=
    .snoc hset (.setUp rfl)
  have hmoved : Run (World.start ⟨[]⟩) [.setUp first _, .setUp failing _, .setUp second _] moved :=
    .snoc hkept (.setUp rfl)
  obtain ⟨-, hfails, -⟩ := records_follow_the_last_set_up hset
  obtain ⟨-, -, hlast⟩ := records_follow_the_last_set_up hmoved
  obtain ⟨-, -, hrecords⟩ := hlast second (by decide +kernel)
  obtain ⟨hdeliveries, -, -, -, hwritten, hearlier, -⟩ := hrecords "12:00" record (by decide)
  have hfirst : first.place = ["a", "pipeparse.log"] := by decide +kernel
  have hsecond : second.place = ["home", "logs", "pipeparse.log"] := by decide +kernel
  have hmust : moved.tree.mustRotate second.place (record.fileLine "12:00") = false := by
    decide +kernel
  -- the file is far from its limit, so it is not put aside
  have hline := (hwritten (by decide +kernel) fun hlost => absurd hlost.1 (by simp [hmust])).2.1
  have hcontent := (hearlier first (by decide +kernel) (by decide +kernel)).2
    fun hlost => absurd hlost (by simp [hmust])
  rw [hfirst] at hcontent
  rw [hmust, hsecond] at hline
  have hfault : (set.setUpBy failing).2 =
      .error (.refused .occupied (Path.mk .single ["a", "pipeparse.log"]).text) := rfl
  exact ⟨hfails failing _ hfault, hdeliveries.trans (by decide +kernel),
    hline.trans (by decide +kernel), hcontent⟩

/-! ### Directories under the names of files put aside -/

/-- A call for a directory, with the usual levels. -/
def callIn (dir : List String) : SetUpCall := ⟨[], "INFO", some ⟨.single, dir⟩, "WARNING"⟩

/-- A record of the journal's level. -/
def infoRecord (text : String) : Record := ⟨Level.info, "a", text⟩

/-- The world after some calls, each of which may fail. -/
def World.afterCalls (world : World) (calls : List SetUpCall) : World :=
  calls.foldl (fun world call => (world.setUpBy call).1) world

section Moved

variable {world : World} {dir : List String} {text : String}

/-- What becomes of the file when a record of the journal's level is handed over. -/
theorem World.log_infoRecord (hjournal : world.journal = (callIn dir).journal) (text : String) :
    let written := world.tree.writeLine (callIn dir).file ((infoRecord text).fileLine "12:00")
    let after := world.log "12:00" (infoRecord text)
    after.tree = written.1 ∧ after.mishaps = world.mishaps ++ written.2.toList := by
  have hreached : (callIn dir).fileFrom ≤ (infoRecord text).level := by
    show levelNamed "INFO" Level.info ≤ Level.info
    decide +kernel
  have hlevel : 1 ≤ (infoRecord text).level := by
    show 1 ≤ Level.info
    decide
  obtain ⟨htree, hmishaps, -⟩ := World.log_withHandlers "12:00" hjournal hlevel
  rw [if_pos hreached] at htree hmishaps
  exact ⟨htree, hmishaps⟩

/-- **A record that is long by itself** makes the journal put its file aside, and is written if that
can be done. -/
theorem World.log_of_long (hjournal : world.journal = (callIn dir).journal)
    (h : rotationLimit ≤ text.length) :
    let file := (callIn dir).file
    let rotated := world.tree.rotate file
    let after := world.log "12:00" (infoRecord text)
    after.tree = (if rotated.2.isNone then
        rotated.1.append file.parts ((infoRecord text).fileLine "12:00") else rotated.1) ∧
      after.mishaps = world.mishaps ++ rotated.2.toList := by
  have hlong : rotationLimit ≤ ((infoRecord text).fileLine "12:00").length := by
    simp only [Record.fileLine, infoRecord, String.length_append]
    omega
  have hlog := World.log_infoRecord hjournal text
  rwa [FileTree.writeLine_of_long hlong] at hlog

/-- A record for which there is room is written behind what the file holds. -/
theorem World.content_log_of_short (hjournal : world.journal = (callIn dir).journal)
    (hshort : world.tree.mustRotate (callIn dir).place
      ((infoRecord text).fileLine "12:00") = false) :
    (world.log "12:00" (infoRecord text)).tree.content (callIn dir).place =
      world.tree.content (callIn dir).place ++ ((infoRecord text).fileLine "12:00").toUTF8 := by
  have hne : (callIn dir).place ≠ [] := by
    obtain ⟨directory, hfile⟩ := (callIn dir).exists_isJournalFile
    rw [SetUpCall.place, hfile.parts]
    simp
  rw [(World.log_infoRecord hjournal text).1, FileTree.writeLine]
  rw [SetUpCall.place] at hshort hne ⊢
  rw [hshort]
  exact FileTree.content_put_self _ _ hne

/-- **A long record is lost, or it moves the file of another call.** There are calls for a directory
and for two others in it, under names that the file of the first is put aside to. Where the file
moves the one to the place of the other, a call for that other goes on in the file that was moved.
Where both are there, the file cannot be put aside, and the record is lost. -/
theorem long_record_is_lost_or_moves_a_file (h : rotationLimit ≤ text.length) :
    let second := callIn ["d", "pipeparse.log.2"]
    let third := callIn ["d", "pipeparse.log.3"]
    let written := ((World.start ⟨[]⟩).afterCalls [second]).log "12:00" (infoRecord "one")
    let moved :=
      ((written.afterCalls [callIn ["d"]]).log "12:00" (infoRecord text)).afterCalls [third]
    let taken := (World.start ⟨[]⟩).afterCalls [third, second, callIn ["d"]]
    let lost := taken.log "12:00" (infoRecord text)
    (second.place ≠ third.place ∧ moved.journal = third.journal ∧
        written.tree.content second.place = "12:00 | INFO     | a | one\n".toUTF8 ∧
        (moved.log "12:00" (infoRecord "two")).tree.content third.place =
          "12:00 | INFO     | a | one\n".toUTF8 ++
            ((infoRecord "two").fileLine "12:00").toUTF8) ∧
      taken.journal = (callIn ["d"]).journal ∧ (callIn ["d"]).fileFrom ≤ Level.info ∧
        lost.tree.content (callIn ["d"]).place = .empty ∧ lost.mishaps.length = 1 := by
  intro second third written moved taken lost
  obtain ⟨hmoved, -⟩ := World.log_of_long
    (show (written.afterCalls [callIn ["d"]]).journal = (callIn ["d"]).journal by decide +kernel) h
  obtain ⟨hlost, hmishaps⟩ := World.log_of_long
    (show taken.journal = (callIn ["d"]).journal by decide +kernel) h
  -- the directory of the first call has the other name now, with the file in it
  have hrotated : (written.afterCalls [callIn ["d"]]).tree.rotate (callIn ["d"]).file =
      (⟨[(["d"], .directory), (["d", "pipeparse.log.3"], .directory),
        (["d", "pipeparse.log.3", "pipeparse.log"],
          .file "12:00 | INFO     | a | one\n".toUTF8),
        (["d", "pipeparse.log.1"], .file .empty), (["d", "pipeparse.log"], .file .empty)]⟩,
        none) := by
    decide +kernel
  rw [hrotated] at hmoved
  -- and the next call opens that file, whatever stands in the one of the journal
  have hopened : ∀ world : World, ∀ bytes : ByteArray,
      world.tree = ⟨[(["d"], .directory), (["d", "pipeparse.log.3"], .directory),
        (["d", "pipeparse.log.3", "pipeparse.log"],
          .file "12:00 | INFO     | a | one\n".toUTF8),
        (["d", "pipeparse.log.1"], .file .empty), (["d", "pipeparse.log"], .file bytes)]⟩ →
      (world.afterCalls [third]).journal = third.journal ∧
        (world.afterCalls [third]).tree.content third.place =
          "12:00 | INFO     | a | one\n".toUTF8 := by
    rintro ⟨tree, journal, output, errors, mishaps⟩ bytes rfl
    exact ⟨rfl, rfl⟩
  obtain ⟨hjournal, hheld⟩ := hopened _ _ hmoved
  have hshort :
      moved.tree.mustRotate third.place ((infoRecord "two").fileLine "12:00") = false := by
    rw [FileTree.mustRotate, hheld]
    decide +kernel
  have hnone : taken.mishaps = [] := by decide +kernel
  have hblocked : (taken.tree.rotate (callIn ["d"]).file).2.toList.length = 1 := by decide +kernel
  have hempty :
      (taken.tree.rotate (callIn ["d"]).file).1.content (callIn ["d"]).place = .empty := by
    decide +kernel
  have hstopped : (taken.tree.rotate (callIn ["d"]).file).2.isNone = false := by decide +kernel
  refine ⟨⟨by decide +kernel, hjournal, by decide +kernel, ?_⟩, by decide +kernel,
    by decide +kernel, ?_, ?_⟩
  · rw [World.content_log_of_short hjournal hshort, hheld]
  · rw [hlost, hstopped, if_neg Bool.false_ne_true, hempty]
  · rw [hmishaps, hnone, List.nil_append, hblocked]

end Moved

/-- **A record can be lost, and it can get into the file of an earlier call** with another
directory. -/
theorem record_is_lost_or_joins_an_earlier_file :
    let second := callIn ["d", "pipeparse.log.2"]
    let third := callIn ["d", "pipeparse.log.3"]
    let long := String.ofList (List.replicate 1000000 'x')
    let written := ((World.start ⟨[]⟩).afterCalls [second]).log "12:00" (infoRecord "one")
    let moved :=
      ((written.afterCalls [callIn ["d"]]).log "12:00" (infoRecord long)).afterCalls [third]
    let taken := (World.start ⟨[]⟩).afterCalls [third, second, callIn ["d"]]
    let lost := taken.log "12:00" (infoRecord long)
    (second.place ≠ third.place ∧ moved.journal = third.journal ∧
        written.tree.content second.place = "12:00 | INFO     | a | one\n".toUTF8 ∧
        (moved.log "12:00" (infoRecord "two")).tree.content third.place =
          "12:00 | INFO     | a | one\n".toUTF8 ++
            ((infoRecord "two").fileLine "12:00").toUTF8) ∧
      taken.journal = (callIn ["d"]).journal ∧ (callIn ["d"]).fileFrom ≤ Level.info ∧
        lost.tree.content (callIn ["d"]).place = .empty ∧ lost.mishaps.length = 1 := by
  refine long_record_is_lost_or_moves_a_file ?_
  rw [String.length_ofList, List.length_replicate, rotationLimit]

end ShellPipeline
