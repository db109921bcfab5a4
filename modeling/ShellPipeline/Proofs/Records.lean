import ShellPipeline.Journal
import ShellPipeline.Proofs.LineReport

/-!
# The records of a parse

A parse gets to the first so many segments of its line, all of them without the strict rule
(`exists_attempts_eq`). Behind the record of the cut, each of these segments leaves a `trail` of its
own: a record of its tokens where it has any, and then either a record of the subcommand or one that
says why the segment is rejected. Only the last kind is urgent. So what is left of the records above
the level for debugging is one notice for each error of the result, in the order of the errors
(`filter_parseRecords`).

Nothing of a line can make a record look like two. What a record takes from the line stands quoted,
or it is an operator; numbers and fixed words make up the rest, and all of these are printable. No
character that may end a line is printable (`Text.AllPrintable.oneLine`), and so each record is one
line of the journal's file (`Record.Tame.exists_fileLine`).

* `trail`, `parseRecords_eq` — the records, segment by segment;
* `Record.Tame` — what every record of a parse is;
* `records_mirror_the_result` — all of it.
-/

namespace ShellPipeline

open Text (AllPrintable)

/-! ### Texts on one line -/

namespace Text

theorem OneLine.padRight {s : String} (h : OneLine s) (width : Nat) :
    OneLine (ShellPipeline.padRight width s) := by
  refine h.append fun c hc => ?_
  rw [String.toList_ofList] at hc
  rw [(List.mem_replicate.mp hc).2]
  decide

end Text

open Text (OneLine)

/-! ### Messages -/

theorem allPrintable_quoteOption (item : Option String) : AllPrintable (quoteOption item) := by
  cases item with
  | none => exact (by decide : AllPrintable "None")
  | some s => exact Text.allPrintable_quote s

theorem allPrintable_quoteVector (items : List (Option String)) :
    AllPrintable (quoteVector items) := by
  have hopen : AllPrintable "(" := by decide
  have hcomma : AllPrintable ", " := by decide
  unfold quoteVector
  split
  · have hclose : AllPrintable ",)" := by decide
    exact (hopen.append (allPrintable_quoteOption _)).append hclose
  · have hclose : AllPrintable ")" := by decide
    refine (hopen.append (hcomma.intercalate fun piece hpiece => ?_)).append hclose
    obtain ⟨item, -, rfl⟩ := List.mem_map.mp hpiece
    exact allPrintable_quoteOption item

/-- **A subcommand with all its parts is printable**, whatever its words are. -/
theorem allPrintable_detail (sub : Subcommand) : AllPrintable sub.detail := by
  have hname : AllPrintable sub.mode.name := by cases sub.mode <;> decide
  have hword : AllPrintable sub.mode.word := by cases sub.mode <;> decide
  -- what stands between the parts is fixed
  have hargs : AllPrintable "Subcommand(exec_args=" := by decide
  have hinput : AllPrintable ", input=" := by decide
  have houtput : AllPrintable ", output=" := by decide
  have hmode : AllPrintable ", mode=<RedirectMode." := by decide
  have hcolon : AllPrintable ": '" := by decide
  have hclose : AllPrintable "'>)" := by decide
  have htoInput := (hargs.append (allPrintable_quoteVector sub.execArgs)).append hinput
  have htoOutput := (htoInput.append (allPrintable_quoteOption sub.input)).append houtput
  have htoMode := (htoOutput.append (allPrintable_quoteOption sub.output)).append hmode
  exact (((htoMode.append hname).append hcolon).append hword).append hclose

/-- The wording of the records that count the parts of a text. -/
theorem allPrintable_counted {head unit : String} (hhead : AllPrintable head)
    (hunit : AllPrintable unit) (text : String) (n : Int) :
    AllPrintable (head ++ Text.quote text ++ " into " ++ toString n ++ unit) := by
  have hinto : AllPrintable " into " := by decide
  exact (((hhead.append (Text.allPrintable_quote text)).append hinto).append
    (Text.allPrintable_toString n)).append hunit

theorem allPrintable_splitRecord (line : String) (commandline : Commandline) :
    AllPrintable (splitRecord line commandline).message := by
  have hhead : AllPrintable "Split " := by decide
  have hunit : AllPrintable " subcommands" := by decide
  exact allPrintable_counted hhead hunit line commandline.num

theorem allPrintable_tokensRecord (segment : String) (tokens : List Token) :
    AllPrintable (tokensRecord segment tokens).message := by
  have hhead : AllPrintable "Tokenized " := by decide
  have hunit : AllPrintable " arguments" := by decide
  exact allPrintable_counted hhead hunit segment tokens.length

theorem allPrintable_assembledRecord (sub : Subcommand) :
    AllPrintable (assembledRecord sub).message := by
  have hhead : AllPrintable "Assembled " := by decide
  exact hhead.append (allPrintable_detail sub)

/-- The wording of a rejection, with the number of its segment. -/
theorem message_rejectedRecord (fault : SyntaxFault) (index : Int) :
    (rejectedRecord (fault.notice (some index))).message =
      "Rejected segment " ++ toString index ++ ": " ++ fault.message := by
  have hhead : "Rejected " ++ "segment " = "Rejected segment " := by decide
  calc (rejectedRecord (fault.notice (some index))).message
      = "Rejected " ++ "segment " ++ toString index ++ ": " ++ fault.message := by
        simp only [String.append_assoc, rejectedRecord, SyntaxFault.notice, Notice.text]
    _ = "Rejected segment " ++ toString index ++ ": " ++ fault.message := by rw [hhead]

theorem allPrintable_rejectedRecord {segment : String} {fault : SyntaxFault}
    (h : parseSubcommand segment = .error fault) (index : Int) :
    AllPrintable (rejectedRecord (fault.notice (some index))).message := by
  have hhead : AllPrintable "Rejected segment " := by decide
  have hcolon : AllPrintable ": " := by decide
  rw [message_rejectedRecord]
  exact ((hhead.append (Text.allPrintable_toString index)).append hcolon).append
    (allPrintable_message h)

/-! ### The trail of a segment -/

/-- **The records of a segment that a parse gets to**: one of its tokens, where it has any, and then
one of its subcommand or one of its rejection. -/
def trail (index : Nat) (segment : String) : List Record :=
  ((tokenize segment).toOption.map (tokensRecord segment)).toList ++
    match parseSubcommand segment with
    | .ok sub => [assembledRecord sub]
    | .error fault => [rejectedRecord (fault.notice (some (index : Int)))]

theorem records_ofSegment (index : Nat) (segment : String) :
    (Attempt.ofSegment index segment).records = trail index segment := by
  rw [ofSegment_eq]
  unfold Attempt.records segmentRecords Attempt.error? trail parseSubcommand
  cases tokenize segment with
  | error fault => rfl
  | ok tokens =>
    -- behind the record of the tokens, assembling them decides
    simp only [bind, Except.bind]
    cases assemble tokens <;> rfl

/-- A record of a parse, as far as it can be told alone: it is for debugging or it rejects, and both
what it says and where it comes from are on one line. -/
structure Record.Tame (r : Record) : Prop where
  /-- How urgent it is. -/
  level : r.level = Level.debug ∨ r.level = Level.info
  /-- Where it comes from. -/
  source : OneLine r.sourceName
  /-- What it says. -/
  message : OneLine r.message

theorem tame_splitRecord (line : String) (commandline : Commandline) :
    (splitRecord line commandline).Tame :=
  ⟨.inl rfl, (by decide +kernel : OneLine "pipeparse.splitter"),
    (allPrintable_splitRecord line commandline).oneLine⟩

theorem tame_of_mem_trail {index : Nat} {segment : String} {r : Record}
    (h : r ∈ trail index segment) : r.Tame := by
  unfold trail at h
  rcases List.mem_append.mp h with h | h
  · obtain ⟨tokens, -, rfl⟩ := Option.map_eq_some_iff.mp (Option.mem_toList.mp h)
    exact ⟨.inl rfl, (by decide +kernel : OneLine "pipeparse.tokens"),
      (allPrintable_tokensRecord segment tokens).oneLine⟩
  · split at h
    · rename_i sub _
      rw [List.mem_singleton.mp h]
      exact ⟨.inl rfl, (by decide +kernel : OneLine "pipeparse.assembler"),
        (allPrintable_assembledRecord sub).oneLine⟩
    · rename_i fault hfault
      rw [List.mem_singleton.mp h]
      exact ⟨.inr rfl, (by decide +kernel : OneLine "pipeparse.pipeline"),
        (allPrintable_rejectedRecord hfault index).oneLine⟩

/-- **A record that can be told alone is one line of the file.** -/
theorem Record.Tame.exists_fileLine {r : Record} (h : r.Tame) {clock : String}
    (hclock : OneLine clock) : ∃ body, r.fileLine clock = body ++ "\n" ∧ OneLine body := by
  have hbar : OneLine " | " := by decide
  have hname : OneLine r.level.name := by
    rcases h.level with hlevel | hlevel <;> rw [hlevel] <;> decide +kernel
  refine ⟨clock ++ " | " ++ padRight 8 r.level.name ++ " | " ++ r.sourceName ++ " | " ++ r.message,
    rfl, ?_⟩
  exact (((((hclock.append hbar).append (hname.padRight 8)).append hbar).append h.source).append
    hbar).append h.message

/-! ### All records -/

section Records

variable {strict : Bool} {line : String}

/-- **A parse gets to the first so many segments**, and the numbers of its result are theirs. -/
theorem exists_attempts_eq (strict : Bool) (line : String) :
    ∃ n : Nat, (∀ i : Int, i ∈ (parse strict line).accepted ∨ i ∈ (parse strict line).rejected ↔
        1 ≤ i ∧ i ≤ n) ∧
      attempts strict (.ofLine line) =
        attemptAll 1 ((Commandline.ofLine line).segments.take n) := by
  obtain hprefix := attempts_prefix_attemptAll strict (.ofLine line)
  refine ⟨(attempts strict (.ofLine line)).length, fun i => ?_, ?_⟩
  · -- a place is reached just where there is an attempt on it
    have hreached : ∀ k : Nat, Reached strict (Commandline.ofLine line).segments k ↔
        k < (attempts strict (.ofLine line)).length := by
      intro k
      have hinside : k < (attempts strict (.ofLine line)).length ↔
          ∃ a, (attempts strict (.ofLine line))[k]? = some a := by
        rw [← Option.isSome_iff_exists, isSome_getElem?]
      rw [hinside]
      constructor
      · intro h
        obtain ⟨segment, hget⟩ := lt_num_iff.mp (length_segments_ofLine line ▸ h.inside)
        exact ⟨_, getElem?_attempts_eq_some_iff.mpr ⟨segment, hget, h, rfl⟩⟩
      · rintro ⟨a, ha⟩
        obtain ⟨segment, -, h, -⟩ := getElem?_attempts_eq_some_iff.mp ha
        exact h
    rw [mem_accepted_or_rejected_iff_reached]
    simp only [hreached]
    constructor
    · rintro ⟨k, rfl, hk⟩
      omega
    · rintro ⟨hpos, hle⟩
      exact ⟨(i - 1).toNat, by omega, by omega⟩
  · rw [← attemptAll_take]
    exact List.prefix_iff_eq_take.mp hprefix

theorem flatMap_records_attemptAll (index : Nat) (segments : List String) :
    (attemptAll index segments).flatMap (·.records) =
      (segments.zipIdx index).flatMap fun x => trail x.2 x.1 := by
  rw [attemptAll_eq_map, List.flatMap_map]
  exact List.flatMap_congr fun x _ => records_ofSegment x.2 x.1

/-- **The records of a parse, segment by segment**: that of the cut, and the trails of the segments
that the parse gets to. -/
theorem parseRecords_eq (strict : Bool) (line : String) :
    ∃ n : Nat, (∀ i : Int, i ∈ (parse strict line).accepted ∨ i ∈ (parse strict line).rejected ↔
        1 ≤ i ∧ i ≤ n) ∧
      parseRecords strict line = splitRecord line (.ofLine line) ::
        (((Commandline.ofLine line).segments.take n).zipIdx 1).flatMap fun x => trail x.2 x.1 := by
  obtain ⟨n, hnumbers, hattempts⟩ := exists_attempts_eq strict line
  refine ⟨n, hnumbers, ?_⟩
  rw [parseRecords, hattempts, flatMap_records_attemptAll]

theorem tame_of_mem_parseRecords {r : Record} (h : r ∈ parseRecords strict line) : r.Tame := by
  obtain ⟨n, -, hrecords⟩ := parseRecords_eq strict line
  rw [hrecords] at h
  rcases List.mem_cons.mp h with rfl | h
  · exact tame_splitRecord line _
  · obtain ⟨x, -, hx⟩ := List.mem_flatMap.mp h
    exact tame_of_mem_trail hx

/-- The record of an error of a result. -/
def SegmentError.record (e : SegmentError) : Record where
  level := .info
  source := "pipeparse.pipeline"
  message := "Rejected segment " ++ toString e.index ++ ": " ++ e.notice.message

/-- What an attempt leaves above the level for debugging is the record of its error. -/
theorem filter_records (a : Attempt) :
    a.records.filter (fun r => Level.info ≤ r.level) = (a.error?.map (·.record)).toList := by
  have hsteps : (segmentRecords a.segment).filter (fun r => Level.info ≤ r.level) = [] := by
    rw [List.filter_eq_nil_iff]
    intro r hr
    have hlevel : r.level = Level.debug := by
      unfold segmentRecords at hr
      split at hr
      · exact absurd hr List.not_mem_nil
      · rcases List.mem_cons.mp hr with rfl | hr
        · rfl
        · split at hr
          · exact absurd hr List.not_mem_nil
          · rw [List.mem_singleton.mp hr]
            rfl
    rw [hlevel]
    decide
  rw [Attempt.records, List.filter_append, hsteps, List.nil_append]
  cases herror : a.error? with
  | none => rfl
  | some e =>
    -- the number that the notice shows is the number of the error
    obtain ⟨fault, -, rfl⟩ := error?_eq_some_iff.mp herror
    have hrecord : rejectedRecord (fault.notice (some (a.index : Int))) =
        SegmentError.record ⟨a.index, a.segment, fault, some a.index, a.tokens⟩ :=
      congrArg (Record.mk Level.info "pipeparse.pipeline") (message_rejectedRecord fault a.index)
    exact congrArg (fun r => [r]) hrecord

/-- **Above the level for debugging stands one record for each error**, in order. -/
theorem filter_parseRecords (strict : Bool) (line : String) :
    (parseRecords strict line).filter (fun r => Level.info ≤ r.level) =
      (parse strict line).errors.map (·.record) := by
  -- the record of the cut is left out, and of each attempt what it has of an error is left
  have hsplit : ¬ decide (Level.info ≤ (splitRecord line (.ofLine line)).level) = true := by
    rw [decide_eq_true_iff]
    exact (by decide : ¬ Level.info ≤ Level.debug)
  rw [parseRecords, List.filter_cons, if_neg hsplit, List.filter_flatMap, errors_parse,
    List.map_filterMap, List.filterMap_eq_flatMap_toList]
  exact List.flatMap_congr fun a _ => filter_records a

end Records

/-- **The records of a parse mirror its result, and no line can forge one.** Above the level for
debugging there is one record for each error of the result, in the same order, with the number and
the wording of the error; none of them is a warning, and all other records are for debugging. Of
these the first is about the cut of the line. Then each segment that the parse gets to, in order,
leaves one about its tokens where tokenizing accepts it, and then one about its subcommand where
that can be assembled; otherwise its rejection comes last. The segments that the parse gets to are
the first ones, and their numbers are those of the result. No message holds a character that may end
a line, whatever the line holds, and so each record is one line of the file. -/
theorem records_mirror_the_result (strict : Bool) (line : String) :
    let result := parse strict line
    let records := parseRecords strict line
    records.filter (fun r => Level.info ≤ r.level) =
      result.errors.map (fun e => ⟨Level.info, "pipeparse.pipeline",
        "Rejected segment " ++ toString e.index ++ ": " ++ e.notice.message⟩) ∧
    (∀ r ∈ records, (r.level = Level.debug ∨ r.level = Level.info) ∧ r.level < Level.warning) ∧
    (∃ n : Nat, (∀ i : Int, i ∈ result.accepted ∨ i ∈ result.rejected ↔ 1 ≤ i ∧ i ≤ n) ∧
      records = splitRecord line result.commandline ::
        ((result.commandline.segments.take n).zipIdx 1).flatMap fun x => trail x.2 x.1) ∧
    (∀ r ∈ records, ∀ c ∈ r.message.toList, c ∉ Text.lineBreaks) ∧
    ∀ clock, OneLine clock → ∀ r ∈ records, ∃ body,
      r.fileLine clock = body ++ "\n" ∧ OneLine body := by
  intro result records
  refine ⟨filter_parseRecords strict line, fun r hr => ?_, parseRecords_eq strict line,
    fun r hr => (tame_of_mem_parseRecords hr).message,
    fun clock hclock r hr => (tame_of_mem_parseRecords hr).exists_fileLine hclock⟩
  have hlevel := (tame_of_mem_parseRecords hr).level
  refine ⟨hlevel, ?_⟩
  rcases hlevel with hlevel | hlevel <;> rw [hlevel] <;> decide

/-- A quote mark, a newline and a line separator among the words: a good segment, an operator in the
place of a filename, and a blank segment. -/
theorem records_mirror_the_result_line_breaks :
    let line := "ls 'a\nb|cat < >|\u2028"
    let record := splitRecord line ⟨3, ["ls 'a\nb", "cat < >", "\u2028"]⟩
    (parseRecords false line).filter (fun r => Level.info ≤ r.level) =
        [⟨Level.info, "pipeparse.pipeline",
            "Rejected segment 2: expected filename after '<', got '>'"⟩,
          ⟨Level.info, "pipeparse.pipeline", "Rejected segment 3: no command to execute"⟩] ∧
      (record ∈ parseRecords false line ∧ record.level < Level.warning ∧
        ∀ c ∈ record.message.toList, c ∉ Text.lineBreaks) ∧
      OneLine "2001-02-03 04:05:06" ∧
      ∃ body, record.fileLine "2001-02-03 04:05:06" = body ++ "\n" ∧ OneLine body := by
  intro line record
  have hrecord : record ∈ parseRecords false line := by decide +kernel
  have hclock : OneLine "2001-02-03 04:05:06" := by decide +kernel
  obtain ⟨hurgent, hlevel, -, hmessage, hfile⟩ := records_mirror_the_result false line
  exact ⟨hurgent.trans (by decide +kernel), ⟨hrecord, (hlevel record hrecord).2,
    hmessage record hrecord⟩, hclock, hfile _ hclock record hrecord⟩

end ShellPipeline
