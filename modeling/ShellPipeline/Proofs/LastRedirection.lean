import ShellPipeline.Proofs.Assembly

/-!
# The last redirection wins

What `gather` carries along a list of tokens is a draft that each redirection changes. For an
accepted list the outcome can be read off the list without a run. Its redirections are the
operators, each with the contents of the token directly behind it (`redirectionsOf`), and of each
direction only the last one counts (`lastTarget`): it alone names the file, and for an output it
alone sets the mode. The two directions do not meet, and neither meets the words.

* `redirectionsOf_append_cons`, `redirectionsOf_append_of_paired` — where a list of redirections
  falls apart;
* `foldl_redirect`, `gather_of_paired_eq` — redirections applied in order, and what is left of them;
* `assemble_of_paired` — the subcommand of a row with a plain word;
* `lastTarget_of_isGreatest`, `lastTarget_eq_none` — the last redirection by its position.
-/

namespace ShellPipeline

/-! ### Directions and modes -/

/-- Whether an operator names an output. -/
def Redirect.isOutput : Redirect → Bool
  | input => false
  | append | truncate => true

/-- The mode that an operator gives to the output it names; an input operator names none. -/
def Redirect.outputMode : Redirect → OutputMode
  | input => .none
  | append => .append
  | truncate => .truncate

/-! ### The parts of a list -/

/-- The contents of the plain words of a list of tokens, in order. -/
def plainWords (tokens : List Token) : List String :=
  (tokens.filter (·.kind = .normal)).map (·.contents)

/-- **The redirections of a list of tokens**: the operators in order, each with the contents of the
token directly behind it. -/
def redirectionsOf : List Token → List (Redirect × String)
  | [] => []
  | s :: rest =>
    (s.kind.operator?.bind fun operator => rest.head?.map (operator, ·.contents)).toList ++
      redirectionsOf rest

/-- **The last redirection of a direction**, where a list of tokens has one. -/
def lastTarget (output : Bool) (tokens : List Token) : Option (Redirect × String) :=
  ((redirectionsOf tokens).filter (·.1.isOutput == output)).getLast?

/-- The file that the last input redirection names. -/
def inputTarget (tokens : List Token) : Option String := (lastTarget false tokens).map (·.2)

/-- The file that the last output redirection names, with the mode of its operator. -/
def outputTarget (tokens : List Token) : Option String × OutputMode :=
  ((lastTarget true tokens).map (·.2), ((lastTarget true tokens).map (·.1.outputMode)).getD .none)

@[simp] theorem plainWords_append (first second : List Token) :
    plainWords (first ++ second) = plainWords first ++ plainWords second := by
  simp [plainWords]

theorem plainWords_ne_nil_iff {tokens : List Token} :
    plainWords tokens ≠ [] ↔ ∃ t ∈ tokens, t.kind = .normal := by
  simp [plainWords]

theorem redirectionsOf_cons_of_not_redirect {t : Token} (h : t.kind.operator? = none)
    (rest : List Token) : redirectionsOf (t :: rest) = redirectionsOf rest := by
  simp [redirectionsOf, h]

theorem redirectionsOf_cons_redirect {s : Token} {operator : Redirect}
    (h : s.kind = .redirect operator) (f : Token) (rest : List Token) :
    redirectionsOf (s :: f :: rest) = (operator, f.contents) :: redirectionsOf (f :: rest) := by
  simp [redirectionsOf, h]

/-- **A list falls apart at each of its members**: what stands behind the ones before it is seen
with the member added. -/
theorem redirectionsOf_append_cons (before : List Token) (s : Token) (after : List Token) :
    redirectionsOf (before ++ s :: after) =
      redirectionsOf (before ++ [s]) ++ redirectionsOf (s :: after) := by
  induction before with
  | nil => simp [redirectionsOf]
  | cons t before ih =>
    -- the token directly behind the first one is the same in both lists
    have hhead : (before ++ s :: after).head? = (before ++ [s]).head? := by cases before <;> rfl
    simp only [List.cons_append, redirectionsOf.eq_2 t, hhead, ih, List.append_assoc]

/-- **Behind a row nothing is bound across the joint.** -/
theorem redirectionsOf_append_of_paired {first : List Token} (h : Paired first)
    (second : List Token) :
    redirectionsOf (first ++ second) = redirectionsOf first ++ redirectionsOf second := by
  induction h with
  | nil => rfl
  | word kind _ ih =>
    rw [List.cons_append, redirectionsOf_cons_of_not_redirect (by rw [kind]; rfl),
      redirectionsOf_cons_of_not_redirect (by rw [kind]; rfl), ih]
  | redirection operator filename _ ih =>
    obtain ⟨r, hr⟩ := isRedirect_iff.mp operator
    rw [List.cons_append, List.cons_append, redirectionsOf_cons_redirect hr,
      redirectionsOf_cons_redirect hr, redirectionsOf_cons_of_not_redirect (by rw [filename]; rfl),
      redirectionsOf_cons_of_not_redirect (by rw [filename]; rfl), ih, List.cons_append]

theorem exists_mem_redirectionsOf {tokens : List Token} (h : Paired tokens) {s : Token}
    (hs : s ∈ tokens) {operator : Redirect} (hkind : s.kind = .redirect operator) :
    ∃ x ∈ redirectionsOf tokens, x.1 = operator := by
  induction h with
  | nil => cases hs
  | word kind _ ih =>
    rw [redirectionsOf_cons_of_not_redirect (by rw [kind]; rfl)]
    rcases List.mem_cons.mp hs with rfl | hs
    · -- a plain word is no operator
      rw [hkind] at kind
      cases kind
    · exact ih hs
  | redirection hoperator filename _ ih =>
    obtain ⟨r, hr⟩ := isRedirect_iff.mp hoperator
    rw [redirectionsOf_cons_redirect hr,
      redirectionsOf_cons_of_not_redirect (by rw [filename]; rfl)]
    rcases List.mem_cons.mp hs with rfl | hs
    · exact ⟨_, List.mem_cons_self, TokenKind.redirect.inj (hr.symm.trans hkind)⟩
    · rcases List.mem_cons.mp hs with rfl | hs
      · rw [hkind] at filename
        cases filename
      · obtain ⟨x, hx, hxr⟩ := ih hs
        exact ⟨x, List.mem_cons_of_mem _ hx, hxr⟩

theorem exists_redirect_of_mem {tokens : List Token} {x : Redirect × String}
    (h : x ∈ redirectionsOf tokens) : ∃ s ∈ tokens, s.kind = .redirect x.1 := by
  induction tokens with
  | nil => cases h
  | cons s rest ih =>
    rcases List.mem_append.mp h with h | h
    · -- it is the one of the first token, which has its operator there
      obtain ⟨operator, hoperator, h⟩ := Option.bind_eq_some_iff.mp (Option.mem_toList.mp h)
      obtain ⟨f, -, rfl⟩ := Option.map_eq_some_iff.mp h
      refine ⟨s, List.mem_cons_self, ?_⟩
      cases hs : s.kind with
      | redirect r =>
        rw [hs] at hoperator
        rw [Option.some.inj hoperator]
      | normal => simp [hs] at hoperator
      | filename => simp [hs] at hoperator
    · obtain ⟨t, ht, hkind⟩ := ih h
      exact ⟨t, List.mem_cons_of_mem s ht, hkind⟩

/-- The filename of a redirection is what a token holds. -/
theorem exists_filename_of_mem {tokens : List Token} {x : Redirect × String}
    (h : x ∈ redirectionsOf tokens) : ∃ f ∈ tokens, f.contents = x.2 := by
  induction tokens with
  | nil => cases h
  | cons s rest ih =>
    rcases List.mem_append.mp h with h | h
    · -- it is the one of the first token, and its filename is directly behind that
      obtain ⟨operator, -, h⟩ := Option.bind_eq_some_iff.mp (Option.mem_toList.mp h)
      obtain ⟨f, hf, rfl⟩ := Option.map_eq_some_iff.mp h
      exact ⟨f, List.mem_cons_of_mem s (List.mem_of_head? hf), rfl⟩
    · obtain ⟨f, hf, hname⟩ := ih h
      exact ⟨f, List.mem_cons_of_mem s hf, hname⟩

/-! ### The last of a direction -/

/-- The last redirection of a direction is one of them. -/
theorem mem_of_lastTarget {output : Bool} {tokens : List Token} {x : Redirect × String}
    (h : lastTarget output tokens = some x) :
    x ∈ redirectionsOf tokens ∧ x.1.isOutput = output := by
  obtain ⟨hx, houtput⟩ := List.mem_filter.mp (List.mem_of_getLast? h)
  exact ⟨hx, beq_iff_eq.mp houtput⟩

/-- **There is a mode just where there is an output.** -/
theorem outputTarget_mode_eq_none_iff {tokens : List Token} :
    (outputTarget tokens).2 = .none ↔ (outputTarget tokens).1 = none := by
  unfold outputTarget
  cases h : lastTarget true tokens with
  | none => exact iff_of_true rfl rfl
  | some x =>
    have houtput := (mem_of_lastTarget h).2
    cases hx : x.1 with
    | input =>
      rw [hx] at houtput
      cases houtput
    | append | truncate => simp [hx, Redirect.outputMode]

theorem lastTarget_eq_none {output : Bool} {tokens : List Token}
    (h : ∀ s ∈ tokens, ∀ operator, s.kind = .redirect operator → operator.isOutput ≠ output) :
    lastTarget output tokens = none := by
  rw [lastTarget, List.getLast?_eq_none_iff, List.filter_eq_nil_iff]
  intro x hx
  obtain ⟨s, hs, hkind⟩ := exists_redirect_of_mem hx
  simpa using h s hs x.1 hkind

theorem exists_lastTarget {output : Bool} {tokens : List Token} (hrow : Paired tokens) {s : Token}
    (hs : s ∈ tokens) {operator : Redirect} (hkind : s.kind = .redirect operator)
    (houtput : operator.isOutput = output) : ∃ x, lastTarget output tokens = some x := by
  obtain ⟨x, hx, rfl⟩ := exists_mem_redirectionsOf hrow hs hkind
  have hmem : x ∈ (redirectionsOf tokens).filter (·.1.isOutput == output) :=
    List.mem_filter.mpr ⟨hx, by simpa using houtput⟩
  exact ⟨_, List.getLast?_eq_some_getLast (List.ne_nil_of_mem hmem)⟩

/-- **The second of two rows wins** where it has a redirection of the direction. -/
theorem lastTarget_append_of_paired (output : Bool) {first : List Token} (h : Paired first)
    (second : List Token) :
    lastTarget output (first ++ second) =
      (lastTarget output second).or (lastTarget output first) := by
  rw [lastTarget, redirectionsOf_append_of_paired h, List.filter_append, List.getLast?_append]
  rfl

/-- The last place of a property divides a list: behind it the property does not hold again. -/
theorem exists_append_of_isGreatest {α : Type} {P : α → Prop} {l : List α} {p : Nat}
    (h : IsGreatest {q | ∃ a ∈ l[q]?, P a} p) :
    ∃ before a after, l = before ++ a :: after ∧ before.length = p ∧ P a ∧ ∀ b ∈ after, ¬ P b := by
  obtain ⟨⟨a, ha, hP⟩, hlast⟩ := h
  obtain ⟨hp, rfl⟩ := List.getElem?_eq_some_iff.mp ha
  refine ⟨l.take p, l[p], l.drop (p + 1), ?_, ?_, hP, fun b hb hPb => ?_⟩
  · rw [List.getElem_cons_drop, List.take_append_drop]
  · rw [List.length_take, Nat.min_eq_left hp.le]
  · -- its place would be behind the last one
    obtain ⟨k, hk⟩ := List.mem_iff_getElem?.mp hb
    rw [List.getElem?_drop] at hk
    have hle : p + 1 + k ≤ p := hlast ⟨b, hk, hPb⟩
    omega

/-- A row does not end with an operator. -/
theorem Paired.getLast? {tokens : List Token} (h : Paired tokens) :
    ∀ s ∈ tokens.getLast?, s.kind.isRedirect = false := by
  obtain ⟨result, hrun⟩ := gather_of_paired h .empty
  exact (gather_eq_ok hrun).2.1

/-- **The last redirection by its position**: the operator at the last place that has one of the
direction, with the contents of the token directly behind that place. -/
theorem lastTarget_of_isGreatest {output : Bool} {tokens : List Token} (hrow : Paired tokens)
    {p : Nat}
    (h : IsGreatest {q | ∃ s ∈ tokens[q]?, ∃ operator : Redirect,
      s.kind = .redirect operator ∧ operator.isOutput = output} p) :
    ∃ s ∈ tokens[p]?, ∃ f ∈ tokens[p + 1]?, ∃ operator, s.kind = .redirect operator ∧
      lastTarget output tokens = some (operator, f.contents) := by
  obtain ⟨before, s, after, rfl, rfl, ⟨operator, hkind, houtput⟩, hbehind⟩ :=
    exists_append_of_isGreatest h
  cases after with
  | nil =>
    -- the place would be the last one of the row, where no operator is
    have hlast := hrow.getLast? s (by simp)
    rw [hkind] at hlast
    cases hlast
  | cons f rest =>
    refine ⟨s, by simp, f, by simp, operator, hkind, ?_⟩
    -- no redirection behind the last place has the direction
    have hnone : (redirectionsOf (f :: rest)).filter (·.1.isOutput == output) = [] := by
      rw [List.filter_eq_nil_iff]
      intro x hx hdirection
      obtain ⟨t, ht, hop⟩ := exists_redirect_of_mem hx
      exact hbehind t ht ⟨x.1, hop, beq_iff_eq.mp hdirection⟩
    rw [lastTarget, redirectionsOf_append_cons, redirectionsOf_cons_redirect hkind,
      List.filter_append, List.filter_cons_of_pos (by simpa using houtput), hnone,
      List.getLast?_concat]

/-! ### What redirections come to -/

/-- **Redirections applied in order**: of each direction the last one is left, and an output has the
mode of the operator that names it. -/
theorem foldl_redirect (redirections : List (Redirect × String)) (draft : Draft) :
    let last := fun output : Bool => (redirections.filter (·.1.isOutput == output)).getLast?
    redirections.foldl (fun (d : Draft) x => d.redirect x.2 x.1) draft =
      ⟨draft.words, ((last false).map (·.2)).or draft.input,
        ((last true).map (·.2)).or draft.output,
        ((last true).map (·.1.outputMode)).getD draft.mode⟩ := by
  induction redirections using List.reverseRecOn with
  | nil => rfl
  | append_singleton redirections x ih =>
    obtain ⟨operator, filename⟩ := x
    simp only [List.foldl_append, List.foldl_cons, List.foldl_nil, ih, List.filter_append]
    -- the last redirection replaces its own direction and leaves the other one alone
    cases operator <;> simp [Draft.redirect, Redirect.isOutput, Redirect.outputMode]

/-- **The draft of a row**: its plain words behind those of the draft, and its redirections applied
in order. -/
theorem gather_of_paired_eq {tokens : List Token} (h : Paired tokens) (draft : Draft) :
    gather none draft tokens =
      .ok ((redirectionsOf tokens).foldl (fun (d : Draft) x => d.redirect x.2 x.1)
        { draft with words := draft.words ++ plainWords tokens }) := by
  induction h generalizing draft with
  | nil => simp [gather, plainWords, redirectionsOf]
  | word kind _ ih =>
    rw [gather_cons_normal kind, ih, redirectionsOf_cons_of_not_redirect (by rw [kind]; rfl)]
    simp [Draft.addWord, plainWords, kind]
  | redirection operator filename _ ih =>
    obtain ⟨r, hr⟩ := isRedirect_iff.mp operator
    rw [gather_cons_redirection hr filename, ih, redirectionsOf_cons_redirect hr,
      redirectionsOf_cons_of_not_redirect (by rw [filename]; rfl), List.foldl_cons]
    -- a redirection leaves the words alone, so it may come first
    cases r <;> simp [Draft.redirect, plainWords, hr, filename]

/-- **What a row comes to**: its words, its last input, and its last output with the mode of the
operator that names it. -/
theorem gather_of_paired_targets {tokens : List Token} (h : Paired tokens) :
    gather none .empty tokens = .ok ⟨plainWords tokens, inputTarget tokens,
      (outputTarget tokens).1, (outputTarget tokens).2⟩ := by
  rw [gather_of_paired_eq h .empty, foldl_redirect]
  simp [Draft.empty, inputTarget, outputTarget, lastTarget]

/-- **The subcommand of a row with a plain word.** -/
theorem assemble_of_paired {tokens : List Token} (h : Paired tokens)
    (hword : ∃ t ∈ tokens, t.kind = .normal) :
    assemble tokens = .ok ⟨(plainWords tokens).map some ++ [none], inputTarget tokens,
      (outputTarget tokens).1, (outputTarget tokens).2⟩ := by
  rw [assemble_of_gather_ok (gather_of_paired_targets h),
    Draft.finish_of_words (plainWords_ne_nil_iff.mpr hword)]

/-! ### The rule of the last redirection -/

theorem exists_input_iff {kind : TokenKind} :
    (∃ operator : Redirect, kind = .redirect operator ∧ operator.isOutput = false) ↔
      kind = .redirect .input := by
  constructor
  · rintro ⟨operator, rfl, houtput⟩
    cases operator <;> cases houtput
    rfl
  · rintro rfl
    exact ⟨.input, rfl, rfl⟩

theorem exists_output_iff {kind : TokenKind} :
    (∃ operator : Redirect, kind = .redirect operator ∧ operator.isOutput = true) ↔
      kind = .redirect .append ∨ kind = .redirect .truncate := by
  constructor
  · rintro ⟨operator, rfl, houtput⟩
    cases operator
    · cases houtput
    · exact .inl rfl
    · exact .inr rfl
  · rintro (rfl | rfl)
    · exact ⟨.append, rfl, rfl⟩
    · exact ⟨.truncate, rfl, rfl⟩

/-- **Words in order, and of each direction the last redirection.** Whatever list of tokens is
accepted, built by hand or not, its subcommand runs the contents of all plain words in order, closed
by the mark once. Where the list has an input operator, the input is what stands directly behind the
last one; otherwise there is none. Where it has an output operator of either kind, the output is
what stands directly behind the last one of both kinds, and that same operator sets the mode;
otherwise there is no output and the mode says so. -/
theorem assembled_by_last_redirections {tokens : List Token} {sub : Subcommand}
    (h : (assembleAll tokens).1 = .ok sub) :
    sub.execArgs = ((tokens.filter (·.kind = .normal)).map fun t => some t.contents) ++ [none] ∧
    (∀ p : Nat, IsGreatest {q : Nat | ∃ s ∈ tokens[q]?, s.kind = .redirect .input} p →
      ∃ f ∈ tokens[p + 1]?, sub.input = some f.contents) ∧
    ((∀ s ∈ tokens, s.kind ≠ .redirect .input) → sub.input = none) ∧
    (∀ p : Nat, IsGreatest {q : Nat | ∃ s ∈ tokens[q]?,
        s.kind = .redirect .append ∨ s.kind = .redirect .truncate} p →
      ∃ s ∈ tokens[p]?, ∃ f ∈ tokens[p + 1]?, sub.output = some f.contents ∧
        (s.kind = .redirect .append → sub.mode = .append) ∧
        (s.kind = .redirect .truncate → sub.mode = .truncate)) ∧
    ((∀ s ∈ tokens, s.kind ≠ .redirect .append ∧ s.kind ≠ .redirect .truncate) →
      sub.output = none ∧ sub.mode = .none) := by
  have hsub : assemble tokens = .ok sub := (congrArg Prod.fst (assembleAll_eq tokens)).symm.trans h
  -- what is accepted is a row with a plain word, and of a row the outcome is known
  obtain ⟨hrow, hword⟩ := exists_assemble_eq_ok_iff.mp ⟨sub, hsub⟩
  rw [assemble_of_paired hrow hword] at hsub
  obtain rfl := Except.ok.inj hsub
  refine ⟨?_, fun p hp => ?_, fun hnone => ?_, fun p hp => ?_, fun hnone => ?_⟩
  · rw [plainWords, List.map_map]
    rfl
  · simp only [← exists_input_iff] at hp
    obtain ⟨s, -, f, hf, operator, -, hlast⟩ := lastTarget_of_isGreatest hrow hp
    exact ⟨f, hf, by rw [inputTarget, hlast]; rfl⟩
  · rw [inputTarget, lastTarget_eq_none fun s hs operator hkind hinput =>
      hnone s hs (exists_input_iff.mp ⟨operator, hkind, hinput⟩)]
    rfl
  · simp only [← exists_output_iff] at hp
    obtain ⟨s, hs, f, hf, operator, hkind, hlast⟩ := lastTarget_of_isGreatest hrow hp
    rw [outputTarget, hlast]
    -- the operator that names the file is the one that sets the mode
    refine ⟨s, hs, f, hf, rfl, fun h => ?_, fun h => ?_⟩
    · rw [TokenKind.redirect.inj (hkind.symm.trans h)]
      rfl
    · rw [TokenKind.redirect.inj (hkind.symm.trans h)]
      rfl
  · rw [outputTarget, lastTarget_eq_none fun s hs operator hkind houtput =>
      (exists_output_iff.mp ⟨operator, hkind, houtput⟩).elim (hnone s hs).1 (hnone s hs).2]
    exact ⟨rfl, rfl⟩

/-- Three outputs of both kinds and two inputs among the words, built by hand with contents that do
not tell the kinds. -/
theorem assembled_by_last_redirections_interleaved :
    let tokens : List Token := [⟨"-", .redirect .append⟩, ⟨"a", .filename⟩, ⟨"sort", .normal⟩,
      ⟨"-", .redirect .input⟩, ⟨"b", .filename⟩, ⟨"-", .redirect .truncate⟩, ⟨"c", .filename⟩,
      ⟨"<", .normal⟩, ⟨"-", .redirect .append⟩, ⟨"d", .filename⟩, ⟨"-", .redirect .input⟩,
      ⟨">", .filename⟩]
    let sub : Subcommand := ⟨[some "sort", some "<", none], some ">", some "d", .append⟩
    (assembleAll tokens).1 = .ok sub ∧
      (∃ f ∈ tokens[11]?, sub.input = some f.contents) ∧
      ∃ s ∈ tokens[8]?, ∃ f ∈ tokens[9]?, sub.output = some f.contents ∧
        (s.kind = .redirect .append → sub.mode = .append) := by
  intro tokens sub
  have hrun : (assembleAll tokens).1 = .ok sub := by decide +kernel
  obtain ⟨-, hinput, -, houtput, -⟩ := assembled_by_last_redirections hrun
  have hinside : ∀ {q : Nat} {s : Token}, s ∈ tokens[q]? → q < 12 := fun h =>
    (List.getElem?_eq_some_iff.mp h).1
  have hinputs : ∀ q < 12, (∃ s ∈ tokens[q]?, s.kind = .redirect .input) → q ≤ 10 := by
    decide +kernel
  have houtputs : ∀ q < 12, (∃ s ∈ tokens[q]?,
      s.kind = .redirect .append ∨ s.kind = .redirect .truncate) → q ≤ 8 := by decide +kernel
  refine ⟨hrun, hinput 10 ⟨⟨_, rfl, rfl⟩, ?_⟩, ?_⟩
  · rintro q ⟨s, hs, hkind⟩
    exact hinputs q (hinside hs) ⟨s, hs, hkind⟩
  · obtain ⟨s, hs, f, hf, hfile, happend, -⟩ := houtput 8 ⟨⟨_, rfl, .inl rfl⟩, by
      rintro q ⟨s, hs, hkind⟩
      exact houtputs q (hinside hs) ⟨s, hs, hkind⟩⟩
    exact ⟨s, hs, f, hf, hfile, happend⟩

end ShellPipeline
