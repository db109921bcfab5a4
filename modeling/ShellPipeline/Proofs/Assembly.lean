import ShellPipeline.Proofs.Adjacency
import ShellPipeline.Subcommand

/-!
# Which lists of tokens are a subcommand

`gather` runs along a list of tokens with the operator that waits for its filename. Tokens may be
built by hand, so everything may stand behind everything, and the run has to find out. What it finds
out is a matter of two neighbours again: a filename without an operator directly before it
(`UnboundAt`), and anything but a filename directly behind an operator (`UnansweredAt`). The first
such place is the fault that is reported. A list without such a place is a row of plain words and
of operators with their filenames (`Paired`), possibly with one operator too many at its end.
-/

namespace ShellPipeline

/-! ### Places that are out of order -/

/-- A filename that does not stand directly behind an operator. -/
def UnboundAt (previous : Option Token) (tokens : List Token) (p : Nat) : Prop :=
  (∃ f ∈ tokens[p]?, f.kind = .filename) ∧
    ∀ s ∈ before? previous tokens p, s.kind.isRedirect = false

/-- Something other than a filename that stands directly behind an operator. -/
def UnansweredAt (previous : Option Token) (tokens : List Token) (p : Nat) : Prop :=
  (∃ t ∈ tokens[p]?, t.kind ≠ .filename) ∧
    ∃ s ∈ before? previous tokens p, s.kind.isRedirect = true

instance (previous : Option Token) (tokens : List Token) (p : Nat) :
    Decidable (UnboundAt previous tokens p) :=
  inferInstanceAs (Decidable (_ ∧ _))

instance (previous : Option Token) (tokens : List Token) (p : Nat) :
    Decidable (UnansweredAt previous tokens p) :=
  inferInstanceAs (Decidable (_ ∧ _))

/-- A place that is out of order in one way or the other. -/
def MisplacedAt (previous : Option Token) (tokens : List Token) (p : Nat) : Prop :=
  UnboundAt previous tokens p ∨ UnansweredAt previous tokens p

/-- The operator that waits behind a token. -/
def waitingBehind (previous : Option Token) : Option Redirect := previous.bind (·.kind.operator?)

/-- What is wrong with a token out of order. -/
def misplacement (previous : Option Token) (t : Token) : SyntaxFault :=
  match waitingBehind previous with
  | some operator => .filenameExpected operator t.contents
  | none => .filenameUnbound t.contents

theorem isRedirect_iff {kind : TokenKind} :
    kind.isRedirect = true ↔ ∃ operator, kind = .redirect operator := by
  cases kind <;> simp [TokenKind.isRedirect]

theorem waitingBehind_eq_some_iff {previous : Option Token} {operator : Redirect} :
    waitingBehind previous = some operator ↔ ∃ s ∈ previous, s.kind = .redirect operator := by
  unfold waitingBehind
  rw [Option.bind_eq_some_iff]
  refine exists_congr fun s => and_congr_right fun _ => ?_
  cases s.kind <;> simp

theorem waitingBehind_eq_none_iff {previous : Option Token} :
    waitingBehind previous = none ↔ ∀ s ∈ previous, s.kind.isRedirect = false := by
  unfold waitingBehind
  rw [Option.bind_eq_none_iff]
  refine forall_congr' fun s => forall_congr' fun _ => ?_
  cases s.kind <;> simp [TokenKind.isRedirect]

theorem unboundAt_zero {previous : Option Token} {t : Token} {rest : List Token} :
    UnboundAt previous (t :: rest) 0 ↔ t.kind = .filename ∧ waitingBehind previous = none := by
  simp [UnboundAt, waitingBehind_eq_none_iff]

theorem unansweredAt_zero {previous : Option Token} {t : Token} {rest : List Token} :
    UnansweredAt previous (t :: rest) 0 ↔
      t.kind ≠ .filename ∧ ∃ operator, waitingBehind previous = some operator := by
  rw [← Option.ne_none_iff_exists', Ne, Ne, waitingBehind_eq_none_iff]
  simp [UnansweredAt]

theorem misplacedAt_succ {previous : Option Token} {t : Token} {rest : List Token} {p : Nat} :
    MisplacedAt previous (t :: rest) (p + 1) ↔ MisplacedAt (some t) rest p := by
  simp only [MisplacedAt, UnboundAt, UnansweredAt, before?_cons_succ, List.getElem?_cons_succ]

/-! ### One step -/

/-- A token added to a draft, behind the operator that waits, if one does. -/
def Draft.absorb (waiting : Option Redirect) (draft : Draft) (t : Token) : Draft :=
  match t.kind, waiting with
  | .normal, _ => draft.addWord t.contents
  | .filename, some operator => draft.redirect t.contents operator
  | _, _ => draft

/-- Where a token is out of order, the run stops. -/
theorem gather_cons_of_misplaced {previous : Option Token} {t : Token} {rest : List Token}
    (draft : Draft) (h : MisplacedAt previous (t :: rest) 0) :
    gather (waitingBehind previous) draft (t :: rest) = .error (misplacement previous t) := by
  unfold misplacement
  rcases h with h | h
  · -- a filename, and nothing waits for it
    obtain ⟨hkind, hnone⟩ := unboundAt_zero.mp h
    simp only [gather, hnone, hkind]
  · -- an operator waits, and whatever stands here is no filename
    obtain ⟨hkind, operator, hsome⟩ := unansweredAt_zero.mp h
    cases ht : t.kind with
    | filename => exact absurd ht hkind
    | normal => simp only [gather, hsome, ht]
    | redirect _ => simp only [gather, hsome, ht]

/-- **One step of the run.** A token in order is absorbed, and what waits behind it is the token
itself, if that is an operator. -/
theorem gather_cons_of_not_misplaced {previous : Option Token} {t : Token} {rest : List Token}
    (draft : Draft) (h : ¬ MisplacedAt previous (t :: rest) 0) :
    gather (waitingBehind previous) draft (t :: rest) =
      gather (waitingBehind (some t)) (draft.absorb (waitingBehind previous) t) rest := by
  unfold MisplacedAt at h
  rw [unboundAt_zero, unansweredAt_zero] at h
  push Not at h
  obtain ⟨hbound, hanswered⟩ := h
  have hnext : waitingBehind (some t) = t.kind.operator? := rfl
  rw [hnext]
  cases hw : waitingBehind previous with
  | none =>
    -- nothing waits, so the token is no filename
    cases ht : t.kind with
    | filename => exact absurd hw (hbound ht)
    | normal => simp [gather, Draft.absorb, ht]
    | redirect operator => simp [gather, Draft.absorb, ht]
  | some operator =>
    -- an operator waits, so the token is its filename
    have ht : t.kind = .filename := by
      by_contra hne
      exact hanswered hne operator hw
    simp [gather, Draft.absorb, ht]

theorem gather_cons_normal {t : Token} (h : t.kind = .normal) (draft : Draft) (rest : List Token) :
    gather none draft (t :: rest) = gather none (draft.addWord t.contents) rest := by
  simp only [gather, h]

theorem gather_cons_redirection {s f : Token} {operator : Redirect}
    (hs : s.kind = .redirect operator) (hf : f.kind = .filename) (draft : Draft)
    (rest : List Token) :
    gather none draft (s :: f :: rest) = gather none (draft.redirect f.contents operator) rest := by
  simp only [gather, hs, hf]

/-! ### The whole run -/

/-- A whole list of tokens added to a draft. -/
def Draft.absorbAll (previous : Option Token) (draft : Draft) : List Token → Draft
  | [] => draft
  | t :: rest => (draft.absorb (waitingBehind previous) t).absorbAll (some t) rest

/-- **The first place out of order is the fault.** Whatever stands behind it is not read. -/
theorem gather_of_misplaced {previous : Option Token} {tokens : List Token} {p : Nat}
    (draft : Draft) (h : IsLeast {q | MisplacedAt previous tokens q} p) :
    ∃ t, tokens[p]? = some t ∧
      gather (waitingBehind previous) draft tokens =
        .error (misplacement (before? previous tokens p) t) := by
  induction tokens generalizing previous draft p with
  | nil => exact absurd h.1 (by simp [MisplacedAt, UnboundAt, UnansweredAt])
  | cons t rest ih =>
    cases p with
    | zero => exact ⟨t, rfl, gather_cons_of_misplaced draft h.1⟩
    | succ p =>
      -- the first token passes, and the place is the first one behind it
      have hrest : IsLeast {q | MisplacedAt (some t) rest q} p := by
        simpa only [misplacedAt_succ] using isLeast_of_isLeast_succ h
      obtain ⟨found, hfound, hrun⟩ := ih (draft.absorb (waitingBehind previous) t) hrest
      refine ⟨found, hfound, ?_⟩
      rw [gather_cons_of_not_misplaced draft (not_zero_of_isLeast_succ h), hrun,
        before?_cons_succ]

/-- **Without a place out of order only the end matters.** -/
theorem gather_of_not_misplaced {previous : Option Token} {tokens : List Token} (draft : Draft)
    (h : ∀ p, ¬ MisplacedAt previous tokens p) :
    gather (waitingBehind previous) draft tokens =
      match waitingBehind (tokens.getLast?.or previous) with
      | some operator => .error (.filenameMissing operator)
      | none => .ok (draft.absorbAll previous tokens) := by
  induction tokens generalizing previous draft with
  | nil =>
    -- what is left waiting at the end is the token before it
    cases hw : waitingBehind previous <;> simp [gather, Draft.absorbAll, hw]
  | cons t rest ih =>
    have hrest : ∀ p, ¬ MisplacedAt (some t) rest p := fun p hp =>
      h (p + 1) (misplacedAt_succ.mpr hp)
    rw [gather_cons_of_not_misplaced draft (h 0), ih _ hrest, getLast?_cons_or]
    rfl

/-- The words of a draft are those it had and the plain words of the tokens, in order. -/
theorem absorbAll_words (previous : Option Token) (draft : Draft) (tokens : List Token) :
    (draft.absorbAll previous tokens).words =
      draft.words ++ (tokens.filter (·.kind = .normal)).map (·.contents) := by
  induction tokens generalizing previous draft with
  | nil => simp [Draft.absorbAll]
  | cons t rest ih =>
    rw [Draft.absorbAll, ih]
    cases ht : t.kind with
    | normal => simp [Draft.absorb, Draft.addWord, ht]
    | filename =>
      -- a redirection leaves the words alone, whatever its direction
      cases hw : waitingBehind previous with
      | none => simp [Draft.absorb, ht]
      | some operator => cases operator <;> simp [Draft.absorb, Draft.redirect, ht]
    | redirect operator => simp [Draft.absorb, ht]

/-! ### The grammar of accepted lists -/

/-- **A row of plain words and of operators with their filenames.** -/
inductive Paired : List Token → Prop
  /-- The empty row. -/
  | nil : Paired []
  /-- A plain word first. -/
  | word {t : Token} {rest : List Token} (kind : t.kind = .normal) (more : Paired rest) :
    Paired (t :: rest)
  /-- An operator and its filename first. -/
  | redirection {s f : Token} {rest : List Token} (operator : s.kind.isRedirect = true)
    (filename : f.kind = .filename) (more : Paired rest) : Paired (s :: f :: rest)

/-- A run that goes through has read a row; where an operator waits at its start, the row begins
behind a filename. -/
theorem paired_of_gather {waiting : Option Redirect} {draft result : Draft} {tokens : List Token}
    (h : gather waiting draft tokens = .ok result) :
    match waiting with
    | none => Paired tokens
    | some _ => ∃ f rest, tokens = f :: rest ∧ f.kind = .filename ∧ Paired rest := by
  induction tokens generalizing waiting draft with
  | nil =>
    cases waiting with
    | none => exact .nil
    | some operator => cases h
  | cons t rest ih =>
    -- of the six cases the run goes through in three: word, operator, filename behind an operator
    cases waiting with
    | none =>
      cases ht : t.kind with
      | filename => simp [gather, ht] at h
      | normal =>
        simp only [gather, ht] at h
        exact .word ht (ih h)
      | redirect operator =>
        simp only [gather, ht] at h
        -- the run behind an operator begins with its filename
        obtain ⟨f, more, rfl, hf, hmore⟩ := ih h
        exact .redirection (isRedirect_iff.mpr ⟨operator, ht⟩) hf hmore
    | some operator =>
      cases ht : t.kind with
      | filename =>
        simp only [gather, ht] at h
        exact ⟨t, rest, rfl, ht, ih h⟩
      | normal => simp [gather, ht] at h
      | redirect _ => simp [gather, ht] at h

theorem gather_of_paired {tokens : List Token} (h : Paired tokens) (draft : Draft) :
    ∃ result, gather none draft tokens = .ok result := by
  induction h generalizing draft with
  | nil => exact ⟨draft, rfl⟩
  | word kind _ ih =>
    rw [gather_cons_normal kind]
    exact ih _
  | redirection operator filename _ ih =>
    obtain ⟨r, hr⟩ := isRedirect_iff.mp operator
    rw [gather_cons_redirection hr filename]
    exact ih _

/-- What a run that goes through has seen: no place out of order, no operator at the end, and the
tokens that it absorbed. -/
theorem gather_eq_ok {draft result : Draft} {tokens : List Token}
    (h : gather none draft tokens = .ok result) :
    (∀ p, ¬ MisplacedAt none tokens p) ∧ (∀ s ∈ tokens.getLast?, s.kind.isRedirect = false) ∧
      result = draft.absorbAll none tokens := by
  have horder : ∀ p, ¬ MisplacedAt none tokens p := by
    -- otherwise there is a first such place, and it would be the fault
    intro p hp
    obtain ⟨q, hq⟩ := exists_isLeast hp
    obtain ⟨t, -, hrun⟩ := gather_of_misplaced draft hq
    have hfault : gather none draft tokens = .error _ := hrun
    rw [h] at hfault
    cases hfault
  have hrun : gather none draft tokens = _ := gather_of_not_misplaced draft horder
  rw [h, Option.or_none] at hrun
  cases hw : waitingBehind tokens.getLast? with
  | some operator =>
    -- an operator at the end would be the fault
    rw [hw] at hrun
    cases hrun
  | none =>
    rw [hw] at hrun
    exact ⟨horder, waitingBehind_eq_none_iff.mp hw, Except.ok.inj hrun⟩

/-- The faults of a run are all about operators and filenames. -/
theorem gather_error_kind {draft : Draft} {tokens : List Token} {fault : SyntaxFault}
    (h : gather none draft tokens = .error fault) : fault.kind = .redirect := by
  by_cases horder : ∃ p, MisplacedAt none tokens p
  · -- the fault is at the first place out of order
    obtain ⟨p, hp⟩ := horder
    obtain ⟨q, hq⟩ := exists_isLeast hp
    obtain ⟨t, -, hrun⟩ := gather_of_misplaced draft hq
    have hfault : gather none draft tokens = .error _ := hrun
    rw [h] at hfault
    rw [Except.error.inj hfault]
    unfold misplacement
    split <;> rfl
  · -- the fault is at the end
    push Not at horder
    have hrun : gather none draft tokens = _ := gather_of_not_misplaced draft horder
    rw [h] at hrun
    split at hrun
    · rw [Except.error.inj hrun]
      rfl
    · cases hrun

/-! ### Assembling -/

theorem assemble_of_gather_error {tokens : List Token} {fault : SyntaxFault}
    (h : gather none .empty tokens = .error fault) : assemble tokens = .error fault := by
  unfold assemble
  rw [h]
  rfl

theorem assemble_of_gather_ok {tokens : List Token} {draft : Draft}
    (h : gather none .empty tokens = .ok draft) : assemble tokens = draft.finish := by
  unfold assemble
  rw [h]
  rfl

theorem Draft.finish_of_no_words {draft : Draft} (h : draft.words = []) :
    draft.finish = .error .commandMissing := by
  simp [Draft.finish, h]

theorem Draft.finish_of_words {draft : Draft} (h : draft.words ≠ []) :
    draft.finish = .ok ⟨draft.words.map some ++ [none], draft.input, draft.output, draft.mode⟩ := by
  simp [Draft.finish, h]

/-- A draft is finished to a subcommand only where it has a word. -/
theorem Draft.finish_eq_ok {draft : Draft} {sub : Subcommand} (h : draft.finish = .ok sub) :
    draft.words ≠ [] ∧
      sub = ⟨draft.words.map some ++ [none], draft.input, draft.output, draft.mode⟩ := by
  by_cases hnil : draft.words = []
  · rw [Draft.finish_of_no_words hnil] at h
    cases h
  · rw [Draft.finish_of_words hnil] at h
    exact ⟨hnil, (Except.ok.inj h).symm⟩

/-- The draft of a list of tokens has a word just where the list has a plain word. -/
theorem absorbAll_words_ne_nil_iff {tokens : List Token} :
    (Draft.absorbAll none .empty tokens).words ≠ [] ↔ ∃ t ∈ tokens, t.kind = .normal := by
  rw [absorbAll_words]
  simp [Draft.empty]

/-- What an accepted list has come to: the run went through, and its draft, which has a word, is the
subcommand. -/
theorem assemble_eq_ok {tokens : List Token} {sub : Subcommand} (h : assemble tokens = .ok sub) :
    let draft := Draft.absorbAll none .empty tokens
    gather none .empty tokens = .ok draft ∧ draft.words ≠ [] ∧
      sub = ⟨draft.words.map some ++ [none], draft.input, draft.output, draft.mode⟩ := by
  cases hg : gather none .empty tokens with
  | error fault =>
    rw [assemble_of_gather_error hg] at h
    cases h
  | ok draft =>
    obtain ⟨-, -, rfl⟩ := gather_eq_ok hg
    rw [assemble_of_gather_ok hg] at h
    exact ⟨rfl, Draft.finish_eq_ok h⟩

/-- **The accepted lists**: the rows with a plain word. -/
theorem exists_assemble_eq_ok_iff {tokens : List Token} :
    (∃ sub, assemble tokens = .ok sub) ↔ Paired tokens ∧ ∃ t ∈ tokens, t.kind = .normal := by
  constructor
  · rintro ⟨sub, hsub⟩
    obtain ⟨hg, hword, -⟩ := assemble_eq_ok hsub
    exact ⟨paired_of_gather hg, absorbAll_words_ne_nil_iff.mp hword⟩
  · rintro ⟨hpaired, hword⟩
    obtain ⟨draft, hg⟩ := gather_of_paired hpaired .empty
    obtain ⟨-, -, rfl⟩ := gather_eq_ok hg
    rw [assemble_of_gather_ok hg, Draft.finish_of_words (absorbAll_words_ne_nil_iff.mpr hword)]
    exact ⟨_, rfl⟩

/-! ### The rule of adjacency -/

section Rule

variable {tokens : List Token}

/-- A filename without an operator is what a list is rejected for, where it is the first place out
of order. -/
theorem rejected_of_unbound {p : Nat} (hp : IsLeast {q | MisplacedAt none tokens q} p)
    (h : UnboundAt none tokens p) :
    ∃ f ∈ tokens[p]?, RejectedWith (assemble tokens) .redirect
      ("filename '" ++ f.contents ++ "' has no redirect operator") := by
  obtain ⟨f, hf, hrun⟩ := gather_of_misplaced .empty hp
  have hnone : waitingBehind (before? none tokens p) = none := waitingBehind_eq_none_iff.mpr h.2
  rw [misplacement, hnone] at hrun
  exact ⟨f, hf, _, assemble_of_gather_error hrun, rfl, rfl⟩

/-- An operator without a filename is what a list is rejected for, where the place behind it is the
first one out of order. -/
theorem rejected_of_unanswered {p : Nat} (hp : IsLeast {q | MisplacedAt none tokens q} p)
    (h : UnansweredAt none tokens p) :
    ∃ s ∈ before? none tokens p, ∃ t ∈ tokens[p]?, RejectedWith (assemble tokens) .redirect
      ("expected filename after '" ++ s.kind.value ++ "', got '" ++ t.contents ++ "'") := by
  obtain ⟨t, ht, hrun⟩ := gather_of_misplaced .empty hp
  obtain ⟨-, s, hs, hkind⟩ := h
  obtain ⟨operator, hoperator⟩ := isRedirect_iff.mp hkind
  have hsome : waitingBehind (before? none tokens p) = some operator :=
    waitingBehind_eq_some_iff.mpr ⟨s, hs, hoperator⟩
  rw [misplacement, hsome] at hrun
  refine ⟨s, hs, t, ht, _, assemble_of_gather_error hrun, rfl, ?_⟩
  rw [hoperator]
  rfl

/-- Where every place is in order, an operator at the end is what the list is rejected for. -/
theorem rejected_of_operator_last (horder : ∀ p, ¬ MisplacedAt none tokens p) {s : Token}
    (hs : s ∈ tokens.getLast?) (hkind : s.kind.isRedirect = true) :
    RejectedWith (assemble tokens) .redirect
      ("missing filename after '" ++ s.kind.value ++ "'") := by
  obtain ⟨operator, hoperator⟩ := isRedirect_iff.mp hkind
  have hsome : waitingBehind tokens.getLast? = some operator :=
    waitingBehind_eq_some_iff.mpr ⟨s, hs, hoperator⟩
  have hrun : gather none .empty tokens = _ := gather_of_not_misplaced .empty horder
  rw [Option.or_none, hsome] at hrun
  refine ⟨_, assemble_of_gather_error hrun, rfl, ?_⟩
  rw [hoperator]
  rfl

/-- A list in order to its end goes through. -/
theorem gather_of_order (horder : ∀ p, ¬ MisplacedAt none tokens p)
    (hlast : ∀ s ∈ tokens.getLast?, s.kind.isRedirect = false) :
    gather none .empty tokens = .ok (Draft.absorbAll none .empty tokens) := by
  have hrun : gather none .empty tokens = _ := gather_of_not_misplaced .empty horder
  rw [Option.or_none, waitingBehind_eq_none_iff.mpr hlast] at hrun
  exact hrun

/-- A run that goes through without a plain word leaves no command. -/
theorem rejected_of_no_word (hrun : gather none .empty tokens =
      .ok (Draft.absorbAll none .empty tokens)) (hnone : ∀ t ∈ tokens, t.kind ≠ .normal) :
    RejectedWith (assemble tokens) .emptyCommand "no command to execute" := by
  have hnil : (Draft.absorbAll none .empty tokens).words = [] := by
    by_contra hne
    obtain ⟨t, ht, hkind⟩ := absorbAll_words_ne_nil_iff.mp hne
    exact hnone t ht hkind
  exact ⟨.commandMissing,
    (assemble_of_gather_ok hrun).trans (Draft.finish_of_no_words hnil), rfl, rfl⟩

/-- A list is said to lack a command only when it is a row. -/
theorem paired_of_rejected {message : String}
    (h : RejectedWith (assemble tokens) .emptyCommand message) : Paired tokens := by
  obtain ⟨fault, hfault, hkind, -⟩ := h
  cases hg : gather none .empty tokens with
  | ok draft => exact paired_of_gather hg
  | error found =>
    -- a fault of the run is about operators and filenames
    rw [assemble_of_gather_error hg] at hfault
    cases hfault
    rw [gather_error_kind hg] at hkind
    cases hkind

end Rule

/-- **Adjacency alone decides, for every list.** The list is used up whatever comes of it. The first
place out of order is the fault: a filename without an operator directly before it, or something
else than a filename directly behind an operator. Where every place is in order, an operator at the
end lacks its filename; where there is none, a list without a plain word lacks a command, and every
other list is a subcommand. So the accepted lists are the rows of plain words and of operators with
their filenames that hold a plain word, and only a row is ever said to lack a command. -/
theorem assembleAll_decided_by_adjacency (tokens : List Token) :
    let outcome := (assembleAll tokens).1
    (assembleAll tokens).2 = [] ∧
    (∀ p, IsLeast {q | UnboundAt none tokens q ∨ UnansweredAt none tokens q} p →
      (UnboundAt none tokens p → ∃ f ∈ tokens[p]?, RejectedWith outcome .redirect
        ("filename '" ++ f.contents ++ "' has no redirect operator")) ∧
      (UnansweredAt none tokens p → ∃ s ∈ before? none tokens p, ∃ t ∈ tokens[p]?,
        RejectedWith outcome .redirect
          ("expected filename after '" ++ s.kind.value ++ "', got '" ++ t.contents ++ "'"))) ∧
    ((∀ p, ¬ (UnboundAt none tokens p ∨ UnansweredAt none tokens p)) →
      (∀ s ∈ tokens.getLast?, s.kind.isRedirect = true →
        RejectedWith outcome .redirect ("missing filename after '" ++ s.kind.value ++ "'")) ∧
      ((∀ s ∈ tokens.getLast?, s.kind.isRedirect = false) →
        ((∀ t ∈ tokens, t.kind ≠ .normal) →
          RejectedWith outcome .emptyCommand "no command to execute") ∧
        ((∃ t ∈ tokens, t.kind = .normal) → ∃ sub, outcome = .ok sub))) ∧
    ((∃ sub, outcome = .ok sub) ↔ Paired tokens ∧ ∃ t ∈ tokens, t.kind = .normal) ∧
    ∀ message, RejectedWith outcome .emptyCommand message → Paired tokens := by
  intro outcome
  have hclear : (assembleAll tokens).2 = [] := congrArg Prod.snd (assembleAll_eq tokens)
  have houtcome : outcome = assemble tokens := congrArg Prod.fst (assembleAll_eq tokens)
  rw [houtcome]
  refine ⟨hclear, fun p hp => ⟨rejected_of_unbound hp, rejected_of_unanswered hp⟩,
    fun horder => ⟨fun s hs hkind => rejected_of_operator_last horder hs hkind, fun hlast => ?_⟩,
    exists_assemble_eq_ok_iff, fun message h => paired_of_rejected h⟩
  have hrun := gather_of_order horder hlast
  exact ⟨rejected_of_no_word hrun,
    fun hword => exists_assemble_eq_ok_iff.mpr ⟨paired_of_gather hrun, hword⟩⟩

/-- Five lists, one for each outcome: a second filename behind an operator, an operator behind an
operator, an operator at the end, redirections alone, and a subcommand. -/
theorem assembleAll_decided_by_adjacency_outcomes :
    RejectedWith (assembleAll [⟨">", .redirect .truncate⟩, ⟨"a", .filename⟩, ⟨"b", .filename⟩]).1
        .redirect "filename 'b' has no redirect operator" ∧
      RejectedWith (assembleAll [⟨"<", .redirect .input⟩, ⟨">", .redirect .truncate⟩]).1
        .redirect "expected filename after '<', got '>'" ∧
      RejectedWith (assembleAll [⟨"cat", .normal⟩, ⟨"out", .redirect .append⟩]).1
        .redirect "missing filename after '>>'" ∧
      RejectedWith (assembleAll [⟨"<", .redirect .input⟩, ⟨"a", .filename⟩]).1
        .emptyCommand "no command to execute" ∧
      ∃ sub, (assembleAll [⟨"<", .redirect .input⟩, ⟨"a", .filename⟩, ⟨"wc", .normal⟩]).1 =
        .ok sub := by
  refine ⟨?_, ?_, ?_, ?_, ?_⟩
  · obtain ⟨f, hf, hrun⟩ := ((assembleAll_decided_by_adjacency
      [⟨">", .redirect .truncate⟩, ⟨"a", .filename⟩, ⟨"b", .filename⟩]).2.1 2
        ⟨by decide, by rintro (_ | _ | q) h <;> first | omega | exact absurd h (by decide)⟩).1
        (by decide)
    cases hf
    exact hrun
  · obtain ⟨s, hs, t, ht, hrun⟩ := ((assembleAll_decided_by_adjacency
      [⟨"<", .redirect .input⟩, ⟨">", .redirect .truncate⟩]).2.1 1
        ⟨by decide, by rintro (_ | q) h <;> first | omega | exact absurd h (by decide)⟩).2
        (by decide)
    cases hs
    cases ht
    exact hrun
  · exact ((assembleAll_decided_by_adjacency
      [⟨"cat", .normal⟩, ⟨"out", .redirect .append⟩]).2.2.1
        (by rintro (_ | _ | p) <;> simp [UnboundAt, UnansweredAt, TokenKind.isRedirect])).1
        ⟨"out", .redirect .append⟩ rfl rfl
  · exact (((assembleAll_decided_by_adjacency
      [⟨"<", .redirect .input⟩, ⟨"a", .filename⟩]).2.2.1
        (by rintro (_ | _ | p) <;> simp [UnboundAt, UnansweredAt, TokenKind.isRedirect])).2
        (by decide)).1 (by decide)
  · exact (((assembleAll_decided_by_adjacency
      [⟨"<", .redirect .input⟩, ⟨"a", .filename⟩, ⟨"wc", .normal⟩]).2.2.1
        (by rintro (_ | _ | _ | p) <;> simp [UnboundAt, UnansweredAt, TokenKind.isRedirect])).2
        (by decide)).2 (by decide)

end ShellPipeline
