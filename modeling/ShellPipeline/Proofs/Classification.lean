import ShellPipeline.Proofs.Adjacency
import ShellPipeline.Tokens

/-!
# What a word is, is decided by the word before it

`classify` carries the operator that waits for its filename from one word to the next. The operator
that waits is always the word just before, where that word is an operator at all, so the run has a
description without a state: `role` reads the kind of a word off the word and its predecessor, and
`ClashAt` says at which positions two operators meet. A list of words without such a position whose
last word is no operator becomes the tokens `placed`; in any other list the first meeting, or else
the operator at the end, is the fault that is reported.
-/

namespace ShellPipeline

/-- The kind of a word that stands behind `previous`: an operator is an operator wherever it stands,
another word is a filename behind an operator and a plain word elsewhere. -/
def role (previous : Option String) (word : String) : TokenKind :=
  match Redirect.ofSymbol? word, previous.bind Redirect.ofSymbol? with
  | some operator, _ => .redirect operator
  | none, some _ => .filename
  | none, none => .normal

/-- **The tokens that adjacency gives to a list of words**, each word for itself. -/
def placed (previous : Option String) (words : List String) : List Token :=
  words.mapIdx fun p word => ⟨word, role (before? previous words p) word⟩

/-- Two operators meet: the word at a position is one, and so is the word just before it. -/
def ClashAt (previous : Option String) (words : List String) (p : Nat) : Prop :=
  (∃ u ∈ before? previous words p, IsOperator u) ∧ ∃ w ∈ words[p]?, IsOperator w

@[simp] theorem placed_nil (previous : Option String) : placed previous [] = [] := rfl

@[simp] theorem placed_cons (previous : Option String) (word : String) (rest : List String) :
    placed previous (word :: rest) = ⟨word, role previous word⟩ :: placed (some word) rest := by
  simp only [placed, List.mapIdx_cons, before?_zero, before?_cons_succ]

theorem clashAt_zero {previous : Option String} {word : String} {rest : List String} :
    ClashAt previous (word :: rest) 0 ↔ (∃ u ∈ previous, IsOperator u) ∧ IsOperator word := by
  simp [ClashAt]

theorem clashAt_succ {previous : Option String} {word : String} {rest : List String} {p : Nat} :
    ClashAt previous (word :: rest) (p + 1) ↔ ClashAt (some word) rest p := by
  simp only [ClashAt, before?_cons_succ, List.getElem?_cons_succ]

/-! ### One step -/

/-- Where two operators meet, the run stops. -/
theorem classify_cons_of_clash {previous : Option String} {word : String} {rest : List String}
    (h : ClashAt previous (word :: rest) 0) :
    ∃ operator : Redirect, previous = some operator.symbol ∧
      classify (previous.bind Redirect.ofSymbol?) (word :: rest) =
        .error (.filenameExpected operator word) := by
  obtain ⟨⟨u, rfl, r, rfl⟩, s, rfl⟩ := clashAt_zero.mp h
  refine ⟨r, rfl, ?_⟩
  simp [classify]

/-- **One step of the run.** Where no two operators meet, the word gets the role that adjacency
gives it, and what waits behind it is the word itself, if that is an operator. -/
theorem classify_cons_of_not_clash {previous : Option String} {word : String} {rest : List String}
    (h : ¬ ClashAt previous (word :: rest) 0) :
    classify (previous.bind Redirect.ofSymbol?) (word :: rest) =
      (classify ((some word).bind Redirect.ofSymbol?) rest).map
        (⟨word, role previous word⟩ :: ·) := by
  rw [clashAt_zero, isOperator_iff] at h
  cases hw : previous.bind Redirect.ofSymbol? with
  | none =>
    -- nothing waits, so the word is an operator or a plain word
    cases ho : Redirect.ofSymbol? word <;> simp [classify, role, ho, hw]
  | some r =>
    -- an operator waits, so the word is none, and it is the filename
    obtain ⟨u, hu, hr⟩ := Option.bind_eq_some_iff.mp hw
    have ho : Redirect.ofSymbol? word = none := by
      by_contra hne
      obtain ⟨s, hs⟩ := Option.ne_none_iff_exists'.mp hne
      exact h ⟨⟨u, hu, isOperator_iff.mpr ⟨r, hr⟩⟩, s, hs⟩
    simp [classify, role, ho, hw]

/-- Where nothing waits, a word that is no operator is a plain word. -/
theorem classify_cons_normal {word : String} (h : ¬ IsOperator word) (rest : List String) :
    classify none (word :: rest) = (classify none rest).map (⟨word, .normal⟩ :: ·) := by
  rw [not_isOperator_iff] at h
  simp only [classify, h]

/-- An operator and a word that is none are a redirection, and nothing waits behind them. -/
theorem classify_cons_redirection (operator : Redirect) {word : String} (h : ¬ IsOperator word)
    (rest : List String) :
    classify none (operator.symbol :: word :: rest) = (classify none rest).map
      fun tokens => ⟨operator.symbol, .redirect operator⟩ :: ⟨word, .filename⟩ :: tokens := by
  rw [not_isOperator_iff] at h
  simp only [classify, Redirect.ofSymbol?_symbol, h]
  cases classify none rest <;> rfl

/-! ### The whole run -/

/-- **The first meeting of two operators is the fault.** Whatever stands behind it is not read. -/
theorem classify_of_clash {previous : Option String} {words : List String} {p : Nat}
    (h : IsLeast {q | ClashAt previous words q} p) :
    ∃ (operator : Redirect) (word : String),
      before? previous words p = some operator.symbol ∧ words[p]? = some word ∧
      classify (previous.bind Redirect.ofSymbol?) words =
        .error (.filenameExpected operator word) := by
  induction words generalizing previous p with
  | nil =>
    obtain ⟨-, w, hw, -⟩ := h.1
    simp at hw
  | cons word rest ih =>
    cases p with
    | zero =>
      obtain ⟨operator, hprev, hrun⟩ := classify_cons_of_clash h.1
      exact ⟨operator, word, hprev, rfl, hrun⟩
    | succ p =>
      -- the first word passes, and the meeting is the first one behind it
      have hrest : IsLeast {q | ClashAt (some word) rest q} p := by
        simpa only [clashAt_succ] using isLeast_of_isLeast_succ h
      obtain ⟨operator, found, hbefore, hfound, hrun⟩ := ih hrest
      refine ⟨operator, found, ?_, hfound, ?_⟩
      · rw [before?_cons_succ]
        exact hbefore
      · rw [classify_cons_of_not_clash (not_zero_of_isLeast_succ h), hrun]
        rfl

/-- **Without a meeting of two operators only the end matters.** -/
theorem classify_of_not_clash {previous : Option String} {words : List String}
    (h : ∀ p, ¬ ClashAt previous words p) :
    classify (previous.bind Redirect.ofSymbol?) words =
      match (words.getLast?.or previous).bind Redirect.ofSymbol? with
      | some operator => .error (.filenameMissing operator)
      | none => .ok (placed previous words) := by
  induction words generalizing previous with
  | nil =>
    -- what is left waiting at the end is the word before it
    cases hp : previous.bind Redirect.ofSymbol? <;> simp [classify, hp]
  | cons word rest ih =>
    have hrest : ∀ p, ¬ ClashAt (some word) rest p := fun p hp => h (p + 1) (clashAt_succ.mpr hp)
    rw [classify_cons_of_not_clash (h 0), ih hrest, getLast?_cons_or]
    cases (rest.getLast?.or (some word)).bind Redirect.ofSymbol? with
    | some operator => rfl
    | none => rw [placed_cons]; rfl

/-- A segment is accepted only where no two of its words meet as operators and the last word is no
operator, and its tokens are those that adjacency gives. -/
theorem tokenize_eq_ok {segment : String} {tokens : List Token}
    (h : tokenize segment = .ok tokens) :
    (∀ p, ¬ ClashAt none (Text.words segment) p) ∧
      (∀ w ∈ (Text.words segment).getLast?, ¬ IsOperator w) ∧
      tokens = placed none (Text.words segment) := by
  have hclash : ∀ p, ¬ ClashAt none (Text.words segment) p := by
    -- otherwise there is a first meeting, and it would be the fault
    intro p hp
    obtain ⟨q, hq⟩ := exists_isLeast hp
    obtain ⟨operator, word, -, -, hrun⟩ := classify_of_clash hq
    have hfault : tokenize segment = .error (.filenameExpected operator word) := hrun
    rw [h] at hfault
    cases hfault
  have hrun : tokenize segment = _ := classify_of_not_clash hclash
  rw [h, Option.or_none] at hrun
  refine ⟨hclash, fun w hw => ?_, ?_⟩
  · -- an operator at the end would be the fault
    rw [Option.mem_def.mp hw] at hrun
    rw [not_isOperator_iff]
    cases ho : Redirect.ofSymbol? w with
    | none => rfl
    | some operator => simp [ho] at hrun
  · split at hrun
    · cases hrun
    · exact Except.ok.inj hrun

/-- What is wrong among the words of a segment is told by operators alone. -/
theorem tokenize_eq_error {segment : String} {fault : SyntaxFault}
    (h : tokenize segment = .error fault) :
    (∃ operator found : Redirect, fault = .filenameExpected operator found.symbol) ∨
      ∃ operator, fault = .filenameMissing operator := by
  by_cases hclash : ∃ p, ClashAt none (Text.words segment) p
  · -- the first meeting is the fault, and the second word of it is an operator, too
    obtain ⟨p, hp⟩ := hclash
    obtain ⟨q, hq⟩ := exists_isLeast hp
    obtain ⟨operator, word, -, hword, hrun⟩ := classify_of_clash hq
    have hfault : tokenize segment = .error (.filenameExpected operator word) := hrun
    obtain ⟨-, found, hfound, s, rfl⟩ := hq.1
    obtain rfl : word = s.symbol := Option.mem_unique hword hfound
    rw [h] at hfault
    exact .inl ⟨operator, s, Except.error.inj hfault⟩
  · push Not at hclash
    have hrun : tokenize segment = _ := classify_of_not_clash hclash
    rw [h] at hrun
    split at hrun
    · exact .inr ⟨_, Except.error.inj hrun⟩
    · cases hrun

/-! ### Operators and filenames in the tokens -/

/-- **Every operator has its filename.** A filename stands directly behind each operator, and
nowhere else. -/
structure Bound (tokens : List Token) : Prop where
  /-- Behind an operator stands a filename. -/
  followed : ∀ p, ∀ s ∈ tokens[p]?, s.kind.isRedirect = true →
    ∃ f ∈ tokens[p + 1]?, f.kind = .filename
  /-- Before a filename stands an operator. -/
  preceded : ∀ p, ∀ f ∈ tokens[p]?, f.kind = .filename →
    ∃ s ∈ before? none tokens p, s.kind.isRedirect = true

/-- Behind an operator and its filename stands no second filename. -/
theorem Bound.not_second {tokens : List Token} (h : Bound tokens) {p : Nat} {s g : Token}
    (hs : s ∈ tokens[p]?) (hkind : s.kind.isRedirect = true) (hg : g ∈ tokens[p + 2]?) :
    g.kind ≠ .filename := by
  intro hname
  -- the token before a second filename would be an operator, but it is the first filename
  obtain ⟨f, hf, hfname⟩ := h.followed p s hs hkind
  obtain ⟨s', hs', hredirect⟩ := h.preceded (p + 2) g hg hname
  obtain rfl : f = s' := Option.mem_unique hf hs'
  rw [hfname] at hredirect
  cases hredirect

theorem getElem?_placed (previous : Option String) (words : List String) (p : Nat) :
    (placed previous words)[p]? =
      words[p]?.map fun word => ⟨word, role (before? previous words p) word⟩ := by
  simp [placed]

/-- The contents of the tokens are the words, none lost and none moved. -/
theorem contents_placed (previous : Option String) (words : List String) :
    (placed previous words).map (·.contents) = words := by
  induction words generalizing previous with
  | nil => rfl
  | cons word rest ih => rw [placed_cons, List.map_cons, ih]

/-- The tokens of a segment hold its words. -/
theorem contents_of_tokenize {segment : String} {tokens : List Token}
    (h : tokenize segment = .ok tokens) : tokens.map (·.contents) = Text.words segment := by
  obtain ⟨-, -, rfl⟩ := tokenize_eq_ok h
  exact contents_placed none (Text.words segment)

theorem contents_mem_words {segment : String} {tokens : List Token} {t : Token}
    (h : tokenize segment = .ok tokens) (ht : t ∈ tokens) : t.contents ∈ Text.words segment := by
  rw [← contents_of_tokenize h]
  exact List.mem_map_of_mem ht

theorem role_isRedirect_iff {previous : Option String} {word : String} :
    (role previous word).isRedirect = true ↔ IsOperator word := by
  rw [isOperator_iff]
  unfold role
  cases Redirect.ofSymbol? word <;> cases previous.bind Redirect.ofSymbol? <;>
    simp [TokenKind.isRedirect]

/-- A word that stands behind an operator. -/
theorem exists_isOperator_iff {previous : Option String} :
    (∃ u ∈ previous, IsOperator u) ↔
      ∃ operator, previous.bind Redirect.ofSymbol? = some operator := by
  simp only [isOperator_iff, Option.mem_def, Option.bind_eq_some_iff]
  constructor
  · rintro ⟨u, hu, r, hr⟩
    exact ⟨r, u, hu, hr⟩
  · rintro ⟨r, u, hu, hr⟩
    exact ⟨u, hu, r, hr⟩

theorem role_eq_filename_iff {previous : Option String} {word : String} :
    role previous word = .filename ↔
      (∃ u ∈ previous, IsOperator u) ∧ ¬ IsOperator word := by
  rw [not_isOperator_iff, exists_isOperator_iff]
  unfold role
  cases Redirect.ofSymbol? word <;> cases previous.bind Redirect.ofSymbol? <;> simp

theorem role_eq_normal_iff {previous : Option String} {word : String} :
    role previous word = .normal ↔
      ¬ (IsOperator word ∨ ∃ u ∈ previous, IsOperator u) := by
  rw [isOperator_iff, exists_isOperator_iff]
  unfold role
  cases Redirect.ofSymbol? word <;> cases previous.bind Redirect.ofSymbol? <;> simp

/-- Where no two operators meet and the last word is none, every operator has its filename. -/
theorem bound_placed {words : List String} (hclash : ∀ p, ¬ ClashAt none words p)
    (hlast : ∀ w ∈ words.getLast?, ¬ IsOperator w) : Bound (placed none words) where
  followed := by
    intro p s hs hkind
    rw [getElem?_placed, Option.mem_def, Option.map_eq_some_iff] at hs
    obtain ⟨u, hu, rfl⟩ := hs
    have hoperator : IsOperator u := role_isRedirect_iff.mp hkind
    -- the operator is not the last word, so there is a word behind it
    cases hw : words[p + 1]? with
    | none =>
      have hlen : p + 1 = words.length := by
        have h1 := (List.getElem?_eq_some_iff.mp hu).1
        have h2 := List.getElem?_eq_none_iff.mp hw
        omega
      have hend : words.getLast? = some u := by
        rw [List.getLast?_eq_getElem?, ← hlen]
        exact hu
      exact absurd hoperator (hlast u hend)
    | some w =>
      -- it is no operator, as no two meet, and so it is a filename
      refine ⟨⟨w, role (some u) w⟩, ?_, ?_⟩
      · rw [getElem?_placed, hw, before?_succ, hu]
        rfl
      · refine role_eq_filename_iff.mpr ⟨⟨u, rfl, hoperator⟩, fun h => ?_⟩
        exact hclash (p + 1) ⟨⟨u, hu, hoperator⟩, w, hw, h⟩
  preceded := by
    intro p f hf hkind
    rw [getElem?_placed, Option.mem_def, Option.map_eq_some_iff] at hf
    obtain ⟨w, hw, rfl⟩ := hf
    obtain ⟨⟨u, hu, hoperator⟩, -⟩ := role_eq_filename_iff.mp hkind
    cases p with
    | zero =>
      -- nothing stands before the first word
      cases hu
    | succ p =>
      refine ⟨⟨u, role (before? none words p) u⟩, ?_, role_isRedirect_iff.mpr hoperator⟩
      have hu' : words[p]? = some u := hu
      rw [before?_succ, getElem?_placed, hu']
      rfl

/-- A token that adjacency gives holds an operator only as an operator. -/
theorem not_isOperator_of_mem_placed {previous : Option String} {words : List String} {t : Token}
    (ht : t ∈ placed previous words) (hkind : t.kind.isRedirect = false) :
    ¬ IsOperator t.contents := by
  obtain ⟨p, hp⟩ := List.mem_iff_getElem?.mp ht
  rw [getElem?_placed, Option.map_eq_some_iff] at hp
  obtain ⟨w, -, rfl⟩ := hp
  intro h
  rw [role_isRedirect_iff.mpr h] at hkind
  cases hkind

/-- An operator among the tokens that adjacency gives is spelt as it is. -/
theorem contents_of_mem_placed {previous : Option String} {words : List String} {t : Token}
    {operator : Redirect} (ht : t ∈ placed previous words) (hkind : t.kind = .redirect operator) :
    t.contents = operator.symbol := by
  obtain ⟨p, hp⟩ := List.mem_iff_getElem?.mp ht
  rw [getElem?_placed, Option.map_eq_some_iff] at hp
  obtain ⟨w, -, rfl⟩ := hp
  rw [← Redirect.ofSymbol?_eq_some_iff]
  -- only a word that spells an operator gets the role of one
  have hrole : role (before? previous words p) w = .redirect operator := hkind
  unfold role at hrole
  cases hword : Redirect.ofSymbol? w with
  | some found =>
    simp only [hword] at hrole
    rw [TokenKind.redirect.inj hrole]
  | none =>
    cases hprevious : (before? previous words p).bind Redirect.ofSymbol? <;>
      simp [hword, hprevious] at hrole

/-! ### The rule of adjacency -/

section Rule

variable {segment : String}

/-- The first meeting of two operators is what the segment is rejected for. -/
theorem rejected_of_clash {p : Nat} (hp : IsLeast {q | ClashAt none (Text.words segment) q} p) :
    ∃ u w, before? none (Text.words segment) p = some u ∧ (Text.words segment)[p]? = some w ∧
      RejectedWith (tokenize segment) .redirect
        ("expected filename after '" ++ u ++ "', got '" ++ w ++ "'") := by
  obtain ⟨operator, w, hu, hw, hrun⟩ := classify_of_clash hp
  exact ⟨operator.symbol, w, hu, hw, _, hrun, rfl, rfl⟩

/-- Where no two meet, an operator at the end is what the segment is rejected for. -/
theorem rejected_of_operator_at_end (hclash : ∀ p, ¬ ClashAt none (Text.words segment) p)
    {w : String} (hw : w ∈ (Text.words segment).getLast?) (hoperator : IsOperator w) :
    RejectedWith (tokenize segment) .redirect ("missing filename after '" ++ w ++ "'") := by
  obtain ⟨operator, rfl⟩ := hoperator
  have hend : (Text.words segment).getLast? = some operator.symbol := hw
  have hrun : tokenize segment = _ := classify_of_not_clash hclash
  rw [Option.or_none, hend, Option.bind_some, Redirect.ofSymbol?_symbol] at hrun
  exact ⟨_, hrun, rfl, rfl⟩

/-- Where no two meet and the last word is none, the segment has its tokens. -/
theorem tokenize_of_order (hclash : ∀ p, ¬ ClashAt none (Text.words segment) p)
    (hlast : ∀ w ∈ (Text.words segment).getLast?, ¬ IsOperator w) :
    tokenize segment = .ok (placed none (Text.words segment)) := by
  have hend : (Text.words segment).getLast?.bind Redirect.ofSymbol? = none :=
    Option.bind_eq_none_iff.mpr fun w hw => not_isOperator_iff.mp (hlast w hw)
  have hrun : tokenize segment = _ := classify_of_not_clash hclash
  rw [Option.or_none, hend] at hrun
  exact hrun

/-- The tokens of a segment: every operator has its filename. -/
theorem bound_of_tokenize {tokens : List Token} (h : tokenize segment = .ok tokens) :
    Bound tokens := by
  obtain ⟨hclash, hlast, rfl⟩ := tokenize_eq_ok h
  exact bound_placed hclash hlast

end Rule

/-- **Adjacency alone decides.** Let `words` be the words of a segment. Where operators meet, the
first meeting is the fault, worded with the two words. Where none meet and the last word is an
operator, that one lacks its filename. In every other segment there is one token for each word, in
order, with the role that the word and its predecessor give. In the tokens of a segment exactly one
filename stands behind each operator, every filename stands directly behind an operator, and plain
words and filenames never spell an operator. -/
theorem tokenize_decided_by_adjacency (segment : String) :
    let words := Text.words segment
    (∀ p, IsLeast {q | ClashAt none words q} p →
      ∃ u w, before? none words p = some u ∧ words[p]? = some w ∧
        RejectedWith (tokenize segment) .redirect
          ("expected filename after '" ++ u ++ "', got '" ++ w ++ "'")) ∧
    ((∀ p, ¬ ClashAt none words p) → ∀ w ∈ words.getLast?, IsOperator w →
      RejectedWith (tokenize segment) .redirect ("missing filename after '" ++ w ++ "'")) ∧
    ((∀ p, ¬ ClashAt none words p) → (∀ w ∈ words.getLast?, ¬ IsOperator w) →
      tokenize segment = .ok (words.mapIdx fun p w => ⟨w, role (before? none words p) w⟩)) ∧
    ∀ tokens, tokenize segment = .ok tokens →
      (∀ p, ∀ s ∈ tokens[p]?, s.kind.isRedirect = true →
        (∃ f ∈ tokens[p + 1]?, f.kind = .filename) ∧ ∀ g ∈ tokens[p + 2]?, g.kind ≠ .filename) ∧
      (∀ p, ∀ f ∈ tokens[p]?, f.kind = .filename →
        ∃ s ∈ before? none tokens p, s.kind.isRedirect = true) ∧
      ∀ t ∈ tokens, t.kind = .normal ∨ t.kind = .filename → ¬ IsOperator t.contents := by
  intro words
  refine ⟨fun p hp => rejected_of_clash hp,
    fun hclash w hw hoperator => rejected_of_operator_at_end hclash hw hoperator,
    fun hclash hlast => tokenize_of_order hclash hlast, fun tokens htokens => ?_⟩
  have hbound := bound_of_tokenize htokens
  refine ⟨fun p s hs hkind => ⟨hbound.followed p s hs hkind, fun g hg => ?_⟩, hbound.preceded,
    fun t ht hkind => ?_⟩
  · exact hbound.not_second hs hkind hg
  · obtain ⟨-, -, rfl⟩ := tokenize_eq_ok htokens
    refine not_isOperator_of_mem_placed ht ?_
    rcases hkind with h | h <;> rw [h] <;> rfl

/-- Three segments, one for each outcome: operators that meet twice, an operator at the end, and
neither. -/
theorem tokenize_decided_by_adjacency_outcomes :
    RejectedWith (tokenize "cat > < > in") .redirect "expected filename after '>', got '<'" ∧
      RejectedWith (tokenize "cat < in >>") .redirect "missing filename after '>>'" ∧
      tokenize "cat < in -n" =
        .ok [⟨"cat", .normal⟩, ⟨"<", .redirect .input⟩, ⟨"in", .filename⟩, ⟨"-n", .normal⟩] := by
  have hmeet : Text.words "cat > < > in" = ["cat", ">", "<", ">", "in"] := by decide +kernel
  have hend : Text.words "cat < in >>" = ["cat", "<", "in", ">>"] := by decide +kernel
  have hfine : Text.words "cat < in -n" = ["cat", "<", "in", "-n"] := by decide +kernel
  refine ⟨?_, ?_, ?_⟩
  · -- the first meeting is at the third word, and the one behind it is not read
    have hleast : IsLeast {q | ClashAt none ["cat", ">", "<", ">", "in"] q} 2 := by
      refine ⟨⟨⟨">", rfl, by decide⟩, "<", rfl, by decide⟩, ?_⟩
      rintro (_ | _ | q) h
      · simp [ClashAt] at h
      · exact absurd (clashAt_zero.mp (clashAt_succ.mp h)) (by decide)
      · omega
    obtain ⟨u, w, hu, hw, hrun⟩ :=
      (tokenize_decided_by_adjacency "cat > < > in").1 2 (by rw [hmeet]; exact hleast)
    rw [hmeet] at hu hw
    cases hu
    cases hw
    exact hrun
  · have hnone : ∀ p, ¬ ClashAt none ["cat", "<", "in", ">>"] p := by
      rintro (_ | _ | _ | _ | p) <;> simp [ClashAt] <;> decide
    exact (tokenize_decided_by_adjacency "cat < in >>").2.1 (by rw [hend]; exact hnone) ">>"
      (by rw [hend]; rfl) ⟨.append, rfl⟩
  · have hnone : ∀ p, ¬ ClashAt none ["cat", "<", "in", "-n"] p := by
      rintro (_ | _ | _ | _ | p) <;> simp [ClashAt] <;> decide
    have hrun := (tokenize_decided_by_adjacency "cat < in -n").2.2.1 (by rw [hfine]; exact hnone)
      (by rw [hfine]; intro w hw; cases hw; decide)
    rw [hfine] at hrun
    exact hrun

end ShellPipeline
