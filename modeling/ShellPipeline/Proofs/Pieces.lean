import ShellPipeline.Pipeline
import ShellPipeline.Proofs.Assembly
import ShellPipeline.Proofs.Classification
import ShellPipeline.Proofs.Words

/-!
# The pieces of a segment

A segment that has tokens is made of pieces: plain words, and operators with their filenames. A
piece is read alike wherever it stands, since nothing waits in front of it and nothing behind it. So
pieces are read one by one, as words (`classify_pieces`) and as tokens (`gather_pieces`), and a row
of tokens whose operators are spelt as they are is made of pieces (`exists_pieces`).
-/

namespace ShellPipeline

/-- **A piece of a segment.** -/
inductive Piece where
  /-- A plain word. -/
  | word (contents : String)
  /-- An operator, and directly behind it its filename. -/
  | redirection (operator : Redirect) (filename : String)
deriving DecidableEq, Repr

namespace Piece

/-- The words of a piece. -/
def words : Piece → List String
  | word contents => [contents]
  | redirection operator filename => [operator.symbol, filename]

/-- The tokens of a piece. -/
def tokens : Piece → List Token
  | word contents => [⟨contents, .normal⟩]
  | redirection operator filename => [⟨operator.symbol, .redirect operator⟩, ⟨filename, .filename⟩]

/-- A piece whose word, or whose filename, does not spell an operator. -/
def Sound : Piece → Prop
  | word contents => ¬ IsOperator contents
  | redirection _ filename => ¬ IsOperator filename

end Piece

/-- A piece added to a draft. -/
def Draft.take (draft : Draft) : Piece → Draft
  | .word contents => draft.addWord contents
  | .redirection operator filename => draft.redirect filename operator

/-! ### Rows of plain words -/

theorem flatMap_words_word (words : List String) :
    (words.map Piece.word).flatMap Piece.words = words := by
  rw [List.flatMap_map]
  exact List.flatMap_singleton' words

theorem flatMap_tokens_word (words : List String) :
    (words.map Piece.word).flatMap Piece.tokens = words.map (Token.mk · .normal) := by
  rw [List.flatMap_map]
  exact List.map_eq_flatMap.symm

/-- Plain words become words of the draft. -/
theorem foldl_take_word (words : List String) (draft : Draft) :
    (words.map Piece.word).foldl Draft.take draft =
      { draft with words := draft.words ++ words } := by
  induction words generalizing draft with
  | nil => rw [List.map_nil, List.foldl_nil, List.append_nil]
  | cons w words ih =>
    rw [List.map_cons, List.foldl_cons, ih]
    simp [Draft.take, Draft.addWord]

/-! ### Reading -/

section Reading

variable {pieces : List Piece}

/-- **Sound pieces are read as they stand**, one behind the other. -/
theorem classify_pieces (h : ∀ piece ∈ pieces, piece.Sound) :
    classify none (pieces.flatMap Piece.words) = .ok (pieces.flatMap Piece.tokens) := by
  induction pieces with
  | nil => rfl
  | cons piece pieces ih =>
    have hrest := ih fun p hp => h p (List.mem_cons_of_mem piece hp)
    have hsound := h piece List.mem_cons_self
    rw [List.flatMap_cons, List.flatMap_cons]
    cases piece with
    | word contents =>
      rw [Piece.words, List.singleton_append, classify_cons_normal hsound, hrest]
      rfl
    | redirection operator filename =>
      rw [Piece.words, List.cons_append, List.singleton_append,
        classify_cons_redirection operator hsound, hrest]
      rfl

/-- Sound pieces that are written with a space between each two words are read back. -/
theorem tokenize_pieces (h : ∀ piece ∈ pieces, piece.Sound)
    (hword : ∀ w ∈ pieces.flatMap Piece.words, Text.IsWord w.toList) :
    tokenize (" ".intercalate (pieces.flatMap Piece.words)) =
      .ok (pieces.flatMap Piece.tokens) := by
  rw [tokenize, Text.words_intercalate hword, classify_pieces h]

/-- **The tokens of pieces are gathered piece by piece.** -/
theorem gather_pieces (pieces : List Piece) (draft : Draft) :
    gather none draft (pieces.flatMap Piece.tokens) = .ok (pieces.foldl Draft.take draft) := by
  induction pieces generalizing draft with
  | nil => rfl
  | cons piece pieces ih =>
    rw [List.flatMap_cons, List.foldl_cons, ← ih]
    cases piece with
    | word contents => rw [Piece.tokens, List.singleton_append, gather_cons_normal rfl, Draft.take]
    | redirection operator filename =>
      rw [Piece.tokens, List.cons_append, List.singleton_append, gather_cons_redirection rfl rfl,
        Draft.take]

/-- The outcome of a segment that is made of pieces. -/
theorem parseSubcommand_of_pieces {segment : String}
    (h : tokenize segment = .ok (pieces.flatMap Piece.tokens)) :
    parseSubcommand segment = (pieces.foldl Draft.take .empty).finish := by
  rw [parseSubcommand, h]
  exact assemble_of_gather_ok (gather_pieces pieces .empty)

end Reading

/-! ### Taking apart -/

/-- **A row whose operators are spelt as they are is made of pieces.** -/
theorem exists_pieces {tokens : List Token} (h : Paired tokens)
    (hspelt : ∀ t ∈ tokens, ∀ operator, t.kind = .redirect operator →
      t.contents = operator.symbol) :
    ∃ pieces : List Piece, tokens = pieces.flatMap Piece.tokens := by
  induction h with
  | nil => exact ⟨[], rfl⟩
  | @word t rest kind _ ih =>
    obtain ⟨pieces, hpieces⟩ := ih fun u hu => hspelt u (List.mem_cons_of_mem t hu)
    have ht : t = ⟨t.contents, .normal⟩ := by rw [← kind]
    refine ⟨.word t.contents :: pieces, ?_⟩
    rw [List.flatMap_cons, ← hpieces, ht]
    rfl
  | @redirection s f rest operator filename _ ih =>
    obtain ⟨pieces, hpieces⟩ := ih fun u hu =>
      hspelt u (List.mem_cons_of_mem s (List.mem_cons_of_mem f hu))
    -- the operator is spelt as it is, so the two tokens say no more than operator and filename
    obtain ⟨r, hr⟩ := isRedirect_iff.mp operator
    have hs : s = ⟨r.symbol, .redirect r⟩ := by rw [← hr, ← hspelt s List.mem_cons_self r hr]
    have hf : f = ⟨f.contents, .filename⟩ := by rw [← filename]
    refine ⟨.redirection r f.contents :: pieces, ?_⟩
    rw [List.flatMap_cons, ← hpieces, hs, hf]
    rfl

end ShellPipeline
