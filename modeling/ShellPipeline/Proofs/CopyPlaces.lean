import ShellPipeline.Proofs.CopyFailure

/-!
# Where the copies are made

The segments of a line are copied from places that two independent scans decide. One has counted the
pipes of the whole line before; the other looks for the next pipe from wherever the last copy ended,
and falls back to the end of the line where it finds none. Behind the last copy the second scan
would stand one place beyond the line, and a slice from there is empty without any complaint. So it
matters that there are never more copies than the line has room for.

The invariant is that so many copies are left to make as there are pipes behind the place that has
been reached, and one. A search that finds a pipe uses up one copy and one pipe (`nextPipe_cases`),
so the last copy that is left is the one that finds none. Hence the places *tile* the line
(`Tiles`, `tiles_cuts`). A later part of a tiling is a tiling of what is left (`Tiles.drop`), so all
that is known of the first copy is known of every one.

* `nextPipe_cases` — what the search for the next pipe finds;
* `Tiles`, `tiles_cuts` — the places tile the line;
* `Tiles.cons_cases`, `Tiles.drop` — the first copy of a tiling, and the later ones;
* `copies_tile_the_line` — the law.
-/

namespace ShellPipeline

/-! ### The search -/

/-- **What the search for the next pipe finds**, from a place inside the line: nothing, where no
pipe is left, or a pipe at or behind that place, with one pipe less behind it. -/
theorem nextPipe_cases {chars : List Char} {start : Nat} (h : start ≤ chars.length) :
    (nextPipe chars start = none ∧ (chars.drop start).count pipe = 0) ∨
      ∃ stop, nextPipe chars start = some stop ∧ start ≤ stop ∧ chars[stop]? = some pipe ∧
        (chars.drop start).count pipe = (chars.drop (stop + 1)).count pipe + 1 := by
  obtain ⟨done, rest, rfl, rfl⟩ : ∃ done rest, done.length = start ∧ done ++ rest = chars :=
    ⟨chars.take start, chars.drop start, List.length_take_of_le h,
      List.take_append_drop start chars⟩
  rw [List.drop_left]
  by_cases hmem : pipe ∈ rest
  · right
    obtain ⟨piece, behind, rfl, hclear⟩ := List.eq_append_cons_of_mem hmem
    have hstop : done ++ (piece ++ pipe :: behind) = (done ++ piece ++ [pipe]) ++ behind := by simp
    have hbehind : (done ++ (piece ++ pipe :: behind)).drop (done.length + piece.length + 1) =
        behind := by
      rw [hstop]
      exact List.drop_left' (by simp [Nat.add_assoc])
    refine ⟨_, nextPipe_eq_some hclear, Nat.le_add_right _ _, ?_, ?_⟩
    · simp
    · rw [hbehind, List.count_append, List.count_eq_zero.mpr hclear, List.count_cons_self,
        Nat.zero_add]
  · exact .inl ⟨nextPipe_eq_none hmem, List.count_eq_zero.mpr hmem⟩

/-! ### Tilings -/

/-- **Places that tile a line** from a position on. -/
inductive Tiles (chars : List Char) : Nat → List Cut → Prop where
  /-- Where the search finds no pipe, one copy runs to the end of the line. -/
  | toEnd {start : Nat} (hle : start ≤ chars.length) (hnone : nextPipe chars start = none) :
      Tiles chars start [⟨start, none⟩]
  /-- Where it finds one, a copy runs up to it, and the others tile what is behind it. -/
  | toPipe {start stop : Nat} {rest : List Cut} (hle : start ≤ stop)
      (hfound : nextPipe chars start = some stop) (hpipe : chars[stop]? = some pipe)
      (hrest : Tiles chars (stop + 1) rest) : Tiles chars start (⟨start, some stop⟩ :: rest)

/-- **The places tile the line**, where so many copies are made as there are pipes left, and one. -/
theorem tiles_cuts {chars : List Char} {number start : Nat} (hstart : start ≤ chars.length)
    (hnumber : (chars.drop start).count pipe = number) :
    Tiles chars start (cuts chars (number + 1) start) := by
  induction number generalizing start with
  | zero =>
    rcases nextPipe_cases hstart with ⟨hnone, -⟩ | ⟨stop, -, -, -, hcount⟩
    · -- the one copy that is left is the last
      rw [cuts, hnone]
      exact .toEnd hstart hnone
    · omega
  | succ number ih =>
    rcases nextPipe_cases hstart with ⟨-, hcount⟩ | ⟨stop, hfound, hle, hpipe, hcount⟩
    · omega
    · -- the pipe is inside the line, so the next copy starts at its end at the latest
      have hstop : stop < chars.length := (List.getElem?_eq_some_iff.mp hpipe).1
      rw [cuts, hfound]
      exact .toPipe hle hfound hpipe (ih hstop (by omega))

section Tilings

variable {chars : List Char} {start k : Nat} {cut : Cut} {places : List Cut}

theorem Tiles.ne_nil (h : Tiles chars start places) : places ≠ [] := by
  cases h <;> exact List.cons_ne_nil _ _

/-- **The first copy of a tiling.** It starts where the tiling does, and ends as the search says:
either it is the only one, or the others tile what is behind its pipe. -/
theorem Tiles.cons_cases {rest : List Cut} (h : Tiles chars start (cut :: rest)) :
    cut.start = start ∧ cut.pipe = nextPipe chars start ∧
      ((cut.pipe = none ∧ start ≤ chars.length ∧ rest = []) ∨
        ∃ stop, cut.pipe = some stop ∧ start ≤ stop ∧ chars[stop]? = some pipe ∧
          Tiles chars (stop + 1) rest) := by
  cases h with
  | toEnd hle hnone => exact ⟨rfl, hnone.symm, .inl ⟨rfl, hle, rfl⟩⟩
  | toPipe hle hfound hpipe hrest =>
    exact ⟨rfl, hfound.symm, .inr ⟨_, rfl, hle, hpipe, hrest⟩⟩

/-- **A later part of a tiling** is a tiling of what is left. -/
theorem Tiles.drop (h : Tiles chars start places) (hk : places[k]? = some cut) :
    Tiles chars cut.start (cut :: places.drop (k + 1)) := by
  induction h generalizing k with
  | toEnd hle hnone =>
    cases k with
    | zero =>
      cases hk
      exact .toEnd hle hnone
    | succ k => cases hk
  | toPipe hle hfound hpipe hrest ih =>
    cases k with
    | zero =>
      cases hk
      exact .toPipe hle hfound hpipe hrest
    | succ k => exact ih hk

/-- A copy stays inside the line. -/
theorem Tiles.bounds (h : Tiles chars start places) (hk : places[k]? = some cut) :
    cut.start ≤ cut.stop chars ∧ cut.stop chars ≤ chars.length := by
  obtain ⟨-, -, ⟨hnone, hle, -⟩ | ⟨stop, hstop, hle, hpipe, -⟩⟩ := (h.drop hk).cons_cases
  · rw [Cut.stop, hnone]
    exact ⟨hle, Nat.le_refl _⟩
  · have hlt : stop < chars.length := (List.getElem?_eq_some_iff.mp hpipe).1
    rw [Cut.stop, hstop]
    exact ⟨hle, Nat.le_of_lt hlt⟩

/-- **The last copy, and no other, finds no pipe.** -/
theorem Tiles.pipe_eq_none_iff (h : Tiles chars start places) (hk : places[k]? = some cut) :
    cut.pipe = none ↔ k + 1 = places.length := by
  have hlt : k < places.length := (List.getElem?_eq_some_iff.mp hk).1
  obtain ⟨-, -, ⟨hnone, -, hrest⟩ | ⟨stop, hstop, -, -, hrest⟩⟩ := (h.drop hk).cons_cases
  · have hle : places.length ≤ k + 1 := List.drop_eq_nil_iff.mp hrest
    exact ⟨fun _ => by omega, fun _ => hnone⟩
  · -- what is behind the pipe is tiled by at least one more copy
    have hmore : k + 1 < places.length :=
      Nat.lt_of_not_le fun hle => hrest.ne_nil (List.drop_eq_nil_iff.mpr hle)
    rw [hstop]
    exact ⟨fun hnone => (Option.some_ne_none stop hnone).elim, fun heq => by omega⟩

/-- Every copy but the last ends at a pipe. -/
theorem Tiles.pipe_at_stop (h : Tiles chars start places) (hk : places[k]? = some cut)
    (hlt : k + 1 < places.length) : chars[cut.stop chars]? = some pipe := by
  obtain ⟨-, -, ⟨hnone, -, -⟩ | ⟨stop, hstop, -, hpipe, -⟩⟩ := (h.drop hk).cons_cases
  · have hlast := (h.pipe_eq_none_iff hk).mp hnone
    omega
  · rw [Cut.stop, hstop]
    exact hpipe

/-- **The next copy starts behind the pipe** that ended the one before it. -/
theorem Tiles.start_of_next {next : Cut} (h : Tiles chars start places)
    (hk : places[k]? = some cut) (hnext : places[k + 1]? = some next) :
    next.start = cut.stop chars + 1 := by
  have hcons : places.drop (k + 1) = next :: places.drop (k + 2) :=
    List.drop_eq_getElem?_toList_append.trans (by rw [hnext]; rfl)
  obtain ⟨-, -, ⟨-, -, hrest⟩ | ⟨stop, hstop, -, -, hrest⟩⟩ := (h.drop hk).cons_cases
  · rw [hcons] at hrest
    cases hrest
  · rw [hcons] at hrest
    rw [Cut.stop, hstop]
    exact hrest.cons_cases.1

/-- The last copy runs to the end of the line. -/
theorem Tiles.stop_of_last (h : Tiles chars start places) (hk : places[k]? = some cut)
    (hlast : k + 1 = places.length) : cut.stop chars = chars.length := by
  rw [Cut.stop, (h.pipe_eq_none_iff hk).mpr hlast, Option.getD_none]

end Tilings

/-! ### The copies of a line -/

/-- The places of a line tile it from its start. -/
theorem tiles_line (line : String) :
    Tiles line.toList 0 (cuts line.toList (countSegments line) 0) :=
  tiles_cuts (Nat.zero_le _) rfl

/-- A copy that stays inside the line is as long as its place. -/
theorem length_segment {line : String} {cut : Cut} (hstart : cut.start ≤ cut.stop line.toList)
    (hstop : cut.stop line.toList ≤ line.toList.length) :
    (cut.segment line).length = cut.stop line.toList - cut.start := by
  rw [Cut.segment, Text.slice, String.length_ofList, Text.sliceChars,
    Text.clampIndex_of_le hstop, Text.clampIndex_of_le (hstart.trans hstop), List.length_drop,
    List.length_take_of_le hstop]

/-- **The copies of a line tile it.** For the line's own count, copying goes over these places, one
for each segment, whichever copies fail. The first starts at the start of the line and the last
stops at its end; each of the others stops at a pipe, and the next one starts right behind that. No
copy starts behind its stop or stops beyond the end of the line, so each is as long as its place.
What ends a copy is what the search from its start finds, and that is nothing for the last copy and
for no other. -/
theorem copies_tile_the_line (line : String) :
    let chars := line.toList
    let count := countSegments line
    let places := cuts chars count 0
    (∀ fails, copySegments fails line count = copyCuts fails line 1 places) ∧
    places.length = count ∧
    places.head?.map (·.start) = some 0 ∧
    places.getLast?.map (·.stop chars) = some chars.length ∧
    ∀ (k : Nat) (cut : Cut), places[k]? = some cut →
      cut.start ≤ cut.stop chars ∧ cut.stop chars ≤ chars.length ∧
      (cut.segment line).length = cut.stop chars - cut.start ∧
      cut.pipe = nextPipe chars cut.start ∧
      (nextPipe chars cut.start = none ↔ k + 1 = count) ∧
      (k + 1 < count → chars[cut.stop chars]? = some '|') ∧
      ∀ next, places[k + 1]? = some next → next.start = cut.stop chars + 1 := by
  intro chars count places
  have htiles : Tiles chars 0 places := tiles_line line
  have hlength : places.length = count := length_cuts _ _ _
  refine ⟨fun fails => copySegments_self, hlength, ?_, ?_, fun k cut hk => ?_⟩
  · -- the first place is where the tiling starts
    obtain ⟨first, rest, hplaces⟩ := List.exists_cons_of_ne_nil htiles.ne_nil
    rw [hplaces] at htiles ⊢
    exact congrArg some htiles.cons_cases.1
  · have hpos : 0 < places.length := List.length_pos_of_ne_nil htiles.ne_nil
    have hlast := List.getElem?_eq_getElem (Nat.sub_lt hpos Nat.one_pos)
    rw [List.getLast?_eq_getElem?, hlast]
    exact congrArg some (htiles.stop_of_last hlast (by omega))
  · obtain ⟨hstart, hstop⟩ := htiles.bounds hk
    have hsearch : cut.pipe = nextPipe chars cut.start := (htiles.drop hk).cons_cases.2.1
    have hnone := htiles.pipe_eq_none_iff hk
    rw [hsearch, hlength] at hnone
    refine ⟨hstart, hstop, length_segment hstart hstop, hsearch, hnone, fun hlt => ?_,
      fun next hnext => htiles.start_of_next hk hnext⟩
    exact htiles.pipe_at_stop hk (by rw [hlength]; exact hlt)

/-- Two pipes in a row and one at the end: the third copy stops at the last pipe, and the fourth is
the empty one behind it, where no pipe is found. -/
theorem copies_tile_the_line_pipe_at_end :
    cuts "a||b|".toList 4 0 = [⟨0, some 1⟩, ⟨2, some 2⟩, ⟨3, some 4⟩, ⟨5, none⟩] ∧
      "a||b|".toList[4]? = some '|' ∧ nextPipe "a||b|".toList 3 ≠ none ∧
      nextPipe "a||b|".toList 5 = none ∧
      (⟨5, none⟩ : Cut).start = (⟨3, some 4⟩ : Cut).stop "a||b|".toList + 1 := by
  have hplaces : cuts "a||b|".toList 4 0 =
      [⟨0, some 1⟩, ⟨2, some 2⟩, ⟨3, some 4⟩, ⟨5, none⟩] := by decide +kernel
  have hcount : countSegments "a||b|" = 4 := by decide +kernel
  obtain ⟨-, -, -, -, hcopies⟩ := copies_tile_the_line "a||b|"
  rw [hcount, hplaces] at hcopies
  obtain ⟨-, -, -, -, hnone, hpipe, hnext⟩ := hcopies 2 ⟨3, some 4⟩ rfl
  obtain ⟨-, -, -, -, hlast, -, -⟩ := hcopies 3 ⟨5, none⟩ rfl
  exact ⟨hplaces, hpipe (by decide), fun h => absurd (hnone.mp h) (by decide), hlast.mpr rfl,
    hnext ⟨5, none⟩ rfl⟩

end ShellPipeline
