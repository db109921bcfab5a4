import ShellPipeline.Journal.World
import ShellPipeline.Proofs.Places

/-!
# Putting the journal's file aside

What is at one place is moved to another, and with it all that is below it; everything else stays
(`FileTree.node?_relocate_of_not_below`). Three such moves put the file of the journal aside, and
the argument goes move by move: each one clears the place that the next one moves to. Only the first
has a place that may be taken, by a directory, and that is not replaced.

The three names differ in one character, and the way to them is the way to the file. So where the
path of the file leads to it, each of the three leads to what is there, unless all of them are too
long (`IsJournalFile.sees_aside`).

* `FileTree.IsJournalFile` — the paths that a file of the journal may have;
* `FileTree.Blocks` — what keeps the file from being put aside;
* `IsJournalFile.rotate_of_blocks`, `IsJournalFile.exists_rotate_eq` — the two ways of putting it
  aside;
* `IsJournalFile.writeLine_of_blocks`, `IsJournalFile.exists_writeLine_eq` — the two ways of writing
  a line.
-/

namespace ShellPipeline

namespace FileTree

variable {tree : FileTree}

/-! ### Moves -/

section Relocate

variable {source target place other : List String}

/-- **Entries that are moved** are found under the place that they are moved to. -/
theorem lookup_moved (nodes : List (List String × Node)) (hplace : ¬ target <+: place)
    (hkey : ∀ key, ¬ target <+: key → (movedPlace source target key = other ↔ key = place)) :
    ((nodes.filter fun entry => !target.isPrefixOf entry.1).map fun entry =>
      (movedPlace source target entry.1, entry.2)).lookup other = nodes.lookup place := by
  induction nodes with
  | nil => rfl
  | cons entry rest ih =>
    obtain ⟨key, node⟩ := entry
    by_cases hbelow : target <+: key
    · -- what was at the target is gone, and it is not looked for
      have hne : place ≠ key := fun heq => hplace (heq ▸ hbelow)
      rw [List.filter_cons_of_neg (by simpa using hbelow), List.lookup_cons, ih,
        beq_false_of_ne hne]
    · have hkept : target.isPrefixOf key = false := by
        rwa [Bool.eq_false_iff, Ne, List.isPrefixOf_iff_prefix]
      rw [List.filter_cons_of_pos (by simp [hkept]), List.map_cons, List.lookup_cons,
        List.lookup_cons, ih]
      by_cases heq : key = place
      · rw [(hkey key hbelow).mpr heq, heq, beq_self_eq_true, beq_self_eq_true]
      · have hmoved : other ≠ movedPlace source target key :=
          fun h => heq ((hkey key hbelow).mp h.symm)
        simp [beq_false_of_ne hmoved, beq_false_of_ne (Ne.symm heq)]

theorem movedPlace_of_not_below (h : ¬ source <+: place) :
    movedPlace source target place = place := by
  simp [movedPlace, h]

theorem movedPlace_append (source target rest : List String) :
    movedPlace source target (source ++ rest) = target ++ rest := by
  simp [movedPlace]

/-- **What is neither at the one place nor at the other** stays. -/
theorem node?_relocate_of_not_below (hsource : ¬ source <+: other) (htarget : ¬ target <+: other) :
    (tree.relocate source target).node? other = tree.node? other := by
  by_cases hother : other = []
  · simp [node?, hother]
  · rw [node?_of_ne_nil _ hother, node?_of_ne_nil _ hother]
    refine lookup_moved tree.nodes htarget fun key _ => ?_
    by_cases hbelow : source <+: key
    · -- a place that is moved is below the target then
      obtain ⟨rest, rfl⟩ := hbelow
      rw [movedPlace_append]
      exact ⟨fun h => absurd ⟨rest, h⟩ htarget, fun h => absurd ⟨rest, h⟩ hsource⟩
    · rw [movedPlace_of_not_below hbelow]

section Apart

variable (hst : ¬ source <+: target) (hts : ¬ target <+: source)

include hst hts

theorem not_below_append (rest : List String) : ¬ target <+: source ++ rest := by
  intro h
  rcases List.prefix_or_prefix_of_prefix h (List.prefix_append source rest) with h | h
  · exact hts h
  · exact hst h

/-- **What was at the first place** is at the second. -/
theorem node?_relocate_target (tree : FileTree) (rest : List String) :
    (tree.relocate source target).node? (target ++ rest) = tree.node? (source ++ rest) := by
  have hsource : source ++ rest ≠ [] := by
    rintro h
    obtain ⟨rfl, -⟩ := List.append_eq_nil_iff.mp h
    exact hst List.nil_prefix
  have htarget : target ++ rest ≠ [] := by
    rintro h
    obtain ⟨rfl, -⟩ := List.append_eq_nil_iff.mp h
    exact hts List.nil_prefix
  rw [node?_of_ne_nil _ hsource, node?_of_ne_nil _ htarget]
  refine lookup_moved tree.nodes (not_below_append hst hts rest) fun key hkey => ?_
  by_cases hbelow : source <+: key
  · obtain ⟨others, rfl⟩ := hbelow
    rw [movedPlace_append, List.append_cancel_left_eq, List.append_cancel_left_eq]
  · rw [movedPlace_of_not_below hbelow]
    exact ⟨fun h => absurd ⟨rest, h.symm⟩ hkey, fun h => absurd ⟨rest, h.symm⟩ hbelow⟩

/-- **Nothing is left** at the first place. -/
theorem node?_relocate_source (tree : FileTree) :
    (tree.relocate source target).node? source = none := by
  have hne : source ≠ [] := by
    rintro rfl
    exact hst List.nil_prefix
  rw [node?_of_ne_nil _ hne, List.lookup_eq_none_iff]
  intro entry hentry
  obtain ⟨before, -, rfl⟩ := List.mem_map.mp hentry
  rw [bne_iff_ne]
  intro heq
  by_cases hbelow : source <+: before.1
  · -- what is moved is below the target, and the first place is not
    obtain ⟨rest, hrest⟩ := hbelow
    rw [← hrest, movedPlace_append] at heq
    exact hts ⟨rest, heq.symm⟩
  · rw [movedPlace_of_not_below hbelow] at heq
    exact hbelow (heq ▸ List.prefix_rfl)

end Apart

end Relocate

/-! ### Moving on -/

section MoveOn

variable {source target : Path}

/-- **A path that leads to what is at its place**, be it something or nothing. -/
def Sees (tree : FileTree) (path : Path) : Prop := tree.find [] path = .ok (tree.spotAt path.parts)

theorem moveOn_of_error {fault : PathFault} (h : tree.find [] source = .error fault) :
    tree.moveOn source target = .ok tree := by
  simp only [moveOn, h]

/-- **A move** that no directory is in the way of: it clears the first place, and it touches nothing
but the two places. -/
theorem exists_moveOn_eq (hsource : tree.Sees source) (htarget : tree.Sees target)
    (hfree : tree.node? source.parts = none ∨ tree.node? target.parts ≠ some .directory)
    (hst : ¬ source.parts <+: target.parts) (hts : ¬ target.parts <+: source.parts) :
    ∃ moved, tree.moveOn source target = .ok moved ∧ moved.node? source.parts = none ∧
      (∀ other, ¬ source.parts <+: other → ¬ target.parts <+: other →
        moved.node? other = tree.node? other) ∧
      ∀ node, tree.node? source.parts = some node → moved.node? target.parts = some node := by
  unfold Sees at hsource htarget
  cases hnode : tree.node? source.parts with
  | none =>
    rw [spotAt_of_none hnode] at hsource
    exact ⟨tree, by simp only [moveOn, hsource], hnode, fun _ _ _ => rfl, nofun⟩
  | some node =>
    rw [spotAt_of_some hnode] at hsource
    refine ⟨tree.relocate source.parts target.parts, ?_, node?_relocate_source hst hts tree,
      fun _ => node?_relocate_of_not_below, ?_⟩
    · -- what is at the second place, if there is anything, is a file
      cases hother : tree.node? target.parts with
      | none =>
        rw [spotAt_of_none hother] at htarget
        simp only [moveOn, hsource, htarget]
      | some other =>
        rw [spotAt_of_some hother] at htarget
        cases other with
        | directory => simp [hnode, hother] at hfree
        | file bytes => simp only [moveOn, hsource, htarget]
    · rintro found hfound
      simpa [hnode, hfound] using node?_relocate_target hst hts tree []

end MoveOn

/-! ### The files of the journal -/

/-- **A path that a file of the journal may have**, in a directory. -/
structure IsJournalFile (dir : List String) (file : Path) : Prop where
  /-- The path spells its place. -/
  spells : file.SpellsPlace
  /-- The file has the name of the journal's file. -/
  parts : file.parts = dir ++ [World.journalName]

/-- The name of the file when it has been put aside a number of times. -/
def asideName (number : Nat) : String := World.journalName ++ "." ++ toString number

section Aside

variable {dir : List String} {file : Path} {number : Nat}

theorem IsJournalFile.asidePlace_eq (h : IsJournalFile dir file) (number : Nat) :
    asidePlace file.parts number = dir ++ [asideName number] := by
  rw [asidePlace, h.parts, List.dropLast_concat, List.getLast?_concat]
  rfl

theorem IsJournalFile.parts_aside (h : IsJournalFile dir file) (number : Nat) :
    (file.aside number).parts = dir ++ [asideName number] := h.asidePlace_eq number

/-- Names beside each other are not below each other. -/
theorem not_below_sibling (dir : List String) {a b : String} (h : a ≠ b) :
    ¬ dir ++ [a] <+: dir ++ [b] := by
  intro hbelow
  obtain rfl : a = b := by simpa using hbelow
  exact h rfl

/-- What is not as deep in the tree is not below. -/
theorem not_below_of_length_le {name : String} {other : List String}
    (h : other.length ≤ dir.length) : ¬ dir ++ [name] <+: other := by
  intro hbelow
  have hlength := hbelow.length_le
  rw [List.length_append, List.length_singleton] at hlength
  omega

/-- The spelling of a path is that of its directory, its last name aside, and then that name. -/
theorem exists_text_eq (root : PathRoot) (dir : List String) :
    ∃ front, ∀ name, (Path.mk root (dir ++ [name])).text = front ++ name := by
  have hnames : ∃ front, ∀ name : String, "/".intercalate (dir ++ [name]) = front ++ name := by
    induction dir with
    | nil => exact ⟨"", fun name => by simp⟩
    | cons first rest ih =>
      obtain ⟨front, hfront⟩ := ih
      refine ⟨first ++ "/" ++ front, fun name => ?_⟩
      rw [List.cons_append, String.intercalate_cons_of_ne_nil (by simp), hfront]
      simp only [String.append_assoc]
  obtain ⟨front, hfront⟩ := hnames
  cases root with
  | relative => exact ⟨front, fun name => by simp [Path.text, hfront]⟩
  | single => exact ⟨"/" ++ front, fun name => by simp [Path.text, hfront, String.append_assoc]⟩
  | double => exact ⟨"//" ++ front, fun name => by simp [Path.text, hfront, String.append_assoc]⟩

/-- What there is to know about the three names. -/
theorem asideName_facts : ∀ number ∈ [1, 2, 3],
    asideName number ≠ ".." ∧ asideName number ≠ World.journalName ∧
      '\x00' ∉ (asideName number).toList ∧ (asideName number).utf8ByteSize ≤ nameLimit ∧
      (asideName number).utf8ByteSize = (asideName 1).utf8ByteSize := by
  decide

/-- The three paths are equally long. -/
theorem IsJournalFile.size_text_aside (h : IsJournalFile dir file) (hnumber : number ∈ [1, 2, 3]) :
    (file.aside number).text.utf8ByteSize = (file.aside 1).text.utf8ByteSize := by
  have haside : ∀ n, file.aside n = ⟨file.root, dir ++ [asideName n]⟩ := by
    intro n
    rw [← h.parts_aside n]
    rfl
  obtain ⟨front, hfront⟩ := exists_text_eq file.root dir
  rw [haside, haside, hfront, hfront, String.utf8ByteSize_append, String.utf8ByteSize_append,
    (asideName_facts number hnumber).2.2.2.2]

/-- **The way to a directory** can be walked. -/
def OpensTo (tree : FileTree) (dir : List String) : Prop :=
  tree.Opens [] dir ∧ tree.node? dir = some .directory

/-- It is a matter of what is no deeper than the directory. -/
theorem OpensTo.congr {after : FileTree} (h : tree.OpensTo dir)
    (hsame : ∀ other, other.length ≤ dir.length → after.node? other = tree.node? other) :
    after.OpensTo dir := by
  obtain ⟨hopens, hdir⟩ := h
  refine ⟨fun front name hfront => ?_, (hsame dir (Nat.le_refl _)).trans hdir⟩
  obtain ⟨hnode, hname⟩ := hopens front name hfront
  have hlength := hfront.length_le
  rw [List.length_append] at hlength
  exact ⟨(hsame front (by omega)).trans hnode, hname⟩

/-- What is known of the path of a file of the journal that leads to it. -/
theorem IsJournalFile.of_leadsToFile (h : IsJournalFile dir file) (hleads : tree.LeadsToFile file) :
    file.hasNull = false ∧ file.text.utf8ByteSize < pathLimit ∧ tree.OpensTo dir ∧
      ∃ bytes, tree.node? file.parts = some (.file bytes) := by
  obtain ⟨bytes, hfound⟩ := hleads
  obtain ⟨hnull, hlength, hopens, hspot⟩ := (find_eq_ok_iff h.spells).mp hfound
  rw [h.parts, opens_concat_iff] at hopens
  obtain ⟨-, hnode⟩ := spotAt_eq_found_iff.mp hspot.symm
  exact ⟨hnull, hlength, ⟨hopens.1, by simpa using hopens.2.1⟩, bytes, hnode⟩

theorem IsJournalFile.hasNull_aside (h : IsJournalFile dir file) (hnull : file.hasNull = false)
    (hnumber : number ∈ [1, 2, 3]) : (file.aside number).hasNull = false := by
  have hname := (asideName_facts number hnumber).2.2.1
  simp only [Path.hasNull, h.parts, h.parts_aside, List.any_append, Bool.or_eq_false_iff] at hnull ⊢
  exact ⟨hnull.1, by simpa using hname⟩

/-- **A file that is put aside** is found on the same way, if its path is not too long. -/
theorem IsJournalFile.sees_aside (h : IsJournalFile dir file) (hnull : file.hasNull = false)
    (hways : tree.OpensTo dir) (hlength : (file.aside 1).text.utf8ByteSize < pathLimit)
    (hnumber : number ∈ [1, 2, 3]) : tree.Sees (file.aside number) := by
  obtain ⟨hdots, -, -, hname, -⟩ := asideName_facts number hnumber
  have hspells : (file.aside number).SpellsPlace := by
    refine ⟨h.spells.isAbsolute, ?_⟩
    have hfile := h.spells.dots
    rw [h.parts, List.mem_append, not_or] at hfile
    rw [h.parts_aside, List.mem_append, not_or]
    exact ⟨hfile.1, by simpa using hdots.symm⟩
  refine (find_eq_ok_iff hspells).mpr ⟨h.hasNull_aside hnull hnumber, ?_, ?_, rfl⟩
  · rwa [h.size_text_aside hnumber]
  · rw [h.parts_aside, opens_concat_iff]
    exact ⟨hways.1, hways.2, hname⟩

/-- None of the three is found if its path is too long. -/
theorem IsJournalFile.find_aside_of_long (h : IsJournalFile dir file)
    (hnull : file.hasNull = false) (hlength : pathLimit ≤ (file.aside 1).text.utf8ByteSize)
    (hnumber : number ∈ [1, 2, 3]) :
    tree.find [] (file.aside number) =
      .error (.refused .nameTooLong (file.aside number).text) := by
  rw [← h.size_text_aside hnumber] at hlength
  simp [find, h.hasNull_aside hnull hnumber, hlength]

end Aside

/-! ### Putting aside -/

/-- **What keeps the file of the journal from being put aside**: its path is too long then, or there
is something that moves on to a place where a directory is. -/
def Blocks (tree : FileTree) (file : Path) : Prop :=
  pathLimit ≤ (file.aside 1).text.utf8ByteSize ∨
    tree.node? (asidePlace file.parts 2) ≠ none ∧
      tree.node? (asidePlace file.parts 3) = some .directory

section Rotate

variable {dir : List String} {file : Path}

/-- **A file that cannot be put aside** stays where it is, and so does everything else. -/
theorem IsJournalFile.rotate_of_blocks (h : IsJournalFile dir file) (hleads : tree.LeadsToFile file)
    (hblocks : tree.Blocks file) : ∃ fault, tree.rotate file = (tree, some fault) := by
  obtain ⟨hnull, -, hways, -⟩ := h.of_leadsToFile hleads
  obtain ⟨bytes, hfound⟩ := hleads
  by_cases hlength : pathLimit ≤ (file.aside 1).text.utf8ByteSize
  · -- nothing is found that could move on, but the file is, and it cannot
    have hlong : ∀ number ∈ [1, 2, 3], tree.find [] (file.aside number) =
        .error (.refused .nameTooLong (file.aside number).text) :=
      fun number => h.find_aside_of_long hnull hlength
    have hfile : tree.moveOn file (file.aside 1) =
        .error (.refused .nameTooLong (file.aside 1).text) := by
      simp only [moveOn, hfound, hlong 1 (by decide)]
    refine ⟨.refused .nameTooLong (file.aside 1).text, ?_⟩
    simp only [rotate, moveEach, moveOn_of_error (hlong 2 (by decide)),
      moveOn_of_error (hlong 1 (by decide)), hfile]
  · obtain hlong | ⟨htaken, hdirectory⟩ := hblocks
    · exact absurd hlong hlength
    · obtain ⟨node, hnode⟩ := Option.ne_none_iff_exists'.mp htaken
      have hsees : ∀ number ∈ [1, 2, 3], tree.find [] (file.aside number) =
          .ok (tree.spotAt (asidePlace file.parts number)) :=
        fun number => h.sees_aside hnull hways (Nat.not_le.mp hlength)
      have hmove : tree.moveOn (file.aside 2) (file.aside 3) =
          .error (.refused .isDirectory (file.aside 3).text) := by
        have hsource := hsees 2 (by decide)
        have htarget := hsees 3 (by decide)
        rw [spotAt_of_some hnode] at hsource
        rw [spotAt_of_some hdirectory] at htarget
        simp only [moveOn, hsource, htarget]
      refine ⟨.refused .isDirectory (file.aside 3).text, ?_⟩
      simp only [rotate, moveEach, hmove]

/-- The path of the file itself, where the way to it can be walked. -/
theorem IsJournalFile.sees (h : IsJournalFile dir file) (hnull : file.hasNull = false)
    (hlength : file.text.utf8ByteSize < pathLimit) (hways : tree.OpensTo dir) :
    tree.Sees file := by
  refine (find_eq_ok_iff h.spells).mpr ⟨hnull, hlength, ?_, rfl⟩
  rw [h.parts, opens_concat_iff]
  exact ⟨hways.1, hways.2, by decide⟩

/-- **A move between two names of a directory.** The way to the directory is not touched. -/
theorem exists_moveOn_sibling_eq {source target : Path} {a b : String} (hways : tree.OpensTo dir)
    (hne : a ≠ b) (ha : source.parts = dir ++ [a]) (hb : target.parts = dir ++ [b])
    (hsource : tree.Sees source) (htarget : tree.Sees target)
    (hfree : tree.node? (dir ++ [a]) = none ∨ tree.node? (dir ++ [b]) ≠ some .directory) :
    ∃ moved, tree.moveOn source target = .ok moved ∧ moved.OpensTo dir ∧
      moved.node? (dir ++ [a]) = none ∧
      (∀ other, ¬ dir ++ [a] <+: other → ¬ dir ++ [b] <+: other →
        moved.node? other = tree.node? other) ∧
      ∀ node, tree.node? (dir ++ [a]) = some node → moved.node? (dir ++ [b]) = some node := by
  rw [← ha, ← hb] at hfree ⊢
  obtain ⟨moved, hmove, hclear, hrest, hput⟩ := exists_moveOn_eq hsource htarget hfree
    (ha ▸ hb ▸ not_below_sibling dir hne) (ha ▸ hb ▸ not_below_sibling dir hne.symm)
  refine ⟨moved, hmove, hways.congr fun other hother => ?_, hclear, hrest, hput⟩
  exact hrest other (ha ▸ not_below_of_length_le hother) (hb ▸ not_below_of_length_le hother)

/-- **A file that can be put aside** is found there, and an empty one stands in its place. Nothing
else has changed that is not at one of the places or below. -/
theorem IsJournalFile.exists_rotate_eq (h : IsJournalFile dir file)
    (hleads : tree.LeadsToFile file) (hfree : ¬ tree.Blocks file) :
    ∃ rotated, tree.rotate file = (rotated, none) ∧
      rotated.node? file.parts = some (.file .empty) ∧
      rotated.node? (asidePlace file.parts 1) = tree.node? file.parts ∧
      ∀ other, ¬ file.parts <+: other →
        (∀ number ∈ [1, 2, 3], ¬ asidePlace file.parts number <+: other) →
        rotated.node? other = tree.node? other := by
  obtain ⟨hnull, hsize, hways, bytes, hnode⟩ := h.of_leadsToFile hleads
  simp only [Blocks, h.asidePlace_eq, not_or, Nat.not_le] at hfree
  obtain ⟨hlength, hblocked⟩ := hfree
  have hfree : tree.node? (dir ++ [asideName 2]) = none ∨
      tree.node? (dir ++ [asideName 3]) ≠ some .directory := by
    by_cases htaken : tree.node? (dir ++ [asideName 2]) = none
    · exact .inl htaken
    · exact .inr fun hdirectory => hblocked ⟨htaken, hdirectory⟩
  have hsees : ∀ before : FileTree, before.OpensTo dir → ∀ number ∈ [1, 2, 3],
      before.Sees (file.aside number) := fun _ hways _ => h.sees_aside hnull hways hlength
  have hname : ∀ number ∈ [1, 2, 3], World.journalName ≠ asideName number :=
    fun number hnumber => (asideName_facts number hnumber).2.1.symm
  -- what stood second moves on, then what stood first, and then the file; each place is clear then
  obtain ⟨one, hone, honeWays, honeClear, honeRest, -⟩ :=
    exists_moveOn_sibling_eq hways (by decide) (h.parts_aside 2) (h.parts_aside 3)
      (hsees _ hways 2 (by decide)) (hsees _ hways 3 (by decide)) hfree
  obtain ⟨two, htwo, htwoWays, htwoClear, htwoRest, -⟩ :=
    exists_moveOn_sibling_eq honeWays (by decide) (h.parts_aside 1) (h.parts_aside 2)
      (hsees _ honeWays 1 (by decide)) (hsees _ honeWays 2 (by decide))
      (.inr (by simp [honeClear]))
  obtain ⟨three, hthree, hthreeWays, hthreeClear, hthreeRest, hthreePut⟩ :=
    exists_moveOn_sibling_eq htwoWays (hname 1 (by decide)) h.parts (h.parts_aside 1)
      (h.sees hnull hsize htwoWays) (hsees _ htwoWays 1 (by decide)) (.inr (by simp [htwoClear]))
  -- so the path of the file leads to nothing, and there it is opened
  have hopen : three.openToAppend [] file =
      .ok (three.put file.parts (.file .empty), file.parts) := by
    have hfind := h.sees hnull hsize hthreeWays
    rw [Sees, h.parts, spotAt_of_none hthreeClear] at hfind
    simp only [openToAppend, hfind, h.parts]
  refine ⟨three.put file.parts (.file .empty), ?_, ?_, ?_, fun other hfile haside => ?_⟩
  · simp only [rotate, moveEach, hone, htwo, hthree, hopen]
  · exact node?_put_self _ _ (by simp [h.parts])
  · have hbefore : two.node? (dir ++ [World.journalName]) = some (.file bytes) := by
      have hsibling := fun number hnumber => not_below_sibling dir (hname number hnumber).symm
      rw [htwoRest _ (hsibling 1 (by decide)) (hsibling 2 (by decide)),
        honeRest _ (hsibling 2 (by decide)) (hsibling 3 (by decide)), ← h.parts, hnode]
    rw [h.asidePlace_eq, node?_put_of_ne, hthreePut _ hbefore, hnode]
    rw [h.parts]
    simpa using (hname 1 (by decide)).symm
  · simp only [h.asidePlace_eq] at haside
    rw [h.parts] at hfile ⊢
    have hne : other ≠ dir ++ [World.journalName] := by
      rintro rfl
      exact hfile List.prefix_rfl
    rw [node?_put_of_ne _ _ hne, hthreeRest other hfile (haside 1 (by decide)),
      htwoRest other (haside 1 (by decide)) (haside 2 (by decide)),
      honeRest other (haside 2 (by decide)) (haside 3 (by decide))]

end Rotate

/-! ### Lines of the journal -/

section WriteLine

variable {dir : List String} {file : Path} {line : String}

/-- A line that is too long by itself always puts the file aside first. -/
theorem writeLine_of_long (h : rotationLimit ≤ line.length) : tree.writeLine file line =
    (if (tree.rotate file).2.isNone then (tree.rotate file).1.append file.parts line
      else (tree.rotate file).1, (tree.rotate file).2) := by
  have hmust : tree.mustRotate file.parts line = true := decide_eq_true (Nat.le_add_left_of_le h)
  simp only [writeLine, hmust, if_true]
  rcases tree.rotate file with ⟨rotated, _ | fault⟩ <;> rfl

/-- A file on a way that can be walked is found. -/
theorem IsJournalFile.leadsToFile (h : IsJournalFile dir file) {bytes : ByteArray}
    (hnull : file.hasNull = false) (hsize : file.text.utf8ByteSize < pathLimit)
    (hways : tree.OpensTo dir) (hnode : tree.node? file.parts = some (.file bytes)) :
    tree.LeadsToFile file := by
  have hsees := h.sees hnull hsize hways
  rw [Sees, spotAt_of_some hnode] at hsees
  exact ⟨bytes, hsees⟩

/-- **A line whose file cannot be put aside** is lost, and nothing changes. -/
theorem IsJournalFile.writeLine_of_blocks (h : IsJournalFile dir file)
    (hleads : tree.LeadsToFile file) (hmust : tree.mustRotate file.parts line = true)
    (hblocks : tree.Blocks file) : ∃ fault, tree.writeLine file line = (tree, some fault) := by
  obtain ⟨fault, hrotate⟩ := h.rotate_of_blocks hleads hblocks
  refine ⟨fault, ?_⟩
  simp only [writeLine, hmust, if_true, hrotate]

/-- A line written behind what the file holds. -/
theorem IsJournalFile.append_facts (h : IsJournalFile dir file) (hleads : tree.LeadsToFile file)
    (line : String) :
    (tree.append file.parts line).LeadsToFile file ∧
      (tree.append file.parts line).content file.parts =
        tree.content file.parts ++ line.toUTF8 ∧
      ∀ other, other ≠ file.parts →
        (tree.append file.parts line).node? other = tree.node? other := by
  obtain ⟨hnull, hsize, hways, -⟩ := h.of_leadsToFile hleads
  have hne : file.parts ≠ [] := by simp [h.parts]
  have hrest : ∀ other, other ≠ file.parts →
      (tree.append file.parts line).node? other = tree.node? other :=
    fun other hother => node?_put_of_ne tree _ hother
  refine ⟨h.leadsToFile hnull hsize (hways.congr fun other hother => hrest other ?_)
    (node?_put_self tree _ hne), content_put_self tree _ hne, hrest⟩
  -- the file is deeper in the tree than the way to it
  rintro rfl
  rw [h.parts, List.length_append, List.length_singleton] at hother
  omega

/-- **Any other line** is written: behind what the file holds, or behind nothing where the file is
put aside first. What the file held is there then, and all that is not at one of the places or below
stays as it is. -/
theorem IsJournalFile.exists_writeLine_eq (h : IsJournalFile dir file)
    (hleads : tree.LeadsToFile file)
    (hfree : tree.mustRotate file.parts line = true → ¬ tree.Blocks file) :
    ∃ after, tree.writeLine file line = (after, none) ∧ after.LeadsToFile file ∧
      after.content file.parts =
        (if tree.mustRotate file.parts line then .empty else tree.content file.parts) ++
          line.toUTF8 ∧
      (tree.mustRotate file.parts line = true →
        after.content (asidePlace file.parts 1) = tree.content file.parts) ∧
      ∀ other, other ≠ file.parts →
        (tree.mustRotate file.parts line = true → ¬ file.parts <+: other ∧
          ∀ number ∈ [1, 2, 3], ¬ asidePlace file.parts number <+: other) →
        after.content other = tree.content other := by
  unfold writeLine
  cases hmust : tree.mustRotate file.parts line with
  | false =>
    obtain ⟨hstill, hcontent, hrest⟩ := h.append_facts hleads line
    refine ⟨_, rfl, hstill, hcontent, nofun, fun other hother _ => ?_⟩
    rw [content, hrest other hother]
    rfl
  | true =>
    obtain ⟨rotated, hrotate, hempty, haside, hkept⟩ := h.exists_rotate_eq hleads (hfree hmust)
    obtain ⟨hnull, hsize, hways, -⟩ := h.of_leadsToFile hleads
    -- neither the way to the file nor the file put aside is touched by the line
    have hways' : rotated.OpensTo dir := hways.congr fun other hother => by
      refine hkept other (h.parts ▸ not_below_of_length_le hother) fun number _ => ?_
      rw [h.asidePlace_eq]
      exact not_below_of_length_le hother
    obtain ⟨hstill, hcontent, hrest⟩ :=
      h.append_facts (h.leadsToFile hnull hsize hways' hempty) line
    have hne : asidePlace file.parts 1 ≠ file.parts := by
      have hname := (asideName_facts 1 (by decide)).2.1
      rw [h.asidePlace_eq, h.parts]
      simpa using hname
    refine ⟨rotated.append file.parts line, by simp [hrotate], hstill, ?_, fun _ => ?_,
      fun other hother hbelow => ?_⟩
    · rw [hcontent, if_pos rfl, content, hempty]
    · rw [content, hrest _ hne, haside]
      rfl
    · obtain ⟨hfile, hasides⟩ := hbelow rfl
      rw [content, hrest other hother, hkept other hfile hasides]
      rfl

/-- **A line** that is written leaves the path of its file leading to it, and so does one that is
lost. -/
theorem IsJournalFile.leadsToFile_writeLine (h : IsJournalFile dir file)
    (hleads : tree.LeadsToFile file) (line : String) :
    (tree.writeLine file line).1.LeadsToFile file := by
  by_cases hlost : tree.mustRotate file.parts line = true ∧ tree.Blocks file
  · obtain ⟨fault, hwrite⟩ := h.writeLine_of_blocks hleads hlost.1 hlost.2
    rwa [hwrite]
  · obtain ⟨after, hwrite, hstill, -⟩ :=
      h.exists_writeLine_eq hleads fun hmust hblocks => hlost ⟨hmust, hblocks⟩
    rwa [hwrite]

/-- **What stands elsewhere** is the same after a line has been written or lost. -/
theorem IsJournalFile.content_writeLine_of_apart (h : IsJournalFile dir file)
    (hleads : tree.LeadsToFile file) {other : List String} (hne : other ≠ file.parts)
    (hapart : tree.mustRotate file.parts line = true → ¬ file.parts <+: other ∧
      ∀ number ∈ [1, 2, 3], ¬ asidePlace file.parts number <+: other) :
    (tree.writeLine file line).1.content other = tree.content other := by
  by_cases hlost : tree.mustRotate file.parts line = true ∧ tree.Blocks file
  · obtain ⟨fault, hwrite⟩ := h.writeLine_of_blocks hleads hlost.1 hlost.2
    rw [hwrite]
  · obtain ⟨after, hwrite, -, -, -, hrest⟩ :=
      h.exists_writeLine_eq hleads fun hmust hblocks => hlost ⟨hmust, hblocks⟩
    rw [hwrite]
    exact hrest other hne hapart

end WriteLine

end FileTree

end ShellPipeline
