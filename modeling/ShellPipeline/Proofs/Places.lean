import ShellPipeline.FileTree

/-!
# Places in a tree

A path whose pairs of dots are carried out spells the place it leads to, if it leads to any: there
are no links, so a walk from the root stands, after each name, at the names read so far. It leads
there if each of these is a directory and no name is too long (`FileTree.find_eq_ok_iff`).

What is put at a place is found there, and what is at any other place stays. Making directories puts
something only where there was nothing. So the tree only grows, and a path that has led to something
leads to it from then on (`FileTree.find_of_grows`).

* `Path.SpellsPlace`, `Path.spellsPlace_absolute` — paths with their pairs of dots carried out;
* `FileTree.Opens`, `FileTree.walk_eq_ok_iff` — names that can be walked along;
* `FileTree.node?_put_self`, `FileTree.node?_put_of_ne` — what a change leaves;
* `FileTree.Grows` — trees that only grow.
-/

namespace ShellPipeline

/-! ### Pairs of dots -/

namespace Path

theorem dots_not_mem_foldl_stepPart (parts : List String) {done : List String}
    (h : ".." ∉ done) : ".." ∉ parts.foldl stepPart done := by
  induction parts generalizing done with
  | nil => exact h
  | cons part rest ih =>
    apply ih
    unfold stepPart
    split
    · exact fun hmem => h (List.mem_of_mem_tail hmem)
    · next hpart =>
      intro hmem
      rcases List.mem_cons.mp hmem with heq | hmem
      · exact hpart heq.symm
      · exact h hmem

theorem dots_not_mem_normalParts (parts : List String) : ".." ∉ normalParts parts := by
  intro hmem
  exact dots_not_mem_foldl_stepPart parts List.not_mem_nil (List.mem_reverse.mp hmem)

/-- A name at the end that is not a pair of dots stays at the end. -/
theorem normalParts_concat (parts : List String) {name : String} (h : name ≠ "..") :
    normalParts (parts ++ [name]) = normalParts parts ++ [name] := by
  simp [normalParts, stepPart, h]

theorem absoluteParts_child (cwd : List String) (p : Path) (name : String) :
    (p.child name).absoluteParts cwd = p.absoluteParts cwd ++ [name] := by
  -- both forms of a path take the new name behind their names
  unfold absoluteParts
  rw [show (p.child name).isAbsolute = p.isAbsolute from rfl]
  split
  · rfl
  · exact (List.append_assoc ..).symm

/-- **A path that spells the place it leads to**, from the root on. -/
structure SpellsPlace (p : Path) : Prop where
  /-- The path starts at a root. -/
  isAbsolute : p.isAbsolute = true
  /-- There is no way back on it. -/
  dots : ".." ∉ p.parts

theorem spellsPlace_absolute (cwd : List String) (p : Path) : (p.absolute cwd).SpellsPlace := by
  refine ⟨?_, dots_not_mem_normalParts _⟩
  obtain ⟨root, parts⟩ := p
  cases root <;> rfl

end Path

namespace FileTree

/-! ### Walks -/

/-- What is at a place, as the end of a walk. -/
def spotAt (tree : FileTree) (place : List String) : Spot :=
  match tree.node? place with
  | some node => .found place node
  | none => .vacant place

/-- **Whether names can be walked along** from a place: there is a directory in front of each of
them, and none is too long. -/
def Opens (tree : FileTree) (place names : List String) : Prop :=
  ∀ front name, front ++ [name] <+: names →
    tree.node? (place ++ front) = some .directory ∧ name.utf8ByteSize ≤ nameLimit

section Walks

variable {tree : FileTree} {place names : List String} {name : String} {spot : Spot}

theorem spotAt_of_some {node : Node} (h : tree.node? place = some node) :
    tree.spotAt place = .found place node := by
  rw [spotAt, h]

theorem spotAt_of_none (h : tree.node? place = none) : tree.spotAt place = .vacant place := by
  rw [spotAt, h]

/-- What is found is at the place. -/
theorem spotAt_eq_found_iff {other : List String} {node : Node} :
    tree.spotAt place = .found other node ↔ other = place ∧ tree.node? place = some node := by
  rw [spotAt]
  cases tree.node? place <;> grind

theorem spotAt_eq_vacant_iff {other : List String} :
    tree.spotAt place = .vacant other ↔ other = place ∧ tree.node? place = none := by
  rw [spotAt]
  cases tree.node? place <;> grind

theorem opens_nil : tree.Opens place [] := by
  intro front name h
  simp at h

theorem opens_cons_iff : tree.Opens place (name :: names) ↔
    tree.node? place = some .directory ∧ name.utf8ByteSize ≤ nameLimit ∧
      tree.Opens (place ++ [name]) names := by
  constructor
  · intro h
    obtain ⟨hnode, hname⟩ := h [] name (by simp)
    refine ⟨by simpa using hnode, hname, fun front last hlast => ?_⟩
    simpa using h (name :: front) last (by simpa using hlast)
  · rintro ⟨hnode, hname, h⟩ front last hlast
    cases front with
    | nil =>
      obtain rfl : last = name := by simpa using hlast
      exact ⟨by simpa using hnode, hname⟩
    | cons first front =>
      -- the first name is the same, and behind it the others are walked along
      rw [List.cons_append, List.cons_prefix_cons] at hlast
      obtain ⟨rfl, hlast⟩ := hlast
      simpa using h front last hlast

theorem opens_concat_iff : tree.Opens place (names ++ [name]) ↔
    tree.Opens place names ∧ tree.node? (place ++ names) = some .directory ∧
      name.utf8ByteSize ≤ nameLimit := by
  induction names generalizing place with
  | nil => simp [opens_cons_iff, opens_nil]
  | cons first rest ih =>
    rw [List.cons_append, opens_cons_iff, opens_cons_iff, ih]
    simp [and_assoc]

/-- **A walk without pairs of dots** comes to its end where its names can be walked along, and ends
where they say. -/
theorem walk_eq_ok_iff (hdots : ".." ∉ names) : tree.walk place names = .ok spot ↔
    tree.Opens place names ∧ spot = tree.spotAt (place ++ names) := by
  induction names generalizing place with
  | nil =>
    rw [walk, List.append_nil, spotAt]
    cases tree.node? place <;> simp [opens_nil, eq_comm]
  | cons name rest ih =>
    have hname : name ≠ ".." := fun heq => hdots (heq ▸ List.mem_cons_self)
    have hrest : ".." ∉ rest := fun hmem => hdots (List.mem_cons_of_mem _ hmem)
    rw [walk, opens_cons_iff]
    split
    · next h => simp [h]
    · next h => simp [h]
    · -- only a directory is stepped from, and the step is not back
      next h =>
      split
      · next hlong => simp [Nat.not_le.mpr hlong]
      · next hshort => simp [h, Nat.not_lt.mp hshort, ih hrest]

/-- **Where a path leads** whose pairs of dots are carried out: to the place it spells, wherever the
working directory is. -/
theorem find_eq_ok_iff {cwd : List String} {path : Path} (hpath : path.SpellsPlace) :
    tree.find cwd path = .ok spot ↔
      path.hasNull = false ∧ path.text.utf8ByteSize < pathLimit ∧ tree.Opens [] path.parts ∧
        spot = tree.spotAt path.parts := by
  have hwalk := @walk_eq_ok_iff tree [] path.parts spot hpath.dots
  rw [List.nil_append] at hwalk
  simp only [find, hpath.isAbsolute, if_true]
  split
  · next hnull => simp [hnull]
  · next hnull =>
    split
    · next hlong => simp [Nat.not_lt.mpr hlong]
    · next hshort =>
      -- the fault of a walk is worded with the path, but it stays a fault
      cases h : tree.walk [] path.parts <;>
        simpa [h, hnull, Nat.not_le.mp hshort] using hwalk

end Walks

/-! ### Changes -/

variable (tree : FileTree) {place other : List String}

theorem node?_of_ne_nil (h : place ≠ []) : tree.node? place = tree.nodes.lookup place := by
  simp [node?, h]

/-- Entries replaced under one name are found under it, if there was one at all. -/
theorem lookup_replace_self {nodes : List (List String × Node)} (node : Node)
    (h : nodes.any (·.1 == place) = true) :
    (nodes.map fun entry => if entry.1 == place then (place, node) else entry).lookup place =
      some node := by
  induction nodes with
  | nil => cases h
  | cons entry rest ih =>
    obtain ⟨key, value⟩ := entry
    by_cases hkey : key = place
    · simp [hkey]
    · have hrest : rest.any (·.1 == place) = true := by simpa [hkey] using h
      simpa [hkey, List.lookup_cons, beq_false_of_ne (Ne.symm hkey)] using ih hrest

theorem lookup_replace_of_ne (nodes : List (List String × Node)) (node : Node)
    (h : other ≠ place) :
    (nodes.map fun entry => if entry.1 == place then (place, node) else entry).lookup other =
      nodes.lookup other := by
  induction nodes with
  | nil => rfl
  | cons entry rest ih =>
    obtain ⟨key, value⟩ := entry
    by_cases hkey : key = place
    · -- the entry is replaced, and neither of the two is looked for
      subst hkey
      simpa [List.lookup_cons, beq_false_of_ne h] using ih
    · rw [List.map_cons, if_neg (by simpa using hkey), List.lookup_cons, List.lookup_cons, ih]

/-- **What is put at a place** is found there. The root is a directory in every tree. -/
theorem node?_put_self (node : Node) (h : place ≠ []) :
    (tree.put place node).node? place = some node := by
  rw [node?_of_ne_nil _ h]
  unfold put
  split
  · next hany => exact lookup_replace_self node hany
  · next hany =>
    have hnone : tree.nodes.lookup place = none := by
      rw [List.lookup_eq_none_iff]
      intro entry hentry
      have hne : entry.1 ≠ place := by
        intro heq
        exact hany (List.any_eq_true.mpr ⟨entry, hentry, by simp [heq]⟩)
      simpa using Ne.symm hne
    simp [List.lookup_append, hnone]

/-- **What is at another place** stays there. -/
theorem node?_put_of_ne (node : Node) (h : other ≠ place) :
    (tree.put place node).node? other = tree.node? other := by
  by_cases hother : other = []
  · simp [node?, hother]
  · rw [node?_of_ne_nil _ hother, node?_of_ne_nil _ hother]
    unfold put
    split
    · exact lookup_replace_of_ne tree.nodes node h
    · simp [List.lookup_append, List.lookup_cons, beq_false_of_ne h]

/-- What is put at a place is the content of the file there. -/
theorem content_put_self (bytes : ByteArray) (h : place ≠ []) :
    (tree.put place (.file bytes)).content place = bytes := by
  rw [content, node?_put_self tree _ h]

/-! ### Growth -/

/-- **A tree that has grown**: what was at a place is still there. -/
def Grows (tree after : FileTree) : Prop :=
  ∀ place node, tree.node? place = some node → after.node? place = some node

section Growth

variable {tree : FileTree} {after : FileTree} {cwd : List String} {path : Path}

theorem Grows.refl (tree : FileTree) : tree.Grows tree := fun _ _ h => h

theorem Grows.trans {last : FileTree} (h : tree.Grows after) (h' : after.Grows last) :
    tree.Grows last := fun place node hnode => h' place node (h place node hnode)

/-- Something put where there was nothing lets a tree grow. -/
theorem grows_put (node : Node) (h : tree.node? place = none) :
    tree.Grows (tree.put place node) := by
  intro other found hfound
  have hne : other ≠ place := fun heq => by rw [heq, h] at hfound; cases hfound
  rwa [node?_put_of_ne tree node hne]

/-- A walk that ends where nothing is ends at such a place, pairs of dots or not. -/
theorem node?_of_walk_eq_vacant {start names : List String}
    (h : tree.walk start names = .ok (.vacant place)) : tree.node? place = none := by
  induction names generalizing start with
  | nil =>
    rw [walk] at h
    split at h
    · cases h
    · next hnone =>
      cases h
      exact hnone
  | cons name rest ih =>
    rw [walk] at h
    split at h
    · cases h
    · cases h
    · -- a step forward or back, and the walk goes on from there
      split at h
      · cases h
      · split at h
        · exact ih h
        · exact ih h

theorem node?_of_find_eq_vacant (h : tree.find cwd path = .ok (.vacant place)) :
    tree.node? place = none := by
  unfold find at h
  split at h
  · cases h
  · split at h
    · cases h
    · dsimp only at h
      split at h
      · cases h
      · next hwalk =>
        cases h
        exact node?_of_walk_eq_vacant hwalk

theorem grows_makeDirectory (h : tree.makeDirectory cwd path = .ok after) : tree.Grows after := by
  unfold makeDirectory at h
  split at h
  · cases h
  · cases h
  · next hvacant =>
    cases h
    exact grows_put _ (node?_of_find_eq_vacant hvacant)

theorem grows_ensureDirectory (h : tree.ensureDirectory cwd path = .ok after) :
    tree.Grows after := by
  unfold ensureDirectory at h
  split at h
  · next hmade =>
    cases h
    exact grows_makeDirectory hmade
  · split at h
    · cases h
    · -- what is there already is left as it is
      split at h
      · cases h
      · cases h
        exact .refl tree
      · cases h
  · cases h

theorem grows_makeWay (depth : Nat) : tree.Grows (tree.makeWay cwd depth path).1 := by
  induction depth generalizing path with
  | zero =>
    rw [makeWay]
    split
    · next h => exact grows_ensureDirectory h
    · exact .refl tree
  | succ depth ih =>
    rw [makeWay]
    split
    · next h => exact grows_ensureDirectory h
    · split
      · exact .refl tree
      · -- the way to it first, and then the directory itself
        have hway := @ih path.parent
        split
        · next h => rwa [h] at hway
        · next h =>
          rw [h] at hway
          split
          · next hmade => exact hway.trans (grows_ensureDirectory hmade)
          · exact hway
    · exact .refl tree

/-- **Making directories** lets a tree grow, whether it succeeds or not. -/
theorem grows_makeDirectories (tree : FileTree) (cwd : List String) (path : Path) :
    tree.Grows (tree.makeDirectories cwd path).1 := grows_makeWay _

theorem Opens.of_grows {start names : List String} (h : tree.Opens start names)
    (hgrows : tree.Grows after) : after.Opens start names := by
  intro front name hfront
  obtain ⟨hnode, hname⟩ := h front name hfront
  exact ⟨hgrows _ _ hnode, hname⟩

/-- **What a path has led to**, it leads to in a tree that has grown. -/
theorem find_of_grows {node : Node} (hpath : path.SpellsPlace)
    (h : tree.find [] path = .ok (.found path.parts node)) (hgrows : tree.Grows after) :
    after.find [] path = .ok (.found path.parts node) := by
  obtain ⟨hnull, hlength, hopens, hspot⟩ := (find_eq_ok_iff hpath).mp h
  obtain ⟨-, hnode⟩ := spotAt_eq_found_iff.mp hspot.symm
  exact (find_eq_ok_iff hpath).mpr ⟨hnull, hlength, hopens.of_grows hgrows,
    (spotAt_of_some (hgrows _ _ hnode)).symm⟩

end Growth

/-! ### The file of a path -/

/-- **A path that leads to a file.** -/
def LeadsToFile (tree : FileTree) (file : Path) : Prop :=
  ∃ bytes, tree.find [] file = .ok (.found file.parts (.file bytes))

/-- **A file that is opened** is there from then on. -/
theorem leadsToFile_of_openToAppend {tree after : FileTree} {cwd place : List String} {file : Path}
    (hfile : file.SpellsPlace) (hne : file.parts ≠ [])
    (h : tree.openToAppend cwd file = .ok (after, place)) : after.LeadsToFile file := by
  unfold openToAppend at h
  split at h
  · cases h
  · cases h
  · next bytes hfound =>
    cases h
    have hspot := (find_eq_ok_iff hfile).mp hfound
    obtain ⟨rfl, -⟩ := spotAt_eq_found_iff.mp hspot.2.2.2.symm
    exact ⟨bytes, (find_eq_ok_iff hfile).mpr hspot⟩
  · next hvacant =>
    cases h
    obtain ⟨hnull, hlength, hopens, hspot⟩ := (find_eq_ok_iff hfile).mp hvacant
    obtain ⟨rfl, hnone⟩ := spotAt_eq_vacant_iff.mp hspot.symm
    refine ⟨.empty, (find_eq_ok_iff hfile).mpr ⟨hnull, hlength,
      hopens.of_grows (grows_put _ hnone), (spotAt_of_some ?_).symm⟩⟩
    exact node?_put_self tree _ hne

end FileTree

end ShellPipeline
