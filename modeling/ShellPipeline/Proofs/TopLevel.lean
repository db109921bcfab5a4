import ShellPipeline.Proofs.FirstCandidate

/-!
# What stands at the top of a YAML configuration

A YAML configuration has to be a mapping at the top. A text without a document has no value there,
and is let through as an empty mapping. But what is asked is not whether there is a value: it is
whether the value counts as true. So every value that counts as false is let through
(`Value.Hollow`): besides no value, an empty list or set, an empty text, zero, and the truth value
itself. Only one that counts as true is refused for not being a mapping.

* `Value.Hollow`, `Graph.hollow_value_iff` — the values that count as false;
* `Environment.HoldsYaml` — a file with a YAML document;
* `HoldsYaml.readConfig_of_isMap`, `HoldsYaml.readConfig_of_hollow`,
  `HoldsYaml.readConfig_of_refused` — the three ways of reading it.
-/

namespace ShellPipeline

open Document (Graph Value)

/-! ### Values that count as false -/

namespace Document

/-- **The values that count as false.** -/
inductive Value.Hollow : Value → Prop where
  /-- No value. -/
  | null : Hollow .null
  /-- The truth value. -/
  | bool : Hollow (.bool false)
  /-- The whole number zero. -/
  | int : Hollow (.int 0)
  /-- The floating-point zeros. -/
  | float {x : Number.Binary64} (h : x.isZero = true) : Hollow (.float x)
  /-- The empty text. -/
  | text : Hollow (.text "")
  /-- No bytes. -/
  | bytes : Hollow (.bytes [])
  /-- The empty list. -/
  | list : Hollow (.list [])
  /-- The empty tuple. -/
  | tuple : Hollow (.tuple [])
  /-- The empty set. -/
  | set : Hollow (.set [])
  /-- The empty mapping. -/
  | map : Hollow (.map [])

theorem Value.hollow_iff {v : Value} : v.Hollow ↔ v.truth = false := by
  constructor
  · intro h
    cases h with
    | float h => simp [truth, h]
    | _ => rfl
  · intro h
    cases v with
    | null => exact .null
    | bool b =>
      cases b with
      | false => exact .bool
      | true => cases h
    | int n =>
      obtain rfl : n = 0 := by simpa [truth] using h
      exact .int
    | float x => exact .float (by simpa [truth] using h)
    | text s =>
      obtain rfl : s = "" := by simpa [truth] using h
      exact .text
    | bytes b =>
      obtain rfl : b = [] := by simpa [truth] using h
      exact .bytes
    | list items =>
      obtain rfl : items = [] := by simpa [truth] using h
      exact .list
    | tuple items =>
      obtain rfl : items = [] := by simpa [truth] using h
      exact .tuple
    | set items =>
      obtain rfl : items = [] := by simpa [truth] using h
      exact .set
    | map entries =>
      obtain rfl : entries = [] := by simpa [truth] using h
      exact .map
    | torn _ | date _ | time _ | moment _ | again _ => cases h

/-- The only mapping among these values is the empty one. -/
theorem Value.Hollow.eq_map {v : Value} (h : v.Hollow) (hmap : v.isMap = true) : v = .map [] := by
  cases h with
  | map => rfl
  | _ => cases hmap

namespace Graph

theorem hollow_value_iff {document : Graph} : document.value.Hollow ↔ document.truth = false := by
  rw [Value.hollow_iff, truth_value]

theorem isMap_value (g : Graph) : g.value.isMap = g.isMap := by
  rw [value, valueWithin, isMap, outermost]
  -- a collection is written out as one of its own kind
  cases g.object g.root <;> simp [Value.isMap]

/-- A mapping that counts as false is written out as an empty one. -/
theorem value_of_isMap {document : Graph} (hmap : document.isMap = true)
    (h : document.truth = false) : document.value = .map [] :=
  (hollow_value_iff.mpr h).eq_map ((isMap_value document).trans hmap)

/-- A document that counts as false holds nothing under any name. -/
theorem get?_of_truth_eq_false {document : Graph} (h : document.truth = false) (name : String) :
    document.get? name = none := by
  unfold truth at h
  unfold get?
  split at h
  · next v hv =>
    have hnone : v.get? name = none := by cases Value.hollow_iff.mpr h <;> rfl
    simp [hv, hnone]
  · next hlist => simp [hlist]
  · next hpairs => simp [hpairs]
  · next hset => simp [hset]
  · next entries hmap =>
    obtain rfl : entries = [] := by simpa using h
    simp [hmap]

end Graph

end Document

/-! ### Reading -/

/-- **A file with a YAML document**: no name of the other format, and a text that is read. -/
structure Environment.HoldsYaml [Limits] (env : Environment) (path : Path) (document : Graph) :
    Prop where
  /-- The name does not end like that of a TOML file, in letters of either case. -/
  suffix : String.ofList (path.suffix.toList.map Char.toLower) ≠ ".toml"
  /-- The file can be read, and what is in it is a document. -/
  document : ∃ content text, env.tree.read env.cwd path = .ok content ∧
    String.fromUTF8? content = some text ∧ Document.Yaml.read text = .ok document

namespace Environment

variable [Limits] {env : Environment} {path : Path} {document : Graph}

/-- Of a YAML document it is looked at whether it is a mapping, and at nothing else. -/
theorem HoldsYaml.readConfig_eq (h : env.HoldsYaml path document) :
    env.readConfig path = mappingOf path document := by
  obtain ⟨hsuffix, content, text, hcontent, htext, hread⟩ := h
  have hformat : formatOf path = .yaml := if_neg hsuffix
  rw [readConfig, hcontent]
  simp only [hformat, readYaml, Document.Yaml.readFile, htext, hread]

/-- **A mapping is read.** An empty one counts as false, and another empty one is taken for it. -/
theorem HoldsYaml.readConfig_of_isMap (h : env.HoldsYaml path document)
    (hmap : document.isMap = true) : ∃ found, env.readConfig path = .ok found ∧
      found.isMap = true ∧ found.value = document.value ∧
      (document.truth = true → found = document) := by
  rw [h.readConfig_eq, mappingOf]
  cases htruth : document.truth with
  | true => exact ⟨document, by simp [hmap], hmap, rfl, fun _ => rfl⟩
  | false =>
    exact ⟨.ofValue (.map []), by simp, rfl, (Graph.value_of_isMap hmap htruth).symm, nofun⟩

/-- **What counts as false is read as an empty mapping**, of whatever kind it is. -/
theorem HoldsYaml.readConfig_of_hollow (h : env.HoldsYaml path document)
    (hhollow : document.truth = false) : env.readConfig path = .ok (.ofValue (.map [])) := by
  rw [h.readConfig_eq, mappingOf, hhollow]
  rfl

/-- **Anything else that is no mapping is refused.** -/
theorem HoldsYaml.readConfig_of_refused (h : env.HoldsYaml path document)
    (hmap : document.isMap = false) (htruth : document.truth = true) :
    env.readConfig path = .error (.notMapping path.text) := by
  rw [h.readConfig_eq, mappingOf, htruth, hmap]
  rfl

end Environment

/-- A document that counts as false amounts to the defaults. -/
theorem ofDocument_of_hollow [Limits] (dir : Path) {document : Graph} (h : document.truth = false) :
    Loaded.ofDocument "" dir document = ⟨"", .ok (.defaults dir)⟩ := by
  have hnone := Graph.get?_of_truth_eq_false h
  have hempty := @Graph.get?_of_truth_eq_false (.ofValue (.map [])) rfl
  -- there is nothing to be found under any of the six names
  have hpicked : Picked.ofDocument document = Picked.ofDocument (.ofValue (.map [])) := by
    simp only [Picked.ofDocument, Graph.sectionAt, hnone, hempty]
  rw [Loaded.ofDocument, DraftSettings.ofDocument, hpicked]
  exact Environment.ofDocument_eq_defaults "" dir

/-- **What stands at the top decides** how a YAML configuration is read. A mapping is read as it is,
and the settings are those of its document. What is no mapping is refused where it counts as true:
the reading fails with the name of the file, and loading reports that and takes the defaults. What
counts as false, though it may be a list, a text, a number or a truth value, is not refused: it is
read like a document without a value, as an empty mapping, and loading takes the defaults without a
report. -/
theorem top_level_decides [Limits] {env : Environment} {config base : Option Path} {dir path : Path}
    {document : Graph} (hbase : env.baseDir base = .ok dir)
    (hfile : env.findConfig config = .ok (some path)) (hyaml : env.HoldsYaml path document) :
    let loaded := env.load config base
    (document.isMap = true →
      (∃ found, env.readConfig path = .ok found ∧ found.isMap = true ∧
        found.value = document.value ∧ (document.truth = true → found = document)) ∧
      loaded = .ofDocument "" dir document) ∧
    (document.isMap = false → ¬ document.value.Hollow →
      env.readConfig path = .error (.notMapping path.text) ∧
      (ReadFault.notMapping path.text).message =
        "YAML config must be a mapping at top-level: " ++ path.text ∧
      loaded = ⟨"Failed to load config: " ++ (ReadFault.notMapping path.text).message ++ "\n",
        .ok (.defaults dir)⟩) ∧
    (document.isMap = false → document.value.Hollow →
      env.readConfig path = .ok (.ofValue (.map [])) ∧ loaded = ⟨"", .ok (.defaults dir)⟩) := by
  intro loaded
  have hread : ∀ found, env.readConfig path = .ok found → loaded = .ofDocument "" dir found :=
    fun _ h => Environment.load_of_document hbase hfile h
  refine ⟨fun hmap => ⟨hyaml.readConfig_of_isMap hmap, ?_⟩, fun hmap hhollow => ?_,
    fun hmap hhollow => ?_⟩
  · cases htruth : document.truth with
    | true =>
      obtain ⟨found, hfound, -, -, hsame⟩ := hyaml.readConfig_of_isMap hmap
      rw [hread found hfound, hsame htruth]
    | false =>
      -- the mapping that is read is another one, but both are empty
      rw [hread _ (hyaml.readConfig_of_hollow htruth), ofDocument_of_hollow dir htruth]
      exact ofDocument_of_hollow dir rfl
  · have htruth : document.truth = true :=
      Bool.of_not_eq_false fun h => hhollow (Graph.hollow_value_iff.mpr h)
    have hrefused := hyaml.readConfig_of_refused hmap htruth
    exact ⟨hrefused, rfl, Environment.load_of_expected hbase hfile hrefused rfl⟩
  · have hempty := hyaml.readConfig_of_hollow (Graph.hollow_value_iff.mp hhollow)
    exact ⟨hempty, (hread _ hempty).trans (ofDocument_of_hollow dir rfl)⟩

/-- A list that is not empty, a mapping, and the number zero. -/
theorem top_level_decides_three :
    let path : Path := ⟨.relative, ["c"]⟩
    let env (text : String) : Environment :=
      ⟨⟨[(["w"], .directory), (["w", "c"], .file text.toUTF8)]⟩, ["w"], [], some "c", "12:00"⟩
    ((env "- a").readConfig path = .error (.notMapping "c") ∧
        (env "- a").load none none =
          ⟨"Failed to load config: YAML config must be a mapping at top-level: c\n",
            .ok (.defaults ⟨.single, ["w"]⟩)⟩) ∧
      ((env "debug: on").readConfig path).isOk = true ∧
      (env "0").load none none = ⟨"", .ok (.defaults ⟨.single, ["w"]⟩)⟩ := by
  intro path env
  have hbase : ∀ text, (env text).baseDir none = .ok ⟨.single, ["w"]⟩ := fun _ => rfl
  have hfile : ∀ text, (env text).findConfig none = .ok (some path) := fun _ => rfl
  -- the file is found and holds the text, so it is a matter of what the text is read as
  have hyaml : ∀ {text document}, Document.Yaml.read text = .ok document →
      (env text).HoldsYaml path document := by
    intro text document h
    have htext : String.fromUTF8? text.toUTF8 = some text := dif_pos text.isValidUTF8
    exact ⟨by decide, text.toUTF8, text, rfl, htext, h⟩
  have hlistShape : (Document.Yaml.read "- a").map (fun g => (g.isMap, g.truth)) =
      .ok (false, true) := by decide +kernel
  have hmapShape : (Document.Yaml.read "debug: on").map (·.isMap) = .ok true := by decide +kernel
  have hzeroShape : (Document.Yaml.read "0").map (fun g => (g.isMap, g.truth)) =
      .ok (false, false) := by decide +kernel
  obtain ⟨list, hlist, hlistShape⟩ := map_eq_ok_iff.mp hlistShape
  obtain ⟨map, hmap, hisMap⟩ := map_eq_ok_iff.mp hmapShape
  obtain ⟨zero, hzero, hzeroShape⟩ := map_eq_ok_iff.mp hzeroShape
  obtain ⟨hlistMap, hlistTruth⟩ := Prod.mk.inj hlistShape
  obtain ⟨hzeroMap, hzeroTruth⟩ := Prod.mk.inj hzeroShape
  obtain ⟨-, hrefused, -⟩ := top_level_decides (hbase "- a") (hfile "- a") (hyaml hlist)
  obtain ⟨hread, -, -⟩ := top_level_decides (hbase "debug: on") (hfile "debug: on") (hyaml hmap)
  obtain ⟨-, -, hempty⟩ := top_level_decides (hbase "0") (hfile "0") (hyaml hzero)
  have hhollow : ¬ list.value.Hollow := by
    rw [Graph.hollow_value_iff, hlistTruth]
    decide
  obtain ⟨hfault, -, hlistRun⟩ := hrefused hlistMap hhollow
  obtain ⟨⟨found, hfound, -⟩, -⟩ := hread hisMap
  have hok : ((env "debug: on").readConfig path).isOk = true := by
    rw [hfound]
    rfl
  exact ⟨⟨hfault, hlistRun⟩, hok, (hempty hzeroMap (Graph.hollow_value_iff.mpr hzeroTruth)).2⟩

/-- **An empty list is let through**, though it is no mapping, and so are zero, the truth value and
the empty text. -/
theorem empty_list_is_let_through :
    let path : Path := ⟨.single, ["pipeparse.yaml"]⟩
    let env (text : String) : Environment :=
      ⟨⟨[(["pipeparse.yaml"], .file text.toUTF8)]⟩, [], [], none, "12:00"⟩
    ∀ text ∈ ["[]", "0", "false", "\"\""],
      (Document.Yaml.read text).toOption.map (fun document => document.isMap) = some false ∧
      (env text).findConfig none = .ok (some path) ∧
      ((env text).readConfig path).toOption.map (fun found => found.isMap) = some true ∧
      ((env text).load none none).report = "" ∧
      ((env text).load none none).settings = .ok (.defaults ⟨.single, []⟩) := by
  decide +kernel

end ShellPipeline
