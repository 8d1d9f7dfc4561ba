import ApiStubs.Config
import ApiStubs.Proofs.RootedTrees
import ApiStubs.Proofs.WrittenMappings
import ApiStubs.Proofs.WrittenRecords

/-!
# Saved configurations

A configuration is saved as a mapping of texts and truth values, in the format that the extension
of the file chooses, and without the fields that hold nothing. A file that is loaded may lack
fields, may hold nothing in them and may have others.

## What is proved

* `ofJsonText?_pretty` and `ofYamlText?_mappingText`: a configuration is read from its own text in
  either format, whatever characters its texts are made of.
* `load_save`: a configuration that is saved is loaded again, and what is loaded from any text
  is saved and loaded unchanged, whatever the formats.
-/

namespace ApiStubs

theorem mapM_map_of_forall {α β : Type} {f : α → β} {g : β → Option α}
    (same : ∀ a, g (f a) = some a) (as : List α) :
    (as.map f).mapM g = some as := by
  induction as with
  | nil => rfl
  | cons a as ih =>
    rw [List.map_cons, List.mapM_cons, same, ih]
    rfl

/-- A record whose fields have names of their own, in order, is read as it is. -/
theorem Json.Raw.record?_of_sublist {names : List String} (needed : Nat)
    {fields : List (String × Raw)} (distinct : names.Nodup)
    (known : (fields.map Prod.fst).Sublist names) :
    (Raw.obj (fields.map fun f => (some f.1, f.2))).record? names needed = some fields := by
  have all : fields.filter (fun f => names.contains f.1) = fields := by
    rw [List.filter_eq_self]
    exact fun f hf => List.contains_iff_mem.mpr (known.subset (List.mem_map_of_mem hf))
  have once : names.all (fun name => (fields.filter fun f => f.1 == name).length ≤ 1) = true := by
    rw [List.all_eq_true]
    intro name _
    have count := List.nodup_iff_count.mp (distinct.sublist known) name
    rw [List.count, List.countP_map, List.countP_eq_length_filter] at count
    exact decide_eq_true count
  rw [record?]
  refine (congrArg (Option.bind · _) (mapM_map_of_forall ?_ fields)).trans ?_
  · exact fun _ => rfl
  · simp only [Option.bind_some, all, once, if_true]

namespace Config

/-! ### Fields -/

/-- The path of the document is always written, and first. -/
theorem exists_fields (c : Config) : ∃ field fields, c.fields = field :: fields :=
  ⟨("spec", .inl c.spec), _, rfl⟩

/-- The fields are written in the order of their names. -/
theorem fields_sublist (c : Config) : (c.fields.map Prod.fst).Sublist fieldNames := by
  obtain ⟨spec, space, outputDir, configDir, kind, templateDir, ignoreFile, overwrite⟩ := c
  cases configDir <;> cases templateDir <;> cases ignoreFile <;> exact of_decide_eq_true rfl

theorem mem_fieldNames (c : Config) : ∀ field ∈ c.fields, field.1 ∈ fieldNames :=
  fun _ h => c.fields_sublist.subset (List.mem_map_of_mem h)

theorem isBare_of_mem_fieldNames {name : String} (h : name ∈ fieldNames) : Yaml.IsBare name := by
  have all : ∀ name ∈ fieldNames, (name.toList ≠ [] ∧ name.toList.length ≤ 1024) ∧
      name.toList.all (fun c => c.isAlpha || c = '_') = true := by decide
  obtain ⟨⟨nonempty, short⟩, letters⟩ := all name h
  exact ⟨nonempty, short, List.all_eq_true.mp letters⟩

/-! ### JSON -/

theorem ofRecord?_fields (c : Config) :
    ofRecord? (c.fields.map fun (name, value) => (name, Json.Raw.ofFlat value)) = some c := by
  obtain ⟨spec, space, outputDir, configDir, kind, templateDir, ignoreFile, overwrite⟩ := c
  cases configDir <;> cases templateDir <;> cases ignoreFile <;> rfl

theorem toJson_eq (c : Config) : c.toJson = .obj (Json.flatFields c.fields) := by
  rw [toJson, Json.flatFields]
  congr 1
  refine List.map_congr_left ?_
  rintro ⟨name, text | flag⟩ _ <;> rfl

/-- **A configuration in a JSON text** is read back from it. -/
theorem ofJsonText?_pretty (c : Config) : ofJsonText? c.toJson.pretty = some c := by
  obtain ⟨field, fields, same⟩ := c.exists_fields
  have text := Json.ofText?_pretty field fields
  rw [← same] at text
  have names : (c.fields.map fun (name, value) => (name, Json.Raw.ofFlat value)).map Prod.fst =
      c.fields.map Prod.fst := by
    rw [List.map_map]
    rfl
  have record := Json.Raw.record?_of_sublist 3 (by decide) (names ▸ c.fields_sublist)
  rw [List.map_map] at record
  rw [ofJsonText?, Json.recordOfText?, toJson_eq, text, Option.bind_some]
  exact (congrArg (Option.bind · ofRecord?) record).trans c.ofRecord?_fields

/-! ### YAML -/

/-- The node that a value is read as. -/
def valueNode (value : String ⊕ Bool) : Node :=
  match value with
  | .inl s => .scalar (.text s) (some s)
  | .inr b => .scalar (.bool b) (some (if b then "true" else "false"))

theorem expand_scalar (depth : Nat) (text : String) (style : Yaml.ScalarStyle) :
    Yaml.expand {} depth (.scalar none text style) =
      pure (.scalar (Yaml.scalarMeaning none text style) (some text)) := by
  -- the depth is matched behind the alias, so the definition has no equation for each depth
  cases depth with
  | zero => delta Yaml.expand; rfl
  | succ depth => delta Yaml.expand; rfl

/-- Whatever form is chosen for a value, it means the value. -/
theorem scalarMeaning_valueText (value : String ⊕ Bool) :
    Node.scalar (Yaml.scalarMeaning none (Yaml.valueText value).1 (Yaml.valueText value).2)
      (some (Yaml.valueText value).1) = valueNode value := by
  cases value with
  | inl s => rw [Yaml.valueText, Yaml.scalarMeaning_textStyle, valueNode]
  | inr b => cases b <;> rfl

theorem yamlField_entryTree (field : String × (String ⊕ Bool)) (known : field.1 ∈ fieldNames) :
    yamlField {} (Yaml.entryTree field).1 (Yaml.entryTree field).2
      = pure (field.1, valueNode field.2) := by
  have spelled (m : Scalar) (s : String) : Node.spelled? (.scalar m (some s)) = some s := by
    cases m <;> rfl
  rw [yamlField, Yaml.entryTree, expand_scalar, expand_scalar, scalarMeaning_valueText]
  simp only [pure_bind, spelled]
  exact if_pos (List.contains_iff_mem.mpr known)

theorem mapM_yamlField (fields : List (String × (String ⊕ Bool)))
    (known : ∀ field ∈ fields, field.1 ∈ fieldNames) :
    ((fields.map Yaml.entryTree).mapM fun (k, v) => yamlField {} k v) =
      pure (fields.map fun (name, value) => (name, valueNode value)) := by
  induction fields with
  | nil => rfl
  | cons field fields ih =>
    have first : (match Yaml.entryTree field with | (k, v) => yamlField {} k v)
        = pure (field.1, valueNode field.2) :=
      yamlField_entryTree field (known field (List.mem_cons_self ..))
    rw [List.map_cons, List.mapM_cons, first, ih fun e he => known e (List.mem_cons_of_mem _ he)]
    rfl

theorem yamlFields?_mappingText (c : Config) :
    yamlFields? (Yaml.mappingText c.fields)
      = some (c.fields.map fun (name, value) => (name, valueNode value)) := by
  obtain ⟨field, fields, same⟩ := c.exists_fields
  have known := c.mem_fieldNames
  rw [same] at known ⊢
  rw [yamlFields?, Yaml.treeOfText?_mappingText field fields fun e he => isBare_of_mem_fieldNames (known e he)]
  dsimp only [Option.bind_eq_bind, Option.bind_some]
  rw [mapM_yamlField (field :: fields) known]
  rfl

/-- **A configuration in a YAML text** is read back from it. -/
theorem ofYamlText?_mappingText (c : Config) :
    ofYamlText? (Yaml.mappingText c.fields) = some c := by
  rw [ofYamlText?, yamlFields?_mappingText]
  obtain ⟨spec, space, outputDir, configDir, kind, templateDir, ignoreFile, overwrite⟩ := c
  cases configDir <;> cases templateDir <;> cases ignoreFile <;> rfl

/-! ### Files -/

variable {t t' : FileTree} {p : Path}

theorem save_eq_ok_iff {c : Config} : c.save t p = .ok t' ↔ t.putFile p (.text (c.fileText p)) = .ok t' := by
  unfold save
  cases t.putFile p (.text (c.fileText p)) with
  | ok written => simp
  | error fault => simp

/-- The text that is written is read in the same format. -/
theorem load_of_readText {c : Config} (read : t.readText p = .ok (c.fileText p)) :
    load t p = .ok c := by
  rw [load, read, fileText]
  cases isJsonFile p with
  | true => simp only [if_true, ofJsonText?_pretty]
  | false => simp only [Bool.false_eq_true, if_false, ofYamlText?_mappingText]

theorem readText_of_save (h : t.IsRooted) {c : Config} (saved : c.save t p = .ok t') :
    t'.readText p = .ok (c.fileText p) :=
  h.readText_putFile (save_eq_ok_iff.mp saved)

/-- **Configurations are kept.** A configuration that is saved is loaded from the file that it was
saved to, and is saved unless nothing can be put there. What is loaded from any file, saved under
any path and loaded from there is the same, and is saved again as the same text. -/
theorem load_save (h : t.IsRooted) (p : Path) :
    (∀ c : Config,
      (∃ t', c.save t p = .ok t' ∧ load t' p = .ok c) ∨
        ∃ fault, c.save t p = .error (.file fault none) ∧
          ∀ content, t.putFile p content = .error fault) ∧
    ∀ (source : FileTree) (q : Path) (c : Config), load source q = .ok c →
      ∀ t', c.save t p = .ok t' →
      load t' p = load source q ∧ ∃ t'', c.save t' p = .ok t'' ∧
        t''.readText p = t'.readText p := by
  refine ⟨fun c => ?_, fun source q c loaded t' saved => ?_⟩
  · cases written : t.putFile p (.text (c.fileText p)) with
    | ok t' =>
      have saved : c.save t p = .ok t' := save_eq_ok_iff.mpr written
      exact .inl ⟨t', saved, load_of_readText (readText_of_save h saved)⟩
    | error fault =>
      refine .inr ⟨fault, ?_, FileTree.putFile_error written⟩
      rw [save, written]
  · have read := readText_of_save h saved
    obtain ⟨t'', written⟩ := FileTree.putFile_of_readText read (.text (c.fileText p))
    have again : c.save t' p = .ok t'' := save_eq_ok_iff.mpr written
    have rooted : t'.IsRooted := h.putFile (save_eq_ok_iff.mp saved)
    exact ⟨by rw [load_of_readText read, loaded], t'', again, by rw [readText_of_save rooted again, read]⟩

/-- What somebody has written: an optional field holds nothing, others are missing, and one is
no field of a configuration. -/
def petsText : String :=
  "\x7b\"spec\": \"0x1\", \"namespace\": \"true\", \"output_dir\": \"a: b\\n  c\", \"config_dir\": null, \"by\": []\x7d"

/-- The configuration that is read there. -/
def petsConfig : Config where
  spec := "0x1"
  space := "true"
  outputDir := "a: b\n  c"

/-- A tree with the text. -/
def petsTree : FileTree := (FileTree.start ["w"]).put ["w", "pets.Json"] (.file (.text petsText))

theorem petsConfig_load_save :
    load petsTree ⟨"pets.Json"⟩ = .ok petsConfig ∧
    ∃ t', petsConfig.save (FileTree.start ["w"]) ⟨"stubs.yaml"⟩ = .ok t' ∧
      load t' ⟨"stubs.yaml"⟩ = load petsTree ⟨"pets.Json"⟩ := by
  have loaded : load petsTree ⟨"pets.Json"⟩ = .ok petsConfig := by
    have read : petsTree.readText ⟨"pets.Json"⟩ = .ok petsText := rfl
    have json : isJsonFile ⟨"pets.Json"⟩ = true := rfl
    have text : Json.Raw.ofText? petsText = some (.obj [
        (some "spec", .str (some "0x1")), (some "namespace", .str (some "true")),
        (some "output_dir", .str (some "a: b\n  c")), (some "config_dir", .null), (some "by", .arr [])]) := by cbv
    have accepted : ofJsonText? petsText = some petsConfig := by
      rw [ofJsonText?, Json.recordOfText?, text]
      rfl
    rw [load, read]
    simp only [json, accepted, if_true]
  have vacant : (FileTree.start ["w"]).putFile ⟨"stubs.yaml"⟩ (.text "") =
      .ok ((FileTree.start ["w"]).put ["w", "stubs.yaml"] (.file (.text ""))) := rfl
  obtain ⟨saves, again⟩ := load_save (FileTree.isRooted_start ["w"]) ⟨"stubs.yaml"⟩
  rcases saves petsConfig with ⟨t', saved, -⟩ | ⟨fault, -, failed⟩
  · exact ⟨loaded, t', saved, (again _ _ _ loaded t' saved).1⟩
  · rw [failed] at vacant
    cases vacant

end Config

end ApiStubs
