import CodeSearch.Config.Decode
import CodeSearch.Proofs.Toml.Documents
import CodeSearch.Proofs.Toml.Tables

/-!
# Configurations that are given in part

A configuration text need not give all settings.  Whatever is given of them, in whatever order and
however it is written, the text is accepted, and the configuration has what is given and the defaults
for the rest (`Config.parse_given`).
-/

namespace CodeSearch

namespace Toml

/-! ## Members by their names -/

/-- What stands under a name. -/
def named? {α : Type} (entries : List (String × α)) (name : String) : Option α :=
  (entries.find? (·.1 == name)).map (·.2)

section Named

variable {α : Type} {entries : List (String × α)} {name : String}

/-- Where no name occurs twice, each name stands for what it occurs with. -/
theorem named?_eq_some_iff (h : (entries.map Prod.fst).Nodup) {a : α} :
    named? entries name = some a ↔ (name, a) ∈ entries := by
  induction entries with
  | nil => simp [named?]
  | cons entry rest ih =>
    obtain ⟨hentry, hrest⟩ := List.nodup_cons.1 h
    unfold named? at ih ⊢
    by_cases hname : entry.1 = name
    · subst hname
      have hother : (entry.1, a) ∉ rest := fun hmem => hentry (List.mem_map.2 ⟨_, hmem, rfl⟩)
      simp [hother, Prod.ext_iff, eq_comm]
    · rw [List.find?_cons_of_neg (by simpa using hname), ih hrest, List.mem_cons]
      refine ⟨.inr, fun hmem => hmem.resolve_left ?_⟩
      rintro rfl
      exact hname rfl

/-- The fields that have a value. -/
def present (fields : List (String × Option α)) : List (String × α) :=
  fields.filterMap fun field => field.2.map (field.1, ·)

theorem keys_present_sublist (fields : List (String × Option α)) :
    ((present fields).map Prod.fst).Sublist (fields.map Prod.fst) := by
  induction fields with
  | nil => exact List.Sublist.refl _
  | cons field rest ih =>
    obtain ⟨key, value⟩ := field
    cases value with
    | none => exact ih.cons _
    | some a => exact ih.cons_cons _

theorem nodup_of_perm_present {fields : List (String × Option α)} (h : (fields.map Prod.fst).Nodup)
    (hperm : entries.Perm (present fields)) : (entries.map Prod.fst).Nodup :=
  (hperm.map Prod.fst).nodup_iff.2 ((keys_present_sublist fields).nodup h)

/-- In whatever order the fields with a value stand, each name stands for the value of its field. -/
theorem named?_of_perm_present {fields : List (String × Option α)}
    (h : (fields.map Prod.fst).Nodup) (hperm : entries.Perm (present fields)) {value : Option α}
    (hfield : (name, value) ∈ fields) : named? entries name = value := by
  apply Option.ext
  intro a
  rw [named?_eq_some_iff (nodup_of_perm_present h hperm), hperm.mem_iff]
  constructor
  · intro hmem
    obtain ⟨⟨key, other⟩, hother, heq⟩ := List.mem_filterMap.1 hmem
    obtain ⟨b, rfl, hb⟩ := Option.map_eq_some_iff.1 heq
    obtain ⟨rfl, rfl⟩ := Prod.mk.inj hb
    -- the field with this name is the only one
    have hsame := List.inj_on_of_nodup_map h hother hfield rfl
    rw [← (Prod.mk.inj hsame).2]
  · rintro rfl
    exact List.mem_filterMap.2 ⟨_, hfield, rfl⟩

/-- What holds of the values of all fields holds of those that have one. -/
theorem of_mem_present {fields : List (String × Option α)} {p : α → Prop}
    (h : ∀ field ∈ fields, ∀ value ∈ field.2, p value) : ∀ member ∈ present fields, p member.2 := by
  intro member hmember
  obtain ⟨field, hfield, heq⟩ := List.mem_filterMap.1 hmember
  obtain ⟨value, hvalue, rfl⟩ := Option.map_eq_some_iff.1 heq
  exact h field hfield value hvalue

end Named

/-- A setting that is read back as it is written has the value that is given, or its default. -/
theorem setting_map {α : Type} {decode? : Toml → Option α} {encode : α → Toml}
    (h : ∀ a, decode? (encode a) = some a) (default : α) (given : Option α) :
    setting decode? default (given.map encode) = some (given.getD default) := by
  cases given with
  | none => rfl
  | some a => exact h a

theorem asStrings?_ofTexts (texts : List String) : asStrings? (ofTexts texts) = some texts := by
  show (texts.map string).mapM asString? = some texts
  induction texts with
  | nil => rfl
  | cons text texts ih => rw [List.map_cons, List.mapM_cons, ih]; rfl

end Toml

open Toml (named? present setting asString? asBool? asStrings?)

/-! ## What is given -/

/-- Settings of a configuration, each of which may be given. -/
structure Settings where
  /-- The directory of installed packages. -/
  dependencyDir : Option String := none
  /-- Whether hidden files are scanned. -/
  includeHidden : Option Bool := none
  /-- Whether ignore files are honoured. -/
  respectGitignore : Option Bool := none
  /-- Whether links to directories are descended into. -/
  followLinks : Option Bool := none
  /-- The extensions of script sources. -/
  sourceExtensions : Option (List String) := none
  /-- The extensions of style files. -/
  styleExtensions : Option (List String) := none
  /-- What stands before the extension of a test file. -/
  testSuffix : Option String := none

namespace Settings

/-- A configuration with what is given in place of what it has. -/
def appliedTo (given : Settings) (config : Config) : Config where
  scan := {
    dependencyDir := given.dependencyDir.getD config.scan.dependencyDir
    includeHidden := given.includeHidden.getD config.scan.includeHidden
    respectGitignore := given.respectGitignore.getD config.scan.respectGitignore
    followLinks := given.followLinks.getD config.scan.followLinks }
  queries := {
    sourceExtensions := given.sourceExtensions.getD config.queries.sourceExtensions
    styleExtensions := given.styleExtensions.getD config.queries.styleExtensions
    testSuffix := given.testSuffix.getD config.queries.testSuffix }

/-- The switches of scans under their names. -/
def scanFields (given : Settings) : List (String × Option Toml) := [
  ("dependency_dir", given.dependencyDir.map .string),
  ("include_hidden", given.includeHidden.map .boolean),
  ("respect_gitignore", given.respectGitignore.map .boolean),
  ("follow_links", given.followLinks.map .boolean)]

/-- The file name conventions under their names. -/
def queryFields (given : Settings) : List (String × Option Toml) := [
  ("source_extensions", given.sourceExtensions.map Toml.ofTexts),
  ("style_extensions", given.styleExtensions.map Toml.ofTexts),
  ("test_suffix", given.testSuffix.map .string)]

theorem nodup_scanFields (given : Settings) : (given.scanFields.map Prod.fst).Nodup :=
  (by decide : ["dependency_dir", "include_hidden", "respect_gitignore", "follow_links"].Nodup)

theorem nodup_queryFields (given : Settings) : (given.queryFields.map Prod.fst).Nodup :=
  (by decide : ["source_extensions", "style_extensions", "test_suffix"].Nodup)

/-- Tables that give just these settings: the two groups in any order and their settings in any order.
A group without settings may be left out. -/
structure AreGivenBy (given : Settings) (tables : List (String × List (String × Toml))) : Prop where
  distinct : (tables.map Prod.fst).Nodup
  known : ∀ table ∈ tables, table.1 = "scan" ∨ table.1 = "queries"
  scan : ((named? tables "scan").getD []).Perm (present given.scanFields)
  queries : ((named? tables "queries").getD []).Perm (present given.queryFields)

variable {given : Settings} {members : List (String × Toml)}

/-- A group of switches is read as what is given, with the defaults for the rest. -/
theorem ofToml?_scan (h : members.Perm (present given.scanFields)) :
    ScanConfig.ofToml? (.table members) = some (given.appliedTo {}).scan := by
  have hnamed : ∀ field ∈ given.scanFields,
      (members.find? (·.1 == field.1)).map (·.2) = field.2 :=
    fun field hfield => Toml.named?_of_perm_present given.nodup_scanFields h hfield
  simp only [scanFields, List.forall_mem_cons] at hnamed
  obtain ⟨hdirectory, hhidden, hignore, hlinks, -⟩ := hnamed
  have hstring := Toml.setting_map fun text => (rfl : asString? (.string text) = some text)
  have hswitch := Toml.setting_map fun value => (rfl : asBool? (.boolean value) = some value)
  rw [ScanConfig.ofToml?, Toml.group?]
  simp only [Option.bind_eq_bind, Option.bind_some, hdirectory, hhidden, hignore, hlinks, hstring,
    hswitch]
  rfl

/-- A group of conventions is read as what is given, with the defaults for the rest. -/
theorem ofToml?_queries (h : members.Perm (present given.queryFields)) :
    QueryConfig.ofToml? (.table members) = some (given.appliedTo {}).queries := by
  have hnamed : ∀ field ∈ given.queryFields,
      (members.find? (·.1 == field.1)).map (·.2) = field.2 :=
    fun field hfield => Toml.named?_of_perm_present given.nodup_queryFields h hfield
  simp only [queryFields, List.forall_mem_cons] at hnamed
  obtain ⟨hsources, hstyles, hsuffix, -⟩ := hnamed
  have hstring := Toml.setting_map fun text => (rfl : asString? (.string text) = some text)
  have htexts := Toml.setting_map Toml.asStrings?_ofTexts
  rw [QueryConfig.ofToml?, Toml.group?]
  simp only [Option.bind_eq_bind, Option.bind_some, hsources, hstyles, hsuffix, hstring, htexts]
  rfl

/-- A group that is left out is read like one without settings. -/
theorem setting_group {α : Type} {decode? : Toml → Option α} {default : α}
    (h : decode? (.table []) = some default) (table : Option (List (String × Toml))) :
    setting decode? default (table.map .table) = decode? (.table (table.getD [])) := by
  cases table with
  | none => exact h.symm
  | some members => rfl

/-- Tables that give some settings are read as a configuration with the defaults for the rest. -/
theorem AreGivenBy.ofToml? {tables : List (String × List (String × Toml))}
    (h : given.AreGivenBy tables) :
    Config.ofToml? (.table (tables.map fun table => (table.1, .table table.2))) =
      some (given.appliedTo {}) := by
  have hgroup (name : String) :
      ((tables.map fun table => (table.1, Toml.table table.2)).find? (·.1 == name)).map (·.2) =
        (named? tables name).map .table := by
    rw [named?, List.find?_map, Option.map_map, Option.map_map]
    rfl
  have hscan : ScanConfig.ofToml? (.table []) = some {} := rfl
  have hqueries : QueryConfig.ofToml? (.table []) = some {} := rfl
  rw [Config.ofToml?, Toml.group?]
  simp only [Option.bind_eq_bind, Option.bind_some, hgroup, setting_group hscan,
    setting_group hqueries, ofToml?_scan h.scan, ofToml?_queries h.queries]

/-- No key is given twice. -/
theorem AreGivenBy.keys_nodup {tables : List (String × List (String × Toml))}
    (h : given.AreGivenBy tables) : ∀ table ∈ tables, (table.2.map Prod.fst).Nodup := by
  rintro ⟨name, members⟩ htable
  have hnamed := (Toml.named?_eq_some_iff h.distinct).2 htable
  rcases h.known _ htable with rfl | rfl
  · have hscan := h.scan
    rw [hnamed] at hscan
    exact Toml.nodup_of_perm_present given.nodup_scanFields hscan
  · have hqueries := h.queries
    rw [hnamed] at hqueries
    exact Toml.nodup_of_perm_present given.nodup_queryFields hqueries

/-- There are no settings that could not be given. -/
theorem exists_writesDocument (given : Settings) : ∃ tables, ∃ text : String,
    given.AreGivenBy tables ∧ Toml.WritesDocument (Toml.statementsOf tables) text.toList := by
  have hscan : ∀ field ∈ given.scanFields, ∀ value ∈ field.2,
      ∃ written, Toml.WritesValue value written := by
    simp only [scanFields, List.forall_mem_cons, Option.forall_mem_map,
      Toml.exists_writesValue_string, Toml.exists_writesValue_boolean]
    simp
  have hqueries : ∀ field ∈ given.queryFields, ∀ value ∈ field.2,
      ∃ written, Toml.WritesValue value written := by
    simp only [queryFields, List.forall_mem_cons, Option.forall_mem_map,
      Toml.exists_writesValue_string, Toml.exists_writesValue_ofTexts]
    simp
  let tables := [("scan", present given.scanFields), ("queries", present given.queryFields)]
  have htables : given.AreGivenBy tables :=
    ⟨by simp [tables], by simp [tables], List.Perm.refl _, List.Perm.refl _⟩
  have hvalues : ∀ table ∈ tables, ∀ member ∈ table.2,
      ∃ written, Toml.WritesValue member.2 written :=
    List.forall_mem_cons.2 ⟨Toml.of_mem_present hscan,
      List.forall_mem_singleton.2 (Toml.of_mem_present hqueries)⟩
  obtain ⟨text, htext⟩ := Toml.exists_writesDocument_statementsOf hvalues
  exact ⟨tables, String.ofList text, htables, by rwa [String.toList_ofList]⟩

end Settings

/-! ## Reading what is given -/

namespace Config

/-- **A configuration has what its text gives and the defaults for the rest.**  The text may give any of
the settings, below the headers of their groups in any order, written in any way.  It is accepted, and
each setting has the value that is given, or its default if none is.  For all settings there is such a
text. -/
theorem parse_given (given : Settings) :
    (∀ tables text, given.AreGivenBy tables →
      Toml.WritesDocument (Toml.statementsOf tables) text.toList →
      parse text = .ok (given.appliedTo {})) ∧
    ∃ tables, ∃ text : String, given.AreGivenBy tables ∧
      Toml.WritesDocument (Toml.statementsOf tables) text.toList := by
  refine ⟨fun tables text htables htext => ?_, given.exists_writesDocument⟩
  have htoml : Toml.parse? text = some (tables.map fun table => (table.1, .table table.2)) := by
    rw [Toml.parse?_written htext, Toml.ofStatements?_statementsOf htables.distinct htables.keys_nodup]
  rw [parse, htoml, Option.bind_some, htables.ofToml?]

section Sample

open Toml

/-- One setting of each group. -/
def partialSettings : Settings := { sourceExtensions := some ["ts", "é\n"], followLinks := some true }

/-- The groups with their settings, the second one first. -/
def partialTables : List (String × List (String × Toml)) := [
  ("queries", [("source_extensions", ofTexts ["ts", "é\n"])]),
  ("scan", [("follow_links", .boolean true)])]

/-- A text for them, with comments, both kinds of ends of lines, all kinds of keys, and escapes. -/
def partialText : String :=
  "# some\r\n[ queries ]\n\"source_extensions\" = [ \"ts\", \"\\u00E9\\n\", # more\n]\n" ++
    "\n [scan]\t#\n'follow_links'=true"

theorem writesDocument_partialText :
    WritesDocument (statementsOf partialTables) partialText.toList := by
  have hsome : IsComment ('#' :: " some".toList) := .text (by simp [IsTextChar])
  have hmore : IsComment ('#' :: " more".toList) := .text (by simp [IsTextChar])
  have hempty : IsComment ['#'] := .text (by simp)
  have hblank : IsGap [' '] := .blank (.inl rfl) .nil
  have hbracket : IsGap _ := .blank (.inl rfl) (.line hmore .lineFeed .nil)
  have hspace : AreBlanks [' '] := by simp [AreBlanks]
  have htab : AreBlanks ['\t'] := by simp [AreBlanks]
  have hqueries : WritesKey "queries" _ := .bare (by simp) (by simp)
  have hsources : WritesKey "source_extensions" _ :=
    .basic (.quoted (spellsText_self (by simp [IsTextChar])))
  have hscan : WritesKey "scan" _ := .bare (by simp) (by simp)
  have hlinks : WritesKey "follow_links" _ := .literal (by simp [IsTextChar])
  have hplain : WritesString "ts" _ := .quoted (spellsText_self (by simp [IsTextChar]))
  have hdigits : List.Forall₂ IsHexDigit _ [0, 0, 14, 9] :=
    .cons (.small (by simp)) (.cons (.small (by simp)) (.cons (.capital (by simp))
      (.cons (.small (by simp)) .nil)))
  have hnewline : SpellsChar '\n' _ := .short (by simp [shortEscapes] : ('n', '\n') ∈ shortEscapes)
  have hescaped : WritesString "é\n" _ :=
    .quoted (.cons (.code .short hdigits rfl) (.cons hnewline .nil))
  have hitems := WritesItems.cons hblank hplain .nil (.cons hblank hescaped .nil (.nil hbracket))
  have hheader := WritesStatement.header hspace hqueries hspace
  have hassign := WritesStatement.assign hsources hspace hspace (.texts hitems)
  have hnext := WritesStatement.header areBlanks_nil hscan areBlanks_nil
  have hlast := WritesStatement.assign hlinks areBlanks_nil areBlanks_nil .yes
  have hdocument : WritesDocument (statementsOf partialTables) _ :=
    .cons (.line hsome .carriageReturn .nil) hheader areBlanks_nil .none .lineFeed
      (.cons .nil hassign areBlanks_nil .none .lineFeed
        (.cons (.line .none .lineFeed hblank) hnext htab hempty .lineFeed
          (.last .nil hlast areBlanks_nil .none)))
  exact (congrArg (WritesDocument _) (by decide +kernel)).mp hdocument

theorem parse_given_partialText :
    partialSettings.AreGivenBy partialTables ∧
      WritesDocument (statementsOf partialTables) partialText.toList ∧
      parse partialText = .ok {
        scan := { followLinks := true }
        queries := { sourceExtensions := ["ts", "é\n"] } } := by
  have htables : partialSettings.AreGivenBy partialTables :=
    ⟨by decide, by decide, List.Perm.refl _, List.Perm.refl _⟩
  have hparse := (parse_given partialSettings).1 _ _ htables writesDocument_partialText
  exact ⟨htables, writesDocument_partialText, hparse⟩

end Sample

end Config

end CodeSearch
