import DocMarkers.Proofs.OverlaidSettings
import DocMarkers.Proofs.Sessions
import DocMarkers.Proofs.Walks

/-! # Loading settings

Settings are sound when they name the extensions of documents and give look-ups some time
(`Settings.IsSound`). What a settings file stands for is loaded as it is when it is sound, and
refused for the first thing that is wrong with it when it is not (`Settings.read_cases`). So every
project that opens has sound settings (`settings_laid_over_defaults`).
-/

namespace DocMarkers

namespace Settings

section Faults

/-- An extension that a document can have. -/
def IsExtension (extension : String) : Prop :=
  extension ≠ "" ∧ extension.toList.head? ≠ some '.'

/-- Settings that can be used. -/
structure IsSound (settings : Settings) : Prop where
  extensions_ne_nil : settings.extensions ≠ []
  isExtension : ∀ extension ∈ settings.extensions, IsExtension extension
  timeout_pos : 0 < settings.probe.timeoutSeconds

/-- The first thing that is wrong with settings. -/
inductive IsFirstFault (settings : Settings) : Fault → Prop where
  | noExtension (empty : settings.extensions = []) : IsFirstFault settings .noExtension
  | dottedExtension {before after : List String} {extension : String}
      (split : settings.extensions = before ++ extension :: after)
      (sound : ∀ earlier ∈ before, IsExtension earlier) (dotted : ¬ IsExtension extension) :
      IsFirstFault settings (.dottedExtension extension)
  | zeroTimeout (nonempty : settings.extensions ≠ [])
      (sound : ∀ extension ∈ settings.extensions, IsExtension extension)
      (zero : settings.probe.timeoutSeconds = 0) : IsFirstFault settings .zeroTimeout

variable {settings : Settings}

theorem isDotted_iff {extension : String} :
    isDotted extension = true ↔ ¬ IsExtension extension := by
  unfold isDotted IsExtension
  simp [← not_or]

/-- Settings are sound, or the first thing that is wrong with them is found. -/
theorem fault?_cases (settings : Settings) :
    settings.fault? = none ∧ settings.IsSound ∨
      ∃ fault, settings.fault? = some fault ∧ IsFirstFault settings fault := by
  unfold fault?
  split
  · next empty => exact .inr ⟨_, rfl, .noExtension (List.isEmpty_iff.mp empty)⟩
  · next nonempty =>
    have filled : settings.extensions ≠ [] := fun empty => nonempty (List.isEmpty_iff.mpr empty)
    split
    · next extension found =>
      obtain ⟨dotted, before, after, split, earlier⟩ := List.find?_eq_some_iff_append.mp found
      refine .inr ⟨_, rfl, .dottedExtension split ?_ (isDotted_iff.mp dotted)⟩
      intro other member
      by_contra unsound
      have plain := earlier other member
      rw [isDotted_iff.mpr unsound] at plain
      cases plain
    · next none =>
      have sound : ∀ extension ∈ settings.extensions, IsExtension extension := by
        intro extension member
        by_contra unsound
        exact List.find?_eq_none.mp none extension member (isDotted_iff.mpr unsound)
      split
      · next zero => exact .inr ⟨_, rfl, .zeroTimeout filled sound zero⟩
      · next nonzero => exact .inl ⟨rfl, filled, sound, Nat.pos_of_ne_zero nonzero⟩

theorem IsFirstFault.not_isSound {fault : Fault} (first : IsFirstFault settings fault) :
    ¬ settings.IsSound := by
  rintro ⟨filled, sound, positive⟩
  cases first with
  | noExtension empty => exact filled empty
  | @dottedExtension before after extension split _ dotted =>
      exact dotted (sound extension (split ▸ List.mem_append_right before List.mem_cons_self))
  | zeroTimeout _ _ zero => exact absurd zero (Nat.ne_of_gt positive)

end Faults

section Loading

variable {tree : Tree} {root path : Path} {text : String} {entries : Toml.Entries}

/-- The settings of a root are read from the text of its settings file. -/
theorem ofRoot_of_readText (held : tree.readText (fileOf root) = .ok text) :
    ofRoot tree root = read (fileOf root) text := by
  have present : tree.isPresent (fileOf root) = true := by
    unfold Tree.isPresent
    cases located : tree.locate (fileOf root) with
    | ok found => rfl
    | error error =>
        unfold Tree.readText at held
        rw [located] at held
        cases held
  unfold ofRoot
  dsimp only
  rw [if_pos present, held]

/-- What stands for settings is loaded as it is when it is sound, and otherwise refused for the
first thing that is wrong. -/
theorem read_cases {settings : Settings} (path : Path)
    (stands : (Toml.read? text).bind ofToml? = some settings) :
    (settings.IsSound ∧ read path text = .ok settings) ∨
      ∃ fault, IsFirstFault settings fault ∧
        read path text = .error (.faultySettings path fault) := by
  unfold read
  rw [stands]
  dsimp only
  rcases settings.fault?_cases with ⟨none, sound⟩ | ⟨fault, found, first⟩
  · rw [none]
    exact .inl ⟨sound, rfl⟩
  · rw [found]
    exact .inr ⟨fault, first, rfl⟩

/-- What stands for nothing is refused. -/
theorem read_eq_malformed_iff :
    read path text = .error .malformedSettings ↔ (Toml.read? text).bind ofToml? = none := by
  constructor
  · intro malformed
    cases stands : (Toml.read? text).bind ofToml? with
    | none => rfl
    | some settings =>
        rcases read_cases path stands with ⟨-, loads⟩ | ⟨fault, -, refused⟩
        · cases loads.symm.trans malformed
        · cases refused.symm.trans malformed
  · intro none
    unfold read
    rw [none]

theorem isSound_of_read {settings : Settings} (loads : read path text = .ok settings) :
    settings.IsSound := by
  cases stands : (Toml.read? text).bind ofToml? with
  | none => cases loads.symm.trans (read_eq_malformed_iff.mpr stands)
  | some candidate =>
      rcases read_cases path stands with ⟨sound, same⟩ | ⟨fault, -, refused⟩
      · rw [Except.ok.inj (loads.symm.trans same)]
        exact sound
      · cases loads.symm.trans refused

theorem isSound_default : IsSound {} where
  extensions_ne_nil := List.cons_ne_nil _ _
  isExtension := by
    intro extension member
    obtain rfl := List.mem_singleton.mp member
    exact ⟨by decide, by decide⟩
  timeout_pos := Nat.zero_lt_succ _

/-- The settings of a project are sound. -/
theorem isSound_of_openAt {preferences : Option PreferencesFile} {project : Project}
    (opens : Project.openAt tree preferences root = .ok project) : project.settings.IsSound := by
  obtain ⟨-, settings, -, isSettings, rfl⟩ := Project.exists_of_openAt opens
  unfold ofRoot at isSettings
  dsimp only at isSettings
  split at isSettings
  · split at isSettings
    · cases isSettings
    · exact isSound_of_read isSettings
  · obtain rfl := Except.ok.inj isSettings
    exact isSound_default

/-- The settings that a document stands for depend on nothing but the values of its keys. -/
theorem ofToml?_congr {others : Toml.Entries} (tables : HasTables entries)
    (otherTables : HasTables others) (agree : ∀ key : Key, key.value? others = key.value? entries) :
    ofToml? others = ofToml? entries := by
  apply Option.ext
  intro settings
  rw [ofToml?_eq_some_iff tables, ofToml?_eq_some_iff otherTables]
  unfold IsOverlay Key.Takes
  simp only [agree]

end Loading

/-- How the text of the settings file of a root is used. -/
structure IsUsed (tree : Tree) (root : Path) (text : String) : Prop where
  /-- It is refused exactly when it is not TOML, or when it has a value of another kind for a
  key. -/
  malformed_iff : ofRoot tree root = .error .malformedSettings ↔
    Toml.read? text = none ∨
      ∃ entries, Toml.read? text = some entries ∧ ∃ key : Key, key.IsMistaken entries
  /-- Otherwise there is one way to lay it over the defaults, and this is loaded as it is when it is
  sound, and refused for its first fault when it is not. -/
  overlay : ∀ entries, Toml.read? text = some entries → (∀ key : Key, ¬ key.IsMistaken entries) →
    ∃ candidate, (∀ settings, IsOverlay entries settings ↔ settings = candidate) ∧
      (∀ settings, ofRoot tree root = .ok settings ↔ settings = candidate ∧ candidate.IsSound) ∧
      (¬ candidate.IsSound → ∃ fault, IsFirstFault candidate fault ∧
        ofRoot tree root = .error (.faultySettings (fileOf root) fault))
  /-- A document that has the same values for all keys, in any order and among any others, is used
  in the same way. -/
  congr : ∀ entries other others, Toml.read? text = some entries → Toml.read? other = some others →
    HasTables others → (∀ key : Key, key.value? others = key.value? entries) →
      read (fileOf root) other = ofRoot tree root

namespace IsUsed

variable {tree : Tree} {root : Path} {text : String}

theorem of_readText (held : tree.readText (fileOf root) = .ok text)
    (tables : ∀ entries, Toml.read? text = some entries → HasTables entries) :
    IsUsed tree root text where
  malformed_iff := by
    rw [ofRoot_of_readText held, read_eq_malformed_iff, Option.bind_eq_none_iff]
    constructor
    · intro none
      cases document : Toml.read? text with
      | none => exact .inl rfl
      | some entries =>
          refine .inr ⟨entries, rfl, ?_⟩
          by_contra sound
          obtain ⟨settings, overlay⟩ := exists_isOverlay_iff.mpr (not_exists.mp sound)
          have stands := (ofToml?_eq_some_iff (tables entries document)).mpr overlay
          cases stands.symm.trans (none entries document)
    · rintro (none | ⟨entries, document, key, mistaken⟩) others otherDocument
      · cases none.symm.trans otherDocument
      · obtain rfl := Option.some.inj (document.symm.trans otherDocument)
        rw [Option.eq_none_iff_forall_not_mem]
        intro settings stands
        have overlay := (ofToml?_eq_some_iff (tables entries document)).mp stands
        exact exists_isOverlay_iff.mp ⟨settings, overlay⟩ key mistaken
  overlay := by
    intro entries document sound
    obtain ⟨candidate, overlay⟩ := exists_isOverlay_iff.mpr sound
    have ofEntries := (ofToml?_eq_some_iff (tables entries document)).mpr overlay
    refine ⟨candidate, fun settings => ?_, ?_⟩
    · rw [← ofToml?_eq_some_iff (tables entries document), ofEntries, Option.some.injEq, eq_comm]
    have stands : (Toml.read? text).bind ofToml? = some candidate := by
      rw [document]
      exact ofEntries
    rw [ofRoot_of_readText held]
    rcases read_cases (fileOf root) stands with ⟨isSound, loads⟩ | ⟨fault, first, refused⟩
    · refine ⟨fun settings => ?_, fun unsound => absurd isSound unsound⟩
      rw [loads, Except.ok.injEq, and_iff_left isSound, eq_comm]
    · refine ⟨fun settings => ?_, fun _ => ⟨fault, first, refused⟩⟩
      rw [refused]
      constructor
      · nofun
      · rintro ⟨-, isSound⟩
        exact absurd isSound first.not_isSound
  congr := by
    intro entries other others document otherDocument otherTables agree
    rw [ofRoot_of_readText held]
    unfold read
    rw [document, otherDocument]
    simp only [Option.bind_some, ofToml?_congr (tables entries document) otherTables agree]

end IsUsed

end Settings

open Settings

/-- **Settings.** The text of a settings file is laid over the defaults, key by key, and what comes
of it is used as it is when it is sound, and otherwise not at all. So no project is opened, and none
is scanned, with settings that are not sound. -/
theorem settings_laid_over_defaults {tree : Tree} {root : Path} {text : String}
    (held : tree.readText (fileOf root) = .ok text)
    (tables : ∀ entries, Toml.read? text = some entries → HasTables entries) :
    IsUsed tree root text ∧
      ∀ other preferences place project offline,
        Project.openAt other preferences place = .ok project →
          project.settings.IsSound ∧ (project.forLookups offline).settings.IsSound := by
  refine ⟨.of_readText held tables, ?_⟩
  intro other preferences place project offline opens
  have sound := isSound_of_openAt opens
  exact ⟨sound, sound.extensions_ne_nil, sound.isExtension, sound.timeout_pos⟩

/-- A settings file that gives some keys, in no order, and others that no settings have. -/
def partialSettingsText : String :=
  "mood = [1979-05-27, 0.5]\n[render]\nsize = 3\nfailed = \"BROKEN\"\n[probe]\noffline = true\n"

theorem isProper_fileName : Name.IsProper (Text.utf8 Settings.fileName) := by
  decide +kernel

/-- A tree with this settings file alone. -/
def partialSettings : Tree where
  rows := [([⟨Settings.fileName, isProper_fileName⟩], .file partialSettingsText.toUTF8)]
  workingDirectory := []
  distinct := List.pairwise_singleton _ _
  inside := by
    intro row member
    obtain rfl := List.mem_singleton.mp member
    exact ⟨_, [], rfl, rfl⟩

theorem readText_partialSettings :
    partialSettings.readText (fileOf ⟨"."⟩) = .ok partialSettingsText := by
  have steps : Step.ofBytes (fileOf ⟨"."⟩).bytes =
      [.stay, .into ⟨Settings.fileName, isProper_fileName⟩] := by
    decide +kernel
  apply Tree.readText_of_locate
  exact Tree.locate_of_walk (by decide +kernel) steps ((Tree.walk_stay rfl).trans
    ((Tree.walk_into rfl rfl (by decide +kernel) rfl (by nofun)).trans (Tree.walk_nil rfl)))

theorem hasTables_partialSettings (entries : Toml.Entries)
    (document : Toml.read? partialSettingsText = some entries) : HasTables entries := by
  have given : ((Toml.read? partialSettingsText).all fun entries =>
      (Key.offline.value? entries).isSome && (Key.failed.value? entries).isSome) = true := by
    decide +kernel
  rw [document, Option.all_some, Bool.and_eq_true] at given
  intro key table inside value found
  have named : table = "probe" ∨ table = "render" := by
    cases key <;> cases inside <;> simp
  rcases named with rfl | rfl
  · obtain ⟨origin, inner, isTable⟩ := Key.exists_table_of_isSome rfl given.1
    exact ⟨origin, inner, Option.some.inj (found.symm.trans isTable)⟩
  · obtain ⟨origin, inner, isTable⟩ := Key.exists_table_of_isSome rfl given.2
    exact ⟨origin, inner, Option.some.inj (found.symm.trans isTable)⟩

/-- The keys that it does not give have their defaults, also in a table that gives others. -/
example : (Toml.read? partialSettingsText).bind ofToml? =
    some { probe := { offline := true }, badges := { failed := "BROKEN" } } := by
  decide +kernel

theorem settings_laid_over_defaults_in_partialSettings :
    partialSettings.readText (fileOf ⟨"."⟩) = .ok partialSettingsText ∧
      (∀ entries, Toml.read? partialSettingsText = some entries → HasTables entries) ∧
        IsUsed partialSettings ⟨"."⟩ partialSettingsText ∧
          ∀ other preferences place project offline,
            Project.openAt other preferences place = .ok project →
              project.settings.IsSound ∧ (project.forLookups offline).settings.IsSound :=
  ⟨readText_partialSettings, hasTables_partialSettings,
    settings_laid_over_defaults readText_partialSettings hasTables_partialSettings⟩

end DocMarkers
