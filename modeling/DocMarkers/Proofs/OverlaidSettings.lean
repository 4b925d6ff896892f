import DocMarkers.Config.Reading
import Mathlib.Tactic.Choose

/-! # Settings over the defaults

A settings file gives the values of some keys, of which each has a kind (`Settings.Key`). The
settings that it stands for have every key from the file where it gives the key, and from the
defaults where it does not, whatever else it says (`Settings.IsOverlay`,
`Settings.ofToml?_eq_some_iff`). There are none exactly when the value of some key is not of its
kind (`Settings.exists_isOverlay_iff`).
-/

namespace DocMarkers

namespace Settings

/-- What a key holds. -/
inductive Kind where
  | boolean
  | natural
  | string
  | strings

/-- The contents of each kind. -/
abbrev Kind.Content : Kind → Type
  | boolean => Bool
  | natural => Nat
  | string => String
  | strings => List String

/-- A value writes contents of a kind. A list is written in brackets, or as the tables of one
name. -/
def Kind.IsWritten : (kind : Kind) → kind.Content → Toml.Value → Prop
  | boolean, content, value => value = .boolean content
  | natural, content, value => value = .integer (Int.ofNat content)
  | string, content, value => value = .string content
  | strings, content, value =>
    value = .array (content.map .string) ∨ value = .tables (content.map .string)

/-- The keys that settings know. -/
inductive Key where
  | extensions
  | exclude
  | offline
  | timeoutSeconds
  | userAgent
  | passed
  | failed
  | indeterminate

namespace Key

/-- The name of each key. -/
def name : Key → String
  | extensions => "extensions"
  | exclude => "exclude"
  | offline => "offline"
  | timeoutSeconds => "timeout_secs"
  | userAgent => "user_agent"
  | passed => "passed"
  | failed => "failed"
  | indeterminate => "indeterminate"

/-- The table that each key stands in, if it does not stand by itself. -/
def table? : Key → Option String
  | extensions | exclude => none
  | offline | timeoutSeconds | userAgent => some "probe"
  | passed | failed | indeterminate => some "render"

/-- What each key holds. -/
abbrev kind : Key → Kind
  | extensions | exclude => .strings
  | offline => .boolean
  | timeoutSeconds => .natural
  | userAgent | passed | failed | indeterminate => .string

/-- What settings have for a key. -/
def content (settings : Settings) : (key : Key) → key.kind.Content
  | extensions => settings.extensions
  | exclude => settings.exclude
  | offline => settings.probe.offline
  | timeoutSeconds => settings.probe.timeoutSeconds
  | userAgent => settings.probe.userAgent
  | passed => settings.badges.passed
  | failed => settings.badges.failed
  | indeterminate => settings.badges.indeterminate

/-- The value that a document has for a key. -/
def value? (key : Key) (entries : Toml.Entries) : Option Toml.Value :=
  match key.table? with
  | none => entries.find? key.name
  | some table =>
    match entries.find? table with
    | some (.table _ inner) => inner.lookup key.name
    | _ => none

/-- The contents of a key are what the document writes, or what the defaults have. -/
def Takes (key : Key) (entries : Toml.Entries) (content : key.kind.Content) : Prop :=
  match key.value? entries with
  | none => content = key.content {}
  | some value => key.kind.IsWritten content value

/-- The document has a value for the key that is not of its kind. -/
def IsMistaken (key : Key) (entries : Toml.Entries) : Prop :=
  ∃ value, key.value? entries = some value ∧ ∀ content, ¬ key.kind.IsWritten content value

end Key

/-- The settings have, for every key, what the document writes, or else what the defaults have. -/
def IsOverlay (entries : Toml.Entries) (settings : Settings) : Prop :=
  ∀ key : Key, key.Takes entries (key.content settings)

/-- Where a document has a value for the name of a table, it is a table. -/
def HasTables (entries : Toml.Entries) : Prop :=
  ∀ (key : Key) (table : String), key.table? = some table → ∀ value,
    entries.find? table = some value → ∃ origin inner, value = .table origin inner

section Reading

open Toml.Value

/-- How contents of each kind are read. -/
def Kind.read? : (kind : Kind) → Toml.Value → Option kind.Content
  | boolean => asBoolean?
  | natural => asNatural?
  | string => asString?
  | strings => asStrings?

theorem asString?_eq_some_iff {value : Toml.Value} {text : String} :
    asString? value = some text ↔ value = .string text := by
  cases value <;> simp [asString?]

theorem mapM_asString?_eq_some_iff {items : List Toml.Value} {texts : List String} :
    items.mapM asString? = some texts ↔ items = texts.map .string := by
  induction items generalizing texts with
  | nil => cases texts <;> simp
  | cons first rest ih =>
      simp only [List.mapM_cons, Option.bind_eq_bind, Option.bind_eq_some_iff,
        asString?_eq_some_iff, Option.pure_def, Option.some.injEq]
      cases texts with
      | nil => simp
      | cons text texts => simp [ih]

theorem asNatural?_eq_some_iff {value : Toml.Value} {number : Nat} :
    asNatural? value = some number ↔ value = .integer (Int.ofNat number) := by
  cases value with
  | integer size =>
      cases size with
      | ofNat size =>
          simp only [asNatural?, Option.some.injEq, Toml.Value.integer.injEq, Int.ofNat.injEq]
      | negSucc size => simp [asNatural?]
  | _ => simp [asNatural?]

theorem asStrings?_eq_some_iff {value : Toml.Value} {texts : List String} :
    asStrings? value = some texts ↔
      value = .array (texts.map .string) ∨ value = .tables (texts.map .string) := by
  cases value <;> simp [asStrings?, mapM_asString?_eq_some_iff]

/-- Reading a value gives the contents that it writes. -/
theorem Kind.read?_eq_some_iff {kind : Kind} {value : Toml.Value} {content : kind.Content} :
    kind.read? value = some content ↔ kind.IsWritten content value := by
  cases kind with
  | boolean => cases value <;> simp [read?, asBoolean?, IsWritten]
  | natural => exact asNatural?_eq_some_iff
  | string => exact asString?_eq_some_iff
  | strings => exact asStrings?_eq_some_iff

/-- A key is taken from the document or from the defaults. -/
theorem Key.takes_iff {key : Key} {entries : Toml.Entries} {content : key.kind.Content} :
    key.Takes entries content ↔
      orDefault key.kind.read? (key.content {}) (key.value? entries) = some content := by
  unfold Takes
  cases key.value? entries with
  | none => simp [orDefault, eq_comm]
  | some value => exact Kind.read?_eq_some_iff.symm

variable {entries : Toml.Entries}

/-- A key that stands by itself has the value of its name. -/
theorem Key.value?_of_alone {key : Key} (alone : key.table? = none) :
    key.value? entries = entries.find? key.name := by
  unfold value?
  rw [alone]

theorem Key.value?_of_missing {key : Key} {table : String} (inside : key.table? = some table)
    (missing : entries.find? table = none) : key.value? entries = none := by
  unfold value?
  rw [inside]
  dsimp only
  rw [missing]

/-- A key that stands in a table has the value of its name there. -/
theorem Key.value?_of_table {key : Key} {table : String} {origin : Toml.Origin}
    {inner : Toml.Entries} (inside : key.table? = some table)
    (found : entries.find? table = some (.table origin inner)) :
    key.value? entries = inner.lookup key.name := by
  unfold value?
  rw [inside]
  dsimp only
  rw [found]

/-- A value of a key that stands in a table is found in one. -/
theorem Key.exists_table_of_isSome {key : Key} {table : String} (inside : key.table? = some table)
    (given : (key.value? entries).isSome) :
    ∃ origin inner, entries.find? table = some (.table origin inner) := by
  unfold value? at given
  rw [inside] at given
  dsimp only at given
  split at given
  · next origin inner found => exact ⟨origin, inner, found⟩
  · cases given

/-- A table with three keys is laid over the defaults key by key. -/
theorem record_eq_some_iff {α : Type} {table : String} {read? : Toml.Value → Option α}
    (one two three : Key)
    (make : one.kind.Content → two.kind.Content → three.kind.Content → α)
    (reads : ∀ origin inner, read? (.table origin inner) = do
      return make (← orDefault one.kind.read? (one.content {}) (inner.lookup one.name))
        (← orDefault two.kind.read? (two.content {}) (inner.lookup two.name))
        (← orDefault three.kind.read? (three.content {}) (inner.lookup three.name)))
    (tables : HasTables entries) (oneInside : one.table? = some table)
    (twoInside : two.table? = some table) (threeInside : three.table? = some table) {record : α} :
    orDefault read? (make (one.content {}) (two.content {}) (three.content {}))
        (entries.find? table) = some record ↔
      ∃ first second third, one.Takes entries first ∧ two.Takes entries second ∧
        three.Takes entries third ∧ make first second third = record := by
  simp only [Key.takes_iff]
  cases found : entries.find? table with
  | none =>
      rw [Key.value?_of_missing oneInside found, Key.value?_of_missing twoInside found,
        Key.value?_of_missing threeInside found]
      simp [orDefault]
  | some value =>
      obtain ⟨origin, inner, rfl⟩ := tables one table oneInside value found
      rw [Key.value?_of_table oneInside found, Key.value?_of_table twoInside found,
        Key.value?_of_table threeInside found]
      simp only [orDefault, reads, Option.bind_eq_bind, Option.bind_eq_some_iff, Option.pure_def,
        Option.some.injEq]
      constructor
      · rintro ⟨first, isFirst, second, isSecond, third, isThird, made⟩
        exact ⟨first, second, third, isFirst, isSecond, isThird, made⟩
      · rintro ⟨first, second, third, isFirst, isSecond, isThird, made⟩
        exact ⟨first, isFirst, second, isSecond, third, isThird, made⟩

/-- The table for look-ups gives its three keys. -/
theorem probe_eq_some_iff (tables : HasTables entries) {probe : ProbeSettings} :
    orDefault ProbeSettings.ofToml? {} (entries.find? "probe") = some probe ↔
      Key.offline.Takes entries probe.offline ∧
        Key.timeoutSeconds.Takes entries probe.timeoutSeconds ∧
          Key.userAgent.Takes entries probe.userAgent := by
  refine (record_eq_some_iff .offline .timeoutSeconds .userAgent ProbeSettings.mk
    (fun _ _ => rfl) tables rfl rfl rfl).trans ?_
  constructor
  · rintro ⟨_, _, _, offline, timeoutSeconds, userAgent, rfl⟩
    exact ⟨offline, timeoutSeconds, userAgent⟩
  · rintro ⟨offline, timeoutSeconds, userAgent⟩
    exact ⟨_, _, _, offline, timeoutSeconds, userAgent, rfl⟩

/-- The table for rendering gives its three keys. -/
theorem badges_eq_some_iff (tables : HasTables entries) {badges : Badges} :
    orDefault Badges.ofToml? {} (entries.find? "render") = some badges ↔
      Key.passed.Takes entries badges.passed ∧ Key.failed.Takes entries badges.failed ∧
        Key.indeterminate.Takes entries badges.indeterminate := by
  refine (record_eq_some_iff .passed .failed .indeterminate Badges.mk (fun _ _ => rfl)
    tables rfl rfl rfl).trans ?_
  constructor
  · rintro ⟨_, _, _, passed, failed, indeterminate, rfl⟩
    exact ⟨passed, failed, indeterminate⟩
  · rintro ⟨passed, failed, indeterminate⟩
    exact ⟨_, _, _, passed, failed, indeterminate, rfl⟩

theorem isOverlay_iff {settings : Settings} :
    IsOverlay entries settings ↔
      Key.extensions.Takes entries settings.extensions ∧
        Key.exclude.Takes entries settings.exclude ∧
          (Key.offline.Takes entries settings.probe.offline ∧
            Key.timeoutSeconds.Takes entries settings.probe.timeoutSeconds ∧
              Key.userAgent.Takes entries settings.probe.userAgent) ∧
            Key.passed.Takes entries settings.badges.passed ∧
              Key.failed.Takes entries settings.badges.failed ∧
                Key.indeterminate.Takes entries settings.badges.indeterminate := by
  constructor
  · intro overlay
    exact ⟨overlay .extensions, overlay .exclude,
      ⟨overlay .offline, overlay .timeoutSeconds, overlay .userAgent⟩, overlay .passed,
      overlay .failed, overlay .indeterminate⟩
  · rintro ⟨extensions, exclude, ⟨offline, timeoutSeconds, userAgent⟩, passed, failed,
      indeterminate⟩
    intro key
    cases key <;> assumption

/-- A document stands for the settings that lay it over the defaults. -/
theorem ofToml?_eq_some_iff (tables : HasTables entries) {settings : Settings} :
    ofToml? entries = some settings ↔ IsOverlay entries settings := by
  rw [isOverlay_iff, ← probe_eq_some_iff tables, ← badges_eq_some_iff tables, Key.takes_iff,
    Key.takes_iff, Key.value?_of_alone rfl, Key.value?_of_alone rfl]
  simp only [ofToml?, Option.bind_eq_bind, Option.bind_eq_some_iff, Option.pure_def,
    Option.some.injEq]
  constructor
  · rintro ⟨extensions, isExtensions, exclude, isExclude, probe, isProbe, badges, isBadges, rfl⟩
    exact ⟨isExtensions, isExclude, isProbe, isBadges⟩
  · rintro ⟨isExtensions, isExclude, isProbe, isBadges⟩
    exact ⟨_, isExtensions, _, isExclude, _, isProbe, _, isBadges, rfl⟩

end Reading

section Overlays

variable {entries : Toml.Entries}

/-- The settings with some contents for every key. -/
def ofContents (contents : (key : Key) → key.kind.Content) : Settings where
  extensions := contents .extensions
  exclude := contents .exclude
  probe := ⟨contents .offline, contents .timeoutSeconds, contents .userAgent⟩
  badges := ⟨contents .passed, contents .failed, contents .indeterminate⟩

theorem content_ofContents (contents : (key : Key) → key.kind.Content) (key : Key) :
    key.content (ofContents contents) = contents key := by
  cases key <;> rfl

/-- A key has contents unless the document is mistaken about it. -/
theorem Key.exists_takes_iff {key : Key} :
    (∃ content, key.Takes entries content) ↔ ¬ key.IsMistaken entries := by
  unfold Takes IsMistaken
  cases key.value? entries with
  | none => simp
  | some value => simp

/-- A document can be laid over the defaults unless it is mistaken about some key. -/
theorem exists_isOverlay_iff :
    (∃ settings, IsOverlay entries settings) ↔ ∀ key : Key, ¬ key.IsMistaken entries := by
  constructor
  · rintro ⟨settings, overlay⟩ key
    exact Key.exists_takes_iff.mp ⟨_, overlay key⟩
  · intro sound
    choose contents takes using fun key => Key.exists_takes_iff.mpr (sound key)
    refine ⟨ofContents contents, fun key => ?_⟩
    rw [content_ofContents]
    exact takes key

end Overlays

end Settings

end DocMarkers
