import LiterateBook.Config

/-!
# Settings of a document

When the sections of a document are tables, each setting is decided by one field
alone: by the default when the field is not there, and by the value when it is
acceptable. A value that is not acceptable leaves the whole document without
settings, and so does a number, wherever it stands, that cannot be stored.
-/

namespace LiterateBook

/-- The name of a policy. -/
def BlankPolicy.name : BlankPolicy → Text
  | .drop => "drop".toList
  | .keep => "keep".toList

namespace Config

variable {α : Type} {entries : Toml.Entries}

/-! ## Acceptable values -/

/-- A text is written as a string. -/
inductive IsText : Toml.Value → Text → Prop where
  | string {text : Text} : IsText (.scalar (.string text)) text

/-- A policy is written as its name, or as a table with nothing but an empty
table or array under its name. -/
inductive IsPolicy : Toml.Value → BlankPolicy → Prop where
  | name {policy : BlankPolicy} :
      IsPolicy (.scalar (.string policy.name)) policy
  | table {policy : BlankPolicy} {form inner : Toml.TableForm} :
      IsPolicy (.table form [(policy.name, .table inner [])]) policy
  | array {policy : BlankPolicy} {form : Toml.TableForm} :
      IsPolicy (.table form [(policy.name, .array [])]) policy

/-- Texts are written as an array of strings. -/
inductive AreTexts : Toml.Value → List Text → Prop where
  | array {texts : List Text} :
      AreTexts (.array (texts.map fun text => .scalar (.string text))) texts

/-! ## Fields -/

/-- Every section of a document is a table. -/
def SectionsAreTables (entries : Toml.Entries) : Prop :=
  ∀ name value, (name, value) ∈ entries → name ∈ sections →
    ∃ form fields, value = .table form fields

/-- The value of a field in a section that is a table. -/
def fieldOf? (entries : Toml.Entries) (table field : String) :
    Option Toml.Value :=
  match entries.lookup table.toList with
  | some (.table _ fields) => fields.lookup field.toList
  | _ => none

/-- The setting that a field gives: the default when it is not there, and
otherwise what its value stands for. -/
def Gives (accepts : Toml.Value → α → Prop) (default : α) :
    Option Toml.Value → α → Prop
  | none, setting => setting = default
  | some value, setting => accepts value setting

/-- The settings of a document, field by field. -/
structure Settles (entries : Toml.Entries) (config : Config) : Prop where
  language : Gives IsText default.options.fenceLanguage
    (fieldOf? entries "render" "fence_language")
    config.options.fenceLanguage
  policy : Gives IsPolicy default.blankPolicy
    (fieldOf? entries "parse" "blank_lines")
    config.blankPolicy
  patterns : Gives AreTexts default.patterns
    (fieldOf? entries "sources" "patterns") config.patterns
  /-- All numbers can be stored, also in what is ignored otherwise. -/
  readable : Toml.entriesReadable entries = true

/-! ## Decoding one field -/

theorem text?_eq_some_iff {value : Toml.Value} {text : Text} :
    text? value = some text ↔ IsText value text := by
  constructor
  · intro decoded
    unfold text? at decoded
    split at decoded
    · cases decoded
      exact .string
    · cases decoded
  · rintro ⟨⟩
    rfl

theorem policyOfName?_eq_some_iff {name : Text} {policy : BlankPolicy} :
    policyOfName? name = some policy ↔ name = policy.name := by
  constructor
  · intro decoded
    unfold policyOfName? at decoded
    split at decoded
    · next drop => cases decoded; exact drop
    · split at decoded
      · next keep => cases decoded; exact keep
      · cases decoded
  · rintro rfl
    cases policy <;> rfl

theorem isUnit_eq_true_iff {value : Toml.Value} :
    isUnit value = true ↔
      (∃ form, value = .table form []) ∨ value = .array [] := by
  cases value with
  | table form entries => simp [isUnit]
  | array elements => simp [isUnit]
  | scalar scalar => simp [isUnit]
  | tables elements => simp [isUnit]

theorem policy?_eq_some_iff {value : Toml.Value} {policy : BlankPolicy} :
    policy? value = some policy ↔ IsPolicy value policy := by
  constructor
  · intro decoded
    unfold policy? at decoded
    split at decoded
    · cases policyOfName?_eq_some_iff.1 decoded
      exact .name
    · split at decoded
      · next unit =>
        cases policyOfName?_eq_some_iff.1 decoded
        rcases isUnit_eq_true_iff.1 unit with ⟨inner, rfl⟩ | rfl
        · exact .table
        · exact .array
      · cases decoded
    · cases decoded
  · rintro (_ | _ | _) <;> exact policyOfName?_eq_some_iff.2 rfl

theorem mapM_text?_eq_some_iff {elements : List Toml.Value}
    {texts : List Text} :
    elements.mapM text? = some texts ↔
      elements = texts.map fun text => .scalar (.string text) := by
  induction elements generalizing texts with
  | nil => cases texts <;> simp
  | cons value rest ih =>
      constructor
      · intro decoded
        rw [List.mapM_cons, Option.bind_eq_bind, Option.bind_eq_some_iff] at decoded
        obtain ⟨text, first, decoded⟩ := decoded
        rw [Option.bind_eq_bind, Option.bind_eq_some_iff] at decoded
        obtain ⟨others, later, same⟩ := decoded
        cases text?_eq_some_iff.1 first
        cases same
        rw [ih.1 later]
        rfl
      · intro shape
        cases texts with
        | nil => cases shape
        | cons text others =>
            obtain ⟨rfl, rfl⟩ := List.cons.inj shape
            rw [List.mapM_cons, ih.2 rfl]
            rfl

theorem texts?_eq_some_iff {value : Toml.Value} {texts : List Text} :
    texts? value = some texts ↔ AreTexts value texts := by
  constructor
  · intro decoded
    unfold texts? at decoded
    split at decoded
    · cases mapM_text?_eq_some_iff.1 decoded
      exact .array
    · cases decoded
  · rintro ⟨⟩
    exact mapM_text?_eq_some_iff.2 rfl

theorem setting?_eq_some_iff {table field : String}
    {decode : Toml.Value → Option α} {accepts : Toml.Value → α → Prop}
    {default setting : α}
    (tables : ∀ value, entries.lookup table.toList = some value →
      ∃ form fields, value = .table form fields)
    (decodes : ∀ value setting, decode value = some setting ↔
      accepts value setting) :
    setting? entries table field decode default = some setting ↔
      Gives accepts default (fieldOf? entries table field) setting := by
  rw [setting?, fieldOf?]
  cases found : entries.lookup table.toList with
  | none =>
      exact ⟨fun same => (Option.some.inj same).symm,
        fun same => congrArg some same.symm⟩
  | some value =>
      obtain ⟨form, fields, rfl⟩ := tables value found
      simp only [field?]
      cases fields.lookup field.toList with
      | none =>
          exact ⟨fun same => (Option.some.inj same).symm,
            fun same => congrArg some same.symm⟩
      | some value => exact decodes value setting

/-! ## Decoding a document -/

theorem entriesReadable_eq_all (entries : Toml.Entries) :
    Toml.entriesReadable entries = entries.all fun entry =>
      entry.2.isReadable := by
  induction entries with
  | nil => rfl
  | cons entry rest ih => rw [Toml.entriesReadable, ih, List.all_cons]

/-- Everything in a document whose sections are tables is looked at. -/
theorem all_isReadable (tables : SectionsAreTables entries) :
    (entries.all fun (name, value) => isReadable name value) =
      Toml.entriesReadable entries := by
  rw [entriesReadable_eq_all, Bool.eq_iff_iff, List.all_eq_true,
    List.all_eq_true]
  apply forall₂_congr
  rintro ⟨name, value⟩ member
  by_cases isSection : name ∈ sections
  · obtain ⟨form, fields, rfl⟩ := tables name value member isSection
    rfl
  · have other : sections.contains name = false := by simpa using isSection
    cases value <;> simp only [isReadable, other, Bool.false_or]

theorem SectionsAreTables.table_of_lookup (tables : SectionsAreTables entries)
    {name : Text} (isSection : name ∈ sections) (value : Toml.Value)
    (found : entries.lookup name = some value) :
    ∃ form fields, value = .table form fields := by
  obtain ⟨before, after, split, -⟩ := List.lookup_eq_some_iff.1 found
  apply tables name value _ isSection
  rw [split]
  exact List.mem_append_right _ List.mem_cons_self

/-- A document whose sections are tables gives exactly the settings that its
fields give. -/
theorem ofEntries?_eq_some_iff (tables : SectionsAreTables entries)
    {config : Config} :
    ofEntries? entries = some config ↔ Settles entries config := by
  have language (setting : Text) :
      setting? entries "render" "fence_language" text?
        default.options.fenceLanguage =
          some setting ↔
        Gives IsText default.options.fenceLanguage
          (fieldOf? entries "render" "fence_language")
          setting :=
    setting?_eq_some_iff (tables.table_of_lookup (by decide)) fun _ _ =>
      text?_eq_some_iff
  have policy (setting : BlankPolicy) :
      setting? entries "parse" "blank_lines" policy? default.blankPolicy =
        some setting ↔
        Gives IsPolicy default.blankPolicy
          (fieldOf? entries "parse" "blank_lines") setting :=
    setting?_eq_some_iff (tables.table_of_lookup (by decide)) fun _ _ =>
      policy?_eq_some_iff
  have patterns (setting : List Text) :
      setting? entries "sources" "patterns" texts? default.patterns =
        some setting ↔
        Gives AreTexts default.patterns (fieldOf? entries "sources" "patterns")
          setting :=
    setting?_eq_some_iff (tables.table_of_lookup (by decide)) fun _ _ =>
      texts?_eq_some_iff
  rw [ofEntries?, all_isReadable tables]
  simp only [Option.bind_eq_bind, Option.bind_eq_some_iff, language,
    policy, patterns]
  constructor
  · rintro ⟨_, ofLanguage, _, ofPolicy, _, ofPatterns, decoded⟩
    split at decoded
    · next readable =>
      cases decoded
      exact ⟨ofLanguage, ofPolicy, ofPatterns, readable⟩
    · cases decoded
  · intro settles
    refine ⟨_, settles.language, _, settles.policy, _, settles.patterns, ?_⟩
    rw [if_pos settles.readable]

/-! ## Fields by themselves -/

theorem exists_gives_iff {accepts : Toml.Value → α → Prop} (default : α)
    {field : Option Toml.Value} :
    (∃ setting, Gives accepts default field setting) ↔
      ∀ value, field = some value → ∃ setting, accepts value setting := by
  cases field with
  | none =>
      constructor
      · rintro _ _ ⟨⟩
      · exact fun _ => ⟨default, rfl⟩
  | some value =>
      constructor
      · rintro gives _ ⟨⟩
        exact gives
      · exact fun acceptable => acceptable value rfl

theorem Gives.unique {decode : Toml.Value → Option α}
    {accepts : Toml.Value → α → Prop} {default first second : α}
    {field : Option Toml.Value}
    (decodes : ∀ value setting, decode value = some setting ↔
      accepts value setting)
    (gives : Gives accepts default field first)
    (again : Gives accepts default field second) :
    first = second := by
  cases field with
  | none => exact Eq.trans gives again.symm
  | some value =>
      have decoded := (decodes value first).2 gives
      exact Option.some.inj
        (decoded.symm.trans ((decodes value second).2 again))

/-- A document has settings when all its fields have acceptable values and all
its numbers can be stored. -/
theorem exists_settles_iff :
    (∃ config, Settles entries config) ↔
      (∀ value, fieldOf? entries "render" "fence_language" = some value →
        ∃ text, IsText value text) ∧
      (∀ value, fieldOf? entries "parse" "blank_lines" = some value →
        ∃ policy, IsPolicy value policy) ∧
      (∀ value, fieldOf? entries "sources" "patterns" = some value →
        ∃ texts, AreTexts value texts) ∧
      Toml.entriesReadable entries = true := by
  rw [← exists_gives_iff default.options.fenceLanguage,
    ← exists_gives_iff default.blankPolicy,
    ← exists_gives_iff default.patterns]
  constructor
  · rintro ⟨config, settles⟩
    exact ⟨⟨_, settles.language⟩, ⟨_, settles.policy⟩, ⟨_, settles.patterns⟩,
      settles.readable⟩
  · rintro ⟨⟨language, ofLanguage⟩, ⟨policy, ofPolicy⟩,
      ⟨patterns, ofPatterns⟩, readable⟩
    exact ⟨⟨⟨language⟩, policy, patterns⟩, ofLanguage, ofPolicy,
      ofPatterns, readable⟩

/-- Documents that agree on a field agree on its setting, whatever else they
hold. -/
theorem Settles.agree {others : Toml.Entries} {config other : Config}
    (settles : Settles entries config) (again : Settles others other) :
    (fieldOf? others "render" "fence_language" =
      fieldOf? entries "render" "fence_language" →
      other.options = config.options) ∧
    (fieldOf? others "parse" "blank_lines" =
      fieldOf? entries "parse" "blank_lines" →
      other.blankPolicy = config.blankPolicy) ∧
    (fieldOf? others "sources" "patterns" =
      fieldOf? entries "sources" "patterns" →
      other.patterns = config.patterns) := by
  refine ⟨fun same => ?_, fun same => ?_, fun same => ?_⟩
  · have language := again.language
    rw [same] at language
    exact congrArg RenderOptions.mk
      (language.unique (fun _ _ => text?_eq_some_iff) settles.language)
  · have policy := again.policy
    rw [same] at policy
    exact policy.unique (fun _ _ => policy?_eq_some_iff) settles.policy
  · have patterns := again.patterns
    rw [same] at patterns
    exact patterns.unique (fun _ _ => texts?_eq_some_iff) settles.patterns

end Config

end LiterateBook
