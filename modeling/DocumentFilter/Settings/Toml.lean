import DocumentFilter.Settings.Basic
import DocumentFilter.Toml.Document

/-!
# Settings in TOML

The settings that a document holds.  A key that is missing keeps its default and a key that is
unknown is ignored, but a value of the wrong kind is a fault.
-/

namespace DocumentFilter

namespace Toml.Value

/-- A whole number that is not negative. -/
def nat? : Value → Option Nat
  | integer n => if 0 ≤ n then some n.toNat else none
  | _ => none

/-- A text. -/
def text? : Value → Option String
  | string text => some text
  | _ => none

theorem nat?_eq_some_iff {value : Value} {n : Nat} : value.nat? = some n ↔ value = .integer n := by
  cases value <;> simp [nat?]
  omega

theorem text?_eq_some_iff {value : Value} {text : String} :
    value.text? = some text ↔ value = .string text := by
  cases value <;> simp [text?]

end Toml.Value

namespace Toml.Entries

/-- The value of a key in the form that is due, or the default if the key is missing. -/
def read? {α : Type} (entries : Toml.Entries) (key : String) (form : Toml.Value → Option α)
    (default : α) : Option α :=
  match entries.find? key with
  | none => some default
  | some value => form value

/-- What a table says of a key: the value that is written under the key, or the default if nothing
is. -/
def Says {α : Type} (entries : Toml.Entries) (key : String) (IsWritten : Toml.Value → α → Prop)
    (default value : α) : Prop :=
  entries.find? key = none ∧ value = default ∨
    ∃ written, entries.find? key = some written ∧ IsWritten written value

variable {entries : Toml.Entries} {key : String}

theorem read?_eq_some_iff {α : Type} (form : Toml.Value → Option α)
    {IsWritten : Toml.Value → α → Prop} {default value : α}
    (hform : ∀ written, form written = some value ↔ IsWritten written value) :
    entries.read? key form default = some value ↔ entries.Says key IsWritten default value := by
  rw [read?, Says]
  cases entries.find? key with
  | none => simp [eq_comm]
  | some written => simp [hform]

theorem read?_nat?_eq_some_iff {default n : Nat} :
    entries.read? key Toml.Value.nat? default = some n ↔
      entries.Says key (fun value n => value = .integer (n : Nat)) default n :=
  read?_eq_some_iff _ fun _ => Toml.Value.nat?_eq_some_iff

theorem read?_text?_eq_some_iff {default text : String} :
    entries.read? key Toml.Value.text? default = some text ↔
      entries.Says key (fun value text => value = .string text) default text :=
  read?_eq_some_iff _ fun _ => Toml.Value.text?_eq_some_iff

theorem read?_map_some_nat?_eq_some_iff {default n? : Option Nat} :
    entries.read? key (Option.map some ∘ Toml.Value.nat?) default = some n? ↔
      entries.Says key (fun value n? => ∃ n : Nat, value = .integer n ∧ some n = n?) default n? :=
  read?_eq_some_iff _ fun _ => by
    simp only [Function.comp_apply, Option.map_eq_some_iff, Toml.Value.nat?_eq_some_iff]

theorem read?_map_some_text?_eq_some_iff {default text? : Option String} :
    entries.read? key (Option.map some ∘ Toml.Value.text?) default = some text? ↔
      entries.Says key (fun value text? => ∃ text, value = .string text ∧ some text = text?)
        default text? :=
  read?_eq_some_iff _ fun _ => by
    simp only [Function.comp_apply, Option.map_eq_some_iff, Toml.Value.text?_eq_some_iff]

end Toml.Entries

namespace ResourceDefaults

/-- The keys in the order in which a list gives their values. -/
def keys : List String := ["top", "skip", "orderby", "orderby_paged", "select"]

/-- The defaults that a table holds. -/
def ofEntries? (entries : Toml.Entries) : Option ResourceDefaults := do
  let base : ResourceDefaults := {}
  return {
    top := ← entries.read? "top" (Option.map some ∘ Toml.Value.nat?) base.top
    skip := ← entries.read? "skip" (Option.map some ∘ Toml.Value.nat?) base.skip
    orderby := ← entries.read? "orderby" (Option.map some ∘ Toml.Value.text?) base.orderby
    orderbyPaged := ← entries.read? "orderby_paged" Toml.Value.text? base.orderbyPaged
    select := ← entries.read? "select" (Option.map some ∘ Toml.Value.text?) base.select }

/-- The defaults are what a table says of their keys. -/
structure IsHeldBy (defaults : ResourceDefaults) (entries : Toml.Entries) : Prop where
  top : entries.Says "top" (fun value n? => ∃ n : Nat, value = .integer n ∧ some n = n?)
    none defaults.top
  skip : entries.Says "skip" (fun value n? => ∃ n : Nat, value = .integer n ∧ some n = n?)
    none defaults.skip
  orderby : entries.Says "orderby"
    (fun value text? => ∃ text, value = .string text ∧ some text = text?) none defaults.orderby
  orderbyPaged : entries.Says "orderby_paged" (fun value text => value = .string text)
    "_id" defaults.orderbyPaged
  select : entries.Says "select"
    (fun value text? => ∃ text, value = .string text ∧ some text = text?) none defaults.select

theorem ofEntries?_eq_some_iff {entries : Toml.Entries} {defaults : ResourceDefaults} :
    ofEntries? entries = some defaults ↔ defaults.IsHeldBy entries := by
  constructor
  · intro h
    obtain ⟨top, htop, h⟩ := Option.bind_eq_some_iff.mp h
    obtain ⟨skip, hskip, h⟩ := Option.bind_eq_some_iff.mp h
    obtain ⟨orderby, horderby, h⟩ := Option.bind_eq_some_iff.mp h
    obtain ⟨orderbyPaged, hpaged, h⟩ := Option.bind_eq_some_iff.mp h
    obtain ⟨select, hselect, h⟩ := Option.bind_eq_some_iff.mp h
    cases h
    exact ⟨Toml.Entries.read?_map_some_nat?_eq_some_iff.mp htop,
      Toml.Entries.read?_map_some_nat?_eq_some_iff.mp hskip,
      Toml.Entries.read?_map_some_text?_eq_some_iff.mp horderby,
      Toml.Entries.read?_text?_eq_some_iff.mp hpaged,
      Toml.Entries.read?_map_some_text?_eq_some_iff.mp hselect⟩
  · rintro ⟨htop, hskip, horderby, hpaged, hselect⟩
    rw [← Toml.Entries.read?_map_some_nat?_eq_some_iff] at htop hskip
    rw [← Toml.Entries.read?_map_some_text?_eq_some_iff] at horderby hselect
    rw [← Toml.Entries.read?_text?_eq_some_iff] at hpaged
    simp [ofEntries?, htop, hskip, horderby, hpaged, hselect]

/-- The defaults in any of the forms that stand for them: a table, a list of values in the order of
the keys, or a time, which has none of the keys. -/
def ofToml? : Toml.Value → Option ResourceDefaults
  | .table _ entries => ofEntries? entries
  | .array items => ofEntries? (keys.zip items)
  | .tables items => ofEntries? (keys.zip (items.map (Toml.Value.table .header)))
  | .time => some {}
  | _ => none

/-- A value stands for the defaults: a table that holds them, a list of values in the order of the
keys, or a time, which says nothing. -/
inductive IsWrittenAs : Toml.Value → ResourceDefaults → Prop
  | table {origin : Toml.Origin} {entries : Toml.Entries} {defaults : ResourceDefaults} :
      defaults.IsHeldBy entries → IsWrittenAs (.table origin entries) defaults
  | array {items : List Toml.Value} {defaults : ResourceDefaults} :
      defaults.IsHeldBy (["top", "skip", "orderby", "orderby_paged", "select"].zip items) →
      IsWrittenAs (.array items) defaults
  | tables {items : List Toml.Entries} {defaults : ResourceDefaults} :
      defaults.IsHeldBy (["top", "skip", "orderby", "orderby_paged", "select"].zip
        (items.map (Toml.Value.table .header))) →
      IsWrittenAs (.tables items) defaults
  | time : IsWrittenAs .time ⟨none, none, none, "_id", none⟩

theorem ofToml?_eq_some_iff {value : Toml.Value} {defaults : ResourceDefaults} :
    ofToml? value = some defaults ↔ IsWrittenAs value defaults := by
  constructor
  · intro h
    cases value with
    | table => exact .table (ofEntries?_eq_some_iff.mp h)
    | array => exact .array (ofEntries?_eq_some_iff.mp h)
    | tables => exact .tables (ofEntries?_eq_some_iff.mp h)
    | time =>
        cases h
        exact .time
    | _ => cases h
  · intro h
    cases h with
    | table h => exact ofEntries?_eq_some_iff.mpr h
    | array h => exact ofEntries?_eq_some_iff.mpr h
    | tables h => exact ofEntries?_eq_some_iff.mpr h
    | time => rfl

end ResourceDefaults

namespace Settings

/-- The settings that a table holds. -/
def ofEntries? (entries : Toml.Entries) : Option Settings := do
  let base : Settings := {}
  return {
    profileName := ← entries.read? "profile_name" Toml.Value.text? base.profileName
    maxDepth := ← entries.read? "max_depth" Toml.Value.nat? base.maxDepth
    resource := ← entries.read? "resource" ResourceDefaults.ofToml? base.resource }

/-- The settings are what a table says of their keys. -/
structure IsHeldBy (settings : Settings) (entries : Toml.Entries) : Prop where
  profileName : entries.Says "profile_name" (fun value name => value = .string name)
    "base" settings.profileName
  maxDepth : entries.Says "max_depth" (fun value n => value = .integer (n : Nat))
    32 settings.maxDepth
  resource : entries.Says "resource" ResourceDefaults.IsWrittenAs
    ⟨none, none, none, "_id", none⟩ settings.resource

theorem ofEntries?_eq_some_iff {entries : Toml.Entries} {settings : Settings} :
    ofEntries? entries = some settings ↔ settings.IsHeldBy entries := by
  have hresource {defaults : ResourceDefaults} :
      entries.read? "resource" ResourceDefaults.ofToml? {} = some defaults ↔
        entries.Says "resource" ResourceDefaults.IsWrittenAs ⟨none, none, none, "_id", none⟩
          defaults :=
    Toml.Entries.read?_eq_some_iff _ fun _ => ResourceDefaults.ofToml?_eq_some_iff
  constructor
  · intro h
    obtain ⟨profileName, hname, h⟩ := Option.bind_eq_some_iff.mp h
    obtain ⟨maxDepth, hdepth, h⟩ := Option.bind_eq_some_iff.mp h
    obtain ⟨resource, hwritten, h⟩ := Option.bind_eq_some_iff.mp h
    cases h
    exact ⟨Toml.Entries.read?_text?_eq_some_iff.mp hname,
      Toml.Entries.read?_nat?_eq_some_iff.mp hdepth, hresource.mp hwritten⟩
  · rintro ⟨hname, hdepth, hwritten⟩
    rw [← Toml.Entries.read?_text?_eq_some_iff] at hname
    rw [← Toml.Entries.read?_nat?_eq_some_iff, ← defaultMaxDepth] at hdepth
    rw [← hresource] at hwritten
    simp [ofEntries?, hname, hdepth, hwritten]

/-- The settings that a document holds. -/
def ofToml? (text : String) : Option Settings := do ofEntries? (← Toml.document? text)

theorem ofToml?_eq_some_iff {text : String} {settings : Settings} :
    ofToml? text = some settings ↔
      ∃ entries, Toml.document? text = some entries ∧ settings.IsHeldBy entries := by
  simp [ofToml?, Option.bind_eq_some_iff, ofEntries?_eq_some_iff]

end Settings
end DocumentFilter
