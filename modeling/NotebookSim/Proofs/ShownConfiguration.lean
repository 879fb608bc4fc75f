import NotebookSim.Config.Printer
import NotebookSim.Config.Reader
import NotebookSim.Proofs.TomlDocument
/-!
A configuration that is shown reads back. The whole document is read as the configuration itself,
and the lines of a section under its header as the default with that section replaced.
-/
namespace NotebookSim

namespace ConfigKey

theorem isBare_name (key : ConfigKey) : Toml.IsBare key.name := by
  cases key <;> exact ⟨by decide, List.all_eq_true.mp (by decide)⟩

/-- What a valid configuration has at a key can be read. -/
theorem fits_datum {c : Config} (valid : c.validate = .ok ()) (key : ConfigKey) :
    (key.datum c).Fits := by
  have holds := (Config.validate_eq_ok_iff c).mp valid key
  cases key with
  | listMaxResults =>
    have bounds := of_decide_eq_true holds
    exact Nat.lt_of_le_of_lt bounds.2 (by decide)
  | tagPageSize =>
    have bounds := of_decide_eq_true holds
    exact Nat.lt_of_le_of_lt bounds.2 (by decide)
  | defaultVolumeSizeGb =>
    have bounds := of_decide_eq_true holds
    exact Nat.lt_of_le_of_lt bounds.2 (by decide)
  | _ => trivial

theorem natural?_integer {limit n : Nat} (fits : n < limit) :
    natural? limit (.integer n) = some n := by
  rw [natural?, if_pos (by omega), Int.toNat_natCast]

theorem texts?_strings (opened : Bool) (ss : List String) :
    texts? (.array opened (ss.map .string)) = some ss := by
  change (ss.map Toml.Value.string).mapM text? = some ss
  induction ss with
  | nil => rfl
  | cons s ss ih =>
    rw [List.map_cons, List.mapM_cons, ih]
    rfl

end ConfigKey

namespace Config

/-- The configuration with a section taken from another. -/
def withSection (c : Config) (other : Config) : ConfigSection → Config
  | .general => { c with logging := other.logging }
  | .account => { c with scope := other.scope }
  | .sagemaker => { c with settings := other.settings }

end Config

namespace ConfigSection

/-- A section as it is shown. -/
def shown (part : ConfigSection) (c : Config) : Toml.Section := (part.name, part.entries c)

theorem isBare_name (part : ConfigSection) : Toml.IsBare part.name := by
  cases part <;> exact ⟨by decide, List.all_eq_true.mp (by decide)⟩

theorem nodup_keyNames (part : ConfigSection) : (part.keys.map ConfigKey.name).Nodup := by
  cases part <;> decide

theorem writable_shown {c : Config} (valid : c.validate = .ok ()) (part : ConfigSection) :
    (part.shown c).Writable where
  name := part.isBare_name
  keys := by
    intro e member
    obtain ⟨key, -, rfl⟩ := List.mem_map.mp member
    exact key.isBare_name
  fits := by
    intro e member
    obtain ⟨key, -, rfl⟩ := List.mem_map.mp member
    exact key.fits_datum valid
  distinct := by
    change ((part.keys.map _).map Prod.fst).Nodup
    rw [List.map_map]
    exact part.nodup_keyNames

/-- The lines of a section are read into any configuration as that section. -/
theorem assign?_shown {c : Config} (valid : c.validate = .ok ()) (part : ConfigSection)
    (into : Config) :
    part.assign? (part.shown c).entry.2 into = some (into.withSection c part) := by
  cases part with
  | general => rfl
  | account => rfl
  | sagemaker =>
    have bounds := (Config.validate_eq_ok_iff c).mp valid
    have list := of_decide_eq_true (bounds .listMaxResults)
    have page := of_decide_eq_true (bounds .tagPageSize)
    have volume := of_decide_eq_true (bounds .defaultVolumeSizeGb)
    have readList := ConfigKey.natural?_integer
      (Nat.lt_of_le_of_lt list.2 (show _ < 1 <<< 64 by decide))
    have readPage := ConfigKey.natural?_integer
      (Nat.lt_of_le_of_lt page.2 (show _ < 1 <<< 64 by decide))
    have readVolume := ConfigKey.natural?_integer
      (Nat.lt_of_le_of_lt volume.2 (show _ < 1 <<< 32 by decide))
    simp [-Nat.reduceShiftLeft, assign?, shown, Toml.Section.entry, Toml.Section.values, entries,
      keys, List.lookup_cons, ConfigKey.name, ConfigKey.datum, ConfigKey.assign?, Toml.Datum.value,
      readList, readPage, readVolume, ConfigKey.texts?_strings, Config.withSection]

end ConfigSection

namespace Config

theorem ofEntries?_shown {c : Config} (valid : c.validate = .ok ()) :
    ofEntries? (ConfigSection.all.map fun part => (part.shown c).entry) = some c := by
  have found (part : ConfigSection) :
      (ConfigSection.all.map fun part => (part.shown c).entry).lookup part.name =
        some (part.shown c).entry.2 := by
    cases part <;> rfl
  unfold ofEntries?
  simp only [found, ConfigSection.assign?_shown valid]
  rfl

theorem ofEntries?_shown_section {c : Config} (valid : c.validate = .ok ())
    (part : ConfigSection) :
    ofEntries? [(part.shown c).entry] = some (default.withSection c part) := by
  have found (other : ConfigSection) : [(part.shown c).entry].lookup other.name =
      if other = part then some (part.shown c).entry.2 else none := by
    cases part <;> cases other <;> rfl
  unfold ofEntries?
  simp only [found]
  cases part <;> simp [ConfigSection.all, ConfigSection.assign?_shown valid]

theorem parse_of_entries {text : String} {entries : Toml.Entries} {c : Config}
    (document : Toml.parse text = some entries) (read : ofEntries? entries = some c) :
    parse text = .ok c := by
  rw [parse, document, Option.bind_some, read]

/-- A valid configuration that is shown as a document reads back as itself. The lines of one of its
sections, under the header of that section, read back as the default with the section replaced. -/
theorem parse_shown {c : Config} (valid : c.validate = .ok ()) :
    parse c.toml = .ok c ∧
    ∀ part : ConfigSection, parse ("[" ++ part.name ++ "]\n" ++ part.toml c) =
      .ok (default.withSection c part) := by
  constructor
  · have writable (table : Toml.Section) (listed : table ∈ ConfigSection.all.map (·.shown c)) :
        table.Writable := by
      obtain ⟨part, -, rfl⟩ := List.mem_map.mp listed
      exact part.writable_shown valid
    have distinct : ((ConfigSection.all.map (·.shown c)).map Prod.fst).Nodup := by
      change (ConfigSection.all.map ConfigSection.name).Nodup
      decide
    have document := Toml.parse_document writable distinct
    rw [List.map_map] at document
    exact parse_of_entries document (ofEntries?_shown valid)
  · intro part
    have text : "[" ++ part.name ++ "]\n" ++ part.toml c =
        String.ofList (Toml.document [part.shown c]) := by
      rw [← String.toList_inj]
      simp [ConfigSection.toml, Toml.document, Toml.sectionText, ConfigSection.shown]
    have distinct : ([part.shown c].map Prod.fst).Nodup := by simp
    have document := Toml.parse_document
      (List.forall_mem_singleton.mpr (part.writable_shown valid)) distinct
    rw [text]
    exact parse_of_entries document (ofEntries?_shown_section valid part)

/-- A region with a newline, quotes of both kinds and a control character, and instance types that
take all forms of strings. -/
def tangled : Config :=
  { default with
    scope.region := "north\n\"\"\"\\'''\x01\u00e9"
    settings.instanceTypes := ["ml.t3.medium", "C:\\ml", "the \"small\" one's", "\\'", "\x7f"] }

theorem parse_shown_tangled :
    tangled.validate = .ok () ∧ parse tangled.toml = .ok tangled ∧
    parse ("[" ++ ConfigSection.account.name ++ "]\n" ++ ConfigSection.account.toml tangled) =
      .ok (default.withSection tangled .account) := by
  have valid : tangled.validate = .ok () := rfl
  obtain ⟨whole, sections⟩ := parse_shown valid
  exact ⟨valid, whole, sections .account⟩

end Config
end NotebookSim
