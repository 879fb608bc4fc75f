import Mathlib
import NotebookSim.Config.Load
import NotebookSim.Config.Printer
import NotebookSim.Proofs.Entries
/-!
The configuration that a file and the environment come to. Each key has the value of its variable,
if there is one that can be read, else that of the file, else the default. This is what is loaded
when the file obeys the rules by itself; a file that does not is refused, even where the environment
would have overridden what is wrong with it.
-/
namespace NotebookSim

/-! ## The value of a key -/

namespace ConfigKey

/-- The value that a key is given by the text of its variable. -/
def ofVariable? (text : String) : ConfigKey → Option Toml.Datum
  | logLevel | logFormat | accountId | region => some (.string text)
  | listMaxResults | tagPageSize => (Text.bounded? (1 <<< 64) text).map .natural
  | defaultVolumeSizeGb => (Text.bounded? (1 <<< 32) text).map .natural
  | instanceTypes => some (.strings (Environment.items text))

def fromEnvironment? (env : Environment) (key : ConfigKey) : Option Toml.Datum :=
  (env key.envName).bind fun text => key.ofVariable? text

/-- The value that a key is given by a value of a document. -/
def ofValue? (v : Toml.Value) : ConfigKey → Option Toml.Datum
  | logLevel | logFormat | accountId | region => (text? v).map .string
  | listMaxResults | tagPageSize => (natural? (1 <<< 64) v).map .natural
  | defaultVolumeSizeGb => (natural? (1 <<< 32) v).map .natural
  | instanceTypes => (texts? v).map .strings

/-- What the value of a section has at a key: in an array the keys stand in their order, and a
moment in time has nothing. -/
def within? (v : Toml.Value) (key : ConfigKey) : Option Toml.Value :=
  match v with
  | .table _ entries => entries.lookup key.name
  | .array _ items => (key.part.keys.zip items).lookup key
  | _ => none

/-- What the root table of a document has at a key. -/
def written? (entries : Toml.Entries) (key : ConfigKey) : Option Toml.Value :=
  (entries.lookup key.part.name).bind fun v => key.within? v

/-- The value that counts: of the environment before the document, and of the document before the
default. -/
def effective (env : Environment) (entries : Toml.Entries) (key : ConfigKey) : Toml.Datum :=
  ((key.fromEnvironment? env).or ((key.written? entries).bind fun v => key.ofValue? v)).getD
    (key.datum Config.default)

theorem nodup_all : all.Nodup := by decide

theorem eq_of_datum {c c' : Config} (same : ∀ key : ConfigKey, key.datum c = key.datum c') :
    c = c' := by
  obtain ⟨⟨level, format⟩, ⟨account, region⟩, ⟨list, page, volume, types⟩⟩ := c
  obtain ⟨⟨level', format'⟩, ⟨account', region'⟩, ⟨list', page', volume', types'⟩⟩ := c'
  cases same .logLevel
  cases same .logFormat
  cases same .accountId
  cases same .region
  cases same .listMaxResults
  cases same .tagPageSize
  cases same .defaultVolumeSizeGb
  cases same .instanceTypes
  rfl

theorem datum_of_assigned {v : Toml.Value} {c c' : Config} {key : ConfigKey}
    (assigned : key.assign? v c = some c') : key.ofValue? v = some (key.datum c') := by
  cases key <;>
  · obtain ⟨x, read, rfl⟩ := Option.map_eq_some_iff.mp assigned
    exact congrArg (Option.map _) read

/-- Assigning to one key leaves the others. -/
theorem datum_of_other_assigned {v : Toml.Value} {c c' : Config} {key other : ConfigKey}
    (assigned : key.assign? v c = some c') (different : other ≠ key) :
    other.datum c' = other.datum c := by
  cases key <;>
  · obtain ⟨x, -, rfl⟩ := Option.map_eq_some_iff.mp assigned
    cases other <;> first | rfl | exact absurd rfl different

theorem datum_override (text : String) (c : Config) (key other : ConfigKey) :
    other.datum (key.override text c) =
      if other = key then (key.ofVariable? text).getD (key.datum c) else other.datum c := by
  have number (read : Option Nat) (held : Nat) :
      Toml.Datum.natural (read.getD held) = (read.map Toml.Datum.natural).getD (.natural held) := by
    cases read <;> rfl
  cases key <;> cases other <;> first | rfl | exact number _ _

end ConfigKey

namespace Environment

/-- The parts of a text are what stands between its commas. -/
theorem parts_cases (cs : List Char) : ∃ first rest, parts cs = first :: rest ∧
    [','].intercalate (first :: rest) = cs ∧ ∀ part ∈ first :: rest, ',' ∉ part := by
  induction cs with
  | nil => exact ⟨[], [], rfl, rfl, by simp⟩
  | cons c cs ih =>
    obtain ⟨first, rest, split, joined, clean⟩ := ih
    by_cases comma : c = ','
    · subst comma
      refine ⟨[], first :: rest, by rw [parts, split], ?_, ?_⟩
      · rw [List.intercalate_cons_cons, joined]
        rfl
      · exact List.forall_mem_cons.mpr ⟨List.not_mem_nil, clean⟩
    · obtain ⟨here, later⟩ := List.forall_mem_cons.mp clean
      refine ⟨c :: first, rest, ?_, ?_, ?_⟩
      · rw [parts, split]
        exact fun comma' => comma comma'
      · rw [← joined]
        cases rest with
        | nil => rfl
        | cons next rest => rw [List.intercalate_cons_cons, List.intercalate_cons_cons]; rfl
      · refine List.forall_mem_cons.mpr ⟨?_, later⟩
        rw [List.mem_cons]
        rintro (same | inside)
        · exact comma same.symm
        · exact here inside

end Environment

/-! ## Documents -/

namespace ConfigSection

theorem mem_keys_iff (part : ConfigSection) (key : ConfigKey) :
    key ∈ part.keys ↔ key.part = part := by
  cases part <;> cases key <;> decide

theorem nodup_keys (part : ConfigSection) : part.keys.Nodup := by
  cases part <;> decide

theorem mem_all (part : ConfigSection) : part ∈ all := by cases part <;> decide

end ConfigSection

namespace Config

/-- A key that is assigned to at most once has the value assigned, or the one it had. -/
theorem datum_foldlM_pairs {pairs : List (ConfigKey × Toml.Value)}
    (distinct : (pairs.map Prod.fst).Nodup) {c c' : Config}
    (assigned : pairs.foldlM (fun c (key, v) => ConfigKey.assign? v c key) c = some c')
    (key : ConfigKey) :
    some (key.datum c') =
      (pairs.lookup key).elim (some (key.datum c)) fun v => key.ofValue? v := by
  induction pairs generalizing c with
  | nil =>
    cases assigned
    rfl
  | cons pair pairs ih =>
    obtain ⟨first, v⟩ := pair
    obtain ⟨fresh, distinct⟩ := List.nodup_cons.mp distinct
    rw [List.foldlM_cons] at assigned
    obtain ⟨next, here, later⟩ := Option.bind_eq_some_iff.mp assigned
    have rest := ih distinct later
    rw [Entries.lookup_cons]
    by_cases same : first = key
    · subst same
      have absent : pairs.lookup first = none := by
        rw [List.lookup_eq_none_iff]
        intro pair member
        have other : first ≠ pair.1 := fun same =>
          fresh (List.mem_map.mpr ⟨pair, member, same.symm⟩)
        simpa using other
      rw [absent] at rest
      rw [if_pos rfl, rest]
      exact (ConfigKey.datum_of_assigned here).symm
    · rw [if_neg same, rest, ConfigKey.datum_of_other_assigned here (Ne.symm same)]

/-- The keys that have a value, with their values. -/
def valued (keys : List ConfigKey) (values : ConfigKey → Option Toml.Value) :
    List (ConfigKey × Toml.Value) :=
  keys.filterMap fun key => (values key).map (key, ·)

theorem nodup_valued {keys : List ConfigKey} (distinct : keys.Nodup)
    (values : ConfigKey → Option Toml.Value) : ((valued keys values).map Prod.fst).Nodup := by
  unfold valued
  rw [List.map_filterMap]
  refine distinct.filterMap fun key key' k named named' => ?_
  simp only [Option.map_map, Option.mem_def, Option.map_eq_some_iff, Function.comp_apply]
    at named named'
  obtain ⟨-, -, rfl⟩ := named
  obtain ⟨-, -, rfl⟩ := named'
  rfl

theorem lookup_valued (keys : List ConfigKey) (values : ConfigKey → Option Toml.Value)
    (key : ConfigKey) :
    (valued keys values).lookup key = if key ∈ keys then values key else none := by
  unfold valued
  induction keys with
  | nil => rfl
  | cons first keys ih =>
    cases given : values first with
    | none =>
      rw [List.filterMap_cons_none (by rw [given]; rfl), ih]
      by_cases same : key = first
      · subst same
        simp [given]
      · simp [same]
    | some v =>
      rw [List.filterMap_cons_some (b := (first, v)) (by rw [given]; rfl), Entries.lookup_cons, ih]
      by_cases same : first = key
      · subst same
        simp [given]
      · simp [same, Ne.symm same]

theorem fst_zip_sublist {α β : Type} (xs : List α) (ys : List β) :
    ((xs.zip ys).map Prod.fst).Sublist xs := by
  induction xs generalizing ys with
  | nil => exact List.nil_sublist _
  | cons x xs ih =>
    cases ys with
    | nil => exact List.nil_sublist _
    | cons y ys => exact (ih ys).cons_cons x

theorem datum_section {part : ConfigSection} {v : Toml.Value} {c c' : Config}
    (assigned : part.assign? v c = some c') (key : ConfigKey) :
    some (key.datum c') =
      if key.part = part then
        (key.within? v).elim (some (key.datum c)) fun v => key.ofValue? v
      else some (key.datum c) := by
  cases v with
  | table form entries =>
    have pairs : (valued part.keys fun key => entries.lookup key.name).foldlM
        (fun c (key, v) => ConfigKey.assign? v c key) c = some c' := by
      rw [valued, List.foldlM_filterMap, ← assigned]
      unfold ConfigSection.assign?
      congr 1
      funext c key
      cases entries.lookup key.name <;> rfl
    have told := datum_foldlM_pairs (nodup_valued part.nodup_keys _) pairs key
    rw [lookup_valued] at told
    rw [told]
    by_cases own : key.part = part
    · rw [if_pos own, if_pos ((part.mem_keys_iff key).mpr own)]
      rfl
    · rw [if_neg own, if_neg (fun member => own ((part.mem_keys_iff key).mp member))]
      rfl
  | array opened items =>
    unfold ConfigSection.assign? at assigned
    dsimp only at assigned
    split at assigned
    case isFalse => cases assigned
    case isTrue =>
      have distinct : ((part.keys.zip items).map Prod.fst).Nodup :=
        part.nodup_keys.sublist (fst_zip_sublist part.keys items)
      have told := datum_foldlM_pairs distinct assigned key
      rw [told]
      by_cases own : key.part = part
      · subst own
        rw [if_pos rfl]
        rfl
      · have absent : (part.keys.zip items).lookup key = none := by
          rw [List.lookup_eq_none_iff]
          intro pair member
          have other : key ≠ pair.1 := by
            rintro rfl
            exact own ((part.mem_keys_iff _).mp (List.of_mem_zip member).1)
          simpa using other
        rw [absent, if_neg own]
        rfl
  | moment literal =>
    cases assigned
    exact (ite_self _).symm
  | string | integer | float | boolean => cases assigned

theorem datum_sections {entries : Toml.Entries} {parts : List ConfigSection}
    (distinct : parts.Nodup) {start c : Config}
    (read : parts.foldlM (fun c part => (entries.lookup part.name).elim (some c) fun v =>
      part.assign? v c) start = some c) (key : ConfigKey) :
    some (key.datum c) =
      if key.part ∈ parts then
        (key.written? entries).elim (some (key.datum start)) fun v => key.ofValue? v
      else some (key.datum start) := by
  induction parts generalizing start with
  | nil =>
    cases read
    rfl
  | cons part parts ih =>
    obtain ⟨fresh, distinct⟩ := List.nodup_cons.mp distinct
    rw [List.foldlM_cons] at read
    obtain ⟨next, here, later⟩ := Option.bind_eq_some_iff.mp read
    rw [ih distinct later]
    by_cases own : key.part = part
    · subst own
      rw [if_neg fresh, if_pos List.mem_cons_self]
      unfold ConfigKey.written?
      cases given : entries.lookup key.part.name with
      | none =>
        rw [given] at here
        cases here
        rfl
      | some v =>
        rw [given] at here
        rw [datum_section here key, if_pos rfl]
        rfl
    · have other : key.datum next = key.datum start := by
        cases given : entries.lookup part.name with
        | none =>
          rw [given] at here
          cases here
          rfl
        | some v =>
          rw [given] at here
          have told := datum_section here key
          rw [if_neg own] at told
          exact Option.some.inj told
      rw [other]
      simp [own]

/-- What a document leaves out keeps its default. -/
theorem datum_ofEntries {entries : Toml.Entries} {c : Config} (read : ofEntries? entries = some c)
    (key : ConfigKey) :
    some (key.datum c) =
      (key.written? entries).elim (some (key.datum default)) fun v => key.ofValue? v := by
  have sections : ConfigSection.all.foldlM (fun c part =>
      (entries.lookup part.name).elim (some c) fun v => part.assign? v c) default = some c := by
    rw [← read]
    unfold ofEntries?
    congr 1
    funext c part
    cases entries.lookup part.name <;> rfl
  have told := datum_sections (by decide) sections key
  rwa [if_pos (ConfigSection.mem_all key.part)] at told

/-! ## The environment -/

theorem datum_overrides (env : Environment) {keys : List ConfigKey} (distinct : keys.Nodup)
    (c : Config) (key : ConfigKey) :
    key.datum (keys.foldl (fun c key => (env key.envName).elim c fun text =>
      key.override text c) c) =
      if key ∈ keys then (key.fromEnvironment? env).getD (key.datum c) else key.datum c := by
  induction keys generalizing c with
  | nil => rfl
  | cons first keys ih =>
    obtain ⟨fresh, distinct⟩ := List.nodup_cons.mp distinct
    rw [List.foldl_cons, ih distinct]
    by_cases same : key = first
    · subst same
      rw [if_neg fresh, if_pos List.mem_cons_self]
      unfold ConfigKey.fromEnvironment?
      cases env key.envName with
      | none => rfl
      | some text =>
        rw [Option.elim_some, ConfigKey.datum_override, if_pos rfl]
        rfl
    · have other : key.datum ((env first.envName).elim c fun text => first.override text c) =
          key.datum c := by
        cases env first.envName with
        | none => rfl
        | some text => rw [Option.elim_some, ConfigKey.datum_override, if_neg same]
      rw [other]
      simp [same]

theorem datum_override (env : Environment) (c : Config) (key : ConfigKey) :
    key.datum (c.override env) = (key.fromEnvironment? env).getD (key.datum c) := by
  have overrides : c.override env = ConfigKey.all.foldl (fun c key =>
      (env key.envName).elim c fun text => key.override text c) c := by
    unfold override
    congr 1
    funext c key
    cases env key.envName <;> rfl
  rw [overrides, datum_overrides env ConfigKey.nodup_all, if_pos (ConfigKey.mem_all key)]

/-! ## Loading -/

/-- Every key obeys its rule. -/
def Obeys (c : Config) : Prop := ∀ key : ConfigKey, key.holds c = true

/-- The first key, in the order of the rules, whose rule is broken. -/
def FirstBroken (c : Config) (key : ConfigKey) : Prop :=
  ∃ before after, ConfigKey.all = before ++ key :: after ∧ key.holds c = false ∧
    ∀ earlier ∈ before, earlier.holds c = true

/-- The two outcomes of a validation: the configuration itself, or the first rule it breaks. -/
inductive Validated (c : Config) : Except Failure Config → Prop
  | obeys (all : c.Obeys) : Validated c (.ok c)
  | broken (key : ConfigKey) (first : c.FirstBroken key) :
      Validated c (.error (.config (.invalidValue key.field key.rule)))

theorem validated_checked (c : Config) : c.Validated c.checked := by
  unfold checked
  cases found : c.validate with
  | ok => exact .obeys ((validate_eq_ok_iff c).mp found)
  | error e =>
    unfold validate at found
    split at found
    case h_2 => cases found
    case h_1 key first =>
      cases found
      obtain ⟨broken, before, after, split, earlier⟩ := List.find?_eq_some_iff_append.mp first
      refine .broken key ⟨before, after, split, by simpa using broken, fun k member => ?_⟩
      simpa using earlier k member

theorem Validated.eq_ok {c : Config} {result : Except Failure Config}
    (validated : c.Validated result) (all : c.Obeys) : result = .ok c := by
  cases validated with
  | obeys => rfl
  | broken key first =>
    obtain ⟨-, -, -, broken, -⟩ := first
    rw [all key] at broken
    cases broken

theorem Validated.exists_of_broken {c : Config} {result : Except Failure Config}
    (validated : c.Validated result) (broken : ¬ c.Obeys) :
    ∃ key : ConfigKey, c.FirstBroken key ∧
      result = .error (.config (.invalidValue key.field key.rule)) := by
  cases validated with
  | obeys all => exact absurd all broken
  | broken key first => exact ⟨key, first, rfl⟩

theorem checked_of_obeys {c : Config} (all : c.Obeys) : c.checked = .ok c := by
  unfold checked
  rw [(validate_eq_ok_iff c).mpr all]

/-- No rule says that a file cannot be found. -/
theorem Validated.ne_fileNotFound {c : Config} {result : Except Failure Config}
    (validated : c.Validated result) (path : String) :
    result ≠ .error (.config (.fileNotFound path)) := by
  cases validated <;> nofun

section Load

variable {files : Files} {env : Environment} {path text : String}
  (readable : files path = .ok text)
include readable

theorem load_of_unreadable {e : ConfigError} (unreadable : parse text = .error e) :
    load files env path = .error (.config e) := by
  unfold load ofFile
  simp only [readable, unreadable]
  rfl

theorem load_of_obeys {file : Config} (read : parse text = .ok file) (all : file.Obeys) :
    load files env path = (file.override env).checked := by
  unfold load ofFile
  simp only [readable, read, checked_of_obeys all]
  rfl

theorem load_of_broken {file : Config} (read : parse text = .ok file) (broken : ¬ file.Obeys) :
    load files env path = file.checked := by
  obtain ⟨key, -, ended⟩ := file.validated_checked.exists_of_broken broken
  unfold load ofFile
  simp only [readable, read, ended]
  rfl

end Load

theorem obeys_default : default.Obeys := by
  intro key
  cases key <;> decide

theorem parse_empty : parse "" = .ok default := by cbv

theorem exists_entries_of_parse {text : String} {c : Config} (read : parse text = .ok c) :
    ∃ entries, Toml.parse text = some entries ∧ ofEntries? entries = some c := by
  unfold parse at read
  cases found : (Toml.parse text).bind ofEntries? with
  | none =>
    rw [found] at read
    cases read
  | some c' =>
    rw [found] at read
    cases read
    exact Option.bind_eq_some_iff.mp found

theorem datum_effective {entries : Toml.Entries} {file : Config}
    (read : ofEntries? entries = some file) (env : Environment) (key : ConfigKey) :
    key.datum (file.override env) = key.effective env entries := by
  have told := datum_ofEntries read key
  rw [datum_override]
  unfold ConfigKey.effective
  cases key.fromEnvironment? env with
  | some d => rfl
  | none =>
    cases given : key.written? entries with
    | none =>
      rw [given] at told
      exact Option.some.inj told
    | some v =>
      rw [given] at told
      change key.datum file = (key.ofValue? v).getD _
      rw [← show some (key.datum file) = key.ofValue? v from told]
      rfl

/-- A readable text is refused when it is no configuration. Otherwise the environment overrides
what it says, key by key, and that is loaded or refused by its first broken rule, provided the text
breaks no rule by itself: then it is refused by that one, whatever the environment says. What is
overridden does not matter between texts that obey the rules, and a missing file is as an empty
one. -/
theorem load_effective (env : Environment) :
    (∀ files path text, files path = .ok text →
      (∀ e, parse text = .error e → load files env path = .error (.config e)) ∧
      ∀ file, parse text = .ok file →
        (file.Obeys → (file.override env).Validated (load files env path)) ∧
        (¬ file.Obeys → file.Validated (load files env path)) ∧
        (∃ entries, Toml.parse text = some entries ∧
          ∀ key : ConfigKey, key.datum (file.override env) = key.effective env entries) ∧
        ∀ files' path' text' file', files' path' = .ok text' → parse text' = .ok file' →
          file.Obeys → file'.Obeys →
          (∀ key : ConfigKey, key.fromEnvironment? env = none →
            key.datum file = key.datum file') →
          load files env path = load files' env path') ∧
    (∀ text, ∃ parts : List (List Char), [','].intercalate parts = text.toList ∧
      (∀ part ∈ parts, ',' ∉ part) ∧
      Environment.items text =
        (parts.map fun cs => Text.trim (String.ofList cs)).filter fun item => !item.isEmpty) ∧
    ∀ files files' path path', files path = .error .notFound → files' path' = .ok "" →
      loadOrDefault files env path = loadOrDefault files' env path' := by
  refine ⟨?_, ?_, ?_⟩
  · intro files path text readable
    refine ⟨fun e unreadable => load_of_unreadable readable unreadable, ?_⟩
    intro file read
    refine ⟨?_, ?_, ?_, ?_⟩
    · intro all
      rw [load_of_obeys readable read all]
      exact validated_checked _
    · intro broken
      rw [load_of_broken readable read broken]
      exact validated_checked _
    · obtain ⟨entries, document, given⟩ := exists_entries_of_parse read
      exact ⟨entries, document, datum_effective given env⟩
    · intro files' path' text' file' readable' read' all all' same
      have equal : file.override env = file'.override env := by
        refine ConfigKey.eq_of_datum fun key => ?_
        rw [datum_override, datum_override]
        cases given : key.fromEnvironment? env with
        | none => exact same key given
        | some d => rfl
      rw [load_of_obeys readable read all, load_of_obeys readable' read' all', equal]
  · intro text
    obtain ⟨first, rest, split, joined, clean⟩ := Environment.parts_cases text.toList
    refine ⟨first :: rest, joined, clean, ?_⟩
    rw [← split]
    rfl
  · intro files files' path path' missing readable
    have absent : load files env path = .error (.config (.fileNotFound path)) := by
      unfold load ofFile
      simp only [missing]
      rfl
    have present : load files' env path' = (default.override env).checked :=
      load_of_obeys readable parse_empty obeys_default
    have validated := (default.override env).validated_checked
    unfold loadOrDefault
    rw [absent, present]
    dsimp only
    split
    case h_1 named => exact absurd named (validated.ne_fileNotFound _)
    case h_2 => rfl

/-- The default configuration with another length of the pages of a listing. -/
def listing (n : Nat) : Config := ConfigKey.listMaxResults.override (Text.natural n) default

theorem load_effective_overriddenValue :
    let env : Environment := fun name =>
      if name = "SAGESIM_SAGEMAKER_LIST_MAX_RESULTS" then some "5" else none
    let file (text : String) : Files := fun _ => .ok text
    let path := "sagesim.toml"
    load (file "[sagemaker]\nlist_max_results = 7") env path = .ok (listing 5) ∧
    load (file "sagemaker = [9]") env path =
      load (file "[sagemaker]\nlist_max_results = 7") env path ∧
    (listing 0).override env = listing 5 ∧ (listing 5).Obeys ∧
    load (file "[sagemaker]\nlist_max_results = 0") env path =
      .error (.config (.invalidValue "sagemaker.list_max_results" "must be 1-100")) ∧
    (∃ e, load (file "[sagemaker]\nlist_max_results = many") env path = .error (.config e)) ∧
    loadOrDefault (fun _ => .error .notFound) env path = loadOrDefault (file "") env path := by
  intro env file path
  obtain ⟨readable, -, missing⟩ := load_effective env
  have read (text : String) := readable (file text) path text rfl
  have overridden (n : Nat) (given : n = 0 ∨ n = 7) : (listing n).override env = listing 5 := by
    refine ConfigKey.eq_of_datum fun key => ?_
    rw [datum_override]
    obtain rfl | rfl := given <;> cases key <;> decide +kernel
  have obeys (n : Nat) (given : n = 5 ∨ n = 7 ∨ n = 9) : (listing n).Obeys := by
    intro key
    obtain rfl | rfl | rfl := given <;> cases key <;> decide +kernel
  have seven : parse "[sagemaker]\nlist_max_results = 7" = .ok (listing 7) := by cbv
  have nine : parse "sagemaker = [9]" = .ok (listing 9) := by cbv
  have zero : parse "[sagemaker]\nlist_max_results = 0" = .ok (listing 0) := by cbv
  obtain ⟨loaded, -, -, same⟩ := (read _).2 (listing 7) seven
  obtain ⟨-, refused, -⟩ := (read _).2 (listing 0) zero
  refine ⟨?_, ?_, overridden 0 (.inl rfl), obeys 5 (.inl rfl), ?_, ?_, ?_⟩
  · have validated := loaded (obeys 7 (.inr (.inl rfl)))
    rw [overridden 7 (.inr rfl)] at validated
    exact validated.eq_ok (obeys 5 (.inl rfl))
  · refine (same (file _) path _ (listing 9) rfl nine (obeys 7 (.inr (.inl rfl)))
      (obeys 9 (.inr (.inr rfl))) fun key unset => ?_).symm
    cases key
    case listMaxResults => exact absurd unset (by decide +kernel)
    all_goals rfl
  · have broken : ¬ (listing 0).Obeys := fun all =>
      absurd (all .listMaxResults) (by decide +kernel)
    obtain ⟨key, first, ended⟩ := (refused broken).exists_of_broken broken
    obtain ⟨-, -, -, wrong, -⟩ := first
    rw [ended]
    cases key
    case listMaxResults => rfl
    all_goals exact absurd wrong (by decide +kernel)
  · exact ⟨_, (read _).1 (.unreadable _) (by cbv)⟩
  · exact missing _ _ path path rfl rfl

end Config
end NotebookSim
