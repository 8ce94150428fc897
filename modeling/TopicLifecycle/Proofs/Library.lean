import TopicLifecycle.Proofs.Properties
import TopicLifecycle.Settings.Library

/-!
The keys client settings set in the client library's configuration.
-/

namespace TopicLifecycle.Settings

def presentEntries (table : List (String × Option String)) : List (String × String) :=
  table.filterMap fun entry => entry.2.map fun value => (entry.1, value)

def tableValue (table : List (String × Option String)) (key : String) : Option String :=
  (table.find? fun entry => entry.1 = key).bind Prod.snd

theorem presentEntries_cons (key : String) (value : Option String)
    (rest : List (String × Option String)) :
    presentEntries ((key, value) :: rest) =
      (value.map fun given => (key, given)).toList ++ presentEntries rest := by
  cases value <;> rfl

theorem mem_presentEntries_keys {table : List (String × Option String)} {key : String}
    (member : key ∈ (presentEntries table).map Prod.fst) : key ∈ table.map Prod.fst := by
  obtain ⟨⟨name, value⟩, present, rfl⟩ := List.mem_map.mp member
  obtain ⟨⟨row, given⟩, inTable, written⟩ := List.mem_filterMap.mp present
  obtain ⟨_, -, same⟩ := Option.map_eq_some_iff.mp written
  cases same
  exact List.mem_map_of_mem inTable

theorem presentEntries_keys_nodup {table : List (String × Option String)}
    (distinct : (table.map Prod.fst).Nodup) : ((presentEntries table).map Prod.fst).Nodup := by
  induction table with
  | nil => exact List.nodup_nil
  | cons row rest ih =>
    obtain ⟨key, value⟩ := row
    rw [List.map_cons, List.nodup_cons] at distinct
    rw [presentEntries_cons]
    cases value with
    | none => exact ih distinct.2
    | some value =>
      exact List.nodup_cons.mpr ⟨fun again => distinct.1 (mem_presentEntries_keys again), ih distinct.2⟩

theorem get?_presentEntries {table : List (String × Option String)}
    (distinct : (table.map Prod.fst).Nodup) (key : String) :
    Properties.lookup (presentEntries table) key = tableValue table key := by
  induction table with
  | nil => rfl
  | cons row rest ih =>
    obtain ⟨name, value⟩ := row
    rw [List.map_cons, List.nodup_cons] at distinct
    rw [presentEntries_cons, Properties.lookup_append, ih distinct.2]
    by_cases named : name = key
    · subst named
      have absent : tableValue rest name = none := by
        rw [tableValue, List.find?_eq_none.mpr fun row member same =>
          distinct.1 (List.mem_map.mpr ⟨row, member, of_decide_eq_true same⟩)]
        rfl
      rw [absent]
      cases value <;> simp [tableValue, Properties.lookup_cons, Properties.lookup_nil]
    · have later : tableValue ((name, value) :: rest) key = tableValue rest key := by
        simp [tableValue, named]
      rw [later]
      cases value <;> simp [Properties.lookup_cons, Properties.lookup_nil, named]

namespace ClientSettings

def fixedTable (settings : ClientSettings) : List (String × Option String) :=
  let insecure := settings.tls.any fun tls => tls.insecureSkipVerify
  [("bootstrap.servers", some (",".intercalate settings.brokers)),
    ("security.protocol", some settings.securityProtocol),
    ("client.id", settings.clientId),
    ("sasl.mechanism", settings.sasl.map fun sasl => sasl.mechanism.name),
    ("sasl.username", settings.sasl.map fun sasl => sasl.username),
    ("sasl.password", settings.sasl.map fun sasl => sasl.password),
    ("ssl.ca.location", settings.tls.bind fun tls => tls.caCertPath),
    ("ssl.certificate.location", settings.tls.bind fun tls => tls.certPath),
    ("ssl.key.location", settings.tls.bind fun tls => tls.keyPath),
    ("enable.ssl.certificate.verification", if insecure then some "false" else none),
    ("ssl.endpoint.identification.algorithm", if insecure then some "none" else none)]

variable (settings : ClientSettings)

theorem fixedTable_keys_nodup : (settings.fixedTable.map Prod.fst).Nodup := by
  simp [fixedTable]

theorem fixedEntries_eq : settings.fixedEntries = presentEntries settings.fixedTable := by
  obtain ⟨bootstrapServers, clientId, plaintext, tls, sasl, properties⟩ := settings
  rcases tls with _ | ⟨caCertPath, certPath, keyPath, insecure⟩
  · cases clientId <;> cases sasl <;> rfl
  · cases clientId <;> cases sasl <;> cases caCertPath <;> cases certPath <;> cases keyPath <;>
      cases insecure <;> rfl

theorem libraryConfig_eq :
    settings.libraryConfig = Properties.ofList (settings.fixedEntries ++ dottedEntries settings.properties) :=
  rfl

/-- A key of the configuration has the value of the last property spelled as it, or else its
fixed value. -/
theorem get?_libraryConfig (key : String) :
    settings.libraryConfig.get? key =
      (Properties.lookup (dottedEntries settings.properties).reverse key).or
        (tableValue settings.fixedTable key) := by
  have fixedDistinct := presentEntries_keys_nodup (fixedTable_keys_nodup settings)
  rw [libraryConfig_eq, Properties.get?_ofList, List.reverse_append, Properties.lookup_append,
    fixedEntries_eq, Properties.lookup_reverse fixedDistinct,
    get?_presentEntries (fixedTable_keys_nodup settings)]

theorem get?_libraryConfig_fixed {key : String}
    (unset : ∀ entry ∈ settings.properties, dotted entry.1 ≠ key) :
    settings.libraryConfig.get? key = tableValue settings.fixedTable key := by
  have absent : Properties.lookup (dottedEntries settings.properties).reverse key = none := by
    refine Properties.lookup_eq_none_of_absent fun entry member => ?_
    obtain ⟨original, inProperties, rfl⟩ := List.mem_map.mp (List.mem_reverse.mp member)
    exact unset original inProperties
  rw [get?_libraryConfig, absent, Option.none_or]

variable {settings} in
theorem get?_libraryConfig_property
    (distinct : (settings.properties.entries.map fun entry => dotted entry.1).Nodup) {key value : String}
    (member : (key, value) ∈ settings.properties) :
    settings.libraryConfig.get? (dotted key) = some value := by
  have distinctEntries : ((dottedEntries settings.properties).map Prod.fst).Nodup :=
    dottedEntries_keys settings ▸ distinct
  have respelled : Properties.lookup (dottedEntries settings.properties) (dotted key) = some value :=
    (Properties.lookup_eq_some_iff distinctEntries).mpr (mem_dottedEntries.mpr ⟨key, member, rfl⟩)
  rw [get?_libraryConfig, Properties.lookup_reverse distinctEntries, respelled, Option.some_or]

theorem libraryConfig_translate : settings.translate.libraryConfig = settings.libraryConfig := by
  refine Properties.eq_of_get? fun key => ?_
  have table : settings.translate.fixedTable = settings.fixedTable := rfl
  have translated : dottedEntries settings.translate.properties = settings.translate.properties.entries :=
    dottedEntries_of_dotted (translate_keys_dotted settings)
  have readBack : Properties.lookup settings.translate.properties.entries key =
      Properties.lookup (dottedEntries settings.properties).reverse key :=
    Properties.get?_ofList _ key
  rw [get?_libraryConfig, get?_libraryConfig, table, translated,
    Properties.lookup_reverse settings.translate.properties.keys_nodup, readBack]

/-- The keys client settings set in the client library's configuration. A key no property is
spelled as has the value of the fixed table (the brokers joined with commas, the security
protocol, the client id, the SASL mechanism and credentials, the TLS paths that are set, and the
keys that turn verification off), and is unset when the table gives it none; when no two
properties share a spelling with dots, every property has its value under its spelling, over a
fixed key of that name. Translated settings configure the library alike. -/
theorem libraryConfig_keys :
    (∀ key, (∀ entry ∈ settings.properties, dotted entry.1 ≠ key) →
      settings.libraryConfig.get? key = tableValue settings.fixedTable key) ∧
    ((settings.properties.entries.map fun entry => dotted entry.1).Nodup →
      ∀ key value, (key, value) ∈ settings.properties →
        settings.libraryConfig.get? (dotted key) = some value) ∧
    settings.translate.libraryConfig = settings.libraryConfig :=
  ⟨fun _ unset => get?_libraryConfig_fixed settings unset,
    fun distinct _ _ member => get?_libraryConfig_property distinct member,
    libraryConfig_translate settings⟩

end ClientSettings

end TopicLifecycle.Settings
