import TopicLifecycle.Proofs.Decode
import TopicLifecycle.Settings.Serialize

/-!
Reading written settings back: the document of any settings reads as those settings, and a list
of topic names reads back as it was written.
-/

namespace TopicLifecycle.Settings

open Json Decode

attribute [ext] TlsSettings SaslSettings ClientSettings

/-! ### Written members -/

theorem mem_optionalMember {key name : String} {value : Option String} {item : Value} :
    (name, item) ∈ optionalMember key value ↔
      name = key ∧ ∃ text, value = some text ∧ item = .string text := by
  cases value <;> simp [optionalMember, and_comm]

theorem map_canonical_of_fixed {members : List (String × Value)}
    (fixed : ∀ member ∈ members, member.2.canonical = member.2) :
    members.map (fun member => (member.1, member.2.canonical)) = members := by
  conv_rhs => rw [← List.map_id members]
  exact List.map_congr_left fun member inMembers => by rw [fixed member inMembers]; rfl

/-! ### TLS settings -/

namespace TlsSettings

theorem mem_members {tls : TlsSettings} {key : String} {item : Value} :
    (key, item) ∈ tls.members ↔
      (key = "ca_cert_path" ∧ ∃ path, tls.caCertPath = some path ∧ item = .string path) ∨
      (key = "cert_path" ∧ ∃ path, tls.certPath = some path ∧ item = .string path) ∨
      (key = "key_path" ∧ ∃ path, tls.keyPath = some path ∧ item = .string path) ∨
      (key = "insecure_skip_verify" ∧ item = .bool tls.insecureSkipVerify) := by
  simp [members, mem_optionalMember]

theorem written_members (tls : TlsSettings) : Written tlsShape tls.members where
  named key item member := by
    rcases mem_members.mp member with ⟨rfl, -⟩ | ⟨rfl, -⟩ | ⟨rfl, -⟩ | ⟨rfl, -⟩
    · exact ⟨0, rfl, rfl⟩
    · exact ⟨1, rfl, rfl⟩
    · exact ⟨2, rfl, rfl⟩
    · exact ⟨3, rfl, rfl⟩
  keys_nodup := by
    obtain ⟨caCertPath, certPath, keyPath, insecureSkipVerify⟩ := tls
    cases caCertPath <;> cases certPath <;> cases keyPath <;> simp [members, optionalMember]

theorem canonical_toDocument (tls : TlsSettings) :
    tls.toDocument.canonical = .object (Value.keyedMembers tls.members) := by
  rw [toDocument, Value.canonical_object, map_canonical_of_fixed]
  rintro ⟨key, item⟩ member
  rcases mem_members.mp member with ⟨-, _, -, rfl⟩ | ⟨-, _, -, rfl⟩ | ⟨-, _, -, rfl⟩ | ⟨-, rfl⟩ <;>
    simp

end TlsSettings

theorem decodeTls_toDocument (tls : TlsSettings) :
    decodeTls .document tls.toDocument.canonical = .ok tls := by
  have written := TlsSettings.written_members tls
  have decodes : ∀ key item index, (key, item) ∈ tls.members → tlsShape.fieldIndex? key = some index →
      ∃ update, tlsField .document index item = .ok update := by
    intro key item index member found
    have below : index < 4 := fieldIndex?_lt found
    have member := written.name_eq member found ▸ member
    rcases index with _ | _ | _ | _ | index
    all_goals simp [tlsShape, RecordShape.fieldName, TlsSettings.mem_members] at member
    all_goals first | omega | (obtain ⟨_, -, rfl⟩ := member; exact ⟨_, rfl⟩)
  rw [TlsSettings.canonical_toDocument, decodeTls, decodeRecord_object]
  obtain ⟨result, decoded⟩ : ∃ result, decodeMembers .document tlsShape (tlsField .document) {} []
      (Value.keyedMembers tls.members) = .ok result :=
    decodeMembers_written written decodes (fun _ _ => rfl) {}
  have fields := tlsFieldsFrom decoded
  have caCertPath : result.caCertPath = tls.caCertPath :=
    fields.caCertPath.eq_of_optional .string written rfl
      (fun item => by simp [tlsShape, RecordShape.fieldName, TlsSettings.mem_members]) (fun _ => rfl)
  have certPath : result.certPath = tls.certPath :=
    fields.certPath.eq_of_optional .string written rfl
      (fun item => by simp [tlsShape, RecordShape.fieldName, TlsSettings.mem_members]) (fun _ => rfl)
  have keyPath : result.keyPath = tls.keyPath :=
    fields.keyPath.eq_of_optional .string written rfl
      (fun item => by simp [tlsShape, RecordShape.fieldName, TlsSettings.mem_members]) (fun _ => rfl)
  have insecureSkipVerify : result.insecureSkipVerify = tls.insecureSkipVerify :=
    fields.insecureSkipVerify.eq_of_member
      ((Value.mem_keyedMembers written.keys_nodup).mpr
        (TlsSettings.mem_members.mpr (.inr (.inr (.inr ⟨rfl, rfl⟩))))) rfl rfl
  rw [decoded]
  exact congrArg Except.ok (TlsSettings.ext caCertPath certPath keyPath insecureSkipVerify)

/-! ### SASL settings -/

theorem Mechanism.ofName?_name (mechanism : Mechanism) :
    Mechanism.ofName? mechanism.name = some mechanism := by
  cases mechanism <;> rfl

namespace SaslSettings

theorem mem_members {sasl : SaslSettings} {key : String} {item : Value} :
    (key, item) ∈ sasl.members ↔
      (key = "mechanism" ∧ item = .string sasl.mechanism.name) ∨
      (key = "username" ∧ item = .string sasl.username) ∨
      (key = "password" ∧ item = .string sasl.password) := by
  simp [members]

theorem written_members (sasl : SaslSettings) : Written saslShape sasl.members where
  named key item member := by
    rcases mem_members.mp member with ⟨rfl, -⟩ | ⟨rfl, -⟩ | ⟨rfl, -⟩
    · exact ⟨0, rfl, rfl⟩
    · exact ⟨1, rfl, rfl⟩
    · exact ⟨2, rfl, rfl⟩
  keys_nodup := by simp [members]

theorem canonical_toDocument (sasl : SaslSettings) :
    sasl.toDocument.canonical = .object (Value.keyedMembers sasl.members) := by
  rw [toDocument, Value.canonical_object, map_canonical_of_fixed]
  rintro ⟨key, item⟩ member
  rcases mem_members.mp member with ⟨-, rfl⟩ | ⟨-, rfl⟩ | ⟨-, rfl⟩ <;> simp

end SaslSettings

theorem decodeSasl_toDocument (sasl : SaslSettings) :
    decodeSasl .document sasl.toDocument.canonical = .ok sasl := by
  have written := SaslSettings.written_members sasl
  have keyed : ∀ {key item}, (key, item) ∈ Value.keyedMembers sasl.members ↔ (key, item) ∈ sasl.members :=
    Value.mem_keyedMembers written.keys_nodup
  have mechanism : decodeMechanism .document (.string sasl.mechanism.name) = .ok sasl.mechanism := by
    simp [decodeMechanism, mechanismVariant, Mechanism.ofName?_name]
  have decodes : ∀ key item index, (key, item) ∈ sasl.members → saslShape.fieldIndex? key = some index →
      ∃ update, saslField .document index item = .ok update := by
    intro key item index member found
    rcases SaslSettings.mem_members.mp member with ⟨rfl, rfl⟩ | ⟨rfl, rfl⟩ | ⟨rfl, rfl⟩ <;>
      cases found
    · exact ⟨_, by rw [saslField, setWith, mechanism]; rfl⟩
    · exact ⟨_, rfl⟩
    · exact ⟨_, rfl⟩
  have complete : ∀ read : List Nat, (∀ key item index, (key, item) ∈ sasl.members →
      saslShape.fieldIndex? key = some index → index ∈ read) → saslShape.firstMissing? read = none := by
    intro read named
    have username := named _ _ 1 (SaslSettings.mem_members.mpr (.inr (.inl ⟨rfl, rfl⟩))) rfl
    have password := named _ _ 2 (SaslSettings.mem_members.mpr (.inr (.inr ⟨rfl, rfl⟩))) rfl
    simp [RecordShape.firstMissing?, saslShape, firstMissingFrom, username, password]
  rw [SaslSettings.canonical_toDocument, decodeSasl, decodeRecord_object]
  obtain ⟨result, decoded⟩ : ∃ result, decodeMembers .document saslShape (saslField .document)
      { username := "", password := "" } [] (Value.keyedMembers sasl.members) = .ok result :=
    decodeMembers_written written decodes complete _
  have fields := saslFieldsFrom decoded
  have mechanismEq : result.mechanism = sasl.mechanism :=
    fields.mechanism.eq_of_member (keyed.mpr (SaslSettings.mem_members.mpr (.inl ⟨rfl, rfl⟩))) rfl
      mechanism
  have username : result.username = sasl.username :=
    fields.username.eq_of_member
      (keyed.mpr (SaslSettings.mem_members.mpr (.inr (.inl ⟨rfl, rfl⟩)))) rfl rfl
  have password : result.password = sasl.password :=
    fields.password.eq_of_member
      (keyed.mpr (SaslSettings.mem_members.mpr (.inr (.inr ⟨rfl, rfl⟩)))) rfl rfl
  rw [decoded]
  exact congrArg Except.ok (SaslSettings.ext mechanismEq username password)

/-! ### Properties -/

theorem Properties.insertEntry_of_above {key : String} (value : String)
    {entries : List (String × String)} (above : ∀ entry ∈ entries, entry.1 < key) :
    Properties.insertEntry key value entries = entries ++ [(key, value)] := by
  induction entries with
  | nil => rfl
  | cons entry rest ih =>
    obtain ⟨existing, old⟩ := entry
    have below : existing < key := above _ List.mem_cons_self
    rw [Properties.insertEntry, if_neg (lt_asymm below), if_neg (ne_of_gt below),
      ih fun entry member => above entry (List.mem_cons_of_mem _ member)]
    rfl

theorem foldlM_inserts {f : Properties → String × Value → Except DecodeError Properties}
    (step : ∀ properties key value,
      f properties (key, .string value) = .ok (properties.insert key value))
    (rest : List (String × String)) :
    ∀ (start : Properties)
      (ascending : (start.entries ++ rest).Pairwise fun first second => first.1 < second.1),
      (rest.map fun entry => (entry.1, Value.string entry.2)).foldlM f start =
        .ok ⟨start.entries ++ rest, ascending⟩ := by
  induction rest with
  | nil => intro start _; simp only [List.map_nil, List.foldlM_nil, List.append_nil]; rfl
  | cons entry rest ih =>
    intro start ascending
    obtain ⟨key, value⟩ := entry
    -- every entry folded in so far has a smaller key, so the next one goes last
    have above : ∀ entry ∈ start.entries, entry.1 < key := fun entry member =>
      (List.pairwise_append.mp ascending).2.2 entry member _ List.mem_cons_self
    have appended : Properties.insertEntry key value start.entries = start.entries ++ [(key, value)] :=
      Properties.insertEntry_of_above value above
    have shifted :
        ((start.insert key value).entries ++ rest).Pairwise fun first second => first.1 < second.1 := by
      simpa [appended] using ascending
    rw [List.map_cons, List.foldlM_cons, step]
    exact (ih _ shifted).trans (congrArg Except.ok (Properties.ext (by simp [appended])))

theorem canonical_propertiesDocument (properties : Properties) :
    (propertiesDocument properties).canonical = propertiesDocument properties := by
  rw [propertiesDocument, Value.canonical_object, map_canonical_of_fixed]
  · exact congrArg Value.object
      (Value.keyedMembers_of_ascending (List.pairwise_map.mpr properties.ascending))
  · intro member inMembers
    obtain ⟨entry, -, rfl⟩ := List.mem_map.mp inMembers
    simp

theorem decodeProperties_propertiesDocument (source : Source) (properties : Properties) :
    decodeProperties source (propertiesDocument properties) = .ok properties :=
  foldlM_inserts (fun _ _ _ => rfl) properties.entries .empty properties.ascending

/-! ### Client settings -/

theorem decodeOptional_object {α : Type} (decode : Value → Except DecodeError α)
    (members : List (String × Value)) :
    decodeOptional decode (.object members) = (decode (.object members)).map some :=
  rfl

namespace ClientSettings

theorem mem_members {settings : ClientSettings} {key : String} {item : Value} :
    (key, item) ∈ settings.members ↔
      (key = "bootstrap_servers" ∧ item = .string settings.bootstrapServers) ∨
      (key = "client_id" ∧ ∃ clientId, settings.clientId = some clientId ∧ item = .string clientId) ∨
      (key = "plaintext" ∧ item = .bool settings.plaintext) ∨
      (key = "tls" ∧ ∃ tls, settings.tls = some tls ∧ item = tls.toDocument) ∨
      (key = "sasl" ∧ ∃ sasl, settings.sasl = some sasl ∧ item = sasl.toDocument) ∨
      (key = "properties" ∧ settings.properties.entries ≠ [] ∧
        item = propertiesDocument settings.properties) := by
  obtain ⟨_, _, _, tls, sasl, ⟨properties, _⟩⟩ := settings
  cases tls <;> cases sasl <;> cases properties <;> simp [members, mem_optionalMember]

theorem written_members (settings : ClientSettings) : Written clientShape settings.members where
  named key item member := by
    rcases mem_members.mp member with
      ⟨rfl, -⟩ | ⟨rfl, -⟩ | ⟨rfl, -⟩ | ⟨rfl, -⟩ | ⟨rfl, -⟩ | ⟨rfl, -⟩
    · exact ⟨0, rfl, rfl⟩
    · exact ⟨1, rfl, rfl⟩
    · exact ⟨2, rfl, rfl⟩
    · exact ⟨3, rfl, rfl⟩
    · exact ⟨4, rfl, rfl⟩
    · exact ⟨5, rfl, rfl⟩
  keys_nodup := by
    obtain ⟨_, clientId, _, tls, sasl, ⟨properties, _⟩⟩ := settings
    cases clientId <;> cases tls <;> cases sasl <;> cases properties <;>
      simp [members, optionalMember]

end ClientSettings

theorem mem_map_canonical {members : List (String × Value)} {key : String} {item : Value} :
    (key, item) ∈ members.map (fun member => (member.1, member.2.canonical)) ↔
      ∃ raw, (key, raw) ∈ members ∧ item = raw.canonical := by
  simp [eq_comm]

theorem decodeOptional_tls (tls : TlsSettings) :
    decodeOptional (decodeTls .document) tls.toDocument.canonical = .ok (some tls) := by
  rw [TlsSettings.canonical_toDocument, decodeOptional_object, ← TlsSettings.canonical_toDocument,
    decodeTls_toDocument]
  rfl

theorem decodeOptional_sasl (sasl : SaslSettings) :
    decodeOptional (decodeSasl .document) sasl.toDocument.canonical = .ok (some sasl) := by
  rw [SaslSettings.canonical_toDocument, decodeOptional_object, ← SaslSettings.canonical_toDocument,
    decodeSasl_toDocument]
  rfl

theorem ClientSettings.canonical_member_decodes {settings : ClientSettings} {key : String} {item : Value} {index : Nat}
    (member : (key, item) ∈ settings.members.map fun member => (member.1, member.2.canonical))
    (found : clientShape.fieldIndex? key = some index) :
    ∃ update, clientField .document index item = .ok update := by
  obtain ⟨raw, inMembers, rfl⟩ := mem_map_canonical.mp member
  rcases ClientSettings.mem_members.mp inMembers with
    ⟨rfl, rfl⟩ | ⟨rfl, _, -, rfl⟩ | ⟨rfl, rfl⟩ | ⟨rfl, tls, -, rfl⟩ | ⟨rfl, sasl, -, rfl⟩ |
      ⟨rfl, -, rfl⟩ <;> obtain rfl := Option.some.inj found
  · exact ⟨_, by rw [Value.canonical_string]; rfl⟩
  · exact ⟨_, by rw [Value.canonical_string]; rfl⟩
  · exact ⟨_, by rw [Value.canonical_bool]; rfl⟩
  · exact ⟨_, by rw [clientField, setWith, decodeOptional_tls]; rfl⟩
  · exact ⟨_, by rw [clientField, setWith, decodeOptional_sasl]; rfl⟩
  · exact ⟨_, by
      simp only [clientField, setWith, canonical_propertiesDocument,
        decodeProperties_propertiesDocument .document]
      rfl⟩

theorem decodeClient_toDocument (settings : ClientSettings) :
    decodeClient .document settings.toDocument.canonical = .ok settings := by
  have written := (ClientSettings.written_members settings).map_canonical
  have canonical : ∀ {key item}, (key, item) ∈ Value.keyedMembers
      (settings.members.map fun member => (member.1, member.2.canonical)) ↔
        ∃ raw, (key, raw) ∈ settings.members ∧ item = raw.canonical :=
    (Value.mem_keyedMembers written.keys_nodup).trans mem_map_canonical
  rw [ClientSettings.toDocument, Value.canonical_object, decodeClient, decodeRecord_object]
  obtain ⟨result, decoded⟩ : ∃ result, decodeMembers .document clientShape (clientField .document) {} []
      (Value.keyedMembers (settings.members.map fun member => (member.1, member.2.canonical))) =
        .ok result :=
    decodeMembers_written written
      (fun _ _ _ member found => ClientSettings.canonical_member_decodes member found)
      (fun _ _ => rfl) {}
  have fields := clientFieldsFrom decoded
  have bootstrapServers : result.bootstrapServers = settings.bootstrapServers :=
    fields.bootstrapServers.eq_of_member
      (canonical.mpr ⟨_, ClientSettings.mem_members.mpr (.inl ⟨rfl, rfl⟩),
        (Value.canonical_string _).symm⟩) rfl rfl
  have clientId : result.clientId = settings.clientId :=
    fields.clientId.eq_of_optional .string written rfl
      (fun item => by
        simp [clientShape, RecordShape.fieldName, mem_map_canonical, ClientSettings.mem_members])
      (fun _ => rfl)
  have plaintext : result.plaintext = settings.plaintext :=
    fields.plaintext.eq_of_member
      (canonical.mpr ⟨_, ClientSettings.mem_members.mpr (.inr (.inr (.inl ⟨rfl, rfl⟩))),
        (Value.canonical_bool _).symm⟩) rfl rfl
  have tls : result.tls = settings.tls :=
    fields.tls.eq_of_optional (fun tls => tls.toDocument.canonical) written rfl
      (fun item => by
        simp [clientShape, RecordShape.fieldName, mem_map_canonical, ClientSettings.mem_members])
      decodeOptional_tls
  have sasl : result.sasl = settings.sasl :=
    fields.sasl.eq_of_optional (fun sasl => sasl.toDocument.canonical) written rfl
      (fun item => by
        simp [clientShape, RecordShape.fieldName, mem_map_canonical, ClientSettings.mem_members])
      decodeOptional_sasl
  have properties : result.properties = settings.properties := by
    by_cases empty : settings.properties.entries = []
    · have emptied : settings.properties = .empty := Properties.ext empty
      rw [emptied]
      refine fields.properties.eq_of_unnamed fun key item member named => ?_
      obtain ⟨raw, inMembers, -⟩ := canonical.mp member
      rcases ClientSettings.mem_members.mp inMembers with
        ⟨rfl, -⟩ | ⟨rfl, -⟩ | ⟨rfl, -⟩ | ⟨rfl, -⟩ | ⟨rfl, -⟩ | ⟨rfl, nonempty, -⟩
      all_goals first | exact nonempty empty | cases named
    · exact fields.properties.eq_of_member
        (canonical.mpr ⟨_, ClientSettings.mem_members.mpr (.inr (.inr (.inr (.inr (.inr
          ⟨rfl, empty, rfl⟩))))), (canonical_propertiesDocument _).symm⟩) rfl
        (decodeProperties_propertiesDocument .document _)
  rw [decoded]
  exact congrArg Except.ok (ClientSettings.ext bootstrapServers clientId plaintext tls sasl properties)

/-! ### Topics -/

theorem topicsOfDocument_topicsDocument (topics : List String) :
    topicsOfDocument (topicsDocument topics) = .ok topics := by
  induction topics with
  | nil => rfl
  | cons topic rest ih =>
    simp only [topicsDocument, topicsOfDocument] at ih ⊢
    rw [List.map_cons, List.mapM_cons, ih]
    rfl

/-! ### Round trips -/

/-- Writing client settings as a JSON document and reading the document back gives the same
settings, and a list of topics is written as the array of their names and read back as it was. -/
theorem document_round_trip :
    (∀ settings : ClientSettings, clientOfDocument settings.toDocument = .ok settings) ∧
    ∀ topics : List String, topicsDocument topics = .array (topics.map .string) ∧
      topicsOfDocument (topicsDocument topics) = .ok topics :=
  ⟨decodeClient_toDocument, fun topics => ⟨rfl, topicsOfDocument_topicsDocument topics⟩⟩

end TopicLifecycle.Settings
