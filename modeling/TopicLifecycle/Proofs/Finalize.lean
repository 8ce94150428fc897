import TopicLifecycle.Proofs.BrokerList
import TopicLifecycle.Settings.Finalize
import TopicLifecycle.Manager.Session

/-!
What finalizing client settings gives: the invariant `Finalized` of the settings it returns, and
idempotence.
-/

namespace TopicLifecycle.Settings

/-! ### The SASL section of the lookup -/

theorem lookedUpSasl_of_none {lookup : Lookup} (unset : lookup.effective usernameVariable = none) :
    lookedUpSasl lookup = (none, []) := by
  simp [lookedUpSasl, unset]

theorem lookedUpSasl_fst_eq_none_iff {lookup : Lookup} :
    (lookedUpSasl lookup).1 = none ↔ lookup.effective usernameVariable = none := by
  unfold lookedUpSasl
  split <;> simp_all

namespace ClientSettings

def foundIssues (lookup : Lookup) (settings : ClientSettings) : List Issue :=
  finalIssues (settings.finalBrokers lookup) (settings.finalSasl lookup).2
    (settings.finalSasl lookup).1 (settings.plaintext && settings.tls.isSome)
    (settings.finalTransport lookup).2.2 (settings.finalTransport lookup).2.1

def finalSettings (lookup : Lookup) (settings : ClientSettings) : ClientSettings :=
  { settings with
    bootstrapServers := ",".intercalate (settings.finalBrokers lookup)
    sasl := (settings.finalSasl lookup).1
    plaintext := (settings.finalTransport lookup).1
    tls := (settings.finalTransport lookup).2.1 }

theorem finalizeWith_eq (lookup : Lookup) (settings : ClientSettings) :
    settings.finalizeWith lookup =
      if (settings.foundIssues lookup).isEmpty then .ok (settings.finalSettings lookup)
      else .error (settings.foundIssues lookup) := by
  unfold finalizeWith
  rfl

variable {lookup : Lookup} {settings : ClientSettings}

theorem finalizeWith_eq_ok_iff {final : ClientSettings} :
    settings.finalizeWith lookup = .ok final ↔
      settings.foundIssues lookup = [] ∧ settings.finalSettings lookup = final := by
  rw [finalizeWith_eq]
  split
  · next noIssues => simp_all [List.isEmpty_iff]
  · next someIssues =>
    simp only [reduceCtorEq, false_iff, not_and]
    intro noIssues
    simp_all

theorem finalizeWith_eq_error_iff {issues : List Issue} :
    settings.finalizeWith lookup = .error issues ↔
      settings.foundIssues lookup = issues ∧ issues ≠ [] := by
  rw [finalizeWith_eq]
  split
  · next noIssues =>
    simp only [reduceCtorEq, false_iff, not_and, Decidable.not_not]
    rintro rfl
    simpa [List.isEmpty_iff] using noIssues
  · next someIssues =>
    simp only [Except.error.injEq]
    constructor
    · rintro rfl
      simpa [List.isEmpty_iff] using someIssues
    · exact fun found => found.1

theorem finalIssues_eq_nil_iff {brokers : List String} {saslIssues : List Issue}
    {sasl : Option SaslSettings} {explicitBoth : Bool} {transportIssues : List Issue}
    {tls : Option TlsSettings} :
    finalIssues brokers saslIssues sasl explicitBoth transportIssues tls = [] ↔
      brokers ≠ [] ∧ saslIssues = [] ∧
      (∀ given ∈ sasl, given.username ≠ "" ∧ given.password ≠ "") ∧
      transportIssues = [] ∧ explicitBoth = false ∧
      (∀ given ∈ tls, (given.certPath.isSome ↔ given.keyPath.isSome)) := by
  cases sasl <;> cases tls <;>
    simp [finalIssues, List.append_eq_nil_iff, List.isEmpty_iff, String.isEmpty_iff, and_assoc]

/-! ### The brokers -/

theorem finalBrokers_of_ne_nil (named : settings.brokers ≠ []) :
    settings.finalBrokers lookup = settings.brokers := by
  unfold finalBrokers
  split
  · next none => exact absurd none named
  · rfl

theorem finalBrokers_of_nil (none : settings.brokers = []) :
    settings.finalBrokers lookup = (lookup.effective brokersVariable).elim [] brokerList := by
  unfold finalBrokers
  rw [none]
  cases lookup.effective brokersVariable <;> rfl

theorem brokerEntry_of_mem_finalBrokers {entry : String}
    (member : entry ∈ settings.finalBrokers lookup) : BrokerEntry entry := by
  by_cases none : settings.brokers = []
  · rw [finalBrokers_of_nil none] at member
    cases looked : lookup.effective brokersVariable with
    | none => simp [looked] at member
    | some text =>
      rw [looked] at member
      exact brokerEntry_of_mem_brokerList member
  · rw [finalBrokers_of_ne_nil none] at member
    exact brokerEntry_of_mem_brokerList member

/-! ### The SASL section -/

theorem finalSasl_of_some {given : SaslSettings} (present : settings.sasl = some given) :
    settings.finalSasl lookup = (some given, []) := by
  simp [finalSasl, present]

theorem finalSasl_of_none (absent : settings.sasl = none) :
    settings.finalSasl lookup = lookedUpSasl lookup := by
  simp [finalSasl, absent]

theorem finalSasl_fst_eq_none_iff :
    (settings.finalSasl lookup).1 = none ↔
      settings.sasl = none ∧ lookup.effective usernameVariable = none := by
  cases present : settings.sasl with
  | some given => simp [finalSasl_of_some present]
  | none => simp [finalSasl_of_none present, lookedUpSasl_fst_eq_none_iff]

/-! ### Plaintext and the TLS section -/

theorem finalTransport_of_set (set : (settings.plaintext || settings.tls.isSome) = true) :
    settings.finalTransport lookup = (settings.plaintext, settings.tls, []) := by
  unfold finalTransport
  rw [if_neg]
  cases plain : settings.plaintext <;> cases given : settings.tls <;> simp_all

theorem finalTransport_of_unset (notPlain : settings.plaintext = false)
    (noTls : settings.tls = none) :
    settings.finalTransport lookup =
      if (readFlag lookup plaintextVariable).1 then
        (true, none, (readFlag lookup plaintextVariable).2)
      else
        (false, some (lookedUpTls lookup).1,
          (readFlag lookup plaintextVariable).2 ++ (lookedUpTls lookup).2) := by
  unfold finalTransport
  rw [if_pos (by simp [notPlain, noTls])]

theorem finalTransport_plaintext_iff
    (notBoth : (settings.plaintext && settings.tls.isSome) = false) :
    (settings.finalTransport lookup).1 = true ↔ (settings.finalTransport lookup).2.1 = none := by
  cases plain : settings.plaintext <;> cases given : settings.tls
  · rw [finalTransport_of_unset plain given]
    split <;> simp
  · rw [finalTransport_of_set (by simp [given])]
    simp [plain, given]
  · rw [finalTransport_of_set (by simp [plain])]
    simp [plain, given]
  · simp [plain, given] at notBoth

/-! ### Finalized settings -/

/-- What finalized settings satisfy. -/
structure Finalized (settings : ClientSettings) : Prop where
  bootstrapServers_eq : settings.bootstrapServers = ",".intercalate settings.brokers
  brokers_ne_nil : settings.brokers ≠ []
  brokerEntry : ∀ entry ∈ settings.brokers, BrokerEntry entry
  plaintext_iff : settings.plaintext = true ↔ settings.tls = none
  credentials : ∀ sasl ∈ settings.sasl, sasl.username ≠ "" ∧ sasl.password ≠ ""
  certificate : ∀ tls ∈ settings.tls, (tls.certPath.isSome ↔ tls.keyPath.isSome)

theorem Finalized.transport (finalized : settings.Finalized) :
    (settings.plaintext || settings.tls.isSome) = true ∧
      (settings.plaintext && settings.tls.isSome) = false := by
  have exclusive := finalized.plaintext_iff
  cases plain : settings.plaintext <;> cases given : settings.tls <;> simp_all

theorem brokers_finalSettings
    (entries : ∀ entry ∈ settings.finalBrokers lookup, BrokerEntry entry) :
    (settings.finalSettings lookup).brokers = settings.finalBrokers lookup :=
  brokerList_intercalate entries

theorem finalized_of_finalizeWith {final : ClientSettings}
    (finalizedOk : settings.finalizeWith lookup = .ok final) : final.Finalized := by
  obtain ⟨noIssues, rfl⟩ := finalizeWith_eq_ok_iff.mp finalizedOk
  obtain ⟨brokersSet, -, credentials, -, notBoth, certificate⟩ :=
    finalIssues_eq_nil_iff.mp noIssues
  have entries : ∀ entry ∈ settings.finalBrokers lookup, BrokerEntry entry :=
    fun _ member => brokerEntry_of_mem_finalBrokers member
  have readBack := brokers_finalSettings entries
  exact {
    bootstrapServers_eq := by rw [readBack]; rfl
    brokers_ne_nil := readBack ▸ brokersSet
    brokerEntry := readBack ▸ entries
    plaintext_iff := finalTransport_plaintext_iff notBoth
    credentials
    certificate }

theorem finalizeWith_of_finalized (finalized : settings.Finalized) :
    settings.finalizeWith lookup = .ok settings ↔
      settings.sasl.isSome ∨ lookup.effective usernameVariable = none := by
  have brokers : settings.finalBrokers lookup = settings.brokers :=
    finalBrokers_of_ne_nil finalized.brokers_ne_nil
  have transport : settings.finalTransport lookup = (settings.plaintext, settings.tls, []) :=
    finalTransport_of_set finalized.transport.1
  rw [finalizeWith_eq_ok_iff]
  constructor
  · rintro ⟨-, built⟩
    have sasl : (settings.finalSasl lookup).1 = settings.sasl := congrArg ClientSettings.sasl built
    cases present : settings.sasl with
    | some given => simp
    | none => exact .inr (finalSasl_fst_eq_none_iff.mp (sasl.trans present)).2
  · intro kept
    have sasl : settings.finalSasl lookup = (settings.sasl, []) := by
      cases present : settings.sasl with
      | some given => exact finalSasl_of_some present
      | none =>
        rw [finalSasl_of_none present]
        exact lookedUpSasl_of_none (by simpa [present] using kept)
    refine ⟨?_, ?_⟩
    · rw [foundIssues, finalIssues_eq_nil_iff, brokers, sasl, transport]
      exact ⟨finalized.brokers_ne_nil, rfl, finalized.credentials, rfl, finalized.transport.2,
        finalized.certificate⟩
    · rw [finalSettings, brokers, sasl, transport, ← finalized.bootstrapServers_eq]

/-! ### The security protocol -/

theorem securityProtocol_ssl_iff (settings : ClientSettings) :
    (settings.securityProtocol = "SSL" ∨ settings.securityProtocol = "SASL_SSL") ↔
      settings.tls.isSome := by
  cases tls : settings.tls.isSome <;> cases sasl : settings.sasl.isSome <;>
    simp [securityProtocol, tls, sasl]

theorem securityProtocol_sasl_iff (settings : ClientSettings) :
    (settings.securityProtocol = "SASL_PLAINTEXT" ∨ settings.securityProtocol = "SASL_SSL") ↔
      settings.sasl.isSome := by
  cases tls : settings.tls.isSome <;> cases sasl : settings.sasl.isSome <;>
    simp [securityProtocol, tls, sasl]

/-! ### What finalizing returns -/

theorem brokers_of_finalizeWith {final : ClientSettings}
    (finalizedOk : settings.finalizeWith lookup = .ok final) :
    final.brokers =
      if settings.brokers = [] then brokerList ((lookup brokersVariable).getD "")
      else settings.brokers := by
  obtain ⟨noIssues, rfl⟩ := finalizeWith_eq_ok_iff.mp finalizedOk
  have brokersSet := (finalIssues_eq_nil_iff.mp noIssues).1
  rw [brokers_finalSettings fun _ member => brokerEntry_of_mem_finalBrokers member]
  split
  · next none =>
    rw [finalBrokers_of_nil none] at brokersSet ⊢
    cases looked : lookup.effective brokersVariable with
    | none => simp [looked] at brokersSet
    | some text => simp [(Option.filter_eq_some_iff.mp looked).1]
  · next named => exact finalBrokers_of_ne_nil named

/-- Settings that finalizing returns name their brokers in the bootstrap servers, which are not
empty: the settings' own brokers, or else those of the lookup. Exactly one of plaintext and a
TLS section is set, so the protocol uses TLS exactly when plaintext is off, and SASL exactly when
a SASL section, with a username and a password, is present. A TLS section has both client
certificate paths or neither. -/
theorem finalizeWith_ok_invariants {final : ClientSettings}
    (finalizedOk : settings.finalizeWith lookup = .ok final) :
    final.Finalized ∧ final.bootstrapServers ≠ "" ∧
    final.brokers =
      (if settings.brokers = [] then brokerList ((lookup brokersVariable).getD "")
      else settings.brokers) ∧
    ((final.securityProtocol = "SSL" ∨ final.securityProtocol = "SASL_SSL") ↔
      final.plaintext = false) ∧
    ((final.securityProtocol = "SASL_PLAINTEXT" ∨ final.securityProtocol = "SASL_SSL") ↔
      final.sasl.isSome) := by
  have finalized := finalized_of_finalizeWith finalizedOk
  have nonempty : final.bootstrapServers ≠ "" := by
    rw [finalized.bootstrapServers_eq]
    exact intercalate_ne_empty finalized.brokerEntry finalized.brokers_ne_nil
  have usesTls : final.plaintext = false ↔ final.tls.isSome := by
    cases plain : final.plaintext <;>
      simp [← finalized.plaintext_iff, plain, Option.isSome_iff_ne_none]
  refine ⟨finalized, nonempty, brokers_of_finalizeWith finalizedOk, ?_,
    securityProtocol_sasl_iff final⟩
  rw [securityProtocol_ssl_iff, usesTls]

theorem finalizeWith_ok_invariants_environment :
    ClientSettings.finalizeWith
        (fun name => if name = "KAFKA_BROKERS" then some " kafka-0:9092, ,kafka-1:9092 "
          else if name = "KAFKA_USERNAME" then some "user"
          else if name = "KAFKA_PASSWORD" then some "secret"
          else if name = "KAFKA_TLS_CA_CERT_PATH" then some "/etc/kafka/ca.crt" else none) {} =
      .ok { bootstrapServers := "kafka-0:9092,kafka-1:9092"
            sasl := some { username := "user", password := "secret" }
            tls := some { caCertPath := some "/etc/kafka/ca.crt" } } ∧
    ClientSettings.Finalized
      { bootstrapServers := "kafka-0:9092,kafka-1:9092",
        sasl := some { username := "user", password := "secret" },
        tls := some { caCertPath := some "/etc/kafka/ca.crt" } } :=
  have finalizedOk : ClientSettings.finalizeWith
        (fun name => if name = "KAFKA_BROKERS" then some " kafka-0:9092, ,kafka-1:9092 "
          else if name = "KAFKA_USERNAME" then some "user"
          else if name = "KAFKA_PASSWORD" then some "secret"
          else if name = "KAFKA_TLS_CA_CERT_PATH" then some "/etc/kafka/ca.crt" else none) {} =
      .ok { bootstrapServers := "kafka-0:9092,kafka-1:9092"
            sasl := some { username := "user", password := "secret" }
            tls := some { caCertPath := some "/etc/kafka/ca.crt" } } := by rfl
  ⟨finalizedOk, (finalizeWith_ok_invariants finalizedOk).1⟩

/-! ### Finalizing again -/

theorem sasl_isSome_of_finalizeWith {final : ClientSettings}
    (finalizedOk : settings.finalizeWith lookup = .ok final) :
    final.sasl.isSome ∨ lookup.effective usernameVariable = none := by
  obtain ⟨-, rfl⟩ := finalizeWith_eq_ok_iff.mp finalizedOk
  cases built : (settings.finalSasl lookup).1 with
  | some given => exact .inl (by simp [finalSettings, built])
  | none => exact .inr (finalSasl_fst_eq_none_iff.mp built).2

end ClientSettings

namespace ManagerSettings

variable {lookup : Lookup} {settings : ManagerSettings}

theorem finalizeWith_eq_ok_iff {final : ManagerSettings} :
    settings.finalizeWith lookup = .ok final ↔
      ∃ client, settings.client.finalizeWith lookup = .ok client ∧
        final = { settings with client } := by
  unfold finalizeWith
  cases settings.client.finalizeWith lookup with
  | error issues => simp [Except.map]
  | ok client =>
    simp only [Except.map, Except.ok.injEq, exists_eq_left']
    exact eq_comm

theorem finalizeWith_eq_ok_self_iff :
    settings.finalizeWith lookup = .ok settings ↔
      settings.client.finalizeWith lookup = .ok settings.client := by
  rw [finalizeWith_eq_ok_iff]
  constructor
  · rintro ⟨client, finalizedOk, same⟩
    rw [same] at finalizedOk ⊢
    exact finalizedOk
  · intro finalizedOk
    exact ⟨settings.client, finalizedOk, rfl⟩

theorem client_finalized_of_finalizeWith {final : ManagerSettings}
    (finalizedOk : settings.finalizeWith lookup = .ok final) :
    final.client.Finalized ∧
      (final.client.sasl.isSome ∨ lookup.effective usernameVariable = none) := by
  obtain ⟨built, builtOk, rfl⟩ := finalizeWith_eq_ok_iff.mp finalizedOk
  exact ⟨ClientSettings.finalized_of_finalizeWith builtOk,
    ClientSettings.sasl_isSome_of_finalizeWith builtOk⟩

theorem finalizeWith_of_finalized (finalized : settings.client.Finalized) :
    settings.finalizeWith lookup = .ok settings ↔
      settings.client.sasl.isSome ∨ lookup.effective usernameVariable = none := by
  rw [finalizeWith_eq_ok_self_iff]
  exact ClientSettings.finalizeWith_of_finalized finalized

end ManagerSettings

/-- Finalizing is idempotent. Finalizing the result again, with the same lookup or with any
other one that supplies no SASL section the result lacks, gives the result back; a lookup that
does supply one changes it. The same holds for manager settings, so creating a manager from
settings that are already finalized gives what creating it from the original settings gives. -/
theorem finalizeWith_idempotent :
    (∀ (lookup other : Lookup) (settings final : ClientSettings),
      settings.finalizeWith lookup = .ok final →
        final.finalizeWith lookup = .ok final ∧
        (final.finalizeWith other = .ok final ↔
          final.sasl.isSome ∨ other.effective usernameVariable = none)) ∧
    (∀ (lookup other : Lookup) (settings final : ManagerSettings),
      settings.finalizeWith lookup = .ok final →
        final.finalizeWith lookup = .ok final ∧
        (final.finalizeWith other = .ok final ↔
          final.client.sasl.isSome ∨ other.effective usernameVariable = none)) ∧
    (∀ {α : Type} (lookup : Lookup) (connect : ClientSettings → Except Broker.ClientError α)
      (settings final : ManagerSettings),
      settings.finalizeWith lookup = .ok final →
        Manager.create lookup connect final = Manager.create lookup connect settings) := by
  refine ⟨fun lookup other settings final finalizedOk => ?_,
    fun lookup other settings final finalizedOk => ?_,
    fun lookup connect settings final finalizedOk => ?_⟩
  · have finalized := ClientSettings.finalized_of_finalizeWith finalizedOk
    exact ⟨(ClientSettings.finalizeWith_of_finalized finalized).mpr
        (ClientSettings.sasl_isSome_of_finalizeWith finalizedOk),
      ClientSettings.finalizeWith_of_finalized finalized⟩
  · obtain ⟨finalized, kept⟩ := ManagerSettings.client_finalized_of_finalizeWith finalizedOk
    exact ⟨(ManagerSettings.finalizeWith_of_finalized finalized).mpr kept,
      ManagerSettings.finalizeWith_of_finalized finalized⟩
  · obtain ⟨finalized, kept⟩ := ManagerSettings.client_finalized_of_finalizeWith finalizedOk
    have again : final.finalizeWith lookup = .ok final :=
      (ManagerSettings.finalizeWith_of_finalized finalized).mpr kept
    simp only [Manager.create, again, finalizedOk]

theorem finalizeWith_idempotent_environment :
    ClientSettings.finalizeWith
        (fun name => if name = "KAFKA_BROKERS" then some " kafka-0:9092, ,kafka-1:9092 "
          else if name = "KAFKA_USERNAME" then some "user"
          else if name = "KAFKA_PASSWORD" then some "secret"
          else if name = "KAFKA_TLS_CA_CERT_PATH" then some "/etc/kafka/ca.crt" else none) {} =
      .ok { bootstrapServers := "kafka-0:9092,kafka-1:9092"
            sasl := some { username := "user", password := "secret" }
            tls := some { caCertPath := some "/etc/kafka/ca.crt" } } ∧
    ClientSettings.finalizeWith (fun _ => none)
        { bootstrapServers := "kafka-0:9092,kafka-1:9092",
          sasl := some { username := "user", password := "secret" },
          tls := some { caCertPath := some "/etc/kafka/ca.crt" } } =
      .ok { bootstrapServers := "kafka-0:9092,kafka-1:9092"
            sasl := some { username := "user", password := "secret" }
            tls := some { caCertPath := some "/etc/kafka/ca.crt" } } :=
  have finalizedOk : ClientSettings.finalizeWith
        (fun name => if name = "KAFKA_BROKERS" then some " kafka-0:9092, ,kafka-1:9092 "
          else if name = "KAFKA_USERNAME" then some "user"
          else if name = "KAFKA_PASSWORD" then some "secret"
          else if name = "KAFKA_TLS_CA_CERT_PATH" then some "/etc/kafka/ca.crt" else none) {} =
      .ok { bootstrapServers := "kafka-0:9092,kafka-1:9092"
            sasl := some { username := "user", password := "secret" }
            tls := some { caCertPath := some "/etc/kafka/ca.crt" } } := by rfl
  ⟨finalizedOk,
    ((finalizeWith_idempotent.1 _ (fun _ => none) _ _ finalizedOk).2).mpr (.inl rfl)⟩

end TopicLifecycle.Settings
