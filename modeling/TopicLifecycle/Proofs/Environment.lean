import TopicLifecycle.Proofs.Finalize

/-!
What finalizing reads from the environment: only the variables where the settings leave a gap.
-/

namespace TopicLifecycle.Settings

def Lookup.AgreeOn (names : List String) (lookup other : Lookup) : Prop :=
  ∀ name ∈ names, lookup.effective name = other.effective name

theorem Lookup.agreeOn_append {names others : List String} {lookup other : Lookup} :
    Lookup.AgreeOn (names ++ others) lookup other ↔
      Lookup.AgreeOn names lookup other ∧ Lookup.AgreeOn others lookup other := by
  simp only [Lookup.AgreeOn, List.mem_append, or_imp, forall_and]

theorem Lookup.agreeOn_cons {name : String} {names : List String} {lookup other : Lookup} :
    Lookup.AgreeOn (name :: names) lookup other ↔
      lookup.effective name = other.effective name ∧ Lookup.AgreeOn names lookup other := by
  simp only [Lookup.AgreeOn, List.mem_cons, or_imp, forall_and, forall_eq]

variable {lookup other : Lookup}

theorem readFlag_congr {name : String} (same : lookup.effective name = other.effective name) :
    readFlag lookup name = readFlag other name := by
  unfold readFlag
  rw [same]

theorem lookedUpTls_congr
    (agree : Lookup.AgreeOn
      [caCertPathVariable, certPathVariable, keyPathVariable, tlsInsecureVariable] lookup other) :
    lookedUpTls lookup = lookedUpTls other := by
  simp only [Lookup.agreeOn_cons] at agree
  obtain ⟨caCertPath, certPath, keyPath, insecure, -⟩ := agree
  unfold lookedUpTls
  rw [readFlag_congr insecure, caCertPath, certPath, keyPath]

theorem lookedUpSasl_congr
    (username : lookup.effective usernameVariable = other.effective usernameVariable)
    (rest : (lookup.effective usernameVariable).isSome →
      Lookup.AgreeOn [mechanismVariable, passwordVariable] lookup other) :
    lookedUpSasl lookup = lookedUpSasl other := by
  cases found : lookup.effective usernameVariable with
  | none => rw [lookedUpSasl_of_none found, lookedUpSasl_of_none (username ▸ found)]
  | some name =>
    have agree := rest (by simp [found])
    simp only [Lookup.agreeOn_cons] at agree
    obtain ⟨mechanism, password, -⟩ := agree
    unfold lookedUpSasl
    rw [← username, mechanism, password]

namespace ClientSettings

variable {settings : ClientSettings}

/-- The variables finalizing reads: the brokers when the settings name none; the username when
there is no SASL section, and the mechanism and password when moreover a username is found; the
plaintext flag when neither plaintext nor a TLS section is given, and the TLS paths and flag
when moreover the plaintext flag is not on. -/
def variablesRead (lookup : Lookup) (settings : ClientSettings) : List String :=
  (if settings.brokers = [] then [brokersVariable] else []) ++
    (if settings.sasl = none then
      usernameVariable ::
        (if (lookup.effective usernameVariable).isSome then [mechanismVariable, passwordVariable]
        else [])
    else []) ++
    (if settings.plaintext = false ∧ settings.tls = none then
      plaintextVariable ::
        (if (readFlag lookup plaintextVariable).1 then []
        else [caCertPathVariable, certPathVariable, keyPathVariable, tlsInsecureVariable])
    else [])

theorem finalBrokers_congr
    (agree : settings.brokers = [] →
      lookup.effective brokersVariable = other.effective brokersVariable) :
    settings.finalBrokers lookup = settings.finalBrokers other := by
  by_cases none : settings.brokers = []
  · rw [finalBrokers_of_nil none, finalBrokers_of_nil none, agree none]
  · rw [finalBrokers_of_ne_nil none, finalBrokers_of_ne_nil none]

theorem finalSasl_congr
    (agree : settings.sasl = none →
      lookup.effective usernameVariable = other.effective usernameVariable ∧
      ((lookup.effective usernameVariable).isSome →
        Lookup.AgreeOn [mechanismVariable, passwordVariable] lookup other)) :
    settings.finalSasl lookup = settings.finalSasl other := by
  cases present : settings.sasl with
  | some given => rw [finalSasl_of_some present, finalSasl_of_some present]
  | none =>
    obtain ⟨username, rest⟩ := agree present
    rw [finalSasl_of_none present, finalSasl_of_none present, lookedUpSasl_congr username rest]

theorem finalTransport_congr
    (agree : settings.plaintext = false ∧ settings.tls = none →
      lookup.effective plaintextVariable = other.effective plaintextVariable ∧
      ((readFlag lookup plaintextVariable).1 = false →
        Lookup.AgreeOn
          [caCertPathVariable, certPathVariable, keyPathVariable, tlsInsecureVariable]
          lookup other)) :
    settings.finalTransport lookup = settings.finalTransport other := by
  by_cases unset : settings.plaintext = false ∧ settings.tls = none
  · obtain ⟨flag, rest⟩ := agree unset
    rw [finalTransport_of_unset unset.1 unset.2, finalTransport_of_unset unset.1 unset.2,
      ← readFlag_congr flag]
    cases on : (readFlag lookup plaintextVariable).1
    · rw [lookedUpTls_congr (rest on)]
    · rfl
  · have set : (settings.plaintext || settings.tls.isSome) = true := by
      cases plain : settings.plaintext <;> cases given : settings.tls <;> simp_all
    rw [finalTransport_of_set set, finalTransport_of_set set]

theorem finalizeWith_congr (agree : Lookup.AgreeOn (settings.variablesRead lookup) lookup other) :
    settings.finalizeWith lookup = settings.finalizeWith other := by
  simp only [variablesRead, Lookup.agreeOn_append] at agree
  obtain ⟨⟨brokersAgree, saslAgree⟩, transportAgree⟩ := agree
  have brokers : settings.finalBrokers lookup = settings.finalBrokers other := by
    exact finalBrokers_congr fun none => brokersAgree brokersVariable (by simp [none])
  have sasl : settings.finalSasl lookup = settings.finalSasl other := by
    refine finalSasl_congr fun none => ?_
    simp only [none, if_true, Lookup.agreeOn_cons] at saslAgree
    refine ⟨saslAgree.1, fun found => ?_⟩
    simpa [found] using saslAgree.2
  have transport : settings.finalTransport lookup = settings.finalTransport other := by
    refine finalTransport_congr fun unset => ?_
    simp only [unset, and_self, if_true, Lookup.agreeOn_cons] at transportAgree
    refine ⟨transportAgree.1, fun off => ?_⟩
    simpa [off] using transportAgree.2
  rw [finalizeWith_eq, finalizeWith_eq, foundIssues, foundIssues, finalSettings, finalSettings,
    brokers, sasl, transport]

theorem variablesRead_eq_nil (named : settings.brokers ≠ []) (sasl : settings.sasl.isSome)
    (transport : (settings.plaintext || settings.tls.isSome) = true) :
    settings.variablesRead lookup = [] := by
  have noTransportGap : ¬(settings.plaintext = false ∧ settings.tls = none) := by
    rintro ⟨plain, given⟩
    simp [plain, given] at transport
  simp [variablesRead, named, Option.isSome_iff_ne_none.mp sasl, noTransportGap]

end ClientSettings

/-- Explicit values win and the environment is read only where the settings leave a gap: two
lookups that agree on the variables `variablesRead` names finalize the settings alike, so
settings with brokers, a SASL section and either plaintext or a TLS section finalize alike
with every lookup; and finalizing keeps the client id and the properties. -/
theorem finalizeWith_reads_only_gaps (settings : ClientSettings) :
    (∀ lookup other : Lookup, Lookup.AgreeOn (settings.variablesRead lookup) lookup other →
      settings.finalizeWith lookup = settings.finalizeWith other) ∧
    (settings.brokers ≠ [] → settings.sasl.isSome →
      (settings.plaintext || settings.tls.isSome) = true →
      ∀ lookup other : Lookup, settings.finalizeWith lookup = settings.finalizeWith other) ∧
    (∀ (lookup : Lookup) (final : ClientSettings), settings.finalizeWith lookup = .ok final →
      final.clientId = settings.clientId ∧ final.properties = settings.properties) := by
  refine ⟨fun lookup other agree => ClientSettings.finalizeWith_congr agree, ?_, ?_⟩
  · intro named sasl transport lookup other
    apply ClientSettings.finalizeWith_congr
    rw [ClientSettings.variablesRead_eq_nil named sasl transport]
    simp [Lookup.AgreeOn]
  · intro lookup final finalizedOk
    obtain ⟨-, rfl⟩ := ClientSettings.finalizeWith_eq_ok_iff.mp finalizedOk
    exact ⟨rfl, rfl⟩

theorem finalizeWith_reads_only_gaps_plaintext :
    ClientSettings.finalizeWith
        (fun name => if name = "KAFKA_BROKERS" then some "localhost:9092"
          else if name = "KAFKA_PLAINTEXT" then some "true"
          else if name = "KAFKA_TLS_CA_CERT_PATH" then some "/etc/kafka/ca.crt" else none) {} =
      ClientSettings.finalizeWith
        (fun name => if name = "KAFKA_BROKERS" then some "localhost:9092"
          else if name = "KAFKA_PLAINTEXT" then some "true" else none) {} :=
  (finalizeWith_reads_only_gaps {}).1 _ _ (by unfold Lookup.AgreeOn; decide)

end TopicLifecycle.Settings
