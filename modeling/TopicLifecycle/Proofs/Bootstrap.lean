import TopicLifecycle.Proofs.Finalize
import TopicLifecycle.Proofs.Library

/-!
The bootstrap servers through finalizing: the broker list of a text is a normal form, and
finalizing keeps the brokers settings already name.
-/

namespace TopicLifecycle.Settings

namespace ClientSettings

theorem get?_libraryConfig_bootstrap (settings : ClientSettings) :
    settings.libraryConfig.get? "bootstrap.servers" =
      (Properties.lookup (dottedEntries settings.properties).reverse "bootstrap.servers").or
        (some (",".intercalate settings.brokers)) := by
  rw [get?_libraryConfig]
  rfl

variable {lookup : Lookup} {settings final : ClientSettings}

theorem properties_of_finalizeWith (finalizedOk : settings.finalizeWith lookup = .ok final) :
    final.properties = settings.properties := by
  obtain ⟨-, rfl⟩ := finalizeWith_eq_ok_iff.mp finalizedOk
  rfl

theorem brokers_eq_finalBrokers (finalizedOk : settings.finalizeWith lookup = .ok final) :
    final.brokers = settings.finalBrokers lookup := by
  obtain ⟨-, rfl⟩ := finalizeWith_eq_ok_iff.mp finalizedOk
  exact brokers_finalSettings fun _ member => brokerEntry_of_mem_finalBrokers member

theorem libraryBootstrap_of_finalizeWith (finalizedOk : settings.finalizeWith lookup = .ok final)
    (named : settings.brokers ≠ []) :
    final.brokers = settings.brokers ∧
      final.libraryConfig.get? "bootstrap.servers" =
        settings.libraryConfig.get? "bootstrap.servers" := by
  have brokers : final.brokers = settings.brokers := by
    rw [brokers_eq_finalBrokers finalizedOk, finalBrokers_of_ne_nil named]
  refine ⟨brokers, ?_⟩
  rw [get?_libraryConfig_bootstrap, get?_libraryConfig_bootstrap, brokers,
    properties_of_finalizeWith finalizedOk]

end ClientSettings

/-- The broker list of a text is a normal form: every entry is non-empty, has no blank at either
end and holds no comma, and the entries joined with commas have the same broker list. So the
bootstrap servers finalizing writes name the brokers it found, and for settings that name a
broker finalizing keeps their brokers and the bootstrap servers of the client library. -/
theorem brokerList_normal_form :
    (∀ text, ∀ entry ∈ brokerList text, BrokerEntry entry) ∧
    (∀ text, brokerList (",".intercalate (brokerList text)) = brokerList text) ∧
    (∀ (lookup : Lookup) (settings final : ClientSettings),
      settings.finalizeWith lookup = .ok final → final.brokers = settings.finalBrokers lookup) ∧
    (∀ (lookup : Lookup) (settings final : ClientSettings),
      settings.finalizeWith lookup = .ok final → settings.brokers ≠ [] →
        final.brokers = settings.brokers ∧
        final.libraryConfig.get? "bootstrap.servers" =
          settings.libraryConfig.get? "bootstrap.servers") :=
  ⟨fun _ _ member => brokerEntry_of_mem_brokerList member,
    fun _ => brokerList_intercalate fun _ member => brokerEntry_of_mem_brokerList member,
    fun _ _ _ finalizedOk => ClientSettings.brokers_eq_finalBrokers finalizedOk,
    fun _ _ _ finalizedOk named =>
      ClientSettings.libraryBootstrap_of_finalizeWith finalizedOk named⟩

theorem brokerList_normal_form_spaced :
    ClientSettings.finalizeWith (fun _ => none)
        { bootstrapServers := " kafka-0:9092 , ,kafka-1:9092 ", plaintext := true } =
      .ok { bootstrapServers := "kafka-0:9092,kafka-1:9092", plaintext := true } ∧
    ({ bootstrapServers := "kafka-0:9092,kafka-1:9092", plaintext := true } :
        ClientSettings).libraryConfig.get? "bootstrap.servers" =
      ({ bootstrapServers := " kafka-0:9092 , ,kafka-1:9092 ", plaintext := true } :
        ClientSettings).libraryConfig.get? "bootstrap.servers" :=
  have finalizedOk : ClientSettings.finalizeWith (fun _ => none)
        { bootstrapServers := " kafka-0:9092 , ,kafka-1:9092 ", plaintext := true } =
      .ok { bootstrapServers := "kafka-0:9092,kafka-1:9092", plaintext := true } := by rfl
  ⟨finalizedOk, (brokerList_normal_form.2.2.2 _ _ _ finalizedOk (by decide)).2⟩

end TopicLifecycle.Settings
