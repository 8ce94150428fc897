import TopicLifecycle.Proofs.Delete
import TopicLifecycle.Proofs.Finalize

/-!
Creating and closing a manager, with the provider's effects in any monad.
-/

namespace TopicLifecycle.Manager

open Settings Broker

variable {α : Type} {m : Type → Type} [Monad m]

def connected (settings : ManagerSettings) : Except ClientError α → Except ManagerError (Created α)
  | .error error => .error (.connection error)
  | .ok admin =>
    .ok { options := optionsOf settings, admin,
          logs := [{ level := .info,
                     message := "Created topic manager for: " ++ settings.client.bootstrapServers }] }

/-- Creating a manager with a provider whose connecting acts in `m`; `create` is the case of a
provider without effects. -/
def createIn (lookup : Lookup) (connect : ClientSettings → m (Except ClientError α))
    (settings : ManagerSettings) : m (Except ManagerError (Created α)) :=
  match settings.finalizeWith lookup with
  | .error issues => pure (.error (.configuration issues))
  | .ok final => connected final <$> connect final.client

theorem create_eq_createIn (lookup : Lookup) (connect : ClientSettings → Except ClientError α)
    (settings : ManagerSettings) :
    create lookup connect settings =
      (createIn (m := Id) lookup (fun client => pure (connect client)) settings).run := by
  unfold create createIn
  cases settings.finalizeWith lookup with
  | error issues => rfl
  | ok final => cases connect final.client <;> rfl

/-! ### Finalizing manager settings -/

namespace ManagerSettings

variable {lookup : Lookup} {settings : ManagerSettings}

theorem finalizeWith_eq_error_iff {issues : List Issue} :
    settings.finalizeWith lookup = .error issues ↔
      settings.client.finalizeWith lookup = .error issues := by
  unfold ManagerSettings.finalizeWith
  cases settings.client.finalizeWith lookup <;> simp [Except.map]

theorem finalizeWith_of_client {client : ClientSettings}
    (finalized : settings.client.finalizeWith lookup = .ok client) :
    settings.finalizeWith lookup = .ok { settings with client } :=
  ManagerSettings.finalizeWith_eq_ok_iff.mpr ⟨client, finalized, rfl⟩

end ManagerSettings

/-! ### Creating -/

variable {lookup : Lookup} {settings : ManagerSettings}

theorem createIn_of_issues {issues : List Issue}
    (failed : settings.client.finalizeWith lookup = .error issues)
    (connect : ClientSettings → m (Except ClientError α)) :
    createIn lookup connect settings = pure (.error (.configuration issues)) := by
  rw [createIn, ManagerSettings.finalizeWith_eq_error_iff.mpr failed]

theorem createIn_of_finalized {client : ClientSettings}
    (finalized : settings.client.finalizeWith lookup = .ok client)
    (connect : ClientSettings → m (Except ClientError α)) :
    createIn lookup connect settings = connected { settings with client } <$> connect client := by
  rw [createIn, ManagerSettings.finalizeWith_of_client finalized]

def timeoutsOf (settings : ManagerSettings) : DeleteOptions :=
  { requestTimeout := settings.requestTimeout, operationTimeout := settings.operationTimeout }

theorem deleteTopics_asks_with (options : DeleteOptions)
    (admin : List String → DeleteOptions → AdminReply) (topics : List String) :
    deleteTopics options admin topics =
      deleteTopics options (fun names _ => admin names options) topics := by
  by_cases empty : topics = []
  · subst empty
    rw [deleteTopics_nil, deleteTopics_nil]
  · exact (deleteTopics_congr_reply empty rfl).symm

structure Holds (settings : ManagerSettings) (admin : α) (manager : Created α) : Prop where
  admin_eq : manager.admin = admin
  options_eq : manager.options = timeoutsOf settings
  asks_with_timeouts : ∀ (ask : List String → DeleteOptions → AdminReply) (topics : List String),
    deleteTopics manager.options ask topics =
      deleteTopics manager.options (fun names _ => ask names (timeoutsOf settings)) topics

theorem connected_ok (client : ClientSettings) (admin : α) :
    ∃ manager, connected { settings with client } (.ok admin) = .ok manager ∧
      Holds settings admin manager := by
  refine ⟨_, rfl, rfl, rfl, fun ask topics => ?_⟩
  exact deleteTopics_asks_with _ ask topics

/-- Creating a manager. When finalizing the settings finds issues, creating fails with all of
them and has no effect: the provider is not asked, so its admin is neither taken nor released.
Otherwise the provider is asked exactly once, with the finalized client settings; its failure is
the connection error, and an admin it gives is held by a manager whose every delete request
carries the timeouts of the settings as given, which finalizing leaves alone. Closing a manager
releases its admin once, and nothing else, and succeeds. -/
theorem createIn_connects_once (lookup : Lookup) (connect : ClientSettings → m (Except ClientError α))
    (settings : ManagerSettings) :
    (∀ issues, settings.client.finalizeWith lookup = .error issues →
      createIn lookup connect settings = pure (.error (.configuration issues))) ∧
    (∀ client, settings.client.finalizeWith lookup = .ok client →
      createIn lookup connect settings = connected { settings with client } <$> connect client ∧
      (∀ error, connected (α := α) { settings with client } (.error error) =
        .error (.connection error)) ∧
      ∀ admin : α, ∃ manager, connected { settings with client } (.ok admin) = .ok manager ∧
        Holds settings admin manager) ∧
    ∀ (release : α → m Unit) (manager : Created α),
      close release manager = release manager.admin >>= fun _ => pure (.ok ()) := by
  refine ⟨fun issues failed => createIn_of_issues failed connect, ?_, fun release manager => rfl⟩
  intro client finalized
  exact ⟨createIn_of_finalized finalized connect, fun error => rfl, connected_ok client⟩

end TopicLifecycle.Manager
