import TopicLifecycle.Settings.Finalize
import TopicLifecycle.Duration.Basic

/-!
Settings of a topic manager: client settings and two optional timeouts, one for a single admin
request until the broker answers and one for the operation on the cluster. Finalizing touches the
client settings only.
-/

namespace TopicLifecycle.Settings

structure ManagerSettings where
  client : ClientSettings := {}
  requestTimeout : Option Duration := none
  operationTimeout : Option Duration := none
deriving DecidableEq

/-- Finalized manager settings: the client settings finalized, the timeouts unchanged. -/
def ManagerSettings.finalizeWith (lookup : Lookup) (settings : ManagerSettings) :
    Except (List Issue) ManagerSettings :=
  (settings.client.finalizeWith lookup).map fun client => { settings with client }

end TopicLifecycle.Settings
