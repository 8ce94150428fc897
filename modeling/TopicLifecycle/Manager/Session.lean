import TopicLifecycle.Manager.Delete
import TopicLifecycle.Settings.Manager

/-!
Creating and closing a topic manager. Creating one finalizes the settings with the environment,
connects an admin with the finalized client settings, and keeps the two timeouts as the options
of every delete request; closing it releases the admin.
-/

namespace TopicLifecycle.Manager

open Settings Broker

inductive ManagerError where
  | configuration (issues : List Issue)
  | connection (error : ClientError)
deriving DecidableEq

namespace ManagerError

def text : ManagerError → String
  | .configuration _ => "invalid manager config"
  | .connection _ => "failed creating kafka client"

def sourceText : ManagerError → String
  | .configuration issues => issuesText issues
  | .connection error => error.text

end ManagerError

def optionsOf (settings : ManagerSettings) : DeleteOptions :=
  { requestTimeout := settings.requestTimeout, operationTimeout := settings.operationTimeout }

structure Created (α : Type) where
  options : DeleteOptions
  admin : α
  logs : List LogRecord

/-- Creating a manager: finalizing the settings with the lookup, then connecting with the
finalized client settings. -/
def create (lookup : Lookup) (connect : ClientSettings → Except ClientError α)
    (settings : ManagerSettings) : Except ManagerError (Created α) :=
  match settings.finalizeWith lookup with
  | .error issues => .error (.configuration issues)
  | .ok settings =>
    match connect settings.client with
    | .error error => .error (.connection error)
    | .ok admin =>
      .ok { options := optionsOf settings, admin,
            logs := [{ level := .info,
                       message := "Created topic manager for: " ++ settings.client.bootstrapServers }] }

def closeLogs : List LogRecord := [{ level := .info, message := "Closed topic manager" }]

/-- Closing a manager: its admin is released, then closing succeeds. -/
def close {m : Type → Type} [Monad m] (release : α → m Unit) (manager : Created α) :
    m (Except ManagerError Unit) := do
  release manager.admin
  pure (.ok ())

end TopicLifecycle.Manager
