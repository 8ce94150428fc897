import TopicLifecycle.Settings.Debug

/-!
The password never shows in debug output.
-/

namespace TopicLifecycle.Text

theorem DebugStyle.option_map {α β : Type} (style : DebugStyle) (showValue : β → String)
    (change : α → β) (value : Option α) :
    style.option showValue (value.map change) =
      style.option (fun given => showValue (change given)) value := by
  cases value <;> rfl

theorem quoted_stars : quoted "***" = "\"***\"" := by decide

end TopicLifecycle.Text

namespace TopicLifecycle.Settings

open Text

def ClientSettings.withPassword (password : String) (settings : ClientSettings) :
    ClientSettings :=
  { settings with sasl := settings.sasl.map fun sasl => { sasl with password } }

def ManagerSettings.withPassword (password : String) (settings : ManagerSettings) :
    ManagerSettings :=
  { settings with client := settings.client.withPassword password }

theorem SaslSettings.debug_password (style : DebugStyle) (sasl : SaslSettings) (password : String) :
    ({ sasl with password } : SaslSettings).debug style = sasl.debug style := rfl

theorem SaslSettings.debug_compact (sasl : SaslSettings) :
    sasl.debug .compact = "SaslConfig \x7b mechanism: " ++ sasl.mechanism.debugName ++
      ", username: " ++ quoted sasl.username ++ ", password: \"***\" \x7d" := by
  -- the builder cuts the text into other literals than the statement does: compare characters
  apply String.toList_injective
  simp [SaslSettings.debug, DebugStyle.record, DebugStyle.parts, quoted_stars]

theorem SaslSettings.debug_compact_eq_debugText (sasl : SaslSettings) :
    sasl.debug .compact = sasl.debugText := by
  rw [debug_compact]
  rfl

theorem ClientSettings.debug_withPassword (style : DebugStyle) (settings : ClientSettings)
    (password : String) :
    (settings.withPassword password).debug style = settings.debug style := by
  have sasl : style.option (SaslSettings.debug style) (settings.withPassword password).sasl =
      style.option (SaslSettings.debug style) settings.sasl := by
    rw [withPassword, DebugStyle.option_map]
    rfl
  unfold ClientSettings.debug
  rw [sasl]
  rfl

theorem ManagerSettings.debug_withPassword (style : DebugStyle) (settings : ManagerSettings)
    (password : String) :
    (settings.withPassword password).debug style = settings.debug style := by
  unfold ManagerSettings.debug
  rw [withPassword, ClientSettings.debug_withPassword]

/-- The password never reaches debug output. SASL settings show their mechanism, their quoted
username and `"***"`, so replacing their password shows them alike; replacing the password of the
SASL section of client or manager settings shows them alike too, in the compact style finalizing
logs with and in the pretty style creating a manager logs with. -/
theorem debug_hides_password :
    (∀ (style : DebugStyle) (sasl : SaslSettings) (password : String),
      ({ sasl with password } : SaslSettings).debug style = sasl.debug style) ∧
    (∀ sasl : SaslSettings,
      sasl.debug .compact = "SaslConfig \x7b mechanism: " ++ sasl.mechanism.debugName ++
        ", username: " ++ quoted sasl.username ++ ", password: \"***\" \x7d") ∧
    (∀ (style : DebugStyle) (settings : ClientSettings) (password : String),
      (settings.withPassword password).debug style = settings.debug style) ∧
    (∀ (style : DebugStyle) (settings : ManagerSettings) (password : String),
      (settings.withPassword password).debug style = settings.debug style) :=
  ⟨SaslSettings.debug_password, SaslSettings.debug_compact, ClientSettings.debug_withPassword,
    ManagerSettings.debug_withPassword⟩

end TopicLifecycle.Settings
