import Mathlib.Tactic.SplitIfs
import TopicLifecycle.Proofs.Finalize

/-!
Which issues finalizing reports, read off the settings and the lookup.
-/

namespace TopicLifecycle

/-! ### ASCII case -/

namespace Text

theorem toNat_toUpper (character : Char) :
    character.toUpper.toNat =
      if 97 ≤ character.toNat ∧ character.toNat ≤ 122 then character.toNat - 32
      else character.toNat := by
  unfold Char.toUpper
  by_cases lower : 97 ≤ character.toNat ∧ character.toNat ≤ 122
  · rw [dif_pos (by simpa [UInt32.le_iff_toNat_le, ← Char.toNat_val] using lower), if_pos lower]
    show (character.val + ('A'.val - 'a'.val)).toNat = character.toNat - 32
    rw [UInt32.toNat_add, Char.toNat_val, show ('A'.val - 'a'.val).toNat = 4294967264 by decide]
    omega
  · rw [dif_neg (by simpa [UInt32.le_iff_toNat_le, ← Char.toNat_val] using lower), if_neg lower]

theorem toNat_toLower (character : Char) :
    character.toLower.toNat =
      if 65 ≤ character.toNat ∧ character.toNat ≤ 90 then character.toNat + 32
      else character.toNat := by
  unfold Char.toLower
  by_cases upper : 65 ≤ character.toNat ∧ character.toNat ≤ 90
  · rw [dif_pos (by simpa [UInt32.le_iff_toNat_le, ← Char.toNat_val] using upper), if_pos upper]
    show (character.val + ('a'.val - 'A'.val)).toNat = character.toNat + 32
    rw [UInt32.toNat_add, Char.toNat_val, show ('a'.val - 'A'.val).toNat = 32 by decide]
    omega
  · rw [dif_neg (by simpa [UInt32.le_iff_toNat_le, ← Char.toNat_val] using upper), if_neg upper]

theorem toUpper_eq_iff_toLower_eq {character letter : Char} (upper : letter.toUpper = letter) :
    character.toUpper = letter ↔ character.toLower = letter.toLower := by
  rw [← Char.toNat_inj, toNat_toUpper] at upper
  rw [← Char.toNat_inj, ← Char.toNat_inj, toNat_toUpper, toNat_toLower, toNat_toLower]
  split_ifs at * <;> omega

theorem map_toUpper_eq_iff {characters letters : List Char}
    (upper : ∀ letter ∈ letters, letter.toUpper = letter) :
    characters.map Char.toUpper = letters ↔
      characters.map Char.toLower = letters.map Char.toLower := by
  induction characters generalizing letters with
  | nil => cases letters <;> simp
  | cons character rest ih =>
    cases letters with
    | nil => simp
    | cons letter others =>
      simp only [List.map_cons, List.cons.injEq]
      rw [toUpper_eq_iff_toLower_eq (upper letter List.mem_cons_self),
        ih fun other member => upper other (List.mem_cons_of_mem _ member)]

def sameUpToAsciiCase (text other : String) : Bool := asciiLower text == asciiLower other

theorem asciiUpper_eq_iff {text name : String}
    (upper : ∀ letter ∈ name.toList, letter.toUpper = letter) :
    asciiUpper text = name ↔ sameUpToAsciiCase text name = true := by
  rw [sameUpToAsciiCase, beq_iff_eq, asciiUpper, asciiLower, asciiLower, ← String.toList_inj,
    ← String.toList_inj, String.toList_ofList, String.toList_ofList, String.toList_ofList]
  exact map_toUpper_eq_iff upper

end Text

namespace Settings

open Text

theorem Mechanism.parse?_eq_none_iff (text : String) :
    Mechanism.parse? text = none ↔
      ∀ name ∈ Mechanism.names, sameUpToAsciiCase text name = false := by
  have upper :
      ∀ mechanism : Mechanism, ∀ letter ∈ mechanism.name.toList, letter.toUpper = letter := by
    intro mechanism
    have fixed : (mechanism.name.toList.all fun letter => letter.toUpper == letter) = true := by
      cases mechanism <;> rfl
    simpa using fixed
  simp only [Mechanism.parse?, Mechanism.ofName?, List.find?_eq_none, Mechanism.names,
    List.mem_map, forall_exists_index, and_imp, forall_apply_eq_imp_iff₂, decide_eq_true_eq]
  refine forall₂_congr fun mechanism _ => ?_
  rw [eq_comm, asciiUpper_eq_iff (upper mechanism), Bool.not_eq_true]

/-! ### Flags -/

def flagOnWords : List String := ["true", "1", "yes"]

def flagOffWords : List String := ["false", "0", "no"]

def flagWord (lookup : Lookup) (name : String) : Option String :=
  (lookup.effective name).map fun value => asciiLower (trimBlank value)

def flagOn (lookup : Lookup) (name : String) : Bool :=
  (flagWord lookup name).any (· ∈ flagOnWords)

def flagIssues (lookup : Lookup) (name : String) : List Issue :=
  (lookup.effective name).elim [] fun value =>
    if asciiLower (trimBlank value) ∈ flagOnWords ++ flagOffWords then []
    else [.invalidFlag name value]

theorem readFlag_eq (lookup : Lookup) (name : String) :
    readFlag lookup name = (flagOn lookup name, flagIssues lookup name) := by
  unfold readFlag
  cases looked : lookup.effective name with
  | none => simp [flagOn, flagWord, flagIssues, looked]
  | some value =>
    simp only [flagOn, flagWord, flagIssues, looked]
    split <;> simp_all [flagOnWords, flagOffWords]

/-! ### The issues, from the settings and the lookup -/

def brokersIssues (lookup : Lookup) (settings : ClientSettings) : List Issue :=
  if settings.brokers = [] ∧ (lookup.effective brokersVariable).all (brokerList · = []) then
    [.missingBrokers]
  else []

def mechanismIssues (lookup : Lookup) (settings : ClientSettings) : List Issue :=
  (lookup.effective mechanismVariable).elim [] fun text =>
    if settings.sasl = none ∧ (lookup.effective usernameVariable).isSome ∧
        ∀ name ∈ Mechanism.names, sameUpToAsciiCase text name = false then
      [.unknownSaslMechanism text]
    else []

def effectiveCredentials (lookup : Lookup) (settings : ClientSettings) :
    Option (String × String) :=
  settings.sasl.elim
    ((lookup.effective usernameVariable).map fun username =>
      (username, (lookup.effective passwordVariable).getD ""))
    fun sasl => some (sasl.username, sasl.password)

def credentialsIssues (lookup : Lookup) (settings : ClientSettings) : List Issue :=
  (effectiveCredentials lookup settings).elim [] fun credentials =>
    (if credentials.1 = "" then [.missingSaslUsername] else []) ++
      (if credentials.2 = "" then [.missingSaslPassword] else [])

def transportIssues (lookup : Lookup) (settings : ClientSettings) : List Issue :=
  if settings.plaintext ∧ settings.tls.isSome then [.plaintextWithTls]
  else if settings.plaintext = false ∧ settings.tls = none then
    flagIssues lookup plaintextVariable ++
      (if flagOn lookup plaintextVariable then [] else flagIssues lookup tlsInsecureVariable)
  else []

def certificateIssues (lookup : Lookup) (settings : ClientSettings) : List Issue :=
  if settings.tls.elim
      (!settings.plaintext && !flagOn lookup plaintextVariable &&
        (lookup.effective certPathVariable).isSome != (lookup.effective keyPathVariable).isSome)
      fun tls => tls.certPath.isSome != tls.keyPath.isSome then
    [.incompleteClientCertificate]
  else []

/-- Every issue of finalizing, in the order they are checked. -/
def expectedIssues (lookup : Lookup) (settings : ClientSettings) : List Issue :=
  brokersIssues lookup settings ++ mechanismIssues lookup settings ++
    credentialsIssues lookup settings ++ transportIssues lookup settings ++
    certificateIssues lookup settings

/-! ### The looked-up sections -/

theorem lookedUpSasl_snd {lookup : Lookup} :
    (lookedUpSasl lookup).2 =
      if (lookup.effective usernameVariable).isSome then
        (lookup.effective mechanismVariable).elim [] fun text =>
          if Mechanism.parse? text = none then [.unknownSaslMechanism text] else []
      else [] := by
  unfold lookedUpSasl
  cases username : lookup.effective usernameVariable with
  | none => rfl
  | some name =>
    cases mechanism : lookup.effective mechanismVariable with
    | none => rfl
    | some text => cases parsed : Mechanism.parse? text <;> simp [Mechanism.fromText, parsed]

theorem lookedUpSasl_fst_of_some {lookup : Lookup} {username : String}
    (set : lookup.effective usernameVariable = some username) :
    ∃ mechanism, (lookedUpSasl lookup).1 =
      some { mechanism, username, password := (lookup.effective passwordVariable).getD "" } := by
  unfold lookedUpSasl
  rw [set]
  exact ⟨_, rfl⟩

theorem lookedUpTls_snd {lookup : Lookup} :
    (lookedUpTls lookup).2 = flagIssues lookup tlsInsecureVariable := by
  show (readFlag lookup tlsInsecureVariable).2 = _
  rw [readFlag_eq]

/-! ### The issues finalizing finds, part by part -/

namespace ClientSettings

variable {lookup : Lookup} {settings : ClientSettings}

theorem finalIssues_eq (brokers : List String) (saslIssues : List Issue)
    (sasl : Option SaslSettings) (explicitBoth : Bool) (transportIssues : List Issue)
    (tls : Option TlsSettings) :
    finalIssues brokers saslIssues sasl explicitBoth transportIssues tls =
      (if brokers.isEmpty then [Issue.missingBrokers] else []) ++ saslIssues ++
        sasl.elim [] (fun given =>
          (if given.username.isEmpty then [Issue.missingSaslUsername] else []) ++
            (if given.password.isEmpty then [Issue.missingSaslPassword] else [])) ++
        (transportIssues ++ (if explicitBoth then [Issue.plaintextWithTls] else [])) ++
        tls.elim [] (fun given =>
          if given.certPath.isSome != given.keyPath.isSome then [Issue.incompleteClientCertificate]
          else []) := by
  cases sasl <;> cases tls <;> simp [finalIssues]

theorem finalBrokers_issues :
    (if (settings.finalBrokers lookup).isEmpty then [Issue.missingBrokers] else []) =
      brokersIssues lookup settings := by
  unfold brokersIssues
  by_cases none : settings.brokers = []
  · rw [finalBrokers_of_nil none]
    cases looked : lookup.effective brokersVariable <;> simp [none, List.isEmpty_iff]
  · rw [finalBrokers_of_ne_nil none]
    simp [none, List.isEmpty_iff]

theorem finalSasl_issues : (settings.finalSasl lookup).2 = mechanismIssues lookup settings := by
  unfold mechanismIssues
  cases present : settings.sasl with
  | some given =>
    rw [finalSasl_of_some present]
    cases lookup.effective mechanismVariable <;> simp
  | none =>
    rw [finalSasl_of_none present, lookedUpSasl_snd]
    cases lookup.effective usernameVariable <;> cases lookup.effective mechanismVariable <;>
      simp [Mechanism.parse?_eq_none_iff]

theorem finalSasl_credentials_issues :
    (settings.finalSasl lookup).1.elim [] (fun given =>
        (if given.username.isEmpty then [Issue.missingSaslUsername] else []) ++
          (if given.password.isEmpty then [Issue.missingSaslPassword] else [])) =
      credentialsIssues lookup settings := by
  unfold credentialsIssues effectiveCredentials
  cases present : settings.sasl with
  | some given =>
    rw [finalSasl_of_some present]
    simp [String.isEmpty_iff]
  | none =>
    rw [finalSasl_of_none present]
    cases username : lookup.effective usernameVariable with
    | none => simp [lookedUpSasl_of_none username]
    | some name =>
      obtain ⟨mechanism, built⟩ := lookedUpSasl_fst_of_some username
      simp [built, String.isEmpty_iff]

theorem finalTransport_issues :
    (settings.finalTransport lookup).2.2 ++
        (if settings.plaintext && settings.tls.isSome then [Issue.plaintextWithTls] else []) =
      transportIssues lookup settings := by
  unfold transportIssues
  cases plain : settings.plaintext <;> cases given : settings.tls
  · rw [finalTransport_of_unset plain given, readFlag_eq, lookedUpTls_snd]
    cases flagOn lookup plaintextVariable <;> simp
  · rw [finalTransport_of_set (by simp [given])]
    simp
  · rw [finalTransport_of_set (by simp [plain])]
    simp
  · rw [finalTransport_of_set (by simp [plain])]
    simp

theorem finalTransport_certificate_issues :
    (settings.finalTransport lookup).2.1.elim [] (fun given =>
        if given.certPath.isSome != given.keyPath.isSome then [Issue.incompleteClientCertificate]
        else []) =
      certificateIssues lookup settings := by
  unfold certificateIssues
  cases plain : settings.plaintext <;> cases given : settings.tls
  · rw [finalTransport_of_unset plain given, readFlag_eq]
    cases flagOn lookup plaintextVariable <;> rfl
  · rw [finalTransport_of_set (by simp [given])]
    simp [given]
  · rw [finalTransport_of_set (by simp [plain])]
    simp [given]
  · rw [finalTransport_of_set (by simp [plain])]
    simp [given]

theorem foundIssues_eq_expectedIssues :
    settings.foundIssues lookup = expectedIssues lookup settings := by
  rw [foundIssues, finalIssues_eq, finalBrokers_issues, finalSasl_issues,
    finalSasl_credentials_issues, finalTransport_issues, finalTransport_certificate_issues]
  rfl

end ClientSettings

/-- Finalizing fails exactly when some check finds an issue, with every issue found, in the
order the checks run, and succeeds otherwise. The message of a failure names each issue, the
first after a colon and the others after semicolons. -/
theorem finalizeWith_collects_issues (lookup : Lookup) (settings : ClientSettings) :
    (∀ issues, settings.finalizeWith lookup = .error issues ↔
      issues = expectedIssues lookup settings ∧ issues ≠ []) ∧
    ((∃ final, settings.finalizeWith lookup = .ok final) ↔
      expectedIssues lookup settings = []) ∧
    (expectedIssues lookup settings ≠ [] →
      issuesText (expectedIssues lookup settings) =
        "invalid kafka configuration: " ++
          "; ".intercalate ((expectedIssues lookup settings).map Issue.text)) := by
  refine ⟨fun issues => ?_, ?_, ?_⟩
  · rw [ClientSettings.finalizeWith_eq_error_iff, ClientSettings.foundIssues_eq_expectedIssues,
      eq_comm]
  · constructor
    · rintro ⟨final, finalizedOk⟩
      rw [← ClientSettings.foundIssues_eq_expectedIssues]
      exact (ClientSettings.finalizeWith_eq_ok_iff.mp finalizedOk).1
    · intro noIssues
      refine ⟨settings.finalSettings lookup,
        ClientSettings.finalizeWith_eq_ok_iff.mpr ⟨?_, rfl⟩⟩
      rwa [ClientSettings.foundIssues_eq_expectedIssues]
  · intro nonempty
    cases issues : expectedIssues lookup settings with
    | nil => exact absurd issues nonempty
    | cons first rest => rfl

theorem finalizeWith_collects_issues_all :
    ClientSettings.finalizeWith
        (fun name => if name = "KAFKA_USERNAME" then some "user"
          else if name = "KAFKA_SASL_MECHANISM" then some "GSSAPI"
          else if name = "KAFKA_TLS_CERT_PATH" then some "/etc/kafka/tls.crt"
          else if name = "KAFKA_TLS_INSECURE" then some "maybe" else none) {} =
      .error [.missingBrokers, .unknownSaslMechanism "GSSAPI", .missingSaslPassword,
        .invalidFlag "KAFKA_TLS_INSECURE" "maybe", .incompleteClientCertificate] :=
  ((finalizeWith_collects_issues _ {}).1 _).mpr ⟨by decide, by decide⟩

end Settings

end TopicLifecycle
