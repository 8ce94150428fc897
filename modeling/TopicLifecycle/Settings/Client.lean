import TopicLifecycle.Settings.Mechanism
import TopicLifecycle.Text.Blank
import TopicLifecycle.Text.Quoted

/-!
Client settings for a broker connection, and the broker list of the bootstrap servers.
-/

namespace TopicLifecycle.Settings

structure TlsSettings where
  caCertPath : Option String := none
  certPath : Option String := none
  keyPath : Option String := none
  insecureSkipVerify : Bool := false
deriving DecidableEq, Repr

structure SaslSettings where
  mechanism : Mechanism := .plain
  username : String
  password : String
deriving DecidableEq, Repr

/-- Extra properties: a map, its entries listed with keys strictly ascending. -/
@[ext]
structure Properties where
  entries : List (String × String)
  ascending : entries.Pairwise fun first second => first.1 < second.1
deriving DecidableEq, Repr

namespace Properties

def empty : Properties := ⟨[], .nil⟩

instance : Membership (String × String) Properties where
  mem properties entry := entry ∈ properties.entries

/-- The entries with `key` set to `value`, before the first greater key or in place of an equal
one. -/
def insertEntry (key value : String) : List (String × String) → List (String × String)
  | [] => [(key, value)]
  | (existing, old) :: rest =>
    if key < existing then (key, value) :: (existing, old) :: rest
    else if key = existing then (key, value) :: rest
    else (existing, old) :: insertEntry key value rest

theorem mem_insertEntry {key value : String} {entries : List (String × String)}
    {entry : String × String} (member : entry ∈ insertEntry key value entries) :
    entry = (key, value) ∨ entry ∈ entries := by
  induction entries with
  | nil => simpa [insertEntry] using member
  | cons first rest ih =>
    obtain ⟨existing, old⟩ := first
    unfold insertEntry at member
    by_cases below : key < existing
    · rw [if_pos below] at member
      exact List.mem_cons.mp member
    · by_cases same : key = existing
      · rw [if_neg below, if_pos same] at member
        exact (List.mem_cons.mp member).imp_right (List.mem_cons_of_mem _)
      · rw [if_neg below, if_neg same] at member
        rcases List.mem_cons.mp member with rfl | later
        · exact .inr List.mem_cons_self
        · exact (ih later).imp_right (List.mem_cons_of_mem _)

theorem insertEntry_ascending {key value : String} {entries : List (String × String)}
    (ascending : entries.Pairwise fun first second => first.1 < second.1) :
    (insertEntry key value entries).Pairwise fun first second => first.1 < second.1 := by
  induction entries with
  | nil => exact List.pairwise_singleton _ _
  | cons entry rest ih =>
    obtain ⟨existing, old⟩ := entry
    have later := List.pairwise_cons.mp ascending
    unfold insertEntry
    by_cases below : key < existing
    · rw [if_pos below]
      refine List.Pairwise.cons ?_ ascending
      intro other member
      rcases List.mem_cons.mp member with rfl | inRest
      · exact below
      · exact String.lt_trans below (later.1 other inRest)
    · by_cases same : key = existing
      · rw [if_neg below, if_pos same]
        subst same
        exact List.Pairwise.cons later.1 later.2
      · rw [if_neg below, if_neg same]
        have above : existing < key := by
          have atMost := String.not_lt.mp below
          grind
        refine List.Pairwise.cons ?_ (ih later.2)
        intro other member
        rcases mem_insertEntry member with rfl | inRest
        · exact above
        · exact later.1 other inRest

def insert (key value : String) (properties : Properties) : Properties :=
  ⟨insertEntry key value properties.entries, insertEntry_ascending properties.ascending⟩

theorem mem_iff {properties : Properties} {entry : String × String} :
    entry ∈ properties ↔ entry ∈ properties.entries := Iff.rfl

@[simp] theorem entries_insert (key value : String) (properties : Properties) :
    (properties.insert key value).entries = insertEntry key value properties.entries := rfl

theorem mem_insert {key value : String} {properties : Properties} {entry : String × String}
    (member : entry ∈ properties.insert key value) : entry = (key, value) ∨ entry ∈ properties :=
  mem_insertEntry member

theorem ne_empty_of_mem {properties : Properties} {entry : String × String}
    (member : entry ∈ properties) : properties ≠ .empty := by
  rintro rfl
  exact List.not_mem_nil member

/-- The properties of a list of entries, a later entry replacing an earlier one of its key. -/
def ofList (entries : List (String × String)) : Properties :=
  entries.foldl (fun properties entry => properties.insert entry.1 entry.2) .empty

def lookup (entries : List (String × String)) (key : String) : Option String :=
  (entries.find? fun entry => entry.1 = key).map Prod.snd

def get? (properties : Properties) (key : String) : Option String :=
  lookup properties.entries key

end Properties

def dotted (key : String) : String :=
  String.ofList (key.toList.map fun character => if character = '_' then '.' else character)

def splitCommas : List Char → List (List Char)
  | [] => [[]]
  | ',' :: rest => [] :: splitCommas rest
  | character :: rest =>
    match splitCommas rest with
    | first :: others => (character :: first) :: others
    | [] => [[character]]

/-- The entries of a comma-separated list: trimmed, empty ones dropped. -/
def brokerList (text : String) : List String :=
  ((splitCommas text.toList).map Text.trimBlankList |>.filter (· ≠ [])).map String.ofList

structure ClientSettings where
  bootstrapServers : String := ""
  clientId : Option String := none
  plaintext : Bool := false
  tls : Option TlsSettings := none
  sasl : Option SaslSettings := none
  properties : Properties := .empty
deriving DecidableEq, Repr

namespace ClientSettings

def brokers (settings : ClientSettings) : List String := brokerList settings.bootstrapServers

/-- The security protocol: TLS and SASL by whether their sections are present. -/
def securityProtocol (settings : ClientSettings) : String :=
  match settings.tls.isSome, settings.sasl.isSome with
  | false, false => "PLAINTEXT"
  | true, false => "SSL"
  | false, true => "SASL_PLAINTEXT"
  | true, true => "SASL_SSL"

def translate (settings : ClientSettings) : ClientSettings :=
  { settings with
    properties :=
      Properties.ofList (settings.properties.entries.map fun (key, value) => (dotted key, value)) }

def dottedKeysCollide (settings : ClientSettings) : Bool :=
  let keys := settings.properties.entries.map fun (key, _) => dotted key
  keys.length != keys.eraseDups.length

end ClientSettings

def SaslSettings.debugText (sasl : SaslSettings) : String :=
  "SaslConfig \x7b mechanism: " ++ sasl.mechanism.debugName ++ ", username: " ++
    Text.quoted sasl.username ++ ", password: \"***\" \x7d"

example : brokerList " a , ,b " = ["a", "b"] := by decide

end TopicLifecycle.Settings
