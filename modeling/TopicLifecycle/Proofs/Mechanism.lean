import TopicLifecycle.Proofs.Issues
import TopicLifecycle.Proofs.Document
import TopicLifecycle.Proofs.Flatten

/-!
Reading a SASL mechanism from text, and its spelling in a settings document.
-/

namespace TopicLifecycle

namespace Text

theorem toUpper_toLower (character : Char) : character.toLower.toUpper = character.toUpper := by
  rw [← Char.toNat_inj, toNat_toUpper, toNat_toUpper, toNat_toLower]
  split_ifs <;> omega

theorem asciiUpper_eq_of_sameUpToAsciiCase {text other : String}
    (same : sameUpToAsciiCase text other = true) : asciiUpper text = asciiUpper other := by
  have lower : text.toList.map Char.toLower = other.toList.map Char.toLower := by
    simpa [sameUpToAsciiCase, asciiLower, ← String.toList_inj] using same
  have throughLower : ∀ characters : List Char,
      characters.map Char.toUpper = (characters.map Char.toLower).map Char.toUpper := by
    intro characters
    simp only [List.map_map, Function.comp_def, toUpper_toLower]
  rw [asciiUpper, asciiUpper, throughLower text.toList, throughLower other.toList, lower]

theorem isAlphanum_iff_toNat (character : Char) :
    character.isAlphanum = true ↔
      (65 ≤ character.toNat ∧ character.toNat ≤ 90) ∨ (97 ≤ character.toNat ∧ character.toNat ≤ 122) ∨
        (48 ≤ character.toNat ∧ character.toNat ≤ 57) := by
  change (decide (character.val ≥ 'A'.val ∧ character.val ≤ 'Z'.val) ||
    (character.val ≥ 'a'.val && character.val ≤ 'z'.val) ||
    (character.val ≥ '0'.val && character.val ≤ '9'.val)) = true ↔ _
  simp only [Bool.or_eq_true, Bool.and_eq_true, decide_eq_true_eq, ge_iff_le,
    UInt32.le_iff_toNat_le, Char.toNat_val, Char.reduceToNat, or_assoc]

theorem isAlphanum_toUpper (character : Char) :
    character.toUpper.isAlphanum = character.isAlphanum := by
  have upper := toNat_toUpper character
  rw [Bool.eq_iff_iff, isAlphanum_iff_toNat, isAlphanum_iff_toNat]
  split_ifs at upper <;> omega

theorem toUpper_eq_dash_iff {character : Char} : character.toUpper = '-' ↔ character = '-' := by
  rw [← Char.toNat_inj, ← Char.toNat_inj, toNat_toUpper]
  simp only [Char.reduceToNat]
  split_ifs <;> omega

end Text

namespace Settings

open Text Json Decode

namespace Mechanism

theorem ofName?_eq_some_iff {text : String} {mechanism : Mechanism} :
    ofName? text = some mechanism ↔ mechanism.name = text := by
  constructor
  · intro found
    simpa using List.find?_some found
  · rintro rfl
    exact ofName?_name mechanism

theorem parse?_eq_some_iff {text : String} {mechanism : Mechanism} :
    parse? text = some mechanism ↔ asciiUpper text = mechanism.name := by
  rw [parse?, ofName?_eq_some_iff, eq_comm]

theorem fromText_eq_ok_iff {text : String} {mechanism : Mechanism} :
    fromText text = .ok mechanism ↔ asciiUpper text = mechanism.name := by
  rw [← parse?_eq_some_iff, fromText]
  cases parse? text <;> simp

theorem fromText_of_unnamed {text : String}
    (unnamed : ∀ mechanism : Mechanism, asciiUpper text ≠ mechanism.name) :
    fromText text = .error (.unknownSaslMechanism text) := by
  have nothing : parse? text = none := by
    cases parsed : parse? text with
    | none => rfl
    | some mechanism => exact absurd (parse?_eq_some_iff.mp parsed) (unnamed mechanism)
  rw [fromText, nothing]

theorem name_characters (mechanism : Mechanism) :
    ∀ character ∈ mechanism.name.toList,
      character.toUpper = character ∧ (character.isAlphanum ∨ character = '-') := by
  have checked : (mechanism.name.toList.all fun character =>
      character.toUpper == character && (character.isAlphanum || character == '-')) = true := by
    cases mechanism <;> rfl
  simpa using checked

theorem fromText_name (mechanism : Mechanism) : fromText mechanism.name = .ok mechanism := by
  rw [fromText_eq_ok_iff, asciiUpper_eq_iff fun letter member => (name_characters mechanism letter member).1,
    sameUpToAsciiCase, beq_self_eq_true]

theorem characters_of_fromText {text : String} {mechanism : Mechanism}
    (read : fromText text = .ok mechanism) :
    ∀ character ∈ text.toList, character.isAlphanum ∨ character = '-' := by
  intro character member
  have upper : character.toUpper ∈ mechanism.name.toList := by
    rw [← fromText_eq_ok_iff.mp read, asciiUpper, String.toList_ofList]
    exact List.mem_map_of_mem member
  rw [← isAlphanum_toUpper, ← toUpper_eq_dash_iff]
  exact (name_characters mechanism _ upper).2

end Mechanism

theorem SaslSettings.toDocument_mechanism (sasl : SaslSettings) :
    sasl.toDocument.field? "mechanism" = some (.string sasl.mechanism.name) :=
  Value.field?_of_mem (by simp [SaslSettings.members])
    (SaslSettings.mem_members.mpr (.inl ⟨rfl, rfl⟩))

theorem decodeMechanism_string_eq_ok_iff {source : Source} {text : String}
    {mechanism : Mechanism} :
    decodeMechanism source (.string text) = .ok mechanism ↔ text = mechanism.name := by
  have named : text = mechanism.name ↔ Mechanism.ofName? text = some mechanism := by
    rw [Mechanism.ofName?_eq_some_iff, eq_comm]
  rw [named]
  cases source <;> cases found : Mechanism.ofName? text <;>
    simp [decodeMechanism, mechanismVariant, environmentMechanism, found]

/-- Reading a mechanism from text: a text names the mechanism whose name is its ASCII upper
case, and otherwise is reported as given; texts that differ in ASCII case name the same
mechanism; a text that names one holds no blank and no character outside ASCII; every name
reads as its mechanism, and it is the spelling a document is written and read with. -/
theorem Mechanism.fromText_reads_names :
    (∀ text mechanism, Mechanism.fromText text = .ok mechanism ↔ asciiUpper text = mechanism.name) ∧
    (∀ text, (∀ mechanism : Mechanism, asciiUpper text ≠ mechanism.name) →
      Mechanism.fromText text = .error (.unknownSaslMechanism text)) ∧
    (∀ text other mechanism, sameUpToAsciiCase text other = true →
      (Mechanism.fromText text = .ok mechanism ↔ Mechanism.fromText other = .ok mechanism)) ∧
    (∀ text mechanism, Mechanism.fromText text = .ok mechanism →
      ∀ character ∈ text.toList, character.isAlphanum ∨ character = '-') ∧
    (∀ mechanism : Mechanism, Mechanism.fromText mechanism.name = .ok mechanism) ∧
    (∀ sasl : SaslSettings, sasl.toDocument.field? "mechanism" = some (.string sasl.mechanism.name)) ∧
    (∀ source text mechanism,
      decodeMechanism source (.string text) = .ok mechanism ↔ text = mechanism.name) := by
  refine ⟨fun _ _ => Mechanism.fromText_eq_ok_iff, fun _ unnamed => Mechanism.fromText_of_unnamed unnamed,
    ?_, fun _ _ read => Mechanism.characters_of_fromText read, Mechanism.fromText_name,
    SaslSettings.toDocument_mechanism, fun _ _ _ => decodeMechanism_string_eq_ok_iff⟩
  intro text other mechanism same
  rw [Mechanism.fromText_eq_ok_iff, Mechanism.fromText_eq_ok_iff,
    asciiUpper_eq_of_sameUpToAsciiCase same]

end Settings

end TopicLifecycle
