import Mathlib.Data.List.DropRight
import TopicLifecycle.Settings.Client

/-!
The broker list of a bootstrap text is a normal form. Every entry is non-empty, has no blank at
either end and holds no comma; and entries of that kind, joined with commas, are read back as
themselves. So the bootstrap servers written from a broker list name that same list.
-/

namespace TopicLifecycle.Settings

open Text

/-- An entry of a broker list: not empty, no blank first or last character, no comma. -/
structure BrokerEntry (entry : String) : Prop where
  nonempty : entry ≠ ""
  firstNotBlank : ∀ character ∈ entry.toList.head?, isBlank character = false
  lastNotBlank : ∀ character ∈ entry.toList.getLast?, isBlank character = false
  commaFree : ',' ∉ entry.toList

/-! ### Trimming -/

theorem trimBlankList_eq_rdropWhile (characters : List Char) :
    trimBlankList characters = (characters.dropWhile isBlank).rdropWhile isBlank := rfl

theorem trimBlankList_sublist (characters : List Char) :
    (trimBlankList characters).Sublist characters :=
  (List.rdropWhile_prefix _ _).sublist.trans (List.dropWhile_sublist _)

theorem head?_trimBlankList {characters : List Char} :
    ∀ character ∈ (trimBlankList characters).head?, isBlank character = false := by
  intro character first
  rw [trimBlankList_eq_rdropWhile] at first
  obtain ⟨rest, prefixed⟩ := List.rdropWhile_prefix isBlank (characters.dropWhile isBlank)
  have kept : (characters.dropWhile isBlank).head? = some character := by
    rw [← prefixed, List.head?_append, Option.mem_def.mp first]
    rfl
  simpa [kept] using List.head?_dropWhile_not isBlank characters

theorem getLast?_trimBlankList {characters : List Char} :
    ∀ character ∈ (trimBlankList characters).getLast?, isBlank character = false := by
  intro character last
  have nonempty : trimBlankList characters ≠ [] := by
    rintro empty
    simp [empty] at last
  rw [List.getLast?_eq_some_getLast nonempty, Option.mem_some_iff] at last
  subst last
  exact Bool.eq_false_iff.mpr (List.rdropWhile_last_not isBlank _ nonempty)

theorem trimBlankList_of_ends {characters : List Char}
    (first : ∀ character ∈ characters.head?, isBlank character = false)
    (last : ∀ character ∈ characters.getLast?, isBlank character = false) :
    trimBlankList characters = characters := by
  have kept : characters.dropWhile isBlank = characters := by
    cases characters with
    | nil => rfl
    | cons character rest => simpa using first character rfl
  rw [trimBlankList_eq_rdropWhile, kept, List.rdropWhile_eq_self_iff]
  intro nonempty
  simpa using last _ (List.getLast?_eq_some_getLast nonempty)

/-! ### Splitting at commas -/

theorem splitCommas_cons {character : Char} (notComma : character ≠ ',') {rest first : List Char}
    {others : List (List Char)} (split : splitCommas rest = first :: others) :
    splitCommas (character :: rest) = (character :: first) :: others := by
  rw [splitCommas, split]
  exact notComma

theorem comma_not_mem_of_mem_splitCommas {piece characters : List Char}
    (member : piece ∈ splitCommas characters) : ',' ∉ piece := by
  fun_induction splitCommas characters generalizing piece with
  | case1 => simp_all
  | case2 rest ih =>
    rcases List.mem_cons.mp member with rfl | later
    · simp
    · exact ih later
  | case3 character rest notComma first others split ih =>
    rcases List.mem_cons.mp member with rfl | later
    · have firstFree := ih (split ▸ List.mem_cons_self)
      simp only [List.mem_cons, not_or]
      exact ⟨Ne.symm notComma, firstFree⟩
    · exact ih (split ▸ List.mem_cons_of_mem first later)
  | case4 character rest notComma =>
    simp only [List.mem_singleton] at member
    subst member
    simpa using Ne.symm notComma

theorem splitCommas_append_comma {piece : List Char} (commaFree : ',' ∉ piece)
    (rest : List Char) : splitCommas (piece ++ ',' :: rest) = piece :: splitCommas rest := by
  induction piece with
  | nil => simp [splitCommas]
  | cons character piece ih =>
    simp only [List.mem_cons, not_or] at commaFree
    rw [List.cons_append, splitCommas_cons (Ne.symm commaFree.1) (ih commaFree.2)]

theorem splitCommas_of_commaFree {piece : List Char} (commaFree : ',' ∉ piece) :
    splitCommas piece = [piece] := by
  induction piece with
  | nil => rfl
  | cons character piece ih =>
    simp only [List.mem_cons, not_or] at commaFree
    rw [splitCommas_cons (Ne.symm commaFree.1) (ih commaFree.2)]

theorem splitCommas_intercalate {pieces : List (List Char)} (nonempty : pieces ≠ [])
    (commaFree : ∀ piece ∈ pieces, ',' ∉ piece) :
    splitCommas ([','].intercalate pieces) = pieces := by
  induction pieces with
  | nil => exact absurd rfl nonempty
  | cons piece rest ih =>
    cases rest with
    | nil => simpa using splitCommas_of_commaFree (commaFree piece List.mem_cons_self)
    | cons next others =>
      rw [List.intercalate_cons_cons, List.append_assoc, List.singleton_append,
        splitCommas_append_comma (commaFree piece List.mem_cons_self),
        ih (List.cons_ne_nil _ _)
          fun other member => commaFree other (List.mem_cons_of_mem _ member)]

/-! ### Broker lists -/

theorem brokerEntry_of_mem_brokerList {entry text : String} (member : entry ∈ brokerList text) :
    BrokerEntry entry := by
  simp only [brokerList, List.mem_map, List.mem_filter] at member
  obtain ⟨trimmed, ⟨⟨piece, fromText, rfl⟩, nonempty⟩, rfl⟩ := member
  refine ⟨?_, ?_, ?_, ?_⟩
  · intro empty
    have := congrArg String.toList empty
    simp_all
  · simpa [String.toList_ofList] using head?_trimBlankList
  · simpa [String.toList_ofList] using getLast?_trimBlankList
  · rw [String.toList_ofList]
    intro comma
    exact comma_not_mem_of_mem_splitCommas fromText ((trimBlankList_sublist piece).subset comma)

/-- Broker entries joined with commas are read back as themselves. -/
theorem brokerList_intercalate {entries : List String}
    (valid : ∀ entry ∈ entries, BrokerEntry entry) :
    brokerList (",".intercalate entries) = entries := by
  cases entries with
  | nil => rfl
  | cons first rest =>
    have split : splitCommas (",".intercalate (first :: rest)).toList =
        (first :: rest).map String.toList := by
      rw [String.toList_intercalate]
      exact splitCommas_intercalate (by simp)
        (by simpa using fun entry member => (valid entry member).commaFree)
    have trimmed : ((first :: rest).map String.toList).map trimBlankList =
        (first :: rest).map String.toList := by
      simp only [List.map_map]
      refine List.map_congr_left fun entry member => ?_
      exact trimBlankList_of_ends (valid entry member).firstNotBlank
        (valid entry member).lastNotBlank
    have kept : ((first :: rest).map String.toList).filter (· ≠ []) =
        (first :: rest).map String.toList := by
      refine List.filter_eq_self.mpr fun characters mapped => ?_
      obtain ⟨entry, member, rfl⟩ := List.mem_map.mp mapped
      simpa [String.toList_eq_nil_iff] using (valid entry member).nonempty
    rw [brokerList, split, trimmed, kept, List.map_map]
    simp [Function.comp_def, String.ofList_toList]

theorem brokerList_empty : brokerList "" = [] := rfl

theorem intercalate_ne_empty {entries : List String}
    (valid : ∀ entry ∈ entries, BrokerEntry entry)
    (nonempty : entries ≠ []) : ",".intercalate entries ≠ "" := by
  intro empty
  have readBack := brokerList_intercalate valid
  rw [empty, brokerList_empty] at readBack
  exact nonempty readBack.symm

end TopicLifecycle.Settings
