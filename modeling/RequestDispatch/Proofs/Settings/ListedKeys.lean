import RequestDispatch.Proofs.Entries
import RequestDispatch.Proofs.Text.Casing
import RequestDispatch.Proofs.Text.Split
import RequestDispatch.Settings.Environment

/-!
The keys that the variables of a process are listed under. A variable is listed under its name in
lower case with dots, and a key is looked up under its name in upper case with underscores: from a
name both ways lead to the name in capitals (`variable_name_of_key`). So a listed key is found
exactly if there is a variable with the name in capitals (`listed_keys_resolve`), which need not be
the variable that is listed.
-/

namespace RequestDispatch

/-- A character of a name in capitals: dots and dashes are underscores, and all else is the upper
case of its lower case. -/
def capitals (character : Char) : List Char :=
  if character = '.' ∨ character = '-' then ['_']
  else (Text.lowerChar character).flatMap Text.upperChar

def inCapitals (name : String) : String := String.ofList (name.toList.flatMap capitals)

/-- The text that a variable is kept as begins with a name and an equals sign. -/
def Answers (kept : String × String) (name : String) : Prop :=
  ∃ rest : String, kept.1 ++ "=" ++ kept.2 = name ++ "=" ++ rest

/-! Names in capitals. -/

def raised (character : Char) : List Char :=
  Text.upperChar (if character = '.' ∨ character = '-' then '_' else character)

theorem variable_name_toList (beginning key : String) :
    (variableName beginning key).toList = beginning.toList ++ key.toList.flatMap raised := by
  simp only [variableName, Text.upper, String.toList_append, String.toList_ofList, List.flatMap_map]
  rfl

theorem raised_dotted (character : Char) :
    raised (if character = '_' then '.' else character) = raised character := by
  split
  · next underscore =>
    subst underscore
    decide
  · rfl

theorem raised_lower (character : Char) :
    (Text.lowerChar character).flatMap raised = capitals character := by
  unfold capitals
  split
  · next separator => rcases separator with rfl | rfl <;> decide
  · next other =>
    rw [not_or] at other
    apply List.flatMap_congr
    intro lowered member
    have stays : lowered ≠ '.' ∧ lowered ≠ '-' := by
      rcases Text.lower_char_beyond_signs member with rfl | beyond
      · exact other
      · constructor <;>
        · rintro rfl
          exact absurd beyond (by decide)
    rw [raised, if_neg (not_or.2 stays)]

/-- The key of a variable is looked up under the name of the variable in capitals. -/
theorem variable_name_of_key (beginning rest : String) :
    variableName beginning (variableKey rest) = beginning ++ inCapitals rest := by
  have sigmas : raised 'ς' = raised 'σ' := by decide +kernel
  apply String.toList_injective
  rw [variable_name_toList, variableKey, Text.lower]
  simp only [inCapitals, String.toList_append, String.toList_ofList, List.flatMap_map,
    raised_dotted]
  rw [Text.flatMap_lowerFrom sigmas]
  simp only [raised_lower]

theorem capitals_ne_nil (character : Char) : capitals character ≠ [] := by
  unfold capitals
  split
  · simp
  · intro nothing
    obtain ⟨lowered, rest, found⟩ := List.exists_cons_of_ne_nil (Text.lower_char_ne_nil character)
    rw [found, List.flatMap_cons, List.append_eq_nil_iff] at nothing
    exact Text.upper_char_ne_nil lowered nothing.1

theorem equals_sign_of_capitals {character : Char} (member : '=' ∈ capitals character) :
    character = '=' := by
  unfold capitals at member
  split at member
  · exact absurd member (by decide)
  · obtain ⟨lowered, changed, raised⟩ := List.mem_flatMap.1 member
    have sign : '=' = lowered :=
      (Text.upper_char_beyond_signs raised).resolve_right (by decide)
    subst sign
    exact ((Text.lower_char_beyond_signs changed).resolve_right (by decide)).symm

theorem equals_sign_not_mem_capitals {name : String} (plain : '=' ∉ name.toList) :
    '=' ∉ (inCapitals name).toList := by
  rw [inCapitals, String.toList_ofList]
  intro member
  obtain ⟨character, written, capital⟩ := List.mem_flatMap.1 member
  exact plain (equals_sign_of_capitals capital ▸ written)

theorem capitals_ascii : ∀ code < 0x80, capitals (Char.ofNat code) = [Char.ofNat code] ↔
    Char.ofNat code ≠ '.' ∧ Char.ofNat code ≠ '-' ∧ ¬ (97 ≤ code ∧ code ≤ 122) := by
  decide +kernel

theorem in_capitals_ascii {name : String}
    (ascii : ∀ character ∈ name.toList, character.toNat < 0x80) :
    inCapitals name = name ↔ ∀ character ∈ name.toList,
      character ≠ '.' ∧ character ≠ '-' ∧ ¬ (97 ≤ character.toNat ∧ character.toNat ≤ 122) := by
  have characters : inCapitals name = name ↔ name.toList.flatMap capitals = name.toList := by
    rw [← String.toList_inj, inCapitals, String.toList_ofList]
  rw [characters, Text.flatMap_eq_self_iff capitals_ne_nil]
  apply forall₂_congr
  intro character member
  simpa only [Char.ofNat_toNat] using capitals_ascii character.toNat (ascii character member)

/-! Variables of a process. -/

theorem drop_kept_eq_some {kept : String × String} {name value : String} :
    (Text.dropBeginning (name ++ "=").toList (kept.1 ++ "=" ++ kept.2).toList).map String.ofList =
        some value ↔
      kept.1 ++ "=" ++ kept.2 = name ++ "=" ++ value := by
  rw [Option.map_eq_some_iff]
  constructor
  · rintro ⟨rest, found, rfl⟩
    apply String.toList_injective
    rw [Text.dropBeginning_eq_some.1 found]
    simp
  · intro same
    refine ⟨value.toList, ?_, String.ofList_toList⟩
    rw [Text.dropBeginning_eq_some, same, String.toList_append]

theorem look_up_cons (kept : String × String) (process : Entries String) (name : String) :
    lookUp? (kept :: process) name =
      ((Text.dropBeginning (name ++ "=").toList (kept.1 ++ "=" ++ kept.2).toList).map
        String.ofList).or (lookUp? process name) := by
  rw [lookUp?, List.findSome?_cons]
  dsimp only
  split
  · next found => rw [found, Option.some_or]
  · next passed =>
    rw [passed, Option.none_or]
    rfl

theorem look_up_isSome {process : Entries String} {name : String} :
    (lookUp? process name).isSome ↔ ∃ kept ∈ process, Answers kept name := by
  rw [lookUp?, List.findSome?_isSome_iff]
  apply exists_congr
  intro kept
  apply and_congr_right
  intro _
  rw [Option.isSome_iff_exists]
  exact exists_congr fun value => drop_kept_eq_some

/-- Names without an equals sign are told apart by the text that a variable is kept as. -/
theorem kept_eq_iff {own value name rest : String} (plain : '=' ∉ own.toList)
    (simple : '=' ∉ name.toList) :
    own ++ "=" ++ value = name ++ "=" ++ rest ↔ own = name ∧ value = rest := by
  constructor
  · intro same
    have characters : own.toList ++ '=' :: value.toList = name.toList ++ '=' :: rest.toList := by
      simpa using congrArg String.toList same
    have divided := Text.splitOnce_append simple rest.toList
    rw [← characters, Text.splitOnce_append plain] at divided
    simpa [String.toList_inj] using divided
  · rintro ⟨rfl, rfl⟩
    rfl

theorem look_up_plain {process : Entries String} (plain : ∀ own ∈ process.keys, '=' ∉ own.toList)
    {name : String} (simple : '=' ∉ name.toList) : lookUp? process name = process.get? name := by
  induction process with
  | nil => rfl
  | cons kept process ih =>
      have first : '=' ∉ kept.1.toList := plain kept.1 List.mem_cons_self
      have others := ih fun own member => plain own (List.mem_cons_of_mem kept.1 member)
      rw [look_up_cons, Entries.get_cons, others]
      by_cases same : name = kept.1
      · rw [if_pos same, drop_kept_eq_some.2 ((kept_eq_iff first simple).2 ⟨same.symm, rfl⟩),
          Option.some_or]
      · have passed : (Text.dropBeginning (name ++ "=").toList
            (kept.1 ++ "=" ++ kept.2).toList).map String.ofList = none := by
          rw [Option.eq_none_iff_forall_ne_some]
          intro value found
          have named := (kept_eq_iff first simple).1 (drop_kept_eq_some.1 found)
          exact same named.1.symm
        rw [if_neg same, passed, Option.none_or]

namespace PropertySource

variable {beginning : String} {process : Entries String}

theorem mem_variable_keys {key : String} :
    key ∈ (ofVariables beginning process).keys ↔
      ∃ rest, beginning ++ rest ∈ process.keys ∧ key = variableKey rest := by
  simp only [ofVariables, keys, List.mem_filterMap]
  constructor
  · rintro ⟨name, listed, found⟩
    obtain ⟨rest, divided, rfl⟩ := Option.map_eq_some_iff.1 found
    refine ⟨String.ofList rest, ?_, rfl⟩
    have whole : name = beginning ++ String.ofList rest := by
      apply String.toList_injective
      simpa using Text.dropBeginning_eq_some.1 divided
    exact whole ▸ listed
  · rintro ⟨rest, listed, rfl⟩
    have divided : Text.dropBeginning beginning.toList (beginning ++ rest).toList =
        some rest.toList := by
      rw [Text.dropBeginning_eq_some, String.toList_append]
    refine ⟨beginning ++ rest, listed, ?_⟩
    rw [divided, Option.map_some, String.ofList_toList]

theorem get_variable_key (rest : String) :
    (ofVariables beginning process).get? (variableKey rest) =
      (lookUp? process (beginning ++ inCapitals rest)).map .text := by
  rw [← variable_name_of_key]
  rfl

theorem resolves_iff_answers (rest : String) :
    ((ofVariables beginning process).get? (variableKey rest)).isSome ↔
      ∃ kept ∈ process, Answers kept (beginning ++ inCapitals rest) := by
  rw [get_variable_key, Option.isSome_map, look_up_isSome]

section

variable (plain : ∀ name ∈ process.keys, '=' ∉ name.toList) {rest : String}
  (listed : beginning ++ rest ∈ process.keys)

include plain listed

theorem get_plain_key :
    (ofVariables beginning process).get? (variableKey rest) =
      (process.get? (beginning ++ inCapitals rest)).map .text := by
  have divided := plain _ listed
  rw [String.toList_append, List.mem_append, not_or] at divided
  have simple : '=' ∉ (beginning ++ inCapitals rest).toList := by
    rw [String.toList_append, List.mem_append, not_or]
    exact ⟨divided.1, equals_sign_not_mem_capitals divided.2⟩
  rw [get_variable_key, look_up_plain plain simple]

theorem plain_key_resolves :
    ((ofVariables beginning process).get? (variableKey rest)).isSome ↔
      beginning ++ inCapitals rest ∈ process.keys := by
  rw [get_plain_key plain listed, Option.isSome_map, Option.isSome_iff_ne_none, ne_eq,
    Entries.get_eq_none_iff, not_not]

end

/-- The keys of a process are the names of its variables in lower case with dots. Such a key is
looked up under the name of its variable in capitals: it is found exactly if there is a variable of
that name, and so if the name is in capitals itself, which for ASCII characters means that it has no
small letter, no dot and no dash. Where no name has an equals sign in it, the value is that of the
variable with the name in capitals, and all listed keys are found exactly if every variable has such
a one beside it. -/
theorem listed_keys_resolve (beginning : String) (process : Entries String) :
    let source := ofVariables beginning process
    (∀ key, key ∈ source.keys ↔
      ∃ rest, beginning ++ rest ∈ process.keys ∧ key = variableKey rest) ∧
    (∀ rest, variableName beginning (variableKey rest) = beginning ++ inCapitals rest) ∧
    (∀ rest, (source.get? (variableKey rest)).isSome ↔
      ∃ kept ∈ process, Answers kept (beginning ++ inCapitals rest)) ∧
    (∀ rest, beginning ++ rest ∈ process.keys → inCapitals rest = rest →
      (source.get? (variableKey rest)).isSome) ∧
    (∀ rest : String, (∀ character ∈ rest.toList, character.toNat < 0x80) →
      (inCapitals rest = rest ↔ ∀ character ∈ rest.toList, character ≠ '.' ∧ character ≠ '-' ∧
        ¬ (97 ≤ character.toNat ∧ character.toNat ≤ 122))) ∧
    ((∀ name ∈ process.keys, '=' ∉ name.toList) →
      (∀ rest, beginning ++ rest ∈ process.keys → source.get? (variableKey rest) =
        (process.get? (beginning ++ inCapitals rest)).map .text) ∧
      ((∀ key ∈ source.keys, (source.get? key).isSome) ↔ ∀ rest,
        beginning ++ rest ∈ process.keys → beginning ++ inCapitals rest ∈ process.keys)) := by
  refine ⟨fun _ => mem_variable_keys, variable_name_of_key beginning, resolves_iff_answers, ?_,
    fun _ => in_capitals_ascii, fun plain => ⟨fun _ => get_plain_key plain, ?_⟩⟩
  · intro rest listed capital
    obtain ⟨kept, member, name⟩ := List.mem_map.1 listed
    rw [resolves_iff_answers, capital]
    exact ⟨kept, member, kept.2, by rw [name]⟩
  · constructor
    · intro all rest listed
      have found := all (variableKey rest) (mem_variable_keys.2 ⟨rest, listed, rfl⟩)
      exact (plain_key_resolves plain listed).1 found
    · intro all key member
      obtain ⟨rest, listed, rfl⟩ := mem_variable_keys.1 member
      exact (plain_key_resolves plain listed).2 (all rest listed)

/-- Beside a variable in capitals, one in small letters with the same key. -/
theorem capitals_resolve :
    let process := [("APP_SERVER_PORT", "80"), ("APP_server_port", "81")]
    let source := ofVariables "APP_" process
    (∀ name ∈ Entries.keys process, '=' ∉ name.toList) ∧
      "APP_" ++ "SERVER_PORT" ∈ Entries.keys process ∧ inCapitals "SERVER_PORT" = "SERVER_PORT" ∧
      source.keys = ["server.port", "server.port"] ∧
      variableKey "SERVER_PORT" = "server.port" ∧ variableKey "server_port" = "server.port" ∧
      (source.get? (variableKey "SERVER_PORT")).isSome ∧
      source.get? (variableKey "server_port") = some (.text "80") := by
  intro process source
  obtain ⟨-, -, -, resolves, ascii, values⟩ := listed_keys_resolve "APP_" process
  have plain : ∀ name ∈ Entries.keys process, '=' ∉ name.toList := by decide
  have listed : "APP_" ++ "SERVER_PORT" ∈ Entries.keys process := by decide
  have capital : inCapitals "SERVER_PORT" = "SERVER_PORT" :=
    (ascii "SERVER_PORT" (by simp)).2 (by simp)
  refine ⟨plain, listed, capital, by decide +kernel, by decide +kernel, by decide +kernel,
    resolves _ listed capital, ?_⟩
  have value := (values plain).1 "server_port" (by decide)
  have other : inCapitals "server_port" = "SERVER_PORT" := by decide +kernel
  rw [value, other]
  rfl

/-- A variable in small letters is listed under a key that is not found. -/
theorem small_letters_unresolved :
    let source := ofVariables "APP_" [("APP_port", "80")]
    "port" ∈ source.keys ∧ (source.get? "port").isSome = false := by
  constructor <;> decide +kernel

end PropertySource
end RequestDispatch
