import RequestDispatch.Json.Basic
import RequestDispatch.Proofs.Entries
import RequestDispatch.Proofs.Except
import RequestDispatch.Proofs.Value.Insertion
import RequestDispatch.Proofs.Value.NaturalOrder
import RequestDispatch.Value.Native

/-!
Readers of maps by text. A map tells its keys apart as values, but it is read by their texts: the
look-up takes the first entry whose key has a text, while a native table and the JSON of the map
keep the last one. All of them take the same entry exactly if no two keys with this text are kept
(`map_readers`).
-/

namespace RequestDispatch

theorem at_places {α : Type} (test : α → Bool) (items : List α) :
    (items.findIdxs test).map (fun place => items[place]?) = (items.filter test).map some := by
  induction items with
  | nil => rfl
  | cons item items ih =>
      have later : (items.findIdxs test 1).map (fun place => (item :: items)[place]?) =
          (items.filter test).map some := by
        rw [List.findIdxs_start, List.map_map, ← ih]
        rfl
      rw [List.findIdxs_cons, List.filter_cons]
      split
      · exact congrArg (some item :: ·) later
      · exact later

theorem bind_of_map {α β : Type} {place : Option α} {find : α → Option β} {found : Option β}
    (same : place.map find = found.map some) : place.bind find = found := by
  cases place <;> cases found <;> simp_all

theorem head_eq_last_iff {places : List Nat} (ascending : places.Pairwise (· < ·)) :
    places.head? = places.getLast? ↔ places.length ≤ 1 := by
  match places with
  | [] => simp
  | [place] => simp
  | first :: second :: rest =>
      have filled := List.cons_ne_nil second rest
      have behind := (List.pairwise_cons.1 ascending).1 _ (List.getLast_mem filled)
      rw [List.head?_cons, List.getLast?_cons_cons, List.getLast?_eq_some_getLast filled]
      simp [behind.ne]

namespace Value

/-- The places of the entries whose keys have this text. -/
def placesOf (text : String) (entries : List (Value × Value)) : List Nat :=
  entries.findIdxs fun entry => entry.1.display == text

def valueAt (entries : List (Value × Value)) (place : Option Nat) : Option Value :=
  (place.bind fun place => entries[place]?).map Prod.snd

section

variable (text : String) (entries : List (Value × Value))

theorem value_at_first :
    valueAt entries (placesOf text entries).head? =
      (entries.filter fun entry => entry.1.display == text).head?.map Prod.snd := by
  have first := congrArg List.head? (at_places (fun entry => entry.1.display == text) entries)
  rw [List.head?_map, List.head?_map] at first
  exact congrArg (Option.map Prod.snd) (bind_of_map first)

theorem value_at_last :
    valueAt entries (placesOf text entries).getLast? =
      (entries.filter fun entry => entry.1.display == text).getLast?.map Prod.snd := by
  have last := congrArg List.getLast? (at_places (fun entry => entry.1.display == text) entries)
  rw [List.getLast?_map, List.getLast?_map] at last
  exact congrArg (Option.map Prod.snd) (bind_of_map last)

/-- The look-up takes the first of the entries whose keys have the text. -/
theorem map_get_first :
    mapGet? (.map entries) text = valueAt entries (placesOf text entries).head? := by
  rw [value_at_first, mapGet?, List.head?_filter]

/-- What is found under a text in the texts of the keys, each with something made of its value. -/
theorem get_texts {α : Type} (made : Value → α) :
    (Entries.ofList (entries.map fun entry => (entry.1.display, made entry.2))).get? text =
      (valueAt entries (placesOf text entries).getLast?).map made := by
  rw [Entries.get_ofList, value_at_last, List.filter_map, List.getLast?_map, Option.map_map,
    Option.map_map]
  rfl

end

theorem read_texts (form : TableForm) (entries : List (Value × Value)) :
    NativeType.read (.table form .text .dynamic) (.map entries) =
      .ok (.entries (Entries.ofList
        (entries.map fun entry => (entry.1.display, .value entry.2)))) := by
  have each : entries.mapM (fun entry => (do
      return (entry.1.display, ← NativeType.dynamic.read entry.2) :
        Except ValueError (String × Native))) =
      .ok (entries.map fun entry => (entry.1.display, .value entry.2)) :=
    mapM_eq_map fun entry _ => rfl
  rw [NativeType.read, NativeType.readEntries]
  change (entries.mapM fun entry => (do
    return (entry.1.display, ← NativeType.dynamic.read entry.2) :
      Except ValueError (String × Native))).bind _ = _
  rw [each]
  rfl

theorem json_texts (entries : List (Value × Value)) :
    Json.ofValue (.map entries) =
      .object (Entries.ofList
        (entries.map fun entry => (entry.1.display, .ofValue entry.2))) := by
  have each (fields : Entries Json) : Json.ofEntries fields entries =
      (entries.map fun entry => (entry.1.display, Json.ofValue entry.2)).foldl
        (fun fields pair => fields.insert pair.1 pair.2) fields := by
    induction entries generalizing fields with
    | nil => rfl
    | cons entry entries ih => exact ih _
  exact congrArg Json.object (each [])

theorem distinct_shown_once {items : List Value} (text : String)
    (alike : ∀ one ∈ items, ∀ other ∈ items, one.display = other.display →
      one.equal other = true) :
    ((distinct items).filter fun item => item.display == text).length ≤ 1 := by
  have unequal := (distinct_unequal items).filter fun item => item.display == text
  have shown : ∀ item ∈ (distinct items).filter fun item => item.display == text,
      item ∈ items ∧ item.display = text := by
    intro item member
    rw [List.mem_filter, beq_iff_eq, ← dedup_eq_distinct] at member
    exact ⟨(dedup_from_sublist [] [] items).subset member.1, member.2⟩
  generalize (distinct items).filter (fun item => item.display == text) = kept at unequal shown ⊢
  match kept with
  | [] | [_] => simp
  | first :: second :: rest =>
      have differs := (List.pairwise_cons.1 unequal).1 second (by simp)
      obtain ⟨firstGiven, firstShown⟩ := shown first (by simp)
      obtain ⟨secondGiven, secondShown⟩ := shown second (by simp)
      have same := alike first firstGiven second secondGiven (firstShown.trans secondShown.symm)
      rw [differs] at same
      cases same

/-- The readers of a map that is made by putting pairs into it in turn. The look-up by a text takes
the first entry whose key has the text, and a table of any form and the JSON of the map take the
last one. These are the same entry, or there is none, exactly if at most one of the keys that the
map tells apart has the text; so it is for every text if keys with one text are equal. -/
theorem map_readers (form : TableForm) (pairs : List (Value × Value)) (text : String) :
    let entries := insertAll pairs
    let places := placesOf text entries
    mapGet? (.map entries) text = valueAt entries places.head? ∧
    (∃ table, NativeType.read (.table form .text .dynamic) (.map entries) = .ok (.entries table) ∧
      Entries.get? table text = (valueAt entries places.getLast?).map .value) ∧
    (∃ fields, Json.ofValue (.map entries) = .object fields ∧
      Entries.get? fields text = (valueAt entries places.getLast?).map .ofValue) ∧
    (places.head? = places.getLast? ↔
      ((distinct (pairs.map Prod.fst)).filter fun key => key.display == text).length ≤ 1) ∧
    ((∀ one ∈ pairs, ∀ other ∈ pairs, one.1.display = other.1.display →
        one.1.equal other.1 = true) → places.head? = places.getLast?) := by
  intro entries places
  have count : places.length =
      ((distinct (pairs.map Prod.fst)).filter fun key => key.display == text).length := by
    rw [← (gathers_insert_all pairs).keys, List.filter_map, List.length_map,
      ← List.countP_eq_length_filter]
    exact List.length_findIdxs
  have once : places.head? = places.getLast? ↔ places.length ≤ 1 :=
    head_eq_last_iff List.pairwise_findIdxs
  rw [count] at once
  refine ⟨map_get_first text entries, ⟨_, read_texts form entries, get_texts text entries _⟩,
    ⟨_, json_texts entries, get_texts text entries _⟩, once, fun alike => once.2 ?_⟩
  apply distinct_shown_once
  simpa using alike

/-- A number and its text are two keys, but they are read by the same text: the look-up takes the
entry of the number, and the table and the JSON take that of the text. -/
theorem number_and_its_text_as_keys :
    let entries := insertAll [(.int 1, .text "a"), (.text "1", .text "b")]
    mapGet? (.map entries) "1" = some (.text "a") ∧
      NativeType.read (.table .ordered .text .dynamic) (.map entries) =
        .ok (.entries [("1", .value (.text "b"))]) ∧
      Json.ofValue (.map entries) = .object [("1", .text "b")] := by
  refine ⟨?_, ?_, ?_⟩ <;> rfl

end Value
end RequestDispatch
