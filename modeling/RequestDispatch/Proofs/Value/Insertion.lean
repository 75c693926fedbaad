import RequestDispatch.Proofs.Value.Equality

/-!
Maps made by putting pairs into them one after the other. The keys of such a map are unequal and
stand in the order in which they came first, and each has the value that came for it last
(`gathers_insert_all`).
-/

namespace RequestDispatch
namespace Value

/-- The pairs put into an empty map from left to right. -/
def insertAll (pairs : List (Value × Value)) : List (Value × Value) :=
  pairs.foldl (fun entries pair => insertEntry pair.1 pair.2 entries) []

theorem insert_all_concat (pairs : List (Value × Value)) (key value : Value) :
    insertAll (pairs ++ [(key, value)]) = insertEntry key value (insertAll pairs) := by
  rw [insertAll, List.foldl_append]
  rfl

/-- A value either takes the place of the value of the first equal key, or its key is new and comes
to stand last. -/
theorem replaces_or_appends (key value : Value) (entries : List (Value × Value)) :
    (∃ front held back, entries = front ++ held :: back ∧ held.1.equal key = true ∧
      insertEntry key value entries = front ++ (held.1, value) :: back) ∨
    (∀ entry ∈ entries, entry.1.equal key = false) ∧
      insertEntry key value entries = entries ++ [(key, value)] := by
  induction entries with
  | nil => exact .inr ⟨by simp, rfl⟩
  | cons entry entries ih =>
      by_cases same : entry.1.equal key = true
      · exact .inl ⟨[], entry, entries, rfl, same, by rw [insertEntry, if_pos same]; rfl⟩
      · rw [insertEntry, if_neg same]
        rcases ih with ⟨front, held, back, rfl, found, replaced⟩ | ⟨unknown, appended⟩
        · exact .inl ⟨entry :: front, held, back, rfl, found, by rw [replaced]; rfl⟩
        · refine .inr ⟨?_, by rw [appended]; rfl⟩
          exact List.forall_mem_cons.2 ⟨eq_false_of_ne_true same, unknown⟩

/-- Two keys that are not equal, in either order. -/
def Apart (first second : Value) : Prop :=
  first.equal second = false ∧ second.equal first = false

/-- An entry that pairs leave. The first pair whose key equals that of the entry gave the key, and
the last of the pairs from there on whose key is equal gave the value. -/
def Latest (pairs : List (Value × Value)) (entry : Value × Value) : Prop :=
  ∃ front value back, pairs = front ++ (entry.1, value) :: back ∧
    (∀ pair ∈ front, pair.1.equal entry.1 = false) ∧
    entry.2 = ((back.filter fun pair => entry.1.equal pair.1).map Prod.snd).getLastD value

/-- The entries that pairs leave when they are put into a map in turn. -/
structure Gathers (pairs entries : List (Value × Value)) : Prop where
  keys : entries.map Prod.fst = distinct (pairs.map Prod.fst)
  apart : (entries.map Prod.fst).Pairwise Apart
  latest : ∀ entry ∈ entries, Latest pairs entry

variable {pairs entries : List (Value × Value)}

theorem Latest.concat {entry : Value × Value} (latest : Latest pairs entry) {key : Value}
    (differs : entry.1.equal key = false) (value : Value) :
    Latest (pairs ++ [(key, value)]) entry := by
  obtain ⟨front, first, back, rfl, before, last⟩ := latest
  exact ⟨front, first, back ++ [(key, value)], by simp, before, by simp [differs, last]⟩

theorem Latest.replace {entry : Value × Value} (latest : Latest pairs entry) {key : Value}
    (same : entry.1.equal key = true) (value : Value) :
    Latest (pairs ++ [(key, value)]) (entry.1, value) := by
  obtain ⟨front, first, back, rfl, before, -⟩ := latest
  exact ⟨front, first, back ++ [(key, value)], by simp, before, by simp [same]⟩

theorem Gathers.unequal_of_new (gathers : Gathers pairs entries) {key : Value}
    (unknown : ∀ entry ∈ entries, entry.1.equal key = false) :
    ∀ pair ∈ pairs, pair.1.equal key = false := by
  intro pair member
  obtain ⟨kept, held, same⟩ := kept_or_equal (List.mem_map_of_mem (f := Prod.fst) member)
  rw [← gathers.keys] at held
  obtain ⟨entry, inside, rfl⟩ := List.mem_map.1 held
  by_contra equals
  rw [Bool.not_eq_false] at equals
  have reached : entry.1.equal key = true := by
    rcases same with same | same
    · rw [same]
      exact equals
    · exact equal_trans _ _ _ same equals
  rw [unknown entry inside] at reached
  cases reached

theorem only_equal {front back : List (Value × Value)} {held entry : Value × Value} {key : Value}
    (apart : ((front ++ held :: back).map Prod.fst).Pairwise Apart)
    (same : held.1.equal key = true) (member : entry ∈ front ++ back) :
    entry.1.equal key = false := by
  by_contra equals
  rw [Bool.not_eq_false] at equals
  have both : entry.1.equal held.1 = true :=
    equal_trans _ _ _ equals (equal_comm held.1 key ▸ same)
  rw [List.map_append, List.map_cons, List.pairwise_append, List.pairwise_cons] at apart
  rcases List.mem_append.1 member with before | behind
  · have differs := apart.2.2 _ (List.mem_map_of_mem (f := Prod.fst) before) _ List.mem_cons_self
    exact absurd both (by simp [differs.1])
  · have differs := apart.2.1.1 _ (List.mem_map_of_mem (f := Prod.fst) behind)
    exact absurd both (by simp [differs.2])

theorem Gathers.replace {front back : List (Value × Value)} {held : Value × Value}
    (gathers : Gathers pairs (front ++ held :: back)) {key : Value}
    (same : held.1.equal key = true) (value : Value) :
    Gathers (pairs ++ [(key, value)]) (front ++ (held.1, value) :: back) := by
  have keys : (front ++ (held.1, value) :: back).map Prod.fst =
      (front ++ held :: back).map Prod.fst := by simp
  refine ⟨?_, keys ▸ gathers.apart, ?_⟩
  · have repeated : (distinct (pairs.map Prod.fst)).any (fun other => other.equal key) = true := by
      rw [← gathers.keys, List.any_eq_true]
      exact ⟨held.1, by simp, same⟩
    rw [keys, gathers.keys, List.map_append, List.map_cons, List.map_nil, distinct_concat,
      if_pos repeated]
  · have others {entry : Value × Value} (inside : entry ∈ front ++ back) :
        Latest (pairs ++ [(key, value)]) entry := by
      have member := ((List.sublist_cons_self held back).append_left front).mem inside
      exact (gathers.latest entry member).concat (only_equal gathers.apart same inside) value
    intro entry member
    rcases List.mem_append.1 member with inside | inside
    · exact others (List.mem_append_left _ inside)
    · rcases List.mem_cons.1 inside with rfl | inside
      · exact (gathers.latest held (by simp)).replace same value
      · exact others (List.mem_append_right _ inside)

theorem Gathers.append (gathers : Gathers pairs entries) {key : Value}
    (unknown : ∀ entry ∈ entries, entry.1.equal key = false) (value : Value) :
    Gathers (pairs ++ [(key, value)]) (entries ++ [(key, value)]) := by
  refine ⟨?_, ?_, ?_⟩
  · have fresh : (distinct (pairs.map Prod.fst)).any (fun other => other.equal key) = false := by
      rw [← gathers.keys, List.any_eq_false]
      simpa using unknown
    rw [List.map_append, gathers.keys, List.map_append, List.map_cons, List.map_nil,
      distinct_concat, if_neg (by simp [fresh])]
  · rw [List.map_append, List.pairwise_append]
    refine ⟨gathers.apart, List.pairwise_singleton _ _, ?_⟩
    intro other member last inside
    obtain ⟨entry, known, rfl⟩ := List.mem_map.1 member
    cases List.mem_singleton.1 inside
    exact ⟨unknown entry known, equal_comm key entry.1 ▸ unknown entry known⟩
  · intro entry member
    rcases List.mem_append.1 member with inside | inside
    · exact (gathers.latest entry inside).concat (unknown entry inside) value
    · cases List.mem_singleton.1 inside
      exact ⟨pairs, value, [], rfl, gathers.unequal_of_new unknown, rfl⟩

theorem Gathers.insert (gathers : Gathers pairs entries) (key value : Value) :
    Gathers (pairs ++ [(key, value)]) (insertEntry key value entries) := by
  rcases replaces_or_appends key value entries with
    ⟨front, held, back, rfl, same, replaced⟩ | ⟨unknown, appended⟩
  · rw [replaced]
    exact gathers.replace same value
  · rw [appended]
    exact gathers.append unknown value

theorem gathers_insert_all (pairs : List (Value × Value)) : Gathers pairs (insertAll pairs) := by
  induction pairs using List.reverseRecOn with
  | nil => exact ⟨rfl, .nil, by simp [insertAll]⟩
  | append_singleton pairs pair ih =>
      rw [insert_all_concat]
      exact ih.insert pair.1 pair.2

end Value
end RequestDispatch
