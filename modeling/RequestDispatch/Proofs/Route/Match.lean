import RequestDispatch.Route.Match
import Mathlib.Data.List.Induction
import Mathlib.Data.Prod.Lex

/-!
The order in which matches are chosen. Matches are ranked by captured variables and then by
confidence; the best of some choices is the first one of the greatest rank, and taking the best is
associative, so that choices may be made in groups.
-/

namespace RequestDispatch

namespace MatchResult

def rank (result : MatchResult) : Nat ×ₗ Nat := toLex (result.groupCount, result.confidence)

theorem beats_iff {result other : MatchResult} :
    result.beats other = true ↔ other.rank < result.rank := by
  simp only [beats, rank, Prod.Lex.toLex_lt_toLex]
  rcases lt_trichotomy result.groupCount other.groupCount with fewer | same | more
  · rw [compare_lt_iff_lt.2 fewer]
    simp
    omega
  · rw [compare_eq_iff_eq.2 same]
    simp [same]
  · rw [compare_gt_iff_gt.2 more]
    simp [more]

end MatchResult

variable {α β : Type}

theorem best_some (first second : α × MatchResult) :
    best (some first) (some second) =
      if first.2.rank < second.2.rank then some second else some first := by
  simp only [best, MatchResult.beats_iff]

@[simp] theorem best_none (current : Option (α × MatchResult)) : best current none = current := by
  cases current <;> rfl

@[simp] theorem none_best (candidate : Option (α × MatchResult)) :
    best none candidate = candidate := by
  cases candidate <;> rfl

theorem best_eq_none {current candidate : Option (α × MatchResult)} :
    best current candidate = none ↔ current = none ∧ candidate = none := by
  cases current with
  | none => simp
  | some first =>
      cases candidate with
      | none => simp
      | some second =>
          rw [best_some]
          split <;> simp

theorem best_assoc (first second third : Option (α × MatchResult)) :
    best (best first second) third = best first (best second third) := by
  cases first with
  | none => simp
  | some first =>
      cases second with
      | none => simp
      | some second =>
          cases third with
          | none => simp
          | some third =>
              by_cases less : first.2.rank < second.2.rank
              · by_cases more : second.2.rank < third.2.rank
                · simp [best_some, less, more, less.trans more]
                · simp [best_some, less, more]
              · by_cases more : second.2.rank < third.2.rank
                · simp [best_some, less, more]
                · have bound := (not_lt.1 more).trans (not_lt.1 less)
                  simp [best_some, less, more, not_lt.2 bound]

theorem best_map (name : α → β) (current candidate : Option (α × MatchResult)) :
    best (current.map (Prod.map name id)) (candidate.map (Prod.map name id)) =
      (best current candidate).map (Prod.map name id) := by
  cases current with
  | none => simp
  | some first =>
      cases candidate with
      | none => simp
      | some second =>
          simp only [Option.map_some, best_some, Prod.map_snd, id]
          split <;> rfl

def FirstBest (candidates : List (α × MatchResult)) (chosen : α × MatchResult) : Prop :=
  ∃ front back, candidates = front ++ chosen :: back ∧
    (∀ earlier ∈ front, earlier.2.rank < chosen.2.rank) ∧
    ∀ later ∈ back, later.2.rank ≤ chosen.2.rank

theorem FirstBest.mem {candidates : List (α × MatchResult)} {chosen : α × MatchResult}
    (first : FirstBest candidates chosen) : chosen ∈ candidates := by
  obtain ⟨front, back, rfl, -⟩ := first
  simp

theorem FirstBest.bound {candidates : List (α × MatchResult)} {chosen : α × MatchResult}
    (first : FirstBest candidates chosen) :
    ∀ candidate ∈ candidates, candidate.2.rank ≤ chosen.2.rank := by
  obtain ⟨front, back, rfl, before, behind⟩ := first
  intro candidate member
  rw [List.mem_append, List.mem_cons] at member
  rcases member with earlier | rfl | later
  · exact (before candidate earlier).le
  · exact le_rfl
  · exact behind candidate later

/-- One more candidate at the end is chosen only if it is strictly better than all before. -/
theorem first_best_concat {candidates : List (α × MatchResult)} {last chosen : α × MatchResult} :
    FirstBest (candidates ++ [last]) chosen ↔
      (FirstBest candidates chosen ∧ last.2.rank ≤ chosen.2.rank) ∨
        (chosen = last ∧ ∀ candidate ∈ candidates, candidate.2.rank < last.2.rank) := by
  constructor
  · rintro ⟨front, back, divided, before, behind⟩
    rcases List.eq_nil_or_concat back with rfl | ⟨others, final, rfl⟩
    · have parts := List.append_inj' divided rfl
      obtain ⟨rfl, same⟩ := parts
      cases same
      exact .inr ⟨rfl, before⟩
    · rw [List.concat_eq_append, ← List.cons_append, ← List.append_assoc] at divided
      have parts := List.append_inj' divided rfl
      obtain ⟨rfl, same⟩ := parts
      cases same
      refine .inl ⟨⟨front, others, rfl, before, ?_⟩, behind last (by simp)⟩
      exact fun later member => behind later (by simp [member])
  · rintro (⟨⟨front, back, rfl, before, behind⟩, bound⟩ | ⟨rfl, before⟩)
    · refine ⟨front, back ++ [last], by simp, before, ?_⟩
      intro later member
      rw [List.mem_append, List.mem_singleton] at member
      rcases member with member | rfl
      · exact behind later member
      · exact bound
    · exact ⟨candidates, [], rfl, before, by simp⟩

section BestOf

variable (test : α → Option MatchResult)

def accepted (choices : List α) : List (α × MatchResult) :=
  choices.filterMap fun choice => (test choice).map fun found => (choice, found)

theorem best_of_concat (choices : List α) (choice : α) :
    bestOf test (choices ++ [choice]) =
      best (bestOf test choices) ((test choice).map fun found => (choice, found)) := by
  simp [bestOf, List.foldl_append]

theorem best_of_append (choices others : List α) :
    bestOf test (choices ++ others) = best (bestOf test choices) (bestOf test others) := by
  induction others using List.reverseRecOn with
  | nil => simp [bestOf]
  | append_singleton others choice ih =>
      rw [← List.append_assoc, best_of_concat, ih, best_of_concat, best_assoc]

theorem best_of_map (name : β → α) (choices : List β) :
    bestOf test (choices.map name) =
      (bestOf (fun choice => test (name choice)) choices).map (Prod.map name id) := by
  induction choices using List.reverseRecOn with
  | nil => rfl
  | append_singleton choices choice ih =>
      rw [List.map_append, List.map_singleton, best_of_concat, ih, best_of_concat, ← best_map,
        Option.map_map]
      rfl

theorem best_of_eq_none {choices : List α} :
    bestOf test choices = none ↔ ∀ choice ∈ choices, test choice = none := by
  induction choices using List.reverseRecOn with
  | nil => simp [bestOf]
  | append_singleton choices choice ih =>
      rw [best_of_concat, best_eq_none, ih, Option.map_eq_none_iff]
      simp [or_imp, forall_and]

/-- The best of some choices is the first of those accepted with the greatest rank. -/
theorem best_of_eq_some {choices : List α} {chosen : α × MatchResult} :
    bestOf test choices = some chosen ↔ FirstBest (accepted test choices) chosen := by
  induction choices using List.reverseRecOn generalizing chosen with
  | nil => simp [bestOf, accepted, FirstBest]
  | append_singleton choices choice ih =>
      rw [best_of_concat, accepted, List.filterMap_append, ← accepted]
      cases tested : test choice with
      | none => simpa [tested] using ih
      | some found =>
          simp only [List.filterMap_cons, tested, Option.map_some, List.filterMap_nil]
          rw [first_best_concat, ← ih]
          cases current : bestOf test choices with
          | none =>
              have empty : accepted test choices = [] := by
                rw [best_of_eq_none] at current
                simpa [accepted] using current
              simp [empty, eq_comm]
          | some first =>
              have greatest := (ih.1 current).bound
              rw [best_some]
              split
              · next less =>
                constructor
                · rintro ⟨⟩
                  exact .inr ⟨rfl, fun candidate member =>
                    (greatest candidate member).trans_lt less⟩
                · rintro (⟨same, bound⟩ | ⟨rfl, -⟩)
                  · cases same
                    exact absurd bound (not_le.2 less)
                  · rfl
              · next more =>
                constructor
                · rintro ⟨⟩
                  exact .inl ⟨rfl, not_lt.1 more⟩
                · rintro (⟨same, -⟩ | ⟨rfl, before⟩)
                  · exact same
                  · exact absurd (before first (ih.1 current).mem) more

end BestOf

end RequestDispatch
