import RequestDispatch.Proofs.Settings.Readers
import RequestDispatch.Proofs.Sorting.Ranked
import RequestDispatch.Settings.Environment

/-!
Which source an environment takes a setting from. However sources are added, they come to stand as
if they were sorted once (`of_sources_sorted`), so that the first hit is the earliest of those with
the highest priority, and only the order of sources with one priority matters (`lookup_order`).
-/

namespace RequestDispatch

instance priorityOrder : LinearOrder Int32 where
  le_refl := Int32.le_refl
  le_trans _ _ _ := Int32.le_trans
  lt_iff_le_not_ge := Std.LawfulOrderLT.lt_iff
  le_antisymm _ _ := Int32.le_antisymm
  le_total := Int32.le_total
  toDecidableEq := inferInstance
  toDecidableLE := inferInstance
  toDecidableLT := inferInstance

namespace Environment

def ofSources (added : List PropertySource) : Environment := added.foldl add empty

/-- The value is that of a source for which the key has a value in no source of higher priority, and
in none of its own priority that was added earlier. -/
def Decides (added : List PropertySource) (key : String) (value : Setting) : Prop :=
  ∃ front source back, added = front ++ source :: back ∧ source.get? key = some value ∧
    (∀ earlier ∈ front, earlier.get? key ≠ none → earlier.priority < source.priority) ∧
    ∀ later ∈ back, later.get? key ≠ none → later.priority ≤ source.priority

/-- What the readers of an environment give for a key whose value counts as the given one: that
value as a text, a number and so on, and a default where it is none. -/
structure Reads (environment : Environment) (key : String) (value : Option Setting) : Prop where
  contains : environment.contains key = value.isSome
  text? : environment.text? key = value.bind Setting.text?
  text : ∀ default, environment.text key default = (value.bind Setting.text?).getD default
  int? : environment.int? key = value.bind Setting.int?
  int : ∀ default, environment.int key default = (value.bind Setting.int?).getD default
  float? : environment.float? key = value.bind Setting.float?
  bool? : environment.bool? key = value.bind Setting.bool?
  bool : ∀ default, environment.bool key default = (value.bind Setting.bool?).getD default
  texts? : environment.texts? key = value.bind Setting.texts?

theorem reads_get (environment : Environment) (key : String) :
    environment.Reads key (environment.get? key) where
  contains := rfl
  text? := rfl
  text _ := rfl
  int? := rfl
  int _ := rfl
  float? := rfl
  bool? := rfl
  bool _ := rfl
  texts? := rfl

theorem fold_add (environment : Environment) (added : List PropertySource) :
    added.foldl add environment =
      { environment with
        sources := added.foldl
          (fun sources source => (sources ++ [source]).mergeSort (notBelow PropertySource.priority))
          environment.sources } := by
  induction added generalizing environment with
  | nil => rfl
  | cons source added ih =>
      rw [List.foldl_cons, ih]
      rfl

theorem of_sources_sorted (added : List PropertySource) :
    ofSources added = ⟨added.mergeSort (notBelow PropertySource.priority), []⟩ := by
  unfold ofSources
  rw [fold_add]
  simp only [empty, foldl_mergeSort]

theorem get_eq_some_iff {added : List PropertySource} {key : String} {value : Setting} :
    (ofSources added).get? key = some value ↔ Decides added key value := by
  rw [of_sources_sorted]
  exact findSome_mergeSort

theorem get_eq_none_iff {added : List PropertySource} {key : String} :
    (ofSources added).get? key = none ↔ ∀ source ∈ added, source.get? key = none := by
  rw [of_sources_sorted]
  simp only [get?, List.findSome?_eq_none_iff, List.mem_mergeSort]

theorem of_sources_eq {added others : List PropertySource}
    (same : ∀ priority : Int32, (added.filter fun source => source.priority = priority) =
      others.filter fun source => source.priority = priority) :
    ofSources added = ofSources others := by
  rw [of_sources_sorted, of_sources_sorted, mergeSort_eq_of_same_rank same]

/-- The sources of an environment have for a key what a source of the highest priority has that
knows the key, the earliest added of these; there is none if and only if no source knows the key.
The readers of all types read that one value, whatever other sources have: where it is not of their
type and no text in which one of their type is written they give nothing, or the default. Which
source counts depends only on the order in which the sources of each priority were added, and not at
all on the order if no two have one priority. -/
theorem lookup_order (added : List PropertySource) :
    (∀ key value, (ofSources added).get? key = some value ↔ Decides added key value) ∧
    (∀ key, (ofSources added).get? key = none ↔ ∀ source ∈ added, source.get? key = none) ∧
    (∀ key value, Decides added key value → (ofSources added).Reads key (some value)) ∧
    (∀ key, (∀ source ∈ added, source.get? key = none) → (ofSources added).Reads key none) ∧
    (∀ value : Setting, value.Readings) ∧
    (∀ others : List PropertySource,
      (∀ priority : Int32, (added.filter fun source => source.priority = priority) =
        others.filter fun source => source.priority = priority) →
      ofSources others = ofSources added) ∧
    ∀ others, added.Perm others → (added.map PropertySource.priority).Nodup →
      ofSources others = ofSources added := by
  refine ⟨fun _ _ => get_eq_some_iff, fun _ => get_eq_none_iff, ?_, ?_, Setting.readings, ?_, ?_⟩
  · intro key value decides
    rw [← get_eq_some_iff.2 decides]
    exact reads_get _ key
  · intro key missing
    rw [← get_eq_none_iff.2 missing]
    exact reads_get _ key
  · intro others same
    exact (of_sources_eq same).symm
  · intro others permuted distinct
    rw [of_sources_sorted, of_sources_sorted, mergeSort_eq_of_perm permuted distinct]

/-- The lower source has numbers, but the texts of the higher one count, in either order: one that
is no number hides the number, and one that is a number is read in its place. -/
theorem text_hides_lower_number :
    let low := PropertySource.ofEntries "low" [("limit", .int 5), ("port", .int 80)]
    let high := (PropertySource.ofEntries "high"
      [("limit", .text " 7 "), ("port", .text "none")]).withPriority 60
    Decides [low, high] "port" (.text "none") ∧ (ofSources [low, high]).int? "port" = none ∧
      (ofSources [low, high]).int "port" 8080 = 8080 ∧
      Decides [low, high] "limit" (.text " 7 ") ∧ (ofSources [low, high]).int "limit" 8080 = 7 ∧
      [low, high].Perm [high, low] ∧ ([low, high].map PropertySource.priority).Nodup ∧
      ofSources [high, low] = ofSources [low, high] := by
  intro low high
  have decides {key : String} {value : Setting} (known : high.get? key = some value) :
      Decides [low, high] key value := by
    refine ⟨[low], high, [], rfl, known, ?_, ?_⟩
    · intro earlier member _
      rw [List.mem_singleton.1 member]
      decide
    · simp
  have port : high.get? "port" = some (.text "none") := rfl
  have limit : high.get? "limit" = some (.text " 7 ") := rfl
  have noNumber : Setting.int? (.text "none") = none := by decide +kernel
  have permuted : [low, high].Perm [high, low] := .swap high low []
  have distinct : ([low, high].map PropertySource.priority).Nodup := by decide
  obtain ⟨-, -, reads, -, readings, -, order⟩ := lookup_order [low, high]
  have hidden := reads "port" _ (decides port)
  refine ⟨decides port, ?_, ?_, decides limit, ?_, permuted, distinct, order _ permuted distinct⟩
  · rw [hidden.int?]
    exact noNumber
  · rw [hidden.int 8080, Option.bind_some, noNumber]
    rfl
  · have seven : Setting.int? (.text " 7 ") = some 7 := by
      refine ((readings _).int 7).2 (.inr ⟨" 7 ", rfl, ?_⟩)
      have trimmed : (Text.trim " 7 ").toList = ['7'] := by decide +kernel
      rw [trimmed]
      exact .bare (.single rfl)
    rw [(reads "limit" _ (decides limit)).int 8080, Option.bind_some, seven]
    rfl

end Environment
end RequestDispatch
