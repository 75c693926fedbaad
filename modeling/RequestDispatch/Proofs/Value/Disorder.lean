import RequestDispatch.Proofs.Number.Rounding
import RequestDispatch.Proofs.Value.NaturalOrder

/-!
The laws of the natural order. Every value is equal to itself in it, and two values that change
places change their order. It is transitive but for the triples of `Disordered`: with what is not a
number between two numbers, with a floating number between two integers that are rounded to it, or
with a text among numbers that stand in another order as texts. Without such triples it puts items
in order. The main statement is `natural_order_laws`.
-/

namespace RequestDispatch

open Sorting

namespace Value

inductive IsNumeric : Value → Prop
  | int (value : Int64) : IsNumeric (.int value)
  | float (value : Double) : IsNumeric (.float value)

def IsShown (value : Value) : Prop := value.asFloat? = none ∧ value.isNull = false

/-- Three values none of which comes behind the next, while the first comes behind the last. -/
inductive Disordered : Value → Value → Value → Prop
  | undefined {first last : Value} : first.IsNumeric → last.IsNumeric →
      naturalOrder first last = .gt → Disordered first (.float .nan) last
  | rounded {first last : Int64} {between : Double} : last.toInt < first.toInt →
      between.equal (Binary.ofInt first.toInt) = true →
        between.equal (Binary.ofInt last.toInt) = true →
          Disordered (.int first) (.float between) (.int last)
  | textBetween {first text last : Value} : first.IsNumeric → text.IsShown → last.IsNumeric →
      first.display ≤ text.display → text.display ≤ last.display →
        naturalOrder first last = .gt → Disordered first text last
  | textBefore {text first last : Value} : text.IsShown → first.IsNumeric → last.IsNumeric →
      text.display ≤ first.display → naturalOrder first last ≠ .gt →
        last.display < text.display → Disordered text first last
  | textBehind {first last text : Value} : first.IsNumeric → last.IsNumeric → text.IsShown →
      naturalOrder first last ≠ .gt → last.display ≤ text.display →
        text.display < first.display → Disordered first last text

theorem sorts (value : Value) : value = .null ∨ value.IsNumeric ∨ value.IsShown := by
  cases value with
  | null => exact .inl rfl
  | int value => exact .inr (.inl (.int value))
  | float value => exact .inr (.inl (.float value))
  | _ => exact .inr (.inr ⟨rfl, rfl⟩)

theorem IsNumeric.filled {value : Value} (numeric : value.IsNumeric) : value.isNull = false := by
  cases numeric <;> rfl

theorem filled_of_sort {value : Value} (sort : value.IsNumeric ∨ value.IsShown) :
    value.isNull = false := by
  rcases sort with numeric | shown
  · exact numeric.filled
  · exact shown.2

/-- The place of a number among floating numbers; what is not a number has none. -/
def place? (value : Value) : Option Int := value.asFloat?.bind Binary.signedRank?

def placeOrder : Option Int → Option Int → Ordering
  | some left, some right => compare left right
  | _, _ => .eq

theorem compare_places (left right : Double) :
    (left.compare? right).getD .eq = placeOrder left.signedRank? right.signedRank? := by
  rw [Binary.compare?]
  cases left.signedRank? <;> cases right.signedRank? <;> rfl

theorem place_order_self (place : Option Int) : placeOrder place place = .eq := by
  cases place with
  | none => rfl
  | some place => exact compare_eq_iff_eq.2 rfl

theorem place_order_swap (left right : Option Int) :
    placeOrder right left = (placeOrder left right).swap := by
  cases left with
  | none => cases right <;> rfl
  | some left =>
      cases right with
      | none => rfl
      | some right => exact (Std.OrientedCmp.eq_swap : compare right left = _)

theorem place_order_iff {left right : Option Int} :
    placeOrder left right ≠ .gt ↔ ∀ first ∈ left, ∀ second ∈ right, first ≤ second := by
  cases left with
  | none => simp [placeOrder]
  | some left =>
      cases right with
      | none => simp [placeOrder]
      | some right => simpa [placeOrder] using compare_le_iff_le

theorem place_int (value : Int64) :
    place? (.int value) = some (Layout.double.intRank value.toInt) :=
  Binary.signedRank_ofInt Layout.double value.toInt

theorem place_eq_none {value : Value} (numeric : value.IsNumeric)
    (placeless : value.place? = none) : value = .float .nan := by
  cases numeric with
  | int value => rw [place_int] at placeless; cases placeless
  | float value =>
      cases value with
      | nan => rfl
      | number => cases placeless

section

variable {left right : Value}

theorem order_null (value : Value) : naturalOrder .null value ≠ .gt := by
  cases value <;> simp [naturalOrder, asFloat?]

theorem null_of_order (before : naturalOrder left .null ≠ .gt) : left = .null := by
  cases left with
  | null => rfl
  | _ => exact absurd rfl before

theorem order_texts (leftFilled : left.isNull = false) (rightFilled : right.isNull = false)
    (shown : left.IsShown ∨ right.IsShown) :
    naturalOrder left right = compare left.display right.display := by
  unfold naturalOrder
  split
  · rcases shown with ⟨none, -⟩ | ⟨none, -⟩ <;> cases none
  · split
    · next leftNumber rightNumber =>
      rcases shown with ⟨none, -⟩ | ⟨none, -⟩
      · rw [none] at leftNumber; cases leftNumber
      · rw [none] at rightNumber; cases rightNumber
    · split
      · cases leftFilled
      · cases leftFilled
      · cases rightFilled
      · rfl

theorem order_places (leftNumeric : left.IsNumeric) (rightNumeric : right.IsNumeric)
    (mixed : left.isFloat = true ∨ right.isFloat = true) :
    naturalOrder left right = placeOrder left.place? right.place? := by
  cases leftNumeric with
  | int left =>
      cases rightNumeric with
      | int right => rcases mixed with mixed | mixed <;> cases mixed
      | float right => exact compare_places _ right
  | float left =>
      cases rightNumeric with
      | int right => exact compare_places left _
      | float right => exact compare_places left right

theorem ints_or_mixed (leftNumeric : left.IsNumeric) (rightNumeric : right.IsNumeric) :
    (∃ first second : Int64, left = .int first ∧ right = .int second) ∨
      (left.isFloat = true ∨ right.isFloat = true) := by
  cases leftNumeric with
  | float => exact .inr (.inl rfl)
  | int first =>
      cases rightNumeric with
      | float => exact .inr (.inr rfl)
      | int second => exact .inl ⟨first, second, rfl, rfl⟩

/-- Rounding does not put integers in another order. -/
theorem place_le (leftNumeric : left.IsNumeric) (rightNumeric : right.IsNumeric)
    (order : naturalOrder left right ≠ .gt) {first second : Int}
    (firstPlace : left.place? = some first) (secondPlace : right.place? = some second) :
    first ≤ second := by
  rcases ints_or_mixed leftNumeric rightNumeric with ⟨one, two, rfl, rfl⟩ | mixed
  · have atMost : one.toInt ≤ two.toInt := compare_le_iff_le.1 order
    rw [place_int] at firstPlace secondPlace
    cases firstPlace
    cases secondPlace
    exact Layout.intRank_le atMost
  · rw [order_places leftNumeric rightNumeric mixed, place_order_iff] at order
    exact order first firstPlace second secondPlace

theorem place_lt_or_ints (leftNumeric : left.IsNumeric) (rightNumeric : right.IsNumeric)
    (order : naturalOrder left right = .gt) :
    (∃ first second, left.place? = some first ∧ right.place? = some second ∧ second < first) ∨
      ∃ first second : Int64, left = .int first ∧ right = .int second ∧
        second.toInt < first.toInt := by
  rcases ints_or_mixed leftNumeric rightNumeric with ⟨one, two, rfl, rfl⟩ | mixed
  · exact .inr ⟨one, two, rfl, rfl, compare_gt_iff_gt.1 order⟩
  · rw [order_places leftNumeric rightNumeric mixed] at order
    cases firstPlace : left.place? with
    | none => rw [firstPlace] at order; cases order
    | some first =>
        cases secondPlace : right.place? with
        | none => rw [firstPlace, secondPlace] at order; cases order
        | some second =>
            rw [firstPlace, secondPlace] at order
            exact .inl ⟨first, second, rfl, rfl, compare_gt_iff_gt.1 order⟩

end

theorem order_self (value : Value) : naturalOrder value value = .eq := by
  rcases value.sorts with rfl | numeric | shown
  · rfl
  · cases numeric with
    | int value => exact compare_eq_iff_eq.2 rfl
    | float value =>
        rw [order_places (.float value) (.float value) (.inl rfl)]
        exact place_order_self _
  · rw [order_texts shown.2 shown.2 (.inl shown)]
    exact compare_eq_iff_eq.2 rfl

theorem order_swap (left right : Value) :
    naturalOrder right left = (naturalOrder left right).swap := by
  have texts (leftFilled : left.isNull = false) (rightFilled : right.isNull = false)
      (shown : left.IsShown ∨ right.IsShown) :
      naturalOrder right left = (naturalOrder left right).swap := by
    rw [order_texts leftFilled rightFilled shown, order_texts rightFilled leftFilled shown.symm]
    exact Std.OrientedCmp.eq_swap
  rcases left.sorts with rfl | leftNumeric | leftShown
  · cases right <;> rfl
  · rcases right.sorts with rfl | rightNumeric | rightShown
    · cases leftNumeric <;> rfl
    · rcases ints_or_mixed leftNumeric rightNumeric with ⟨one, two, rfl, rfl⟩ | mixed
      · exact (Std.OrientedCmp.eq_swap : compare two.toInt one.toInt = _)
      · rw [order_places leftNumeric rightNumeric mixed,
          order_places rightNumeric leftNumeric mixed.symm]
        exact place_order_swap _ _
    · exact texts leftNumeric.filled rightShown.2 (.inr rightShown)
  · rcases right.sorts with rfl | rightNumeric | rightShown
    · cases left <;> rfl
    · exact texts leftShown.2 rightNumeric.filled (.inl leftShown)
    · exact texts leftShown.2 rightShown.2 (.inl leftShown)

section

variable {first second third : Value}

theorem numbers_disordered (firstNumeric : first.IsNumeric) (secondNumeric : second.IsNumeric)
    (thirdNumeric : third.IsNumeric) (one : naturalOrder first second ≠ .gt)
    (two : naturalOrder second third ≠ .gt) (behind : naturalOrder first third = .gt) :
    Disordered first second third := by
  cases place : second.place? with
  | none =>
      rw [place_eq_none secondNumeric place]
      exact .undefined firstNumeric thirdNumeric behind
  | some middle =>
      rcases place_lt_or_ints firstNumeric thirdNumeric behind with
        ⟨lower, upper, firstPlace, thirdPlace, less⟩ | ⟨left, right, rfl, rfl, less⟩
      · have begun := place_le firstNumeric secondNumeric one firstPlace place
        have ended := place_le secondNumeric thirdNumeric two place thirdPlace
        omega
      · cases secondNumeric with
        | int between =>
            have begun : left.toInt ≤ between.toInt := compare_le_iff_le.1 one
            have ended : between.toInt ≤ right.toInt := compare_le_iff_le.1 two
            omega
        | float between =>
            have begun := place_le firstNumeric (.float between) one (place_int left) place
            have ended := place_le (.float between) thirdNumeric two place (place_int right)
            have kept : Layout.double.intRank right.toInt ≤ Layout.double.intRank left.toInt :=
              Layout.intRank_le less.le
            have ranked : between.signedRank? = some middle := place
            refine .rounded less ?_ ?_ <;>
              simp only [Binary.equal, ranked, Binary.signedRank_ofInt, beq_iff_eq] <;> omega

/-- Among three texts nothing is out of order, and neither is it with one number among them. -/
theorem texts_disordered (firstSort : first.IsNumeric ∨ first.IsShown)
    (secondSort : second.IsNumeric ∨ second.IsShown) (thirdSort : third.IsNumeric ∨ third.IsShown)
    (shown : first.IsShown ∨ second.IsShown ∨ third.IsShown)
    (one : naturalOrder first second ≠ .gt) (two : naturalOrder second third ≠ .gt)
    (behind : naturalOrder first third = .gt) : Disordered first second third := by
  have firstFilled := filled_of_sort firstSort
  have secondFilled := filled_of_sort secondSort
  have thirdFilled := filled_of_sort thirdSort
  have begun (text : first.IsShown ∨ second.IsShown) : first.display ≤ second.display := by
    rwa [order_texts firstFilled secondFilled text, compare_le_iff_le] at one
  have ended (text : second.IsShown ∨ third.IsShown) : second.display ≤ third.display := by
    rwa [order_texts secondFilled thirdFilled text, compare_le_iff_le] at two
  have less (text : first.IsShown ∨ third.IsShown) : third.display < first.display := by
    rwa [order_texts firstFilled thirdFilled text, compare_gt_iff_gt] at behind
  have circle (firstTwo : first.IsShown ∨ second.IsShown) (lastTwo : second.IsShown ∨ third.IsShown)
      (ends : first.IsShown ∨ third.IsShown) : Disordered first second third :=
    absurd ((begun firstTwo).trans (ended lastTwo)) (not_le_of_gt (less ends))
  rcases firstSort with firstNumeric | firstShown
  · rcases secondSort with secondNumeric | secondShown
    · have thirdShown : third.IsShown := by
        rcases shown with ⟨none, -⟩ | ⟨none, -⟩ | thirdShown
        · cases firstNumeric <;> cases none
        · cases secondNumeric <;> cases none
        · exact thirdShown
      exact .textBehind firstNumeric secondNumeric thirdShown one (ended (.inr thirdShown))
        (less (.inr thirdShown))
    · rcases thirdSort with thirdNumeric | thirdShown
      · exact .textBetween firstNumeric secondShown thirdNumeric (begun (.inr secondShown))
          (ended (.inl secondShown)) behind
      · exact circle (.inr secondShown) (.inr thirdShown) (.inr thirdShown)
  · rcases secondSort with secondNumeric | secondShown
    · rcases thirdSort with thirdNumeric | thirdShown
      · exact .textBefore firstShown secondNumeric thirdNumeric (begun (.inl firstShown)) two
          (less (.inl firstShown))
      · exact circle (.inl firstShown) (.inr thirdShown) (.inl firstShown)
    · exact circle (.inl firstShown) (.inl secondShown) (.inl firstShown)

theorem rank_of_rounded {between : Double} {value : Int}
    (rounded : between.equal (Binary.ofInt value) = true) :
    between.signedRank? = some (Layout.double.intRank value) := by
  rw [Binary.equal, Binary.signedRank_ofInt] at rounded
  cases rank : between.signedRank? with
  | none => rw [rank] at rounded; cases rounded
  | some place =>
      rw [rank] at rounded
      exact congrArg some (beq_iff_eq.1 rounded)

theorem order_of_disordered (disordered : Disordered first second third) :
    naturalOrder first second ≠ .gt ∧ naturalOrder second third ≠ .gt ∧
      naturalOrder first third = .gt := by
  cases disordered with
  | undefined firstNumeric thirdNumeric behind =>
      refine ⟨?_, ?_, behind⟩
      · rw [order_places firstNumeric (.float _) (.inr rfl), place_order_iff]
        intro _ _ _ none
        cases none
      · rw [order_places (.float _) thirdNumeric (.inl rfl), place_order_iff]
        intro _ none
        cases none
  | @rounded left right between less above below =>
      have same := rank_of_rounded above
      refine ⟨?_, ?_, compare_gt_iff_gt.2 less⟩
      · rw [order_places (.int left) (.float between) (.inr rfl), place_int,
          show place? (.float between) = _ from same]
        exact place_order_self _ ▸ nofun
      · rw [order_places (.float between) (.int right) (.inl rfl), place_int,
          show place? (.float between) = _ from rank_of_rounded below]
        exact place_order_self _ ▸ nofun
  | textBetween firstNumeric shown thirdNumeric begun ended behind =>
      refine ⟨?_, ?_, behind⟩
      · rwa [order_texts firstNumeric.filled shown.2 (.inr shown), compare_le_iff_le]
      · rwa [order_texts shown.2 thirdNumeric.filled (.inl shown), compare_le_iff_le]
  | textBefore shown secondNumeric thirdNumeric begun ended less =>
      refine ⟨?_, ended, ?_⟩
      · rwa [order_texts shown.2 secondNumeric.filled (.inl shown), compare_le_iff_le]
      · rwa [order_texts shown.2 thirdNumeric.filled (.inl shown), compare_gt_iff_gt]
  | textBehind firstNumeric secondNumeric shown begun ended less =>
      refine ⟨begun, ?_, ?_⟩
      · rwa [order_texts secondNumeric.filled shown.2 (.inr shown), compare_le_iff_le]
      · rwa [order_texts firstNumeric.filled shown.2 (.inr shown), compare_gt_iff_gt]

/-- Null comes first, so it has no part in a circle. -/
theorem filled_of_circle (one : naturalOrder first second ≠ .gt)
    (two : naturalOrder second third ≠ .gt) (behind : naturalOrder first third = .gt) :
    first ≠ .null ∧ second ≠ .null ∧ third ≠ .null := by
  have firstFilled : first ≠ .null := by
    rintro rfl
    exact order_null third behind
  have secondFilled : second ≠ .null := by
    rintro rfl
    exact firstFilled (null_of_order one)
  refine ⟨firstFilled, secondFilled, ?_⟩
  rintro rfl
  exact secondFilled (null_of_order two)

/-- The natural order runs in a circle through disordered values and no others. -/
theorem disordered_iff :
    Disordered first second third ↔ naturalOrder first second ≠ .gt ∧
      naturalOrder second third ≠ .gt ∧ naturalOrder first third = .gt := by
  constructor
  · exact order_of_disordered
  · rintro ⟨one, two, behind⟩
    obtain ⟨firstFilled, secondFilled, thirdFilled⟩ := filled_of_circle one two behind
    have firstSort := first.sorts.resolve_left firstFilled
    have secondSort := second.sorts.resolve_left secondFilled
    have thirdSort := third.sorts.resolve_left thirdFilled
    by_cases shown : first.IsShown ∨ second.IsShown ∨ third.IsShown
    · exact texts_disordered firstSort secondSort thirdSort shown one two behind
    · simp only [not_or] at shown
      exact numbers_disordered (firstSort.resolve_right shown.1)
        (secondSort.resolve_right shown.2.1) (thirdSort.resolve_right shown.2.2) one two behind

end

example : Disordered (.int 10) (.text "5") (.int 9) :=
  .textBetween (.int 10) ⟨rfl, rfl⟩ (.int 9) (by decide) (by decide) (by decide)

theorem notAfter_iff {left right : Value} :
    NotAfter naturallyBefore left right ↔ naturalOrder left right ≠ .gt := by
  rw [NotAfter, naturallyBefore, decide_eq_false_iff_not, order_swap left right]
  cases naturalOrder left right <;> decide

theorem orderable_iff {items : List Value} :
    Orderable items ↔ ∀ first ∈ items, ∀ second ∈ items, ∀ third ∈ items,
      ¬Disordered first second third := by
  constructor
  · intro orderable first firstMember second secondMember third thirdMember disordered
    obtain ⟨one, two, behind⟩ := disordered_iff.1 disordered
    have kept := orderable.trans ⟨first, firstMember⟩ ⟨second, secondMember⟩ ⟨third, thirdMember⟩
      (notAfter_iff.2 one) (notAfter_iff.2 two)
    exact notAfter_iff.1 kept behind
  · intro ordered
    constructor
    · rintro ⟨first, _⟩ ⟨second, _⟩ before
      have less : naturalOrder first second = .lt := of_decide_eq_true before
      apply notAfter_iff.2
      rw [less]
      exact nofun
    · rintro ⟨first, firstMember⟩ ⟨second, secondMember⟩ ⟨third, thirdMember⟩ one two
      apply notAfter_iff.2
      intro behind
      exact ordered first firstMember second secondMember third thirdMember
        (disordered_iff.2 ⟨notAfter_iff.1 one, notAfter_iff.1 two, behind⟩)

theorem unique_of_sorted {kind : CollectionKind} (sorted : kind.isSorted = true) :
    kind.concrete.isUnique = true ∧ kind.concrete.isSorted = true := by
  cases kind <;> first | exact ⟨rfl, rfl⟩ | cases sorted

theorem collect_in_order {kind : CollectionKind} (sorted : kind.isSorted = true)
    {items : List Value} (orderable : Orderable items) :
    ∃ held, collect? kind items = some (.collection kind.concrete held) ∧
      held.Perm (dedup items) ∧
        held.Pairwise fun earlier later => naturalOrder earlier later ≠ .gt := by
  obtain ⟨unique, alsoSorted⟩ := unique_of_sorted sorted
  have kept : Orderable (dedup items) :=
    orderable_of_consistent orderable (dedup_from_sublist [] [] items).subset
  obtain ⟨held, found, inOrder⟩ :=
    stableSort?_succeeds_within naturallyBefore (fun _ member => member) kept
  refine ⟨held, ?_, stableSort?_perm found, inOrder.imp notAfter_iff.1⟩
  simp only [collect?, unique, alsoSorted, if_true, sortNatural?, found, Option.map_some]

/-- Every value is equal to itself, values that change places change their order, and the order is
transitive but for disordered values. Without these sorted collections are in order. -/
theorem natural_order_laws (first second third : Value) :
    naturalOrder first first = .eq ∧
    naturalOrder second first = (naturalOrder first second).swap ∧
    (¬Disordered first second third ↔
      (naturalOrder first second ≠ .gt → naturalOrder second third ≠ .gt →
        naturalOrder first third ≠ .gt)) ∧
    ∀ kind items, CollectionKind.isSorted kind = true →
      (∀ one ∈ items, ∀ two ∈ items, ∀ three ∈ items, ¬Disordered one two three) →
        ∃ held, collect? kind items = some (.collection kind.concrete held) ∧
          held.Perm (dedup items) ∧
            held.Pairwise fun earlier later => naturalOrder earlier later ≠ .gt := by
  refine ⟨order_self first, order_swap first second, ?_, ?_⟩
  · rw [disordered_iff]
    tauto
  · intro kind items sorted ordered
    exact collect_in_order sorted (orderable_iff.2 ordered)

theorem numbers_and_null_in_order :
    let items : List Value := [.int 3, .null, .float (Binary.ofInt 2), .int 3]
    (∀ one ∈ items, ∀ two ∈ items, ∀ three ∈ items, ¬Disordered one two three) ∧
      ∃ held, collect? .sortedSet items = some (.collection .treeSet held) ∧
        held.Perm (dedup items) ∧
          held.Pairwise fun earlier later => naturalOrder earlier later ≠ .gt := by
  intro items
  have ordered : ∀ one ∈ items, ∀ two ∈ items, ∀ three ∈ items, ¬Disordered one two three := by
    simp only [disordered_iff]
    decide +kernel
  have laws := natural_order_laws (.int 3) .null (.float (Binary.ofInt 2))
  exact ⟨ordered, laws.2.2.2 .sortedSet items rfl ordered⟩

/-- Two integers that are rounded to one number stand on either side of it and are equal to it. -/
theorem integers_around_a_rounded_one :
    naturalOrder (.int 9007199254740993) (.float (Binary.ofInt 9007199254740992)) = .eq ∧
    naturalOrder (.float (Binary.ofInt 9007199254740992)) (.int 9007199254740992) = .eq ∧
    naturalOrder (.int 9007199254740993) (.int 9007199254740992) = .gt ∧
    collect? .sortedSet [.int 9007199254740993, .float (Binary.ofInt 9007199254740992),
        .int 9007199254740992] =
      some (.collection .treeSet [.int 9007199254740993, .float (Binary.ofInt 9007199254740992),
        .int 9007199254740992]) := by
  refine ⟨?_, ?_, ?_, rfl⟩ <;> decide +kernel

end Value
end RequestDispatch
