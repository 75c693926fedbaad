import RequestDispatch.Sorting.Permutation

/-!
Under a consistent test sorting has a result, and it is in order. A test is consistent if of two
items at most one comes strictly before the other, and if "not after" is transitive. The main
statement is `stableSort?_succeeds`.
-/

namespace RequestDispatch
namespace Sorting

variable {α : Type}

def NotAfter (less : α → α → Bool) (first second : α) : Prop := less second first = false

/-- A test that sorts by a total order, in which different items may be equal. -/
structure Consistent (less : α → α → Bool) : Prop where
  asymm : ∀ first second, less first second = true → less second first = false
  trans : ∀ first second third, NotAfter less first second → NotAfter less second third →
    NotAfter less first third

def InOrder (less : α → α → Bool) (items : List α) : Prop := items.Pairwise (NotAfter less)

def Succeeds (less : α → α → Bool) (result : Option (List α)) : Prop :=
  ∃ sorted, result = some sorted ∧ InOrder less sorted

variable {less : α → α → Bool}

theorem NotAfter.of_less (consistent : Consistent less) {first second : α}
    (before : less first second = true) : NotAfter less first second :=
  consistent.asymm first second before

theorem Consistent.refl (consistent : Consistent less) (item : α) : NotAfter less item item := by
  cases same : less item item with
  | false => exact same
  | true => exact consistent.asymm item item same

theorem insertDescending_inOrder (consistent : Consistent less) (item : α) {items : List α}
    (sorted : items.Pairwise fun first second => NotAfter less second first) :
    (insertDescending less item items).Pairwise fun first second => NotAfter less second first := by
  induction items with
  | nil => simp [insertDescending]
  | cons head rest ih =>
    obtain ⟨headFirst, restSorted⟩ := List.pairwise_cons.1 sorted
    unfold insertDescending
    split
    · next before =>
      refine List.pairwise_cons.2 ⟨fun other member => ?_, ih restSorted⟩
      rcases List.mem_cons.1 ((insertDescending_perm less item rest).mem_iff.1 member) with
        rfl | member
      · exact .of_less consistent before
      · exact headFirst other member
    · next after =>
      refine List.pairwise_cons.2 ⟨fun other member => ?_, sorted⟩
      have headBelow : NotAfter less head item := by simpa [NotAfter] using after
      rcases List.mem_cons.1 member with rfl | member
      · exact headBelow
      · exact consistent.trans _ _ _ (headFirst other member) headBelow

theorem insertAll_inOrder (consistent : Consistent less) {sorted : List α} (items : List α)
    (start : InOrder less sorted) : InOrder less (insertAll less sorted items) := by
  have step : ∀ descending : List α,
      (descending.Pairwise fun first second => NotAfter less second first) →
      (items.foldl (fun descending item => insertDescending less item descending)
        descending).Pairwise fun first second => NotAfter less second first := by
    induction items with
    | nil => exact fun _ start => start
    | cons item rest ih =>
      exact fun descending start => ih _ (insertDescending_inOrder consistent item start)
  exact List.pairwise_reverse.2 (step _ (List.pairwise_reverse.2 start))

theorem insertionSort_inOrder (consistent : Consistent less) (items : List α) :
    InOrder less (insertionSort less items) :=
  insertAll_inOrder consistent items List.Pairwise.nil

theorem merge_inOrder (consistent : Consistent less) {left right : List α}
    (leftSorted : InOrder less left) (rightSorted : InOrder less right) :
    InOrder less (merge less left right) := by
  have either (first second : α) : less second first = false ∨ less first second = false := by
    cases before : less second first with
    | false => exact .inl rfl
    | true => exact .inr (consistent.asymm _ _ before)
  unfold merge
  split
  · have sorted := @List.pairwise_merge α (fun first second => !less second first)
      (fun a b c h k => by
        simp only [Bool.not_eq_true'] at h k ⊢
        exact consistent.trans a b c h k)
      (fun a b => by simpa using either a b) left right
      (leftSorted.imp fun h => by simpa [NotAfter] using h)
      (rightSorted.imp fun h => by simpa [NotAfter] using h)
    exact sorted.imp fun h => by simpa [NotAfter] using h
  · have sorted := @List.pairwise_merge α (fun second first => !less second first)
      (fun a b c h k => by
        simp only [Bool.not_eq_true'] at h k ⊢
        exact consistent.trans c b a k h)
      (fun a b => by simpa using either b a) right.reverse left.reverse
      (List.pairwise_reverse.2 (rightSorted.imp fun h => by simpa [NotAfter] using h))
      (List.pairwise_reverse.2 (leftSorted.imp fun h => by simpa [NotAfter] using h))
    exact List.pairwise_reverse.2 (sorted.imp fun h => by simpa [NotAfter] using h)

theorem mem_of_draw (overtakes : α → α → Bool) (count : Nat) (first second : List α) (item : α)
    (member : item ∈ (draw overtakes count first second).taken ++
      ((draw overtakes count first second).first ++
        (draw overtakes count first second).second)) : item ∈ first ++ second := by
  induction count generalizing first second with
  | zero => simpa [draw] using member
  | succ count ih =>
    cases first with
    | nil =>
      cases second with
      | nil => simp [draw] at member
      | cons other second =>
        have deeper := ih [] second
        simp [draw] at member deeper ⊢
        exact member.imp_right deeper
    | cons head first =>
      cases second with
      | nil =>
        have deeper := ih first []
        simp [draw] at member deeper ⊢
        exact member.imp_right deeper
      | cons other second =>
        by_cases overtaken : overtakes head other = true
        · have deeper := ih (head :: first) second
          simp [draw, overtaken] at member deeper ⊢
          rcases member with rfl | member
          · simp
          · rcases deeper member with rfl | inFirst | inSecond <;> simp [*]
        · have deeper := ih first (other :: second)
          simp [draw, overtaken] at member deeper ⊢
          exact member.imp_right deeper

theorem tail_of_both_ends {items before rest after other : List α} (count : Nat)
    (front : items = before ++ rest) (back : items.reverse = after ++ other)
    (between : before.length + count + after.length = items.length) :
    rest = rest.take count ++ after.reverse ∧ other.reverse = before ++ rest.take count := by
  have whole : items = other.reverse ++ after.reverse := by
    have := congrArg List.reverse back
    simpa using this
  have lengths : items.length = other.length + after.length := by
    rw [whole]; simp
  have dropped : items.drop (before.length + count) = rest.drop count := by
    rw [front]; simp [← List.drop_drop]
  have dropped' : items.drop other.length = after.reverse := by
    rw [whole, ← List.length_reverse]; simp
  have tail : rest.drop count = after.reverse := by
    rw [← dropped, show before.length + count = other.length by omega, dropped']
  have cut : rest = rest.take count ++ after.reverse := by
    rw [← tail, List.take_append_drop]
  refine ⟨cut, (List.append_left_inj after.reverse).1 ?_⟩
  rw [← whole, List.append_assoc, ← cut, front]

theorem draw_inOrder (precedes : α → α → Prop) (overtakes : α → α → Bool)
    (trans : ∀ first second third, precedes first second → precedes second third →
      precedes first third)
    (stays : ∀ first second, overtakes first second = false → precedes first second)
    (passes : ∀ first second, overtakes first second = true → precedes second first)
    (count : Nat) {first second : List α} (firstSorted : first.Pairwise precedes)
    (secondSorted : second.Pairwise precedes) :
    (draw overtakes count first second).taken.Pairwise precedes ∧
      ∀ item ∈ (draw overtakes count first second).taken,
        ∀ other ∈ (draw overtakes count first second).first ++
          (draw overtakes count first second).second, precedes item other := by
  induction count generalizing first second with
  | zero => simp [draw]
  | succ count ih =>
    have extend (head : α) (one two : List α) (oneSorted : one.Pairwise precedes)
        (twoSorted : two.Pairwise precedes) (least : ∀ other ∈ one ++ two, precedes head other) :
        (head :: (draw overtakes count one two).taken).Pairwise precedes ∧
          ∀ item ∈ head :: (draw overtakes count one two).taken,
            ∀ other ∈ (draw overtakes count one two).first ++
              (draw overtakes count one two).second, precedes item other := by
      obtain ⟨sorted, below⟩ := ih oneSorted twoSorted
      refine ⟨List.pairwise_cons.2 ⟨fun other member => least other ?_, sorted⟩, ?_⟩
      · exact mem_of_draw overtakes count one two other (List.mem_append_left _ member)
      · intro item member other left
        rcases List.mem_cons.1 member with rfl | member
        · exact least other (mem_of_draw overtakes count one two other
            (List.mem_append_right _ left))
        · exact below item member other left
    cases first with
    | nil =>
      cases second with
      | nil => simp [draw]
      | cons other second =>
        obtain ⟨least, sorted⟩ := List.pairwise_cons.1 secondSorted
        simpa [draw] using extend other [] second List.Pairwise.nil sorted (by simpa using least)
    | cons head first =>
      cases second with
      | nil =>
        obtain ⟨least, sorted⟩ := List.pairwise_cons.1 firstSorted
        simpa [draw] using extend head first [] sorted List.Pairwise.nil (by simpa using least)
      | cons other second =>
        obtain ⟨leastFirst, sortedFirst⟩ := List.pairwise_cons.1 firstSorted
        obtain ⟨leastSecond, sortedSecond⟩ := List.pairwise_cons.1 secondSorted
        by_cases overtaken : overtakes head other = true
        · have least : ∀ item ∈ (head :: first) ++ second, precedes other item := by
            intro item member
            rcases List.mem_append.1 member with member | member
            · rcases List.mem_cons.1 member with rfl | member
              · exact passes _ _ overtaken
              · exact trans _ _ _ (passes _ _ overtaken) (leastFirst item member)
            · exact leastSecond item member
          simpa [draw, overtaken] using extend other (head :: first) second firstSorted sortedSecond
            least
        · have least : ∀ item ∈ first ++ other :: second, precedes head item := by
            have kept := stays head other (by simpa using overtaken)
            intro item member
            rcases List.mem_append.1 member with member | member
            · exact leastFirst item member
            · rcases List.mem_cons.1 member with rfl | member
              · exact kept
              · exact trans _ _ _ kept (leastSecond item member)
          simpa [draw, overtaken] using extend head first (other :: second) sortedFirst secondSorted
            least

/-- Between what is drawn from one list and what is left of the other the test stands as the draw
found it, if it goes on to stand so further back in either list. -/
theorem draw_separates (precedes : α → α → Prop) (overtakes : α → α → Bool)
    (later : ∀ item other next, overtakes item other = false → precedes other next →
      overtakes item next = false)
    (further : ∀ item next other, overtakes item other = true → precedes item next →
      overtakes next other = true)
    (count : Nat) {first second : List α} (firstSorted : first.Pairwise precedes)
    (secondSorted : second.Pairwise precedes) :
    ∃ fromFirst fromSecond,
      first = fromFirst ++ (draw overtakes count first second).first ∧
      second = fromSecond ++ (draw overtakes count first second).second ∧
      (∀ item ∈ fromFirst, ∀ other ∈ (draw overtakes count first second).second,
        overtakes item other = false) ∧
      ∀ other ∈ fromSecond, ∀ item ∈ (draw overtakes count first second).first,
        overtakes item other = true := by
  induction count generalizing first second with
  | zero => exact ⟨[], [], by simp [draw]⟩
  | succ count ih =>
    cases first with
    | nil =>
      cases second with
      | nil => exact ⟨[], [], by simp [draw]⟩
      | cons other second =>
        obtain ⟨fromFirst, fromSecond, firstIs, secondIs, kept, passed⟩ :=
          ih List.Pairwise.nil (List.pairwise_cons.1 secondSorted).2
        have none := List.append_eq_nil_iff.1 firstIs.symm
        refine ⟨fromFirst, other :: fromSecond, firstIs, congrArg (other :: ·) secondIs, kept, ?_⟩
        intro other _ item member
        have : item ∈ (draw overtakes count [] second).first := member
        simp [none.2] at this
    | cons head first =>
      cases second with
      | nil =>
        obtain ⟨fromFirst, fromSecond, firstIs, secondIs, kept, passed⟩ :=
          ih (List.pairwise_cons.1 firstSorted).2 List.Pairwise.nil
        have none := List.append_eq_nil_iff.1 secondIs.symm
        refine ⟨head :: fromFirst, fromSecond, congrArg (head :: ·) firstIs, secondIs, ?_, passed⟩
        intro item _ other member
        have : other ∈ (draw overtakes count first []).second := member
        simp [none.2] at this
      | cons other second =>
        obtain ⟨leastFirst, sortedFirst⟩ := List.pairwise_cons.1 firstSorted
        obtain ⟨leastSecond, sortedSecond⟩ := List.pairwise_cons.1 secondSorted
        cases overtaken : overtakes head other with
        | true =>
          obtain ⟨fromFirst, fromSecond, firstIs, secondIs, kept, passed⟩ :=
            ih firstSorted sortedSecond
          have drawn : draw overtakes (count + 1) (head :: first) (other :: second) =
              { draw overtakes count (head :: first) second with
                taken := other :: (draw overtakes count (head :: first) second).taken } := by
            simp [draw, overtaken]
          rw [drawn]
          refine ⟨fromFirst, other :: fromSecond, firstIs, congrArg (other :: ·) secondIs, kept, ?_⟩
          intro taken member item left
          rcases List.mem_cons.1 member with rfl | member
          · have : item ∈ head :: first := by
              rw [firstIs]
              exact List.mem_append_right _ left
            rcases List.mem_cons.1 this with rfl | behind
            · exact overtaken
            · exact further _ _ _ overtaken (leastFirst item behind)
          · exact passed taken member item left
        | false =>
          obtain ⟨fromFirst, fromSecond, firstIs, secondIs, kept, passed⟩ :=
            ih sortedFirst secondSorted
          have drawn : draw overtakes (count + 1) (head :: first) (other :: second) =
              { draw overtakes count first (other :: second) with
                taken := head :: (draw overtakes count first (other :: second)).taken } := by
            simp [draw, overtaken]
          rw [drawn]
          refine ⟨head :: fromFirst, fromSecond, congrArg (head :: ·) firstIs, secondIs, ?_, passed⟩
          intro taken member item left
          rcases List.mem_cons.1 member with rfl | member
          · have : item ∈ other :: second := by
              rw [secondIs]
              exact List.mem_append_right _ left
            rcases List.mem_cons.1 this with rfl | behind
            · exact overtaken
            · exact later _ _ _ overtaken (leastSecond item behind)
          · exact kept taken member item left

theorem mem_of_overlap {items before rest after other : List α} (front : items = before ++ rest)
    (back : items.reverse = after ++ other) (long : items.length < before.length + after.length) :
    ∃ item, item ∈ before ∧ item ∈ after := by
  have whole : items = other.reverse ++ after.reverse := by
    have := congrArg List.reverse back
    simpa using this
  have lengths := congrArg List.length whole
  have lengths' := congrArg List.length front
  simp only [List.length_append, List.length_reverse] at lengths lengths'
  have inside : before.length - 1 < items.length := by omega
  refine ⟨items[before.length - 1], ?_, ?_⟩
  · simp only [front]
    rw [List.getElem_append_left (by omega)]
    exact List.getElem_mem _
  · refine List.mem_reverse.1 ?_
    simp only [whole]
    rw [List.getElem_append_right (by simp; omega)]
    exact List.getElem_mem _

theorem mem_of_gap {items before rest after other : List α} (front : items = before ++ rest)
    (back : items.reverse = after ++ other) (short : before.length + after.length < items.length) :
    ∃ item, item ∈ rest ∧ item ∈ other := by
  have lengths := congrArg List.length back
  have lengths' := congrArg List.length front
  simp only [List.length_append, List.length_reverse] at lengths lengths'
  have front' : items.reverse = rest.reverse ++ before.reverse := by rw [front]; simp
  have back' : items.reverse.reverse = other.reverse ++ after.reverse := by rw [back]; simp
  obtain ⟨item, inRest, inOther⟩ := mem_of_overlap front' back' (by simp; omega)
  exact ⟨item, List.mem_reverse.1 inRest, List.mem_reverse.1 inOther⟩

/-- Under a consistent test the draws from both ends meet. -/
theorem mergeBothEnds?_succeeds (consistent : Consistent less) {left right : List α}
    (shorter : left.length ≤ right.length) (balanced : right.length ≤ left.length + 1)
    (leftSorted : InOrder less left) (rightSorted : InOrder less right) :
    Succeeds less (mergeBothEnds? less left right) := by
  have strict (first second third : α) (before : less first second = true)
      (notAfter : NotAfter less second third) : less first third = true := by
    cases known : less first third with
    | true => rfl
    | false =>
      have := consistent.trans second third first notAfter known
      simp [NotAfter, before] at this
  have strict' (first second third : α) (notAfter : NotAfter less first second)
      (before : less second third = true) : less first third = true := by
    cases known : less first third with
    | true => rfl
    | false =>
      have := consistent.trans third first second known notAfter
      simp [NotAfter, before] at this
  obtain ⟨a, b, leftIs, rightIs, keptInFront, passedInFront⟩ :=
    draw_separates (NotAfter less) (fun first second => less second first)
      (fun item other next kept notAfter => consistent.trans item other next kept notAfter)
      (fun item next other passed notAfter => strict other item next passed notAfter)
      left.length leftSorted rightSorted
  obtain ⟨d, c, rightBackIs, leftBackIs, keptAtBack, passedAtBack⟩ :=
    draw_separates (fun first second => NotAfter less second first)
      (fun second first => less second first)
      (fun item other next kept notAfter => consistent.trans next other item notAfter kept)
      (fun item next other passed notAfter => strict' next item other notAfter passed)
      left.length (List.pairwise_reverse.2 rightSorted) (List.pairwise_reverse.2 leftSorted)
  obtain ⟨_, _, ha, hb, htaken, hlength⟩ :=
    draw_split (fun first second => less second first) left.length left right (by omega)
  obtain ⟨_, _, hd, hc, htaken', hlength'⟩ :=
    draw_split (fun second first => less second first) left.length right.reverse left.reverse
      (by simp)
  have frontOrder := draw_inOrder (NotAfter less) (fun first second => less second first)
    consistent.trans
    (fun _ _ kept => kept) (fun _ _ passed => .of_less consistent passed) left.length
    leftSorted rightSorted
  have backOrder := draw_inOrder (fun first second => NotAfter less second first)
    (fun second first => less second first)
    (fun a b c h k => consistent.trans c b a k h)
    (fun _ _ kept => kept) (fun _ _ passed => .of_less consistent passed) left.length
    (List.pairwise_reverse.2 rightSorted) (List.pairwise_reverse.2 leftSorted)
  unfold mergeBothEnds?
  simp only
  generalize draw (fun first second => less second first) left.length left right = front at *
  generalize draw (fun second first => less second first) left.length right.reverse
    left.reverse = back at *
  have lengthA := congrArg List.length ha
  have lengthB := congrArg List.length hb
  have lengthC := congrArg List.length hc
  have lengthD := congrArg List.length hd
  simp only [List.length_append, List.length_reverse] at lengthA lengthB lengthC lengthD
  cases List.append_cancel_right (leftIs.symm.trans ha)
  cases List.append_cancel_right (rightIs.symm.trans hb)
  cases List.append_cancel_right (leftBackIs.symm.trans hc)
  cases List.append_cancel_right (rightBackIs.symm.trans hd)
  have leftMeets : ¬(left.length < a.length + c.length ∧ b.length + d.length < right.length) := by
    intro ⟨long, short⟩
    obtain ⟨item, inFront, atBack⟩ := mem_of_overlap ha hc long
    obtain ⟨other, leftInFront, leftAtBack⟩ := mem_of_gap hb hd short
    have := keptInFront item inFront other leftInFront
    simp [passedAtBack item atBack other leftAtBack] at this
  have rightMeets : ¬(right.length < b.length + d.length ∧ a.length + c.length < left.length) := by
    intro ⟨long, short⟩
    obtain ⟨item, inFront, atBack⟩ := mem_of_overlap hb hd long
    obtain ⟨other, leftInFront, leftAtBack⟩ := mem_of_gap ha hc short
    have := keptAtBack item atBack other leftAtBack
    simp [passedInFront item inFront other leftInFront] at this
  have assemble (count other : Nat) (middle : List α)
      (leftBetween : a.length + count + c.length = left.length)
      (rightBetween : b.length + other + d.length = right.length)
      (isMiddle : middle = front.first.take count ++ front.second.take other)
      (single : middle.length ≤ 1) :
      InOrder less (front.taken ++ middle ++ back.taken.reverse) := by
    obtain ⟨leftTail, leftHead⟩ := tail_of_both_ends count ha hc leftBetween
    obtain ⟨rightTail, rightHead⟩ := tail_of_both_ends other hb hd rightBetween
    have middleInFront : ∀ item ∈ middle, item ∈ front.first ++ front.second := by
      intro item member
      rw [isMiddle] at member
      rcases List.mem_append.1 member with member | member
      · exact List.mem_append_left _ (List.mem_of_mem_take member)
      · exact List.mem_append_right _ (List.mem_of_mem_take member)
    have middleInBack : ∀ item ∈ middle, item ∈ back.first ++ back.second := by
      intro item member
      rw [isMiddle] at member
      rcases List.mem_append.1 member with member | member
      · refine List.mem_append_right _ (List.mem_reverse.1 ?_)
        rw [leftHead]
        exact List.mem_append_right _ member
      · refine List.mem_append_left _ (List.mem_reverse.1 ?_)
        rw [rightHead]
        exact List.mem_append_right _ member
    have backInFront : ∀ item ∈ back.taken, item ∈ front.first ++ front.second := by
      intro item member
      rcases List.mem_append.1 (htaken'.mem_iff.1 member) with member | member
      · refine List.mem_append_right _ ?_
        rw [rightTail]
        exact List.mem_append_right _ (List.mem_reverse.2 member)
      · refine List.mem_append_left _ ?_
        rw [leftTail]
        exact List.mem_append_right _ (List.mem_reverse.2 member)
    refine List.pairwise_append.2 ⟨List.pairwise_append.2 ⟨frontOrder.1, ?_, ?_⟩,
      List.pairwise_reverse.2 backOrder.1, ?_⟩
    · match middle, single with
      | [], _ => exact List.Pairwise.nil
      | [_], _ => exact List.pairwise_singleton _ _
    · exact fun item member other inMiddle =>
        frontOrder.2 item member other (middleInFront other inMiddle)
    · intro item member other inBack
      have inBack := List.mem_reverse.1 inBack
      rcases List.mem_append.1 member with member | member
      · exact frontOrder.2 item member other (backInFront other inBack)
      · exact backOrder.2 other inBack item (middleInBack item member)
  by_cases even : right.length = left.length
  · have met : front.first.length + back.second.length = left.length := by omega
    have := assemble 0 0 [] (by omega) (by omega) (by simp) (by simp)
    exact ⟨front.taken ++ [] ++ back.taken.reverse, by simp [even, met], this⟩
  · by_cases inLeft : left.length < front.first.length + back.second.length
    · have met : front.first.length + back.second.length = left.length + 1 := by omega
      have := assemble 1 0 (front.first.take 1) (by omega) (by omega) (by simp)
        (List.length_take_le 1 _)
      exact ⟨_, by simp [even, met], this⟩
    · have met : front.first.length + back.second.length = left.length := by omega
      have := assemble 0 1 (front.second.take 1) (by omega) (by omega) (by simp)
        (List.length_take_le 1 _)
      exact ⟨_, by simp [even, met], this⟩

theorem sortFour_inOrder (consistent : Consistent less) (first second third fourth : α) :
    InOrder less (sortFour less first second third fourth) := by
  have kept : ∀ one two, less one two = false → NotAfter less two one := fun _ _ h => h
  have passed : ∀ one two, less one two = true → NotAfter less one two :=
    fun one two h => consistent.asymm one two h
  have trans := consistent.trans
  have pair (one two : α) : ∃ low high,
      (if less two one then (two, one) else (one, two)) = (low, high) ∧ NotAfter less low high := by
    cases before : less two one with
    | false => exact ⟨one, two, by simp, kept _ _ before⟩
    | true => exact ⟨two, one, by simp, passed _ _ before⟩
  obtain ⟨low, high, pairIs, inPair⟩ := pair first second
  obtain ⟨lowNext, highNext, nextIs, inNext⟩ := pair third fourth
  unfold sortFour InOrder
  rw [pairIs, nextIs]
  generalize NotAfter less = precedes at *
  simp only
  clear pair pairIs nextIs
  cases lowest : less lowNext low <;> cases highest : less highNext high <;>
    simp only [Bool.false_eq_true, if_false, if_true] <;> split <;>
    simp only [List.pairwise_cons, List.mem_cons, List.not_mem_nil, List.Pairwise.nil] <;> grind

theorem sortHalf_inOrder (consistent : Consistent less) (byFours : Bool) (items : List α) :
    InOrder less (sortHalf less byFours items) := by
  unfold sortHalf
  split
  · split
    · exact insertAll_inOrder consistent _ (sortFour_inOrder consistent _ _ _ _)
    · exact insertionSort_inOrder consistent _
  · exact insertionSort_inOrder consistent _

theorem blockSort?_succeeds (consistent : Consistent less) (items : List α) :
    Succeeds less (blockSort? less items) := by
  have left := (sortHalf_perm less (8 ≤ items.length) (items.take (items.length / 2))).length_eq
  have right := (sortHalf_perm less (8 ≤ items.length) (items.drop (items.length / 2))).length_eq
  simp only [List.length_take, List.length_drop] at left right
  exact mergeBothEnds?_succeeds consistent (by omega) (by omega)
    (sortHalf_inOrder consistent _ _) (sortHalf_inOrder consistent _ _)

/-- A run that counts as sorted is in order. -/
def Run.Honest (less : α → α → Bool) (run : Run α) : Prop :=
  run.sorted = true → InOrder less run.items

theorem stretch_inOrder (consistent : Consistent less) (falling : Bool) (previous : α)
    (items : List α) :
    (previous :: (stretch less falling previous items).1).Pairwise fun first second =>
      if falling then NotAfter less second first else NotAfter less first second := by
  induction items generalizing previous with
  | nil => simp [stretch]
  | cons item rest ih =>
    by_cases goesOn : less item previous = falling
    · have deeper := ih item
      obtain ⟨least, _⟩ := List.pairwise_cons.1 deeper
      have shown : (stretch less falling previous (item :: rest)).1 =
          item :: (stretch less falling item rest).1 := by simp [stretch, goesOn]
      rw [shown]
      refine List.pairwise_cons.2 ⟨fun other member => ?_, deeper⟩
      cases falling with
      | false =>
        have step : NotAfter less previous item := goesOn
        rcases List.mem_cons.1 member with rfl | member
        · simpa using step
        · have := least other member
          simp only [Bool.false_eq_true, if_false] at this ⊢
          exact consistent.trans _ _ _ step this
      | true =>
        have step : NotAfter less item previous := .of_less consistent goesOn
        rcases List.mem_cons.1 member with rfl | member
        · simpa using step
        · have := least other member
          simp only [if_true] at this ⊢
          exact consistent.trans _ _ _ this step
    · simp [stretch, goesOn]

theorem naturalRun_inOrder (consistent : Consistent less) (items : List α) :
    InOrder less (naturalRun less items).1 := by
  unfold naturalRun
  split
  · next first second rest =>
    have deeper := stretch_inOrder consistent (less second first) second rest
    simp only
    cases falling : less second first with
    | false =>
      rw [falling] at deeper
      simp only [Bool.false_eq_true, if_false] at deeper ⊢
      have step : NotAfter less first second := falling
      obtain ⟨least, _⟩ := List.pairwise_cons.1 deeper
      refine List.pairwise_cons.2 ⟨fun other member => ?_, deeper⟩
      rcases List.mem_cons.1 member with rfl | member
      · exact step
      · exact consistent.trans _ _ _ step (least other member)
    | true =>
      rw [falling] at deeper
      simp only [if_true] at deeper ⊢
      have step : NotAfter less second first := .of_less consistent falling
      obtain ⟨least, _⟩ := List.pairwise_cons.1 deeper
      refine List.pairwise_reverse.2 (List.pairwise_cons.2 ⟨fun other member => ?_, deeper⟩)
      rcases List.mem_cons.1 member with rfl | member
      · exact step
      · exact consistent.trans _ _ _ (least other member) step
  · next short =>
    match items, short with
    | [], _ => exact List.Pairwise.nil
    | [_], _ => exact List.pairwise_singleton _ _
    | first :: second :: rest, short => exact absurd rfl (short first second rest)

theorem firstRun?_honest (consistent : Consistent less) (shortest : Nat) (eager : Bool)
    (items : List α) : ∃ run left, firstRun? less shortest eager items = some (run, left) ∧
      run.Honest less ∧ (eager = true → run.sorted = true) := by
  have natural := naturalRun_inOrder consistent items
  unfold firstRun?
  generalize naturalRun less items = stretched at natural
  simp only
  split
  · exact ⟨_, _, rfl, fun _ => natural, fun _ => rfl⟩
  · split
    · obtain ⟨block, result, sorted⟩ := blockSort?_succeeds consistent (items.take blockLimit)
      exact ⟨_, _, by rw [result]; rfl, fun _ => sorted, fun _ => rfl⟩
    · next lazy => exact ⟨_, _, rfl, by simp [Run.Honest], fun eager => absurd eager lazy⟩

theorem runs?_honest (consistent : Consistent less) (shortest : Nat) (eager : Bool) (count : Nat)
    (items : List α) : ∃ all, runs? less shortest eager count items = some all ∧
      ∀ run ∈ all, run.Honest less ∧ (eager = true → run.sorted = true) := by
  induction count generalizing items with
  | zero => exact ⟨[], rfl, by simp⟩
  | succ count ih =>
    cases items with
    | nil => exact ⟨[], rfl, by simp⟩
    | cons item items =>
      obtain ⟨run, left, first, honest⟩ :=
        firstRun?_honest consistent shortest eager (item :: items)
      obtain ⟨others, rest, othersHonest⟩ := ih left
      refine ⟨run :: others, by simp [runs?, first, rest], fun other member => ?_⟩
      rcases List.mem_cons.1 member with rfl | member
      · exact honest
      · exact othersHonest other member

theorem Run.finish?_succeeds {sort : List α → Option (List α)}
    (sorts : ∀ items, Succeeds less (sort items)) {run : Run α} (honest : run.Honest less) :
    Succeeds less (run.finish? sort) := by
  unfold Run.finish?
  split
  · next sorted => exact ⟨_, rfl, honest sorted⟩
  · exact sorts _

theorem Run.join?_honest (consistent : Consistent less) {sort : List α → Option (List α)}
    (sorts : ∀ items, Succeeds less (sort items)) {left right : Run α}
    (leftHonest : left.Honest less) (rightHonest : right.Honest less) :
    ∃ joined, left.join? less sort right = some joined ∧ joined.Honest less := by
  obtain ⟨first, fromLeft, leftSorted⟩ := Run.finish?_succeeds sorts leftHonest
  obtain ⟨second, fromRight, rightSorted⟩ := Run.finish?_succeeds sorts rightHonest
  unfold Run.join?
  split
  · exact ⟨_, by rw [fromLeft, fromRight]; rfl,
      fun _ => merge_inOrder consistent leftSorted rightSorted⟩
  · exact ⟨_, rfl, by simp [Run.Honest]⟩

theorem Run.join?_ready (consistent : Consistent less) (sort : List α → Option (List α))
    {left right : Run α} (leftReady : left.sorted = true ∧ InOrder less left.items)
    (rightReady : right.sorted = true ∧ InOrder less right.items) :
    ∃ joined, left.join? less sort right = some joined ∧
      joined.sorted = true ∧ InOrder less joined.items :=
  ⟨⟨merge less left.items right.items, true⟩,
    by simp [Run.join?, Run.finish?, leftReady.1, rightReady.1], rfl,
    merge_inOrder consistent leftReady.2 rightReady.2⟩

theorem joinPending?_keeps {good : Run α → Prop} {sort : List α → Option (List α)}
    (closed : ∀ left right : Run α, good left → good right →
      ∃ joined, left.join? less sort right = some joined ∧ good joined)
    (depth : Nat) {pending : List (Run α × Nat)} {run : Run α}
    (pendingGood : ∀ entry ∈ pending, good entry.1) (runGood : good run) :
    ∃ remaining joined, joinPending? less sort depth pending run = some (remaining, joined) ∧
      (∀ entry ∈ remaining, good entry.1) ∧ good joined := by
  induction pending generalizing run with
  | nil => exact ⟨_, _, rfl, pendingGood, runGood⟩
  | cons entry others ih =>
    unfold joinPending?
    split
    · obtain ⟨both, joins, bothGood⟩ :=
        closed _ _ (pendingGood entry List.mem_cons_self) runGood
      rw [joins]
      exact ih (fun other member => pendingGood other (List.mem_cons_of_mem _ member)) bothGood
    · exact ⟨_, _, rfl, pendingGood, runGood⟩

/-- What all runs have, and what joining keeps, the joined run has. -/
theorem joinRuns?_keeps (good : Run α → Prop) {sort : List α → Option (List α)}
    (closed : ∀ left right : Run α, good left → good right →
      ∃ joined, left.join? less sort right = some joined ∧ good joined)
    (count : Nat) (pending : List (Run α × Nat)) (start : Nat) {latest : Run α}
    {others : List (Run α)} (pendingGood : ∀ entry ∈ pending, good entry.1)
    (latestGood : good latest) (othersGood : ∀ run ∈ others, good run) :
    ∃ joined, joinRuns? less sort count pending start latest others = some joined ∧
      good joined := by
  induction others generalizing pending start latest with
  | nil =>
    obtain ⟨remaining, joined, joins, _, joinedGood⟩ :=
      joinPending?_keeps closed 0 pendingGood latestGood
    exact ⟨joined, by simp [joinRuns?, joins], joinedGood⟩
  | cons next others ih =>
    obtain ⟨remaining, both, joins, remainingGood, bothGood⟩ :=
      joinPending?_keeps closed (borderDepth count start (start + latest.items.length)
        (start + latest.items.length + next.items.length)) pendingGood latestGood
    unfold joinRuns?
    simp only [joins, Option.bind_some]
    refine ih _ _ (fun entry member => ?_) (othersGood next List.mem_cons_self)
      (fun run member => othersGood run (List.mem_cons_of_mem _ member))
    rcases List.mem_cons.1 member with rfl | member
    · exact bothGood
    · exact remainingGood entry member

theorem runSort?_succeeds (consistent : Consistent less) {sort : List α → Option (List α)}
    (sorts : ∀ items, Succeeds less (sort items)) (eager : Bool) (items : List α) :
    Succeeds less (runSort? less sort eager items) := by
  unfold runSort?
  obtain ⟨all, cut, honest⟩ :=
    runs?_honest consistent (shortestRun items.length) eager items.length items
  rw [cut]
  cases all with
  | nil => exact ⟨[], rfl, List.Pairwise.nil⟩
  | cons first others =>
    obtain ⟨whole, joins, wholeHonest⟩ := joinRuns?_keeps (Run.Honest less)
      (fun _ _ => Run.join?_honest consistent sorts) items.length [] 0
      (by simp) (honest first List.mem_cons_self).1
      (fun run member => (honest run (List.mem_cons_of_mem _ member)).1)
    simp only [joins, Option.bind_some]
    exact Run.finish?_succeeds sorts wholeHonest

theorem eager_runSort?_succeeds (consistent : Consistent less) (sort : List α → Option (List α))
    (items : List α) : Succeeds less (runSort? less sort true items) := by
  unfold runSort?
  obtain ⟨all, cut, honest⟩ :=
    runs?_honest consistent (shortestRun items.length) true items.length items
  rw [cut]
  cases all with
  | nil => exact ⟨[], rfl, List.Pairwise.nil⟩
  | cons first others =>
    have ready : ∀ run ∈ first :: others, run.sorted = true ∧ InOrder less run.items := by
      intro run member
      obtain ⟨isHonest, sorted⟩ := honest run member
      exact ⟨sorted rfl, isHonest (sorted rfl)⟩
    obtain ⟨whole, joins, wholeReady⟩ := joinRuns?_keeps
      (fun run : Run α => run.sorted = true ∧ InOrder less run.items)
      (fun _ _ => Run.join?_ready consistent sort) items.length [] 0
      (by simp) (ready first List.mem_cons_self)
      (fun run member => ready run (List.mem_cons_of_mem _ member))
    simp only [joins, Option.bind_some]
    exact ⟨whole.items, by simp [Run.finish?, wholeReady.1], wholeReady.2⟩

theorem partitionSort?_succeeds (consistent : Consistent less) (limit : Nat)
    (ancestor : Option α) (items : List α)
    (above : ∀ other ∈ ancestor, ∀ item ∈ items, NotAfter less other item) :
    Succeeds less (partitionSort? less limit ancestor items) := by
  induction limit generalizing ancestor items with
  | zero =>
    unfold partitionSort?
    split
    · exact blockSort?_succeeds consistent items
    · exact eager_runSort?_succeeds consistent some items
  | succ limit ih =>
    unfold partitionSort?
    split
    · exact blockSort?_succeeds consistent items
    · simp only
      split
      · exact ⟨_, rfl, insertionSort_inOrder consistent items⟩
      · next pivot after cut =>
        have whole : items.take (pivotPosition less items.toArray 0 (items.length / 8)) ++
            pivot :: after = items := by rw [← cut, List.take_append_drop]
        generalize items.take (pivotPosition less items.toArray 0 (items.length / 8)) = before
          at whole
        have pivotIn : pivot ∈ items := by rw [← whole]; simp
        have others : ∀ item ∈ before ++ after, item ∈ items := by
          intro item member
          rw [← whole]
          rcases List.mem_append.1 member with member | member <;> simp [member]
        split
        · next least =>
          have pivotLeast : ∀ item ∈ before ++ after, NotAfter less pivot item := by
            intro item member
            rcases Bool.or_eq_true_iff.1 least with fromAncestor | noneSmaller
            · cases ancestor with
              | none => simp at fromAncestor
              | some other =>
                have pivotBelow : NotAfter less pivot other := by
                  simpa [NotAfter] using fromAncestor
                exact consistent.trans _ _ _ pivotBelow (above other rfl item (others item member))
            · cases precedes : less item pivot with
              | false => exact precedes
              | true =>
                have found : item ∈ (before ++ after).filter fun item => less item pivot :=
                  List.mem_filter.2 ⟨member, precedes⟩
                rw [List.isEmpty_iff.1 noneSmaller] at found
                cases found
          have lowLike : ∀ item, item ∈ before.filter (fun item => !less pivot item) ++
              pivot :: after.filter (fun item => !less pivot item) →
              NotAfter less item pivot ∧ NotAfter less pivot item := by
            intro item member
            rcases List.mem_append.1 member with member | member
            · obtain ⟨inBefore, low⟩ := List.mem_filter.1 member
              exact ⟨by simpa [NotAfter] using low,
                pivotLeast item (List.mem_append_left _ inBefore)⟩
            · rcases List.mem_cons.1 member with rfl | member
              · exact ⟨consistent.refl _, consistent.refl _⟩
              · obtain ⟨inAfter, low⟩ := List.mem_filter.1 member
                exact ⟨by simpa [NotAfter] using low,
                  pivotLeast item (List.mem_append_right _ inAfter)⟩
          obtain ⟨sorted, result, inOrder⟩ := ih none
            ((before ++ after).filter fun item => less pivot item) (by simp)
          rw [result]
          refine ⟨_, rfl, List.pairwise_append.2 ⟨?_, inOrder, ?_⟩⟩
          · exact List.Pairwise.imp_of_mem
              (fun first second _ => consistent.trans _ _ _ (lowLike _ first).1
                (lowLike _ second).2)
              (List.pairwise_of_forall (fun _ _ => trivial) :
                List.Pairwise (fun _ _ => True) _)
          · intro low lowMember high highMember
            have highIn := (partitionSort?_perm result).mem_iff.1 highMember
            exact consistent.trans _ _ _ (lowLike low lowMember).1
              (.of_less consistent (List.mem_filter.1 highIn).2)
        · have highLike : ∀ item, item ∈ before.filter (fun item => !less item pivot) ++
              pivot :: after.filter (fun item => !less item pivot) →
              NotAfter less pivot item := by
            intro item member
            rcases List.mem_append.1 member with member | member
            · simpa [NotAfter] using (List.mem_filter.1 member).2
            · rcases List.mem_cons.1 member with rfl | member
              · exact consistent.refl _
              · simpa [NotAfter] using (List.mem_filter.1 member).2
          obtain ⟨sorted, fromSmaller, inOrder⟩ := ih ancestor
            ((before ++ after).filter fun item => less item pivot) fun other known item member =>
              above other known item (others item (List.mem_filter.1 member).1)
          obtain ⟨more, fromHigh, moreInOrder⟩ := ih (some pivot)
            (before.filter (fun item => !less item pivot) ++
              pivot :: after.filter (fun item => !less item pivot)) (by
                intro other known item member
                cases known
                exact highLike item member)
          rw [fromSmaller, fromHigh]
          refine ⟨_, rfl, List.pairwise_append.2 ⟨inOrder, moreInOrder, ?_⟩⟩
          intro low lowMember high highMember
          have lowIn := (partitionSort?_perm fromSmaller).mem_iff.1 lowMember
          have highIn := (partitionSort?_perm fromHigh).mem_iff.1 highMember
          exact consistent.trans _ _ _
            (.of_less consistent (List.mem_filter.1 lowIn).2) (highLike high highIn)

/-- Sorting by a consistent test puts the items in order. -/
theorem stableSort?_succeeds (consistent : Consistent less) (items : List α) :
    Succeeds less (stableSort? less items) := by
  unfold stableSort?
  split
  · exact ⟨_, rfl, insertionSort_inOrder consistent items⟩
  · exact runSort?_succeeds consistent
      (fun part => partitionSort?_succeeds consistent _ none part (by simp)) _ items

end Sorting
end RequestDispatch
