import RequestDispatch.Dispatch.Router
import RequestDispatch.Proofs.Sorting.Ranked
import Mathlib.Data.List.Induction

/-!
Prefixes of paths and the choice between dispatchers. A prefix covers a path if it ends where a
segment of the path ends. However dispatchers are added, a path goes to the one with the longest
prefix that covers it, of several with that prefix to the one added first
(`route_longest_prefix`). A router is sorted again after each addition: the step is `Arranged.add`,
the run `arranged_added`.
-/

namespace RequestDispatch

/-- The prefix is the path, or a slash follows it in the path. -/
def Covers (pathPrefix path : String) : Prop :=
  path = pathPrefix ∨ ∃ more, path = pathPrefix ++ "/" ++ more

theorem slash_append (more : String) : "/" ++ more = String.ofList ('/' :: more.toList) := by
  apply String.toList_inj.1
  simp

theorem path_behind_eq_some {pathPrefix path rest : String} :
    pathBehind? pathPrefix path = some rest ↔
      (path = pathPrefix ∧ rest = "/") ∨
        (path = pathPrefix ++ rest ∧ ∃ more, rest = "/" ++ more) := by
  have divides (behind : List Char) :
      Text.dropBeginning pathPrefix.toList path.toList = some behind ↔
        path = pathPrefix ++ String.ofList behind := by
    rw [Text.dropBeginning_eq_some, ← String.toList_inj, String.toList_append,
      String.toList_ofList]
  constructor
  · intro found
    unfold pathBehind? at found
    split at found
    · next dropped =>
      have whole := (divides []).1 dropped
      exact .inl ⟨by simpa using whole, (Option.some.inj found).symm⟩
    · next behind dropped =>
      have whole := (divides ('/' :: behind)).1 dropped
      have slash := slash_append (String.ofList behind)
      rw [String.toList_ofList] at slash
      rw [← Option.some.inj found]
      exact .inr ⟨whole, String.ofList behind, slash.symm⟩
    · cases found
  · rintro (⟨rfl, rfl⟩ | ⟨whole, more, rfl⟩)
    · have dropped := (divides []).2 (by simp)
      simp only [pathBehind?, dropped]
    · rw [slash_append] at whole ⊢
      have dropped := (divides ('/' :: more.toList)).2 whole
      simp only [pathBehind?, dropped]

theorem covers_iff {pathPrefix path : String} :
    Covers pathPrefix path ↔ ∃ rest, pathBehind? pathPrefix path = some rest := by
  constructor
  · rintro (same | ⟨more, whole⟩)
    · exact ⟨"/", path_behind_eq_some.2 (.inl ⟨same, rfl⟩)⟩
    · rw [String.append_assoc] at whole
      exact ⟨"/" ++ more, path_behind_eq_some.2 (.inr ⟨whole, more, rfl⟩)⟩
  · rintro ⟨rest, found⟩
    rcases path_behind_eq_some.1 found with ⟨same, -⟩ | ⟨whole, more, rfl⟩
    · exact .inl same
    · rw [← String.append_assoc] at whole
      exact .inr ⟨more, whole⟩

theorem Covers.begins {pathPrefix path : String} (covers : Covers pathPrefix path) :
    pathPrefix.toList <+: path.toList := by
  rcases covers with rfl | ⟨more, rfl⟩
  · exact List.prefix_rfl
  · rw [String.append_assoc, String.toList_append]
    exact List.prefix_append _ _

theorem begins_of_size_le {first second path : String} (covers : Covers first path)
    (alsoCovers : Covers second path) (size : first.utf8ByteSize ≤ second.utf8ByteSize) :
    first.toList <+: second.toList := by
  rcases List.prefix_or_prefix_of_prefix covers.begins alsoCovers.begins with
    within | ⟨rest, whole⟩
  · exact within
  · have longer : first = second ++ String.ofList rest := by
      apply String.toList_inj.1
      rw [String.toList_append, String.toList_ofList, whole]
    rw [longer, String.utf8ByteSize_append] at size
    have empty : String.ofList rest = "" := by
      apply String.utf8ByteSize_eq_zero_iff.1
      omega
    have same : first = second := by rw [longer, empty, String.append_empty]
    subst same
    exact List.prefix_rfl

theorem Covers.eq_of_length {first second path : String} (covers : Covers first path)
    (alsoCovers : Covers second path) (length : first.length = second.length) :
    first = second := by
  rw [← String.length_toList, ← String.length_toList] at length
  have begins :=
    List.prefix_of_prefix_length_le covers.begins alsoCovers.begins (Nat.le_of_eq length)
  exact String.toList_inj.1 (begins.eq_of_length length)

namespace DispatcherRouter

variable {State : Type}

def noShorter (first second : Dispatcher State) : Bool :=
  second.pathPrefix.utf8ByteSize ≤ first.pathPrefix.utf8ByteSize

theorem noShorter_trans (first second third : Dispatcher State)
    (one : noShorter first second = true) (two : noShorter second third = true) :
    noShorter first third = true := by
  simp only [noShorter, decide_eq_true_eq] at one two ⊢
  omega

theorem noShorter_total (first second : Dispatcher State) :
    (noShorter first second || noShorter second first) = true := by
  simp only [noShorter, Bool.or_eq_true, decide_eq_true_eq]
  omega

theorem add_dispatchers (router : DispatcherRouter State) (dispatcher : Dispatcher State) :
    (router.add dispatcher).dispatchers =
      (router.dispatchers ++ [dispatcher]).mergeSort noShorter := rfl

def under (pathPrefix : String) (dispatchers : List (Dispatcher State)) :
    List (Dispatcher State) :=
  dispatchers.filter fun dispatcher => dispatcher.pathPrefix = pathPrefix

theorem mem_under {pathPrefix : String} {dispatchers : List (Dispatcher State)}
    {dispatcher : Dispatcher State} :
    dispatcher ∈ under pathPrefix dispatchers ↔
      dispatcher ∈ dispatchers ∧ dispatcher.pathPrefix = pathPrefix := by
  rw [under, List.mem_filter, decide_eq_true_eq]

theorem under_sorted (pathPrefix : String) (dispatchers : List (Dispatcher State)) :
    under pathPrefix (dispatchers.mergeSort noShorter) = under pathPrefix dispatchers := by
  apply filter_mergeSort noShorter_trans noShorter_total
  intro first second one two
  rw [decide_eq_true_eq] at one two
  rw [noShorter, one, two]
  exact decide_eq_true (Nat.le_refl _)

/-- Where no prefix occurs twice, it does not matter in which order dispatchers stand. -/
theorem under_perm {added reordered : List (Dispatcher State)} (perm : reordered.Perm added)
    (distinct : (added.map Dispatcher.pathPrefix).Nodup) (pathPrefix : String) :
    under pathPrefix reordered = under pathPrefix added := by
  have same : (under pathPrefix reordered).Perm (under pathPrefix added) := perm.filter _
  have once : ((under pathPrefix added).map Dispatcher.pathPrefix).Nodup :=
    distinct.sublist (List.filter_sublist.map _)
  cases within : under pathPrefix added with
  | nil =>
      rw [within] at same
      exact List.perm_nil.1 same
  | cons first rest =>
      cases rest with
      | nil =>
          rw [within] at same
          exact List.perm_singleton.1 same
      | cons second rest =>
          have firstMember : first ∈ under pathPrefix added := by simp [within]
          have secondMember : second ∈ under pathPrefix added := by simp [within]
          rw [within, List.map_cons, List.map_cons, (mem_under.1 firstMember).2,
            (mem_under.1 secondMember).2] at once
          simp at once

/-- Longer prefixes stand first, and dispatchers with one prefix in the order of their addition. -/
structure Arranged (added : List (Dispatcher State)) (router : DispatcherRouter State) : Prop where
  sorted : router.dispatchers.Pairwise fun first second => noShorter first second = true
  inOrder : ∀ pathPrefix, under pathPrefix router.dispatchers = under pathPrefix added

theorem Arranged.add {added : List (Dispatcher State)} {router : DispatcherRouter State}
    (arranged : Arranged added router) (dispatcher : Dispatcher State) :
    Arranged (added ++ [dispatcher]) (router.add dispatcher) where
  sorted := by
    rw [add_dispatchers]
    exact List.pairwise_mergeSort noShorter_trans noShorter_total _
  inOrder := by
    intro pathPrefix
    have before := arranged.inOrder pathPrefix
    rw [add_dispatchers, under_sorted, under, List.filter_append, ← under, before, under, under,
      List.filter_append]

def ofList (added : List (Dispatcher State)) : DispatcherRouter State :=
  added.foldl DispatcherRouter.add .empty

theorem arranged_added (added : List (Dispatcher State)) : Arranged added (ofList added) := by
  induction added using List.reverseRecOn with
  | nil => exact ⟨.nil, fun _ => rfl⟩
  | append_singleton added dispatcher ih =>
      rw [ofList, List.foldl_append]
      exact ih.add dispatcher

theorem Arranged.mem {added : List (Dispatcher State)} {router : DispatcherRouter State}
    (arranged : Arranged added router) (dispatcher : Dispatcher State) :
    dispatcher ∈ router.dispatchers ↔ dispatcher ∈ added := by
  have member (dispatchers : List (Dispatcher State)) :
      dispatcher ∈ dispatchers ↔ dispatcher ∈ under dispatcher.pathPrefix dispatchers := by
    simp [mem_under]
  rw [member, arranged.inOrder, ← member]

theorem Arranged.route_eq_none {added : List (Dispatcher State)} {router : DispatcherRouter State}
    (arranged : Arranged added router) (path : String) :
    router.route path = none ↔
      ∀ dispatcher ∈ added, ¬Covers dispatcher.pathPrefix path := by
  rw [route, List.find?_eq_none]
  simp only [arranged.mem, covers_iff, Dispatcher.relativePath?, Option.isSome_iff_exists]

/-- The dispatcher that a path goes to covers it with the longest prefix, and is the first that was
added with that prefix. -/
structure Chosen (added : List (Dispatcher State)) (path : String)
    (dispatcher : Dispatcher State) : Prop where
  covers : Covers dispatcher.pathPrefix path
  longest : ∀ other ∈ added, Covers other.pathPrefix path →
    other.pathPrefix.length ≤ dispatcher.pathPrefix.length
  first : added.find? (fun other => other.pathPrefix = dispatcher.pathPrefix) = some dispatcher

theorem find_eq_head_under (pathPrefix : String) (dispatchers : List (Dispatcher State)) :
    dispatchers.find? (fun dispatcher => dispatcher.pathPrefix = pathPrefix) =
      (under pathPrefix dispatchers).head? := by
  rw [under, List.head?_filter]

theorem Arranged.chosen {added : List (Dispatcher State)} {router : DispatcherRouter State}
    (arranged : Arranged added router) {path : String} {dispatcher : Dispatcher State}
    (routed : router.route path = some dispatcher) : Chosen added path dispatcher := by
  rw [route, List.find?_eq_some_iff_append] at routed
  obtain ⟨fits, front, back, divided, before⟩ := routed
  have covered (other : Dispatcher State) :
      Covers other.pathPrefix path ↔ (other.relativePath? path).isSome = true := by
    rw [covers_iff, Dispatcher.relativePath?, Option.isSome_iff_exists]
  have covers := (covered dispatcher).2 fits
  constructor
  · exact covers
  · intro other member otherCovers
    have sorted := arranged.sorted
    rw [divided, List.pairwise_append, List.pairwise_cons] at sorted
    rw [← arranged.mem, divided, List.mem_append, List.mem_cons] at member
    rcases member with earlier | rfl | later
    · have passed := before other earlier
      rw [(covered other).1 otherCovers] at passed
      cases passed
    · exact Nat.le_refl _
    · have size := of_decide_eq_true (sorted.2.1.1 other later)
      have begins := begins_of_size_le otherCovers covers size
      rw [← String.length_toList, ← String.length_toList]
      exact begins.length_le
  · rw [find_eq_head_under, ← arranged.inOrder, ← find_eq_head_under, divided,
      List.find?_eq_some_iff_append]
    refine ⟨decide_eq_true rfl, front, back, rfl, ?_⟩
    intro other earlier
    rw [Bool.not_eq_true', decide_eq_false_iff_not]
    intro same
    have passed := before other earlier
    rw [(covered other).1 (same ▸ covers)] at passed
    cases passed

/-- What a path goes to is determined by what covers it and by the order of equal prefixes. -/
theorem Arranged.route_eq_some {added : List (Dispatcher State)}
    {router : DispatcherRouter State} (arranged : Arranged added router) {path : String}
    {dispatcher : Dispatcher State} :
    router.route path = some dispatcher ↔ Chosen added path dispatcher := by
  constructor
  · exact arranged.chosen
  · intro chosen
    cases routed : router.route path with
    | none =>
        have member := List.mem_of_find?_eq_some chosen.first
        exact absurd chosen.covers ((arranged.route_eq_none path).1 routed dispatcher member)
    | some other =>
        have found := arranged.chosen routed
        have member := List.mem_of_find?_eq_some chosen.first
        have otherMember := List.mem_of_find?_eq_some found.first
        have shorter := found.longest dispatcher member chosen.covers
        have longer := chosen.longest other otherMember found.covers
        have same := found.covers.eq_of_length chosen.covers (Nat.le_antisymm longer shorter)
        have first := found.first
        rw [same, chosen.first] at first
        exact first.symm

end DispatcherRouter

/-- However dispatchers are added to a router, a path goes nowhere exactly if no prefix covers it,
and otherwise to the dispatcher with the longest prefix that does, of several with this prefix to
the one added first. Only those with one prefix need to keep their order, so that dispatchers with
distinct prefixes may be added in any order. The dispatcher works on what follows its prefix, or on
the root if nothing does. -/
theorem route_longest_prefix {State : Type} (added : List (Dispatcher State)) (path : String) :
    ((DispatcherRouter.ofList added).route path = none ↔
      ∀ dispatcher ∈ added, ¬Covers dispatcher.pathPrefix path) ∧
    (∀ dispatcher, (DispatcherRouter.ofList added).route path = some dispatcher ↔
      DispatcherRouter.Chosen added path dispatcher) ∧
    (∀ reordered : List (Dispatcher State),
      (∀ pathPrefix, DispatcherRouter.under pathPrefix reordered =
        DispatcherRouter.under pathPrefix added) →
      (DispatcherRouter.ofList reordered).route path =
        (DispatcherRouter.ofList added).route path) ∧
    (∀ reordered : List (Dispatcher State), reordered.Perm added →
      (added.map Dispatcher.pathPrefix).Nodup →
        (DispatcherRouter.ofList reordered).route path =
          (DispatcherRouter.ofList added).route path) ∧
    ∀ dispatcher, (DispatcherRouter.ofList added).route path = some dispatcher →
      ∃ rest, dispatcher.relativePath? path = some rest ∧
        ((path = dispatcher.pathPrefix ∧ rest = "/") ∨
          (path = dispatcher.pathPrefix ++ rest ∧ ∃ more, rest = "/" ++ more)) := by
  have arranged := DispatcherRouter.arranged_added added
  -- Both routers hold the same dispatchers, and for each prefix in the same order.
  have agree (reordered : List (Dispatcher State))
      (same : ∀ pathPrefix, DispatcherRouter.under pathPrefix reordered =
        DispatcherRouter.under pathPrefix added) :
      (DispatcherRouter.ofList reordered).route path =
        (DispatcherRouter.ofList added).route path := by
    have own := DispatcherRouter.arranged_added reordered
    have rearranged : DispatcherRouter.Arranged added (DispatcherRouter.ofList reordered) :=
      ⟨own.sorted, fun pathPrefix => (own.inOrder pathPrefix).trans (same pathPrefix)⟩
    apply Option.ext
    intro dispatcher
    rw [rearranged.route_eq_some, arranged.route_eq_some]
  refine ⟨arranged.route_eq_none path, fun _ => arranged.route_eq_some, agree, ?_, ?_⟩
  · intro reordered perm distinct
    exact agree reordered (DispatcherRouter.under_perm perm distinct)
  · intro dispatcher routed
    have covers := (arranged.route_eq_some.1 routed).covers
    obtain ⟨rest, found⟩ := covers_iff.1 covers
    exact ⟨rest, found, path_behind_eq_some.1 found⟩

end RequestDispatch
