import RequestDispatch.Proofs.Sorting.Ranked
import RequestDispatch.Result.Outcome

/-!
The outcome that takes effect. Sorting puts the declared outcomes in the order of their kinds
(`sort_eq_byKind`); the first of them that applies takes effect as it would alone
(`applyFirst_alone`), and one that fails leaves the response as it was (`attempt_settled`).
-/

namespace RequestDispatch

namespace Outcome

variable {State : Type}

inductive Kind where
  | view
  | write
  | redirect
  | status
  deriving DecidableEq

def kind : Outcome → Kind
  | .view _ => .view
  | .write => .write
  | .redirect _ => .redirect
  | .status _ _ => .status

def ofKind (kind : Kind) (outcomes : List Outcome) : List Outcome :=
  outcomes.filter fun outcome => outcome.kind = kind

/-- Views first, then what writes, what redirects and what sets the status. -/
def byKind (outcomes : List Outcome) : List Outcome :=
  ofKind .view outcomes ++ ofKind .write outcomes ++ ofKind .redirect outcomes ++
    ofKind .status outcomes

def Kind.place : Kind → Nat
  | .view => 0
  | .write => 1
  | .redirect => 2
  | .status => 3

theorem rank_eq (outcome : Outcome) : outcome.rank = outcome.kind.place := by
  cases outcome <;> rfl

theorem Kind.place_injective {first second : Kind} (same : first.place = second.place) :
    first = second := by
  cases first <;> cases second <;> first | rfl | cases same

theorem kind_of_mem {kind : Kind} {outcomes : List Outcome} {outcome : Outcome}
    (member : outcome ∈ ofKind kind outcomes) : outcome.kind = kind := by
  simpa using (List.mem_filter.1 member).2

theorem ofKind_sorted (kind : Kind) (outcomes : List Outcome) :
    (ofKind kind outcomes).Pairwise fun first second => first.rank ≤ second.rank := by
  apply List.pairwise_of_forall_mem_list
  intro first member second other
  rw [rank_eq, rank_eq, kind_of_mem member, kind_of_mem other]

theorem byKind_sorted (outcomes : List Outcome) :
    (byKind outcomes).Pairwise fun first second => first.rank ≤ second.rank := by
  have before (kind later : Kind) (lower : kind.place ≤ later.place) :
      ∀ first ∈ ofKind kind outcomes, ∀ second ∈ ofKind later outcomes,
        first.rank ≤ second.rank := by
    intro first member second other
    rw [rank_eq, rank_eq, kind_of_mem member, kind_of_mem other]
    exact lower
  simp only [byKind, List.pairwise_append, List.mem_append, or_imp, forall_and, ofKind_sorted,
    true_and]
  exact ⟨⟨before .view .write (by decide), before .view .redirect (by decide),
    before .write .redirect (by decide)⟩, ⟨before .view .status (by decide),
    before .write .status (by decide)⟩, before .redirect .status (by decide)⟩

theorem ofKind_filter (kind : Kind) (outcomes : List Outcome) (rank : Nat) :
    ((ofKind kind outcomes).filter fun outcome => outcome.rank = rank) =
      if kind.place = rank then ofKind kind outcomes else [] := by
  split
  · next same =>
    rw [List.filter_eq_self]
    intro outcome member
    rw [rank_eq, kind_of_mem member, decide_eq_true same]
  · next differs =>
    rw [List.filter_eq_nil_iff]
    intro outcome member
    rw [rank_eq, kind_of_mem member, decide_eq_true_eq]
    exact differs

theorem byKind_filter (outcomes : List Outcome) (rank : Nat) :
    ((byKind outcomes).filter fun outcome => outcome.rank = rank) =
      outcomes.filter fun outcome => outcome.rank = rank := by
  simp only [byKind, List.filter_append, ofKind_filter]
  by_cases known : ∃ kind : Kind, kind.place = rank
  · obtain ⟨kind, rfl⟩ := known
    have declared : (outcomes.filter fun outcome => outcome.rank = kind.place) =
        ofKind kind outcomes := by
      apply List.filter_congr
      intro outcome _
      rw [rank_eq, decide_eq_decide]
      exact ⟨Kind.place_injective, congrArg Kind.place⟩
    rw [declared]
    cases kind <;> simp [Kind.place]
  · rw [not_exists] at known
    simp only [known, if_false, List.append_nil]
    symm
    rw [List.filter_eq_nil_iff]
    intro outcome _
    rw [rank_eq, decide_eq_true_eq]
    exact known outcome.kind

theorem sort_eq_byKind (outcomes : List Outcome) : sort outcomes = byKind outcomes := by
  have trans (first second third : Outcome) (one : decide (first.rank ≤ second.rank) = true)
      (two : decide (second.rank ≤ third.rank) = true) :
      decide (first.rank ≤ third.rank) = true := by
    rw [decide_eq_true_eq] at one two ⊢
    exact one.trans two
  have total (first second : Outcome) :
      (decide (first.rank ≤ second.rank) || decide (second.rank ≤ first.rank)) = true := by
    simpa using Nat.le_total first.rank second.rank
  -- The least rank comes first, so ranks count downwards here.
  have sorted : (sort outcomes).Pairwise fun first second =>
      OrderDual.toDual second.rank ≤ OrderDual.toDual first.rank := by
    apply (List.pairwise_mergeSort trans total outcomes).imp
    intro first second inOrder
    exact of_decide_eq_true inOrder
  apply eq_of_ranked sorted (byKind_sorted outcomes)
  intro rank
  have alike (first second : Outcome) (one : decide (first.rank = OrderDual.ofDual rank) = true)
      (two : decide (second.rank = OrderDual.ofDual rank) = true) :
      decide (first.rank ≤ second.rank) = true := by
    rw [decide_eq_true_eq] at one two ⊢
    rw [one, two]
  exact (filter_mergeSort trans total alike outcomes).trans
    (byKind_filter outcomes (OrderDual.ofDual rank)).symm

/-- There is something to write: no null, and of the objects only a stream that has not been
read. -/
def writable (drained : List Identity) : Value → Bool
  | .null => false
  | .object object =>
    match object.content with
    | .instance _ _ => false
    | .stream _ _ => !drained.contains object.identity
  | _ => true

/-- The outcome has a view to render, something to write or somewhere to redirect to. -/
def applies (defaultView : Option String) (value : Value) (drained : List Identity) :
    Outcome → Bool
  | .view template => !(viewName template defaultView value).isEmpty
  | .write => writable drained value
  | .redirect template => !(target template value).isEmpty
  | .status _ _ => true

/-- What an outcome that applies may fail with: there is no renderer, the renderer fails, the stream
cannot be read to its end, or a location is no header value. -/
inductive Fails (views : Option Renderer) (defaultView : Option String) (value : Value) :
    Outcome → DispatchError → Prop
  | noRenderer {template : Option String} : views = none →
      Fails views defaultView value (.view template)
        (.view (.noRenderer (viewName template defaultView value)))
  | rendering {template : Option String} {renderer : Renderer} {cause : ViewError} :
      views = some renderer →
      renderer.render (viewName template defaultView value) (model value) = .error cause →
        Fails views defaultView value (.view template) (.view cause)
  | reading {object : SharedObject} {bytes : List UInt8} {reason : String} :
      value = .object object → object.content = .stream bytes (some reason) →
        Fails views defaultView value .write (.handler (.stream reason))
  | location {template : Option String} : headerValue? (target template value) = none →
      Fails views defaultView value (.redirect template)
        (.invalidHeader (.invalidValue ("Location " ++ target template value)))

variable {views : Option Renderer} {defaultView : Option String} {value : Value}

theorem respondBytes_committed (exchange : Exchange State) (contentType : String)
    (bytes : List UInt8) :
    (respondBytes exchange contentType bytes).sink.committed = true := rfl

theorem attempt_declined {outcome : Outcome} {exchange : Exchange State}
    (declined : outcome.applies defaultView value exchange.drained = false) :
    outcome.attempt views defaultView value exchange = (.ok none, exchange) := by
  cases outcome with
  | view template =>
      have unnamed : (viewName template defaultView value).isEmpty = true := by
        simpa [applies] using declined
      simp only [attempt, applyView, unnamed, if_true]
  | write =>
      rw [applies] at declined
      rw [attempt]
      cases value with
      | null => rfl
      | object object =>
          rw [writable] at declined
          simp only [applyWrite, SharedObject.drain]
          rcases held : object.content with ⟨type, label⟩ | ⟨bytes, failure⟩
          · rfl
          · have read : exchange.drained.contains object.identity = true := by
              simpa [held] using declined
            simp only [read, if_true]
      | _ => cases declined
  | redirect template =>
      have nowhere : (target template value).isEmpty = true := by
        simpa [applies] using declined
      simp only [attempt, applyRedirect, nowhere, if_true]
  | status code message => cases declined

/-- What an attempt of an outcome comes to that applies: the response is committed, or the outcome
fails and leaves the response as it was. -/
def Settled (views : Option Renderer) (defaultView : Option String) (value : Value)
    (exchange : Exchange State) (outcome : Outcome) : Prop :=
  (∃ after, (outcome.attempt views defaultView value exchange).1 = .ok (some after) ∧
    after.sink.committed = true) ∨
  ∃ error, (outcome.attempt views defaultView value exchange).1 = .error error ∧
    Fails views defaultView value outcome error ∧
    (outcome.attempt views defaultView value exchange).2.sink = exchange.sink

theorem view_settled {template : Option String} {exchange : Exchange State}
    (named : (viewName template defaultView value).isEmpty = false) :
    Settled views defaultView value exchange (.view template) := by
  simp only [Settled, attempt, applyView, named, Bool.false_eq_true, if_false]
  cases views with
  | none => exact .inr ⟨_, rfl, .noRenderer rfl, trivial⟩
  | some renderer =>
      dsimp only
      cases rendered : renderer.render (viewName template defaultView value) (model value) with
      | error cause => exact .inr ⟨_, rfl, .rendering rfl rendered, trivial⟩
      | ok page => exact .inl ⟨_, rfl, respondBytes_committed ..⟩

theorem write_settled {exchange : Exchange State}
    (something : writable exchange.drained value = true) :
    Settled views defaultView value exchange .write := by
  rw [Settled, attempt]
  cases value with
  | null => cases something
  | object object =>
      rw [writable] at something
      split at something
      · cases something
      · next bytes failure same =>
        rw [Bool.not_eq_true'] at something
        simp only [applyWrite, SharedObject.drain, same, something, Bool.false_eq_true, if_false]
        cases failure with
        | none => exact .inl ⟨_, rfl, respondBytes_committed ..⟩
        | some reason => exact .inr ⟨_, rfl, .reading rfl same, rfl⟩
  | _ => exact .inl ⟨_, rfl, respondBytes_committed ..⟩

theorem redirect_settled {template : Option String} {exchange : Exchange State}
    (somewhere : (target template value).isEmpty = false) :
    Settled views defaultView value exchange (.redirect template) := by
  simp only [Settled, attempt, applyRedirect, somewhere, Bool.false_eq_true, if_false,
    ResponseSink.redirect]
  cases valid : headerValue? (target template value) with
  | none => exact .inr ⟨_, rfl, .location valid, trivial⟩
  | some bytes => exact .inl ⟨_, rfl, rfl⟩

theorem status_settled (code : Nat) (message : Option String) (exchange : Exchange State) :
    Settled views defaultView value exchange (.status code message) := by
  left
  refine ⟨_, rfl, ?_⟩
  cases message <;> rfl

theorem attempt_settled {outcome : Outcome} {exchange : Exchange State}
    (applies : outcome.applies defaultView value exchange.drained = true) :
    Settled views defaultView value exchange outcome := by
  cases outcome with
  | view template => exact view_settled (by simpa [Outcome.applies] using applies)
  | write => exact write_settled applies
  | redirect template => exact redirect_settled (by simpa [Outcome.applies] using applies)
  | status code message => exact status_settled code message exchange

theorem Fails.attempt {outcome : Outcome} {error : DispatchError}
    (fails : Fails views defaultView value outcome error) {exchange : Exchange State}
    (applies : outcome.applies defaultView value exchange.drained = true) :
    (outcome.attempt views defaultView value exchange).1 = .error error := by
  cases fails with
  | @noRenderer template missing =>
      have named : (viewName template defaultView value).isEmpty = false := by
        simpa [Outcome.applies] using applies
      simp only [Outcome.attempt, applyView, named, missing, Bool.false_eq_true, if_false]
  | @rendering template renderer cause known failed =>
      have named : (viewName template defaultView value).isEmpty = false := by
        simpa [Outcome.applies] using applies
      simp only [Outcome.attempt, applyView, named, known, failed, Bool.false_eq_true, if_false]
  | @reading object bytes reason held same =>
      have unread : exchange.drained.contains object.identity = false := by
        simpa [Outcome.applies, writable, held, same] using applies
      simp only [Outcome.attempt, held, applyWrite, SharedObject.drain, same, unread,
        Bool.false_eq_true, if_false]
  | @location template invalid =>
      have somewhere : (target template value).isEmpty = false := by
        simpa [Outcome.applies] using applies
      simp only [Outcome.attempt, applyRedirect, somewhere, ResponseSink.redirect, invalid,
        Bool.false_eq_true, if_false]

theorem applyFirst_done {outcome : Outcome} {exchange after : Exchange State}
    (done : (outcome.attempt views defaultView value exchange).1 = .ok (some after))
    (rest : List Outcome) :
    applyFirst views defaultView value (outcome :: rest) exchange = (.ok (), after) := by
  have answered : outcome.attempt views defaultView value exchange = (.ok (some after), _) :=
    Prod.ext done rfl
  rw [applyFirst.eq_def]
  dsimp only
  rw [answered]

theorem applyFirst_failed {outcome : Outcome} {exchange : Exchange State} {error : DispatchError}
    (failed : (outcome.attempt views defaultView value exchange).1 = .error error)
    (rest : List Outcome) :
    applyFirst views defaultView value (outcome :: rest) exchange =
      (.error error, (outcome.attempt views defaultView value exchange).2) := by
  have answered : outcome.attempt views defaultView value exchange = (.error error, _) :=
    Prod.ext failed rfl
  rw [applyFirst.eq_def]
  dsimp only
  rw [answered]

/-- Outcomes are tried until one applies, which is then the only one that counts. -/
theorem applyFirst_alone (outcomes : List Outcome) (exchange : Exchange State) :
    applyFirst views defaultView value outcomes exchange =
      match outcomes.find? (applies defaultView value exchange.drained) with
      | none => (.ok (), exchange)
      | some outcome => applyFirst views defaultView value [outcome] exchange := by
  induction outcomes with
  | nil => rfl
  | cons outcome outcomes ih =>
      cases applies : outcome.applies defaultView value exchange.drained with
      | false =>
          rw [List.find?_cons_of_neg (by simp [applies]), applyFirst, attempt_declined applies]
          exact ih
      | true =>
          rw [List.find?_cons_of_pos applies]
          have settled : Settled views defaultView value exchange outcome :=
            attempt_settled applies
          rcases settled with ⟨after, done, -⟩ | ⟨error, failed, -⟩
          · simp only [applyFirst_done done]
          · simp only [applyFirst_failed failed]

theorem applyFirst_nothing {outcomes : List Outcome} {exchange : Exchange State}
    (nothing : outcomes.find? (applies defaultView value exchange.drained) = none) :
    applyFirst views defaultView value outcomes exchange = (.ok (), exchange) := by
  rw [applyFirst_alone, nothing]

theorem applyFirst_chosen {outcomes : List Outcome} {outcome : Outcome} {exchange : Exchange State}
    (chosen : outcomes.find? (applies defaultView value exchange.drained) = some outcome) :
    applyFirst views defaultView value outcomes exchange =
      applyFirst views defaultView value [outcome] exchange := by
  rw [applyFirst_alone, chosen]

/-- What the first outcome that applies comes to: it commits the response and has no reason to fail,
or it fails for a reason that it has and leaves the response as it was. -/
theorem applyFirst_comes {outcomes : List Outcome} {outcome : Outcome} {exchange : Exchange State}
    (chosen : outcomes.find? (applies defaultView value exchange.drained) = some outcome) :
    (∃ after, applyFirst views defaultView value outcomes exchange = (.ok (), after) ∧
      after.sink.committed = true ∧ ∀ error, ¬Fails views defaultView value outcome error) ∨
    ∃ error left, applyFirst views defaultView value outcomes exchange = (.error error, left) ∧
      left.sink = exchange.sink ∧ Fails views defaultView value outcome error := by
  have applies : outcome.applies defaultView value exchange.drained = true :=
    List.find?_some chosen
  have settled : Settled views defaultView value exchange outcome := attempt_settled applies
  rw [applyFirst_chosen chosen]
  rcases settled with ⟨after, done, committed⟩ | ⟨error, failed, fails, kept⟩
  · left
    refine ⟨after, applyFirst_done done [], committed, ?_⟩
    intro error fails
    rw [fails.attempt applies] at done
    cases done
  · right
    exact ⟨error, _, applyFirst_failed failed [], kept, fails⟩

theorem applyFirst_error_iff {outcomes : List Outcome} {exchange : Exchange State}
    {error : DispatchError} :
    (applyFirst views defaultView value outcomes exchange).1 = .error error ↔
      ∃ outcome, outcomes.find? (applies defaultView value exchange.drained) = some outcome ∧
        Fails views defaultView value outcome error := by
  constructor
  · intro failed
    cases chosen : outcomes.find? (applies defaultView value exchange.drained) with
    | none =>
        rw [applyFirst_nothing chosen] at failed
        cases failed
    | some outcome =>
        rcases applyFirst_comes chosen with
          ⟨after, done, -⟩ | ⟨known, left, fails, -, reason⟩
        · rw [done] at failed
          cases failed
        · rw [fails] at failed
          cases failed
          exact ⟨outcome, rfl, reason⟩
  · rintro ⟨outcome, chosen, fails⟩
    have applies : outcome.applies defaultView value exchange.drained = true :=
      List.find?_some chosen
    rw [applyFirst_chosen chosen, applyFirst_failed (fails.attempt applies)]

theorem applyFirst_error_sink {outcomes : List Outcome} {exchange : Exchange State}
    {error : DispatchError}
    (failed : (applyFirst views defaultView value outcomes exchange).1 = .error error) :
    (applyFirst views defaultView value outcomes exchange).2.sink = exchange.sink := by
  obtain ⟨outcome, chosen, -⟩ := applyFirst_error_iff.1 failed
  rcases applyFirst_comes chosen with ⟨after, done, -⟩ | ⟨known, left, fails, kept, -⟩
  · rw [done] at failed
    cases failed
  · rw [fails]
    exact kept

end Outcome

/-- What comes of the declared outcomes, in whatever order they are declared. The first that
applies, views before what writes, before what redirects, before what sets the status, and those of
one kind in the order of their declaration, does what it would do alone: it commits the response or
fails for one of the reasons that it may have. Without one, and after a failure, the response is
what it was before. Only the order within each kind counts. -/
theorem first_applicable_alone {State : Type} (views : Option Renderer)
    (defaultView : Option String) (value : Value) (outcomes : List Outcome)
    (exchange : Exchange State) :
    let result := Outcome.applyFirst views defaultView value (Outcome.sort outcomes) exchange
    let first := (Outcome.byKind outcomes).find? fun outcome =>
      outcome.applies defaultView value exchange.drained
    (first = none → result = (.ok (), exchange)) ∧
    (∀ outcome, first = some outcome →
      result = Outcome.applyFirst views defaultView value [outcome] exchange ∧
      (result.1 = .ok () → result.2.sink.committed = true)) ∧
    (∀ error, result.1 = .error error ↔
      ∃ outcome, first = some outcome ∧
        Outcome.Fails views defaultView value outcome error) ∧
    (∀ error, result.1 = .error error → result.2.sink = exchange.sink) ∧
    ∀ others, (∀ kind, Outcome.ofKind kind others = Outcome.ofKind kind outcomes) →
      Outcome.applyFirst views defaultView value (Outcome.sort others) exchange = result := by
  intro result first
  have inOrder : result =
      Outcome.applyFirst views defaultView value (Outcome.byKind outcomes) exchange := by
    simp only [result, Outcome.sort_eq_byKind]
  rw [inOrder]
  refine ⟨Outcome.applyFirst_nothing, ?first, ?errors, ?kept, ?reordered⟩
  case first =>
    intro outcome chosen
    refine ⟨Outcome.applyFirst_chosen chosen, ?_⟩
    intro succeeded
    rcases Outcome.applyFirst_comes chosen with
      ⟨after, done, committed, -⟩ | ⟨error, left, failed, -⟩
    · rw [done]
      exact committed
    · rw [failed] at succeeded
      cases succeeded
  case errors =>
    intro error
    exact Outcome.applyFirst_error_iff
  case kept =>
    intro error failed
    exact Outcome.applyFirst_error_sink failed
  case reordered =>
    intro others same
    simp only [Outcome.sort_eq_byKind, Outcome.byKind, same]

end RequestDispatch
