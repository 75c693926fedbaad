import RequestDispatch.Exchange.Sink
import Mathlib.Data.List.Induction

/-!
What holds of a response however it was written to. An operation on a response is taken apart into
the single assignments that it makes; an assignment that was made before an operation fails stays
made. The operations do what they are defined to do, since none of them fails after it has begun to
write (`carried_out`). The main statement is `response_kept_sound`.
-/

namespace RequestDispatch

/-- An operation on the response of an exchange. -/
inductive SinkOperation where
  | setStatus (status : Nat)
  | setHeader (name value : String)
  | defaultContentType (value : String)
  | write (bytes : List UInt8)
  | writeText (text : String)
  | redirect (location : String)
  | reset

/-- Assignments to the parts of a response, up to the first failure. What was assigned before a
failure stays assigned. -/
abbrev Assignments (α : Type) := ExceptT HeaderProblem (StateM ResponseSink) α

namespace Assignments

def status (status : Nat) : Assignments Unit := modify fun sink => { sink with status := status }

def header (name : String) (bytes : List UInt8) : Assignments Unit :=
  modify fun sink => { sink with headers := sink.headers.insert name bytes }

def noHeaders : Assignments Unit := modify fun sink => { sink with headers := .empty }

def body (change : List UInt8 → List UInt8) : Assignments Unit :=
  modify fun sink => { sink with body := change sink.body }

def committed (committed : Bool) : Assignments Unit :=
  modify fun sink => { sink with committed := committed }

def require {α : Type} (found : Option α) (problem : HeaderProblem) : Assignments α :=
  match found with
  | some value => pure value
  | none => throw problem

end Assignments

namespace SinkOperation

/-- What an operation makes of a response, unless it fails. -/
def perform (sink : ResponseSink) : SinkOperation → Except HeaderProblem ResponseSink
  | setStatus status => .ok (sink.setStatus status)
  | setHeader name value => sink.setHeader name value
  | defaultContentType value => .ok (sink.defaultContentType value)
  | write bytes => .ok (sink.write bytes)
  | writeText text => .ok (sink.writeText text)
  | redirect location => sink.redirect location
  | reset => .ok sink.reset

def assignments : SinkOperation → Assignments Unit
  | setStatus status => do
    Assignments.status status
    Assignments.committed true
  | setHeader name value => do
    let key ← Assignments.require (normalizeHeaderName? name) (.invalidName name)
    let bytes ← Assignments.require (headerValue? value) (.invalidValue key)
    Assignments.header key bytes
  | defaultContentType value => do
    if (← get).headers.contains "content-type" then return
    match headerValue? value with
    | some bytes => Assignments.header "content-type" bytes
    | none => return
  | write bytes => do
    Assignments.body (· ++ bytes)
    Assignments.committed true
  | writeText text => do
    Assignments.body (· ++ Text.utf8Bytes text)
    Assignments.committed true
  | redirect location => do
    let bytes ← Assignments.require (headerValue? location) (.invalidValue ("Location " ++ location))
    Assignments.header "location" bytes
    Assignments.body fun _ => []
    Assignments.status 302
    Assignments.committed true
  | reset => do
    Assignments.status 200
    Assignments.noHeaders
    Assignments.body fun _ => []
    Assignments.committed false

/-- The answer of an operation and the response that its assignments leave. -/
def carryOut (operation : SinkOperation) (sink : ResponseSink) :
    Except HeaderProblem Unit × ResponseSink :=
  operation.assignments.run sink

/-- The operation gives the response a status or a body. -/
def gives : SinkOperation → Bool
  | setStatus _ | write _ | writeText _ => true
  | redirect location => (headerValue? location).isSome
  | _ => false

def isReset : SinkOperation → Bool
  | reset => true
  | _ => false

end SinkOperation

/-- The bytes of a text with a control character other than the tab among them. -/
def HasControl (text : String) : Prop :=
  ∃ byte ∈ Text.utf8Bytes text, (byte < 0x20 ∨ byte = 0x7F) ∧ byte ≠ 0x09

/-- Why an operation cannot be carried out. -/
def SinkOperation.Refused : SinkOperation → Prop
  | .setHeader name value => normalizeHeaderName? name = none ∨ HasControl value
  | .redirect location => HasControl location
  | _ => False

theorem header_byte_iff (byte : UInt8) :
    isHeaderByte byte = true ↔ ((byte < 0x20 ∨ byte = 0x7F) → byte = 0x09) := by
  unfold isHeaderByte
  grind

theorem header_value_eq_none {text : String} : headerValue? text = none ↔ HasControl text := by
  unfold headerValue? HasControl
  simp [header_byte_iff]

theorem header_value_bytes {text : String} {bytes : List UInt8}
    (valid : headerValue? text = some bytes) :
    ∀ byte ∈ bytes, (byte < 0x20 ∨ byte = 0x7F) → byte = 0x09 := by
  simp only [headerValue?, Option.ite_none_right_eq_some, List.all_eq_true, header_byte_iff,
    Option.some.injEq] at valid
  obtain ⟨all, rfl⟩ := valid
  exact all

/-- What holds of every response: until it is committed nothing was written but headers, and no
header has a control character in it but the tab. -/
structure ResponseSink.Sound (sink : ResponseSink) : Prop where
  untouched : sink.committed = false → sink.status = 200 ∧ sink.body = []
  headers : ∀ field ∈ sink.headers.fields, ∀ byte ∈ field.2, byte < 0x20 ∨ byte = 0x7F → byte = 0x09

theorem ResponseSink.fresh_sound : fresh.Sound :=
  ⟨fun _ => ⟨rfl, rfl⟩, by simp [fresh, Headers.empty]⟩

theorem ResponseSink.Sound.insert {sink : ResponseSink} (sound : sink.Sound) {value : String}
    {bytes : List UInt8} (valid : headerValue? value = some bytes) (name : String) :
    ∀ field ∈ (sink.headers.insert name bytes).fields, ∀ byte ∈ field.2,
      byte < 0x20 ∨ byte = 0x7F → byte = 0x09 := by
  intro field member
  rcases List.mem_append.1 member with kept | new
  · exact sound.headers field (List.mem_filter.1 kept).1
  · cases List.mem_singleton.1 new
    exact header_value_bytes valid

namespace SinkOperation

/-- An operation that fails has assigned nothing. -/
theorem carried_out (operation : SinkOperation) (sink : ResponseSink) :
    operation.carryOut sink =
      match operation.perform sink with
      | .ok after => (.ok (), after)
      | .error problem => (.error problem, sink) := by
  cases operation with
  | setHeader name value =>
      simp only [carryOut, assignments, perform, ResponseSink.setHeader]
      cases normalizeHeaderName? name with
      | none => rfl
      | some key => cases headerValue? value <;> rfl
  | defaultContentType value =>
      have opened : (defaultContentType value).carryOut sink =
          (if sink.headers.contains "content-type" then pure ()
            else match headerValue? value with
              | some bytes => Assignments.header "content-type" bytes
              | none => pure () : Assignments Unit).run sink := rfl
      rw [opened, perform, ResponseSink.defaultContentType]
      split
      · rfl
      · cases headerValue? value <;> rfl
  | redirect location =>
      simp only [carryOut, assignments, perform, ResponseSink.redirect]
      cases headerValue? location <;> rfl
  | _ => rfl

variable {sink : ResponseSink}

theorem perform_fails (operation : SinkOperation) (sink : ResponseSink) :
    (∃ problem, operation.perform sink = .error problem) ↔ operation.Refused := by
  cases operation with
  | setHeader name value =>
      simp only [perform, ResponseSink.setHeader, Refused, ← header_value_eq_none]
      cases normalizeHeaderName? name with
      | none => simp
      | some key => cases headerValue? value <;> simp
  | redirect location =>
      simp only [perform, ResponseSink.redirect, Refused, ← header_value_eq_none]
      cases headerValue? location <;> simp
  | _ => simp [perform, Refused]

theorem perform_sound (sound : sink.Sound) {operation : SinkOperation} {after : ResponseSink}
    (done : operation.perform sink = .ok after) : after.Sound := by
  cases operation with
  | setStatus status | write bytes | writeText text =>
      cases done
      exact ⟨nofun, sound.headers⟩
  | setHeader name value =>
      simp only [perform, ResponseSink.setHeader] at done
      cases named : normalizeHeaderName? name with
      | none => simp [named] at done
      | some key =>
          cases valid : headerValue? value with
          | none => simp [named, valid] at done
          | some bytes =>
              simp only [named, valid, Except.ok.injEq] at done
              subst done
              exact ⟨sound.untouched, sound.insert valid key⟩
  | defaultContentType value =>
      simp only [perform, ResponseSink.defaultContentType, Except.ok.injEq] at done
      subst done
      split
      · exact sound
      · cases valid : headerValue? value with
        | none => exact sound
        | some bytes => exact ⟨sound.untouched, sound.insert valid "content-type"⟩
  | redirect location =>
      simp only [perform, ResponseSink.redirect] at done
      cases valid : headerValue? location with
      | none => simp [valid] at done
      | some bytes =>
          simp only [valid, Except.ok.injEq] at done
          subst done
          exact ⟨nofun, sound.insert valid "location"⟩
  | reset =>
      cases done
      exact ResponseSink.fresh_sound

theorem carry_out_sound (sound : sink.Sound) (operation : SinkOperation) :
    (operation.carryOut sink).2.Sound := by
  rw [carried_out]
  cases done : operation.perform sink with
  | ok after => exact perform_sound sound done
  | error problem => exact sound

/-- A response stays committed until it is reset. -/
theorem carry_out_committed (operation : SinkOperation) (sink : ResponseSink) :
    (operation.carryOut sink).2.committed =
      (!operation.isReset && (operation.gives || sink.committed)) := by
  rw [carried_out]
  cases operation with
  | setHeader name value =>
      simp only [perform, ResponseSink.setHeader, isReset, gives]
      cases normalizeHeaderName? name with
      | none => rfl
      | some key => cases headerValue? value <;> rfl
  | defaultContentType value =>
      simp only [perform, ResponseSink.defaultContentType, isReset, gives]
      split
      · rfl
      · cases headerValue? value <;> rfl
  | redirect location =>
      simp only [perform, ResponseSink.redirect, isReset, gives]
      cases headerValue? location <;> rfl
  | _ => rfl

end SinkOperation

def ResponseSink.after (operations : List SinkOperation) : ResponseSink :=
  operations.foldl (fun sink operation => (operation.carryOut sink).2) .fresh

theorem ResponseSink.after_concat (operations : List SinkOperation) (operation : SinkOperation) :
    after (operations ++ [operation]) = (operation.carryOut (after operations)).2 := by
  rw [after, List.foldl_append]
  rfl

theorem ResponseSink.after_sound (operations : List SinkOperation) : (after operations).Sound := by
  induction operations using List.reverseRecOn with
  | nil => exact fresh_sound
  | append_singleton operations operation ih =>
      rw [after_concat]
      exact operation.carry_out_sound ih

theorem ResponseSink.after_committed (operations : List SinkOperation) :
    (after operations).committed =
      (operations.reverse.takeWhile fun operation => !operation.isReset).any SinkOperation.gives := by
  induction operations using List.reverseRecOn with
  | nil => rfl
  | append_singleton operations operation ih =>
      rw [after_concat, operation.carry_out_committed, ih, List.reverse_concat,
        List.takeWhile_cons]
      cases operation.isReset <;> simp

/-- The response after any operations. One more operation comes to its end with the response that it
is defined to make, or it fails and leaves the response as it is; it fails exactly if the name of a
header is invalid or its value has a control character in it other than the tab. The response is
committed if it was given a status or a body since it was reset last, and as long as it is not, its
status is 200 and its body is empty. No value of a header has a control character in it other than
the tab. Once it is reset it is a fresh one. -/
theorem response_kept_sound (operations : List SinkOperation) :
    let sink := ResponseSink.after operations
    (∀ operation : SinkOperation,
      (operation.perform sink = .ok (operation.carryOut sink).2 ∧
          (operation.carryOut sink).1 = .ok () ∨
        ∃ problem, operation.perform sink = .error problem ∧
          operation.carryOut sink = (.error problem, sink)) ∧
      ((∃ problem, (operation.carryOut sink).1 = .error problem) ↔ operation.Refused)) ∧
    (sink.committed = true ↔
      ∃ operation ∈ operations.reverse.takeWhile fun operation => !operation.isReset,
        operation.gives = true) ∧
    (sink.committed = false → sink.status = 200 ∧ sink.body = []) ∧
    (∀ field ∈ sink.headers.fields, ∀ byte ∈ field.2,
      byte < 0x20 ∨ byte = 0x7F → byte = 0x09) ∧
    SinkOperation.reset.carryOut sink = (.ok (), .fresh) := by
  intro sink
  have sound : sink.Sound := ResponseSink.after_sound operations
  refine ⟨?_, ?_, sound.untouched, sound.headers, rfl⟩
  · intro operation
    have ended := operation.carried_out sink
    have fails := operation.perform_fails sink
    cases result : operation.perform sink with
    | ok after =>
        rw [result] at ended fails
        rw [ended, ← fails]
        exact ⟨.inl ⟨rfl, rfl⟩, by simp⟩
    | error problem =>
        rw [result] at ended fails
        rw [ended, ← fails]
        exact ⟨.inr ⟨problem, rfl, rfl⟩, by simp⟩
  · rw [ResponseSink.after_committed, List.any_eq_true]

/-- A line break in a header or in the place to go to is refused, and nothing of the redirection is
left behind. A tab may stay. -/
example :
    let operations : List SinkOperation :=
      [.setHeader "X-Note" "a\tb", .setHeader "X-Bad" "a\r\nb", .redirect "/login\nSet-Cookie: a"]
    let sink := ResponseSink.after operations
    sink.headers.fields = [("x-note", [97, 9, 98])] ∧ sink.status = 200 ∧ sink.body = [] ∧
      sink.committed = false := by
  decide +kernel

end RequestDispatch
