import RequestDispatch.Proofs.Except
import RequestDispatch.Proofs.Route.Capture
import RequestDispatch.Route.Mapping

/-!
What a route binds. A request that a route takes has every variable that the route declares. The
patterns of a route are its templates in their order (`compile_eq_ok`).
-/

namespace RequestDispatch

theorem lookup_zip {names values : List String} (length : values.length = names.length)
    {name : String} (member : name ∈ names) :
    ∃ value, (names.zip values).lookup name = some value := by
  induction names generalizing values with
  | nil => cases member
  | cons first names ih =>
      cases values with
      | nil => cases length
      | cons value values =>
          rw [List.zip_cons_cons, List.lookup_cons]
          cases same : name == first with
          | true => exact ⟨value, rfl⟩
          | false =>
              have other : name ≠ first := by simpa using same
              exact ih (Nat.succ.inj length) ((List.mem_cons.1 member).resolve_left other)

namespace PathPattern

theorem match_binds {pattern : PathPattern} {path : String} {found : PathMatch}
    (matched : pattern.match? path = some found) {name : String} (member : name ∈ pattern.names) :
    ∃ value, found.bindings.lookup name = some value := by
  obtain ⟨groups, captured, rfl⟩ := Option.map_eq_some_iff.1 matched
  exact lookup_zip (by simpa using captures_length captured) member

end PathPattern

theorem compile_pattern_eq_ok {template : String} {pattern : PathPattern} :
    compilePattern template = .ok pattern ↔ PathPattern.compile template = .ok pattern := by
  rw [compilePattern]
  cases PathPattern.compile template <;> simp

theorem RouteDeclaration.compile_eq_ok {declaration : RouteDeclaration} {mapping : RouteMapping}
    (compiled : declaration.compile = .ok mapping) :
    ∃ patterns, List.Forall₂ (fun template pattern => PathPattern.compile template = .ok pattern)
        declaration.paths patterns ∧
      mapping = ⟨patterns, declaration.methods, declaration.parameters.map Requirement.parse,
        declaration.headers.map Requirement.parse, declaration.consumes,
        declaration.produces⟩ := by
  rw [compile] at compiled
  split at compiled
  · cases compiled
  · obtain ⟨patterns, made, same⟩ := bind_eq_ok.1 compiled
    cases same
    refine ⟨patterns, ?_, rfl⟩
    exact (mapM_in_order made).imp fun _ _ => compile_pattern_eq_ok.1

namespace RouteMapping

theorem test_first {mapping : RouteMapping} {request : Request} {path : String}
    {found : PathMatch} {confidence : Nat}
    (routed : mapping.test request path = some (found, confidence)) :
    ∃ front pattern back, mapping.patterns = front ++ pattern :: back ∧
      pattern.match? path = some found ∧ ∀ other ∈ front, other.match? path = none := by
  simp only [test, Option.bind_eq_bind, Option.bind_eq_some_iff] at routed
  obtain ⟨first, matched, _, -, _, -, _, -, _, -, _, -, same⟩ := routed
  cases same
  exact List.findSome?_eq_some_iff.1 matched

theorem test_matches {mapping : RouteMapping} {request : Request} {path : String}
    {found : PathMatch} {confidence : Nat}
    (routed : mapping.test request path = some (found, confidence)) :
    ∃ pattern ∈ mapping.patterns, pattern.match? path = some found := by
  obtain ⟨front, pattern, back, divided, matched, -⟩ := test_first routed
  exact ⟨pattern, by simp [divided], matched⟩

theorem mem_names_of_declared {mapping : RouteMapping} {name : String}
    (declared : mapping.declaresVariable name = true) {pattern : PathPattern}
    (member : pattern ∈ mapping.patterns) : name ∈ pattern.names := by
  simp only [declaresVariable, Bool.and_eq_true, List.all_eq_true] at declared
  simpa using declared.2 pattern member

/-- A variable that a route declares is bound by every match of the route. -/
theorem test_binds {mapping : RouteMapping} {request : Request} {path : String}
    {found : PathMatch} {confidence : Nat} {name : String}
    (routed : mapping.test request path = some (found, confidence))
    (declared : mapping.declaresVariable name = true) :
    ∃ value, found.bindings.lookup name = some value := by
  obtain ⟨pattern, member, matched⟩ := test_matches routed
  exact PathPattern.match_binds matched (mem_names_of_declared declared member)

end RouteMapping
end RequestDispatch
