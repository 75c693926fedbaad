import RequestDispatch.Proofs.Conversion.Scalars

/-!
Conversion of trees of texts to arrays of arrays. The type tells how many levels the result has: a
text that stands too high is wrapped, and of an array that stands where a leaf is wanted the first
leaf is taken (`Value.Reshapes`). So every leaf of the result sits under as many arrays as the type
has levels (`Value.Layered`, `convert_reshapes`).
-/

namespace RequestDispatch

namespace TypeDescriptor

def nested (innermost : TypeDescriptor) : Nat → TypeDescriptor
  | 0 => innermost
  | depth + 1 => arrayOf (innermost.nested depth)

theorem nested_key_length (innermost : TypeDescriptor) (depth : Nat) :
    (innermost.nested depth).key.name.length = innermost.key.name.length + 2 * depth := by
  have bracket : "[".length = 1 ∧ "]".length = 1 := ⟨rfl, rfl⟩
  induction depth with
  | zero => rfl
  | succ depth ih =>
      simp only [nested, arrayOf, key, String.length_append] at ih ⊢
      omega

theorem nested_not_primitive {innermost : TypeDescriptor} (nullable : innermost.isPrimitive = false)
    (depth : Nat) : (innermost.nested depth).isPrimitive = false := by
  cases depth with
  | zero => exact nullable
  | succ depth => rfl

theorem IsScalar.not_array {target : TypeDescriptor} (scalar : target.IsScalar) :
    target.isArray = false := by
  cases scalar <;> rfl

end TypeDescriptor

/-- A type and the arrays of it of every depth. -/
def TypeFamily.nesting (innermost : TypeDescriptor) (single : innermost.isArray = false) :
    TypeFamily where
  Member type := ∃ depth, type = innermost.nested depth
  distinct := by
    rintro _ _ ⟨depth, rfl⟩ ⟨other, rfl⟩ same
    have lengths := congrArg (fun key : TypeKey => key.name.length) same
    simp only [TypeDescriptor.nested_key_length] at lengths
    obtain rfl : depth = other := by omega
    rfl
  element := by
    rintro key element ⟨depth, same⟩
    cases depth with
    | zero =>
        obtain rfl : innermost = .describe key (.array element) := same.symm
        cases single
    | succ depth =>
        cases same
        exact ⟨depth, rfl⟩

namespace Value

inductive IsTextTree : Value → Prop
  | text (text : String) : IsTextTree (.text text)
  | array {items : List Value} : (∀ item ∈ items, IsTextTree item) → IsTextTree (.array items)

/-- The text of the first leaf, depth first; an empty array on the way to it counts as the empty
text. -/
inductive LeadsWith : Value → String → Prop
  | text (text : String) : LeadsWith (.text text) text
  | empty : LeadsWith (.array []) ""
  | first {first : Value} {rest : List Value} {text : String} :
      LeadsWith first text → LeadsWith (.array (first :: rest)) text

/-- Every leaf sits under exactly so many arrays. -/
def Layered (leaf : Value → Prop) : Nat → Value → Prop
  | 0, value => leaf value
  | depth + 1, value => ∃ items, value = .array items ∧ ∀ item ∈ items, Layered leaf depth item

/-- On so many levels an array stands for an array of as many items in the same order, and what is
no array stands for an array that holds it alone. Below them the first leaf stands for a leaf. -/
def Reshapes (leaf : String → Value → Prop) : Nat → Value → Value → Prop
  | 0, raw, value => ∃ text, raw.LeadsWith text ∧ leaf text value
  | depth + 1, .array items, value =>
    ∃ values, value = .array values ∧ List.Forall₂ (Reshapes leaf depth) items values
  | depth + 1, raw, value => ∃ inner, value = .array [inner] ∧ Reshapes leaf depth raw inner

@[simp]
theorem isTextTree_text (text : String) : (Value.text text).IsTextTree := .text text

@[simp]
theorem isTextTree_array {items : List Value} :
    (Value.array items).IsTextTree ↔ ∀ item ∈ items, item.IsTextTree := by
  constructor
  · rintro (_ | trees)
    exact trees
  · exact .array

theorem IsTextTree.leads {raw : Value} (tree : raw.IsTextTree) : ∃ text, raw.LeadsWith text := by
  induction tree with
  | text text => exact ⟨text, .text text⟩
  | @array items _ ih =>
      cases items with
      | nil => exact ⟨"", .empty⟩
      | cons first rest =>
          obtain ⟨text, leads⟩ := ih first List.mem_cons_self
          exact ⟨text, .first leads⟩

theorem LeadsWith.lead_text {raw : Value} {text : String} (leads : raw.LeadsWith text) :
    ConversionService.leadText? raw = some text := by
  induction leads with
  | text text => rfl
  | empty => rfl
  | first _ ih => exact ih

theorem Layered.of_reshapes {keeps : Value → Prop} {leaf : String → Value → Prop}
    (kept : ∀ text value, leaf text value → keeps value) {depth : Nat} {raw value : Value}
    (reshapes : Reshapes leaf depth raw value) : Layered keeps depth value := by
  induction depth generalizing raw value with
  | zero =>
      obtain ⟨text, -, holds⟩ := reshapes
      exact kept text value holds
  | succ depth ih =>
      cases raw with
      | array items =>
          obtain ⟨values, rfl, inOrder⟩ := reshapes
          refine ⟨values, rfl, ?_⟩
          intro value member
          obtain ⟨raw, -, inside⟩ := source_of_mem inOrder member
          exact ih inside
      | _ =>
          obtain ⟨inner, rfl, inside⟩ := reshapes
          refine ⟨[inner], rfl, ?_⟩
          intro value member
          rw [List.mem_singleton.1 member]
          exact ih inside

end Value

namespace ConversionService

variable {base service : ConversionService} {family : TypeFamily}
  {target innermost : TypeDescriptor} {raw : Value} {text : String}

def Renders (target : TypeDescriptor) (text : String) (value : Value) : Prop :=
  ((standard .standard).convert target (.text text)).1 = .ok value

theorem convert_scalar_eq (scalar : target.IsScalar) (service : ConversionService)
    (leads : leadText? raw = some text) :
    service.convert target raw = service.convertText target text := by
  cases scalar <;>
    simp [TypeDescriptor.primitive, TypeDescriptor.boxed, TypeDescriptor.text,
      TypeDescriptor.enumeration, convert, leads]

theorem renders_of_find (scalar : target.IsScalar) {converter : Converter}
    (found : (standard .standard).find target = .ok converter) {value : Value}
    (converted : ∀ serial, converter.convert target serial text = .ok value) :
    Renders target text value := by
  have itself := recalls_self (standard .standard) (.nesting target scalar.not_array) rfl
  have member : (TypeFamily.nesting target scalar.not_array).Member target := ⟨0, rfl⟩
  have leads : leadText? (.text text) = some text := rfl
  obtain ⟨serial, after, made, -⟩ := convert_text_recalls itself member found text
  rw [Renders, convert_scalar_eq scalar _ leads, made, converted]

theorem admits_of_renders (scalar : target.IsScalar) {value : Value}
    (renders : Renders target text value) : target.Admits value := by
  obtain ⟨converter, found, gives⟩ := find_scalar scalar
  obtain ⟨other, converted, admits⟩ := gives text
  obtain rfl : other = value :=
    Except.ok.inj ((renders_of_find scalar found converted).symm.trans renders)
  exact admits

theorem layered_of_reshapes (scalar : innermost.IsScalar) {depth : Nat} {value : Value}
    (reshapes : Value.Reshapes (Renders innermost) depth raw value) :
    value.Layered innermost.Admits depth :=
  .of_reshapes (fun _ _ renders => admits_of_renders scalar renders) reshapes

theorem array_unregistered (element : TypeDescriptor) :
    (standard .standard).registered.lookup (TypeDescriptor.arrayOf element).key = none := by
  have plain : ∀ entry ∈ builtIn, entry.1.name.toList.head? ≠ some '[' := by decide +kernel
  rw [standard_hasBuiltIn, List.lookup_eq_none_iff]
  intro entry member
  refine bne_iff_ne.2 ?_
  intro same
  refine plain entry member ?_
  rw [← same, TypeDescriptor.arrayOf, TypeDescriptor.key, String.toList_append,
    String.toList_append]
  rfl

theorem find_array_of (element : TypeDescriptor) :
    (standard .standard).find (.arrayOf element) =
      if element.isPrimitive then .error (.primitiveArray element.key)
      else ((standard .standard).find element).map (Converter.singleton element) :=
  find_array (array_unregistered element) element

theorem find_nested (scalar : innermost.IsScalar) (nullable : innermost.isPrimitive = false)
    (depth : Nat) :
    ∃ converter, (standard .standard).find (innermost.nested depth) = .ok converter ∧
      ∀ text, ∃ value,
        (∀ serial, converter.convert (innermost.nested depth) serial text = .ok value) ∧
          Value.Reshapes (Renders innermost) depth (.text text) value := by
  induction depth with
  | zero =>
      obtain ⟨converter, found, gives⟩ := find_scalar scalar
      refine ⟨converter, found, ?_⟩
      intro text
      obtain ⟨value, converted, -⟩ := gives text
      exact ⟨value, converted, text, .text text, renders_of_find scalar found converted⟩
  | succ depth ih =>
      obtain ⟨inner, found, gives⟩ := ih
      refine ⟨.singleton (innermost.nested depth) inner, ?_, ?_⟩
      · rw [TypeDescriptor.nested, find_array_of,
          TypeDescriptor.nested_not_primitive nullable, found]
        rfl
      · intro text
        obtain ⟨value, converted, reshapes⟩ := gives text
        refine ⟨.array [value], ?_, value, rfl, reshapes⟩
        intro serial
        simp only [Converter.singleton, converted]
        rfl

/-- A tree of texts is converted to a scalar type by the text of its first leaf. -/
theorem convert_tree (scalar : target.IsScalar)
    (recalls : (standard .standard).Recalls family service) (member : family.Member target)
    (tree : raw.IsTextTree) :
    ∃ value after, service.convert target raw = (.ok value, after) ∧
      (∃ text, raw.LeadsWith text ∧ Renders target text value) ∧
      (standard .standard).Recalls family after := by
  obtain ⟨text, leads⟩ := tree.leads
  obtain ⟨converter, found, gives⟩ := find_scalar scalar
  obtain ⟨value, converted, -⟩ := gives text
  obtain ⟨serial, after, made, recallsAfter⟩ := convert_text_recalls recalls member found text
  refine ⟨value, after, ?_, ⟨text, leads, renders_of_find scalar found converted⟩, recallsAfter⟩
  rw [convert_scalar_eq scalar service leads.lead_text, made, converted]

theorem convert_nested (scalar : innermost.IsScalar) (nullable : innermost.isPrimitive = false)
    {depth : Nat} (recalls : (standard .standard).Recalls family service)
    (member : family.Member (innermost.nested depth)) (tree : raw.IsTextTree) :
    ∃ value after, service.convert (innermost.nested depth) raw = (.ok value, after) ∧
      Value.Reshapes (Renders innermost) depth raw value ∧
      (standard .standard).Recalls family after := by
  -- The type gets a level less with every array of the raw value that is taken apart, and the items
  -- of this array are converted one after the other, so the service is another for each of them.
  induction depth generalizing service raw with
  | zero => exact convert_tree scalar recalls member tree
  | succ depth ih =>
      obtain ⟨converter, found, gives⟩ := find_nested scalar nullable (depth + 1)
      cases tree with
      | text text =>
          obtain ⟨value, converted, reshapes⟩ := gives text
          obtain ⟨middle, looked, recallsMiddle⟩ := lookup_recalls recalls member
          obtain ⟨serial, after, applied, recallsAfter⟩ := apply_recalls recallsMiddle converter
            (innermost.nested (depth + 1)) text
          refine ⟨value, after, ?_, reshapes, recallsAfter⟩
          rw [found] at looked
          rw [converted] at applied
          rw [TypeDescriptor.nested, TypeDescriptor.arrayOf] at looked ⊢
          rw [convert, looked]
          exact applied
      | @array items trees =>
          have sequence : (Value.array items).items? = some items := rfl
          obtain ⟨values, after, converted, inOrder, recallsAfter⟩ := convert_array_each
            (Value.Reshapes (Renders innermost) depth) recalls member ⟨converter, found⟩ sequence
            fun service item within recalls =>
              ih recalls (family.element member) (trees item within)
          exact ⟨.array values, after, converted, ⟨values, rfl, inOrder⟩, recallsAfter⟩

/-- With the built-in converters every tree of texts is converted to arrays of arrays. Every leaf of
the result, null or a value of the innermost type, sits under as many arrays as the type says; the
arrays of the tree keep their lengths and their order on these levels, and each leaf is what its
text is converted to. -/
theorem convert_reshapes (scalar : innermost.IsScalar) (nullable : innermost.isPrimitive = false)
    (depth : Nat) (recalls : (standard .standard).Recalls family service)
    (member : family.Member (innermost.nested depth)) (tree : raw.IsTextTree) :
    ∃ value after, service.convert (innermost.nested depth) raw = (.ok value, after) ∧
      value.Layered innermost.Admits depth ∧
      Value.Reshapes (Renders innermost) depth raw value ∧
      (standard .standard).Recalls family after := by
  obtain ⟨value, after, converted, reshapes, recallsAfter⟩ :=
    convert_nested scalar nullable recalls member tree
  exact ⟨value, after, converted, layered_of_reshapes scalar reshapes, reshapes, recallsAfter⟩

/-- Of three items one is too deep and one is empty; a row is missing, and another is empty. -/
theorem numbers_in_rows :
    let innermost := TypeDescriptor.boxed .int32
    let family := TypeFamily.nesting innermost rfl
    let raw : Value := .array [.array [.text "1", .array [.text "-2", .text "3"], .array []],
      .text "x", .array []]
    let rows : Value := .array [.array [.int 1, .int (-2), .null], .array [.null], .array []]
    innermost.IsScalar ∧ innermost.isPrimitive = false ∧
      (standard .standard).Recalls family (standard .standard) ∧
      family.Member (innermost.nested 2) ∧ raw.IsTextTree ∧
      ((standard .standard).convert (innermost.nested 2) raw).1 = .ok rows ∧
      rows.Layered innermost.Admits 2 ∧ Value.Reshapes (Renders innermost) 2 raw rows := by
  intro innermost family raw rows
  have scalar : innermost.IsScalar := .boxed .int32
  have recalls := recalls_self (standard .standard) family rfl
  have member : family.Member (innermost.nested 2) := ⟨2, rfl⟩
  have tree : raw.IsTextTree := by simp [raw]
  obtain ⟨value, after, converted, layered, reshapes, -⟩ :=
    convert_reshapes scalar rfl 2 recalls member tree
  have made : ((standard .standard).convert (innermost.nested 2) raw).1 = .ok rows := by rfl
  obtain rfl : rows = value := by
    rw [converted] at made
    exact (Except.ok.inj made).symm
  exact ⟨scalar, rfl, recalls, member, tree, made, layered, reshapes⟩

end ConversionService
end RequestDispatch
