import RequestDispatch.Proofs.Conversion.Transparency

/-!
What the converter of an array has captured. It is made for the first array that is looked up under
its key, from the type of the elements of this array and the converter that was found for them, and
serves every type under the key from then on. Where no other type was asked for under the key, a
text that is to become an array is converted like a list that holds this text alone
(`single_like_list`).
-/

namespace RequestDispatch

/-- No other type than the target is looked up under the key of the target. -/
def TypeDescriptor.LeavesKey (asked target : TypeDescriptor) : Prop :=
  ∀ part ∈ asked.parts, part.key = target.key → part = target

instance (asked target : TypeDescriptor) : Decidable (asked.LeavesKey target) :=
  inferInstanceAs (Decidable (∀ part ∈ asked.parts, part.key = target.key → part = target))

theorem TypeDescriptor.parts_of_part {type part other : TypeDescriptor} (member : part ∈ type.parts)
    (inner : other ∈ part.parts) : other ∈ type.parts := by
  fun_induction parts type with
  | case1 key element ih =>
      rcases List.mem_cons.1 member with rfl | member
      · exact inner
      · exact List.mem_cons_of_mem _ (ih member)
  | case2 key kind single =>
      rw [List.mem_singleton.1 member] at inner
      cases kind with
      | array element => exact absurd rfl (single element)
      | _ => exact inner

theorem TypeDescriptor.LeavesKey.part {asked part target : TypeDescriptor}
    (leaves : asked.LeavesKey target) (member : part ∈ asked.parts) : part.LeavesKey target :=
  fun _ inner => leaves _ (parts_of_part member inner)

theorem TypeDescriptor.LeavesKey.element {key : TypeKey} {element target : TypeDescriptor}
    (leaves : LeavesKey (.describe key (.array element)) target) : element.LeavesKey target :=
  fun part member => leaves part (List.mem_cons_of_mem _ member)

namespace ConversionService

variable {service : ConversionService} {target element : TypeDescriptor} {key other : TypeKey}
  {converter : Converter}

/-- The converter that is registered or remembered under a key. -/
def known? (service : ConversionService) (key : TypeKey) : Option Converter :=
  (service.registered.lookup key).or (service.cache.lookup key)

theorem known_unregistered (unregistered : service.registered.lookup key = none) :
    service.known? key = service.cache.lookup key := by
  rw [known?, unregistered, Option.none_or]

theorem lookup_of_known (known : service.known? target.key = some converter) :
    service.lookup target = (.ok converter, service) := by
  obtain ⟨key, kind⟩ := target
  change service.known? key = some converter at known
  unfold lookup
  cases registered : service.registered.lookup key with
  | some own =>
      rw [known?, registered, Option.some_or] at known
      cases known
      rfl
  | none =>
      rw [known_unregistered registered] at known
      rw [known]

theorem known_remember (known : service.known? key = some converter) (other : TypeKey)
    (made : Converter) : (service.remember other made).2.known? key = some converter := by
  unfold remember
  split
  · exact known
  · rw [known?, List.lookup_append, ← Option.or_assoc]
    change (service.known? key).or _ = _
    rw [known, Option.some_or]

theorem remember_known (unregistered : service.registered.lookup key = none)
    (made : Converter) :
    (service.remember key made).2.known? key = some (service.remember key made).1 := by
  unfold remember
  split
  · next known => rw [known_unregistered unregistered, known]
  · next unknown =>
    have last : (service.cache ++ [(key, made)]).lookup key = some made := by
      rw [List.lookup_append, unknown, Option.none_or, List.lookup_cons_self]
    rw [known?, unregistered, Option.none_or, last]

theorem lookup_known (found : (service.lookup target).1 = .ok converter) :
    (service.lookup target).2.known? target.key = some converter := by
  fun_induction lookup service target with
  | case1 own kind converter registered =>
      cases found
      change service.known? own = _
      rw [known?, registered, Option.some_or]
  | case2 own kind registered converter known =>
      cases found
      change service.known? own = _
      rw [known_unregistered registered, known]
  | case3 => cases found
  | case4 => cases found
  | case5 own unregistered _ element _ inner middle made converter after kept ih =>
      cases found
      have same : middle.registered = service.registered := by
        rw [← lookup_registered service element, made]
      have still : middle.registered.lookup own = none := same ▸ unregistered
      have step := remember_known still (.singleton element inner)
      rw [kept] at step
      exact step
  | case6 => cases found
  | case7 own unregistered _ _ _ found _ made after kept =>
      cases found
      have step := remember_known unregistered found
      rw [kept] at step
      exact step

/-- What is remembered under the key was made from the type of the elements and the converter that
is known for it. -/
def Captured (service : ConversionService) (key : TypeKey) (element : TypeDescriptor) : Prop :=
  ∀ converter, service.cache.lookup key = some converter →
    ∃ inner, service.known? element.key = some inner ∧ converter = .singleton element inner

theorem captured_of_empty (unasked : service.cache = []) (key : TypeKey)
    (element : TypeDescriptor) : service.Captured key element := by
  intro converter found
  rw [unasked] at found
  cases found

theorem Captured.remember (captured : service.Captured key element) (other : TypeKey)
    (made : Converter) (own : other = key → ∃ inner, service.known? element.key = some inner ∧
      made = .singleton element inner) :
    (service.remember other made).2.Captured key element := by
  intro converter found
  have kept {inner : Converter} (known : service.known? element.key = some inner) :=
    known_remember known other made
  suffices origin : ∃ inner, service.known? element.key = some inner ∧
      converter = .singleton element inner by
    obtain ⟨inner, known, same⟩ := origin
    exact ⟨inner, kept known, same⟩
  unfold ConversionService.remember at found
  split at found
  · exact captured converter found
  · rw [List.lookup_append, Option.or_eq_some_iff] at found
    rcases found with old | ⟨-, new⟩
    · exact captured converter old
    · rw [List.lookup_cons] at new
      split at new
      · next same =>
        cases new
        exact own (beq_iff_eq.1 same).symm
      · cases new

theorem Captured.lookup (captured : service.Captured key element) {asked : TypeDescriptor}
    (leaves : asked.LeavesKey (.describe key (.array element))) :
    (service.lookup asked).2.Captured key element := by
  fun_induction ConversionService.lookup service asked with
  | case1 => exact captured
  | case2 => exact captured
  | case3 => exact captured
  | case4 _ _ _ _ _ _ _ found ih =>
      rw [found] at ih
      exact ih leaves.element
  | case5 own _ _ part _ inner middle found made after kept ih =>
      rw [found] at ih
      have known : middle.known? part.key = some inner := by
        have step := lookup_known (congrArg Prod.fst found)
        rwa [found] at step
      have step := (ih leaves.element).remember own (.singleton part inner)
      rw [kept] at step
      apply step
      rintro rfl
      cases leaves _ (TypeDescriptor.mem_parts _) rfl
      exact ⟨inner, known, rfl⟩
  | case6 => exact captured
  | case7 own _ _ kind single found _ made after kept =>
      have step := captured.remember own found
      rw [kept] at step
      apply step
      rintro rfl
      cases leaves _ (TypeDescriptor.mem_parts _) rfl
      exact absurd rfl (single element)

theorem Captured.numbered (captured : service.Captured key element) (serial : Nat) :
    (service.numbered serial).Captured key element := captured

def Operation.asked? : Operation → Option TypeDescriptor
  | .lookup target => some target
  | .ensureConvertible target => some target
  | .convert target _ => some target
  | .register _ _ => none

/-- What was captured stays so when the service is asked something, and a registration leaves
nothing behind that was. -/
theorem Captured.perform (captured : service.Captured key element) {operation : Operation}
    (leaves : ∀ asked, operation.asked? = some asked →
      asked.LeavesKey (.describe key (.array element))) :
    (service.perform operation).2.Captured key element := by
  cases operation with
  | lookup asked => exact captured.lookup (leaves asked rfl)
  | ensureConvertible asked =>
      simp only [ConversionService.perform, ensureConvertible]
      split
      · exact captured.lookup (leaves asked rfl)
      · exact captured
  | convert asked raw =>
      apply convert_keeps (fun service => service.Captured key element) _ _ captured
      · intro service serial captured
        exact captured.numbered serial
      · intro service part member captured
        exact captured.lookup ((leaves asked rfl).part member)
  | register own made => exact captured_of_empty rfl key element

theorem perform_all_captured (captured : service.Captured key element)
    {operations : List Operation}
    (leave : ∀ asked ∈ operations.filterMap Operation.asked?,
      asked.LeavesKey (.describe key (.array element))) :
    (service.performAll operations).Captured key element := by
  induction operations generalizing service with
  | nil => exact captured
  | cons operation operations ih =>
      have first := captured.perform fun asked same =>
        leave asked (List.mem_filterMap.2 ⟨operation, List.mem_cons_self, same⟩)
      refine ih first fun asked member => leave asked ?_
      obtain ⟨later, behind, same⟩ := List.mem_filterMap.1 member
      exact List.mem_filterMap.2 ⟨later, List.mem_cons_of_mem _ behind, same⟩

theorem convert_text_of_known (simple : isTarget target)
    (known : service.known? target.key = some converter) (raw : String) :
    service.convert target (.text raw) = service.applyConverter converter target raw := by
  have found := lookup_of_known known
  obtain ⟨key, kind⟩ := target
  cases kind with
  | collection => cases simple
  | map => cases simple
  | array => rw [convert, found]; rfl
  | _ => simp [convert, leadText?, Value.display, convertText, found]

/-- With what was captured from its own elements, an array is made of a text alone as of the list
that holds this text. -/
theorem Captured.text_like_list {after : ConversionService} (captured : after.Captured key element)
    (found : service.lookup (.describe key (.array element)) = (.ok converter, after))
    (unregistered : service.registered.lookup key = none) (simple : isTarget element)
    (raw : String) :
    service.convert (.describe key (.array element)) (.text raw) =
      service.convert (.describe key (.array element)) (.array [.text raw]) := by
  have same := lookup_registered service (.describe key (.array element))
  have known := lookup_known (congrArg Prod.fst found)
  rw [found] at same known
  change after.known? key = some converter at known
  rw [known_unregistered (same ▸ unregistered)] at known
  obtain ⟨inner, innerKnown, rfl⟩ := captured converter known
  rw [convert, convert, found]
  dsimp only [Value.items?, Value.isNull, convertItems]
  rw [convert_text_of_known simple innerKnown]
  simp only [applyConverter, Converter.singleton, Value.display]
  cases inner.convert element after.nextSerial raw with
  | error error => rfl
  | ok value => rfl

/-- A text alone and the list of this text make the same array, whatever the service was asked
before, if no other type was looked up under the key of the array and nothing is registered under
it. The elements are no collections and no maps, unless no converter is found for the array. -/
theorem single_like_list {start : ConversionService} (unasked : start.cache = [])
    {before : List Operation} {key : TypeKey} {element : TypeDescriptor}
    (leave : ∀ asked ∈ .describe key (.array element) :: before.filterMap Operation.asked?,
      asked.LeavesKey (.describe key (.array element)))
    (unregistered : (start.performAll before).registered.lookup key = none)
    (simple : isTarget element ∨
      ∃ error, ((start.performAll before).lookup (.describe key (.array element))).1 =
        .error error) (raw : String) :
    (start.performAll before).convert (.describe key (.array element)) (.text raw) =
      (start.performAll before).convert (.describe key (.array element)) (.array [.text raw]) := by
  rw [List.forall_mem_cons] at leave
  have captured := perform_all_captured (captured_of_empty unasked key element) leave.2
  have still := captured.lookup leave.1
  cases found : (start.performAll before).lookup (.describe key (.array element)) with
  | mk result after =>
      cases result with
      | error error =>
          rw [convert, convert, found]
      | ok converter =>
          rw [found] at still simple
          rcases simple with simple | ⟨error, failed⟩
          · exact still.text_like_list found unregistered simple raw
          · cases failed

/-- Another type under the key of the elements was asked for before, and an array of it. -/
theorem single_like_list_of_shared_elements :
    let light := TypeDescriptor.enumeration ⟨"Shade"⟩ ["light"]
    let dark := TypeDescriptor.enumeration ⟨"Shade"⟩ ["dark"]
    let target := TypeDescriptor.arrayOf (.arrayOf dark)
    let before : List Operation :=
      [.convert (.arrayOf light) (.text "light"), .ensureConvertible light]
    let service := (standard .standard).performAll before
    (∀ asked ∈ target :: before.filterMap Operation.asked?, asked.LeavesKey target) ∧
      service.registered.lookup target.key = none ∧
      service.convert target (.text "dark") = service.convert target (.array [.text "dark"]) ∧
      (service.convert target (.text "dark")).1 = .ok (.array [.array [.null]]) := by
  intro light dark target before service
  have leave : ∀ asked ∈ target :: before.filterMap Operation.asked?, asked.LeavesKey target := by
    decide +kernel
  have unregistered : service.registered.lookup target.key = none := by rfl
  exact ⟨leave, unregistered,
    single_like_list rfl leave unregistered (.inl rfl) "dark", by rfl⟩

/-- The converter of an array serves all types under its key with the elements it was made for; and
a converter of collections is applied to a text alone, where the items of a list are refused. -/
theorem single_unlike_list :
    (let light := TypeDescriptor.enumeration ⟨"Shade"⟩ ["light"]
      let dark := TypeDescriptor.enumeration ⟨"Shade"⟩ ["dark"]
      let service := (standard .standard).performAll [.convert (.arrayOf light) (.text "light")]
      service.registered.lookup (TypeDescriptor.arrayOf dark).key = none ∧
        (service.convert (.arrayOf dark) (.text "dark")).1 = .ok (.array [.null]) ∧
        (service.convert (.arrayOf dark) (.array [.text "dark"])).1 =
          .ok (.array [.enumeration ⟨"Shade"⟩ "dark"])) ∧
      (let element := TypeDescriptor.collectionOf .list .text
        let service := (standard .standard).register element.key .text
        service.registered.lookup (TypeDescriptor.arrayOf element).key = none ∧
          (service.convert (.arrayOf element) (.text "a")).1 = .ok (.array [.text "a"]) ∧
          (service.convert (.arrayOf element) (.array [.text "a"])).1 =
            .error (.notConvertible element.key)) := by
  exact ⟨⟨rfl, rfl, rfl⟩, rfl, rfl, rfl⟩

end ConversionService
end RequestDispatch
