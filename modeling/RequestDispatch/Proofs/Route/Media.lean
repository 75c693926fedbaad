import RequestDispatch.Proofs.Text.Blank
import RequestDispatch.Proofs.Text.Casing
import RequestDispatch.Proofs.Text.Split
import RequestDispatch.Route.Mapping

/-!
Media types. What is compared is the media type before its parameters, without blanks around it and
in lower case (`media_type_idempotent`). The main statement is `media_matches_iff`: two media types
go together if they are the same, if either is any type, or if either is any subtype of a type that
they share.
-/

namespace RequestDispatch

namespace Text

theorem lower_blank (character : Char) : isBlank character.toLower = isBlank character := by
  rcases lower_letter character with same | ⟨low, high, lowered⟩
  · rw [same]
  · rw [Bool.eq_iff_iff]
    simp only [isBlank, lowered, Bool.or_eq_true, Bool.and_eq_true, decide_eq_true_eq, beq_iff_eq]
    omega

theorem lower_semicolon (character : Char) : character.toLower = ';' ↔ character = ';' := by
  constructor
  · intro lowered
    rcases lower_letter character with same | ⟨low, high, raised⟩
    · rw [← same, lowered]
    · have code : ';'.toNat = 59 := rfl
      rw [lowered] at raised
      omega
  · rintro rfl
    rfl

theorem takeWhile_lower (text : List Char) :
    (text.map Char.toLower).takeWhile (· ≠ ';') =
      (text.takeWhile (· ≠ ';')).map Char.toLower := by
  have same : (fun character : Char => decide (character ≠ ';')) ∘ Char.toLower =
      fun character => decide (character ≠ ';') := by
    funext character
    exact decide_eq_decide.2 (not_congr (lower_semicolon character))
  rw [List.takeWhile_map, same]

end Text

/-- The media type of a text as a list of characters: the text may as well be lowered first. -/
theorem media_type_toList (text : String) :
    (mediaType text).toList =
      Text.trimBoth Text.isBlank ((text.toList.map Char.toLower).takeWhile (· ≠ ';')) := by
  rw [Text.takeWhile_lower, Text.trimBoth_map Text.lower_blank]
  simp only [mediaType, Text.lowerAscii, Text.trim, String.toList_ofList]

theorem media_type_idempotent (text : String) : mediaType (mediaType text) = mediaType text := by
  apply String.toList_injective
  have lowered : (mediaType text).toList.map Char.toLower = (mediaType text).toList := by
    rw [media_type_toList, ← Text.trimBoth_map Text.lower_blank, ← Text.takeWhile_lower,
      List.map_map]
    congr 2
    apply List.map_congr_left
    intro character _
    exact Text.lower_lower character
  have whole : (mediaType text).toList.takeWhile (· ≠ ';') = (mediaType text).toList := by
    rw [List.takeWhile_eq_self_iff, media_type_toList]
    intro character member
    have before := List.mem_takeWhile_imp (Text.mem_trimBoth member)
    exact before
  rw [media_type_toList (mediaType text), lowered, whole, media_type_toList,
    Text.trimBoth_idempotent]

theorem media_type_parameters (text parameters : String) :
    mediaType (text ++ ";" ++ parameters) = mediaType text := by
  have cut (front : List Char) :
      (front ++ ';' :: parameters.toList).takeWhile (· ≠ ';') = front.takeWhile (· ≠ ';') := by
    induction front with
    | nil => rfl
    | cons character front ih => rw [List.cons_append, List.takeWhile_cons, List.takeWhile_cons, ih]
  have written : (text ++ ";" ++ parameters).toList =
      text.toList ++ ';' :: parameters.toList := by simp
  rw [mediaType, mediaType, written, cut]

theorem media_type_casing {one other : String}
    (same : Text.sameIgnoringAsciiCase one other = true) : mediaType one = mediaType other := by
  apply String.toList_injective
  rw [media_type_toList, media_type_toList, eq_of_beq same]

/-- Two media types go together. -/
inductive MediaFits (one other : String) : Prop
  | same : mediaType one = mediaType other → MediaFits one other
  | anyFirst : mediaType one = "*/*" → MediaFits one other
  | anySecond : mediaType other = "*/*" → MediaFits one other
  | subtypeFirst {type subtype : List Char} : '/' ∉ type →
      (mediaType one).toList = type ++ ['/', '*'] →
      (mediaType other).toList = type ++ '/' :: subtype → MediaFits one other
  | subtypeSecond {type subtype : List Char} : '/' ∉ type →
      (mediaType one).toList = type ++ '/' :: subtype →
      (mediaType other).toList = type ++ ['/', '*'] → MediaFits one other

theorem MediaFits.symm {one other : String} (fits : MediaFits one other) : MediaFits other one := by
  cases fits with
  | same same => exact .same same.symm
  | anyFirst any => exact .anySecond any
  | anySecond any => exact .anyFirst any
  | subtypeFirst type first second => exact .subtypeSecond type second first
  | subtypeSecond type first second => exact .subtypeFirst type second first

/-- The check of media types, and of media ranges against media types, is what `MediaFits` says. -/
theorem media_matches_iff (one other : String) :
    mediaMatches one other = true ↔ MediaFits one other := by
  constructor
  · intro matched
    simp only [mediaMatches, Bool.or_eq_true, beq_iff_eq] at matched
    split at matched
    · next plain =>
      rcases plain with (any | any) | same
      · exact .anyFirst any
      · exact .anySecond any
      · exact .same same
    · split at matched
      · next type subtype otherType otherSubtype found known =>
        obtain ⟨first, absent⟩ := Text.splitOnce_eq_some found
        obtain ⟨second, -⟩ := Text.splitOnce_eq_some known
        rw [Bool.and_eq_true, Bool.or_eq_true, beq_iff_eq, beq_iff_eq, beq_iff_eq] at matched
        obtain ⟨rfl | rfl, rfl⟩ := matched
        · exact .subtypeFirst absent first second
        · exact .subtypeSecond absent first second
      · cases matched
  · intro fits
    cases fits with
    | same same => simp [mediaMatches, same]
    | anyFirst any => simp [mediaMatches, any]
    | anySecond any => simp [mediaMatches, any]
    | @subtypeFirst type subtype absent first second =>
        simp [mediaMatches, first, second, Text.splitOnce_append absent]
    | @subtypeSecond type subtype absent first second =>
        simp [mediaMatches, first, second, Text.splitOnce_append absent]

example : mediaMatches "text/*" "Text/HTML; charset=utf-8" = true := by decide

theorem media_matches_media_type (one other : String) :
    mediaMatches one (mediaType other) = mediaMatches one other := by
  simp only [mediaMatches, media_type_idempotent]

theorem media_type_media_matches (one other : String) :
    mediaMatches (mediaType one) other = mediaMatches one other := by
  simp only [mediaMatches, media_type_idempotent]

end RequestDispatch
