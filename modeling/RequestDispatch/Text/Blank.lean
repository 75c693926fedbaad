/-!
Blank characters and trimming. A text is trimmed from both ends; what lies between two characters
that stay is never touched.
-/

namespace RequestDispatch
namespace Text

/-- The characters with the Unicode property White_Space. -/
def isBlank (character : Char) : Bool :=
  let code := character.toNat
  (0x09 ≤ code && code ≤ 0x0D) || code == 0x20 || code == 0x85 || code == 0xA0 ||
    code == 0x1680 || (0x2000 ≤ code && code ≤ 0x200A) || code == 0x2028 || code == 0x2029 ||
    code == 0x202F || code == 0x205F || code == 0x3000

def trimEnd (test : Char → Bool) (text : List Char) : List Char :=
  (text.reverse.dropWhile test).reverse

def trimBoth (test : Char → Bool) (text : List Char) : List Char :=
  trimEnd test (text.dropWhile test)

def trim (text : String) : String :=
  String.ofList (trimBoth isBlank text.toList)

theorem trimEnd_append_of_all {test : Char → Bool} (front : List Char) {suffix : List Char}
    (drops : ∀ character ∈ suffix, test character = true) :
    trimEnd test (front ++ suffix) = trimEnd test front := by
  have removed : (suffix.reverse ++ front.reverse).dropWhile test =
      front.reverse.dropWhile test := by
    rw [List.dropWhile_append_of_pos]
    simpa using drops
  simp [trimEnd, removed]

end Text
end RequestDispatch
