import Mathlib.Data.List.Infix

/-!
# Texts

A text is the list of its characters. Slices are taken as the interpreter takes them: an end beyond
the text is its end. Spaces are what the interpreter counts as spaces, in any script; letters are
compared as its regular expressions compare them when case is ignored.
-/

namespace HibikiCore

abbrev Text := List Char

namespace Text

/-- `text[start:stop]` -/
def slice (text : Text) (start stop : Nat) : Text := (text.take stop).drop start

theorem slice_prefix {done rest : Text} {start : Nat} :
    slice (done ++ rest) start done.length = done.drop start := by
  rw [slice, List.take_left]

theorem slice_next {done rest : Text} {c : Char} {start : Nat} (hstart : start ≤ done.length) :
    slice (done ++ c :: rest) start (done.length + 1) = done.drop start ++ [c] := by
  have hsplit : done ++ c :: rest = (done ++ [c]) ++ rest := by simp
  have hlength : done.length + 1 = (done ++ [c]).length := by simp
  rw [hsplit, hlength, slice_prefix, List.drop_append_of_le_length hstart]

/-- The places at which a text occurs in another one, in order. -/
def occurrences (token text : Text) : List Nat :=
  (List.range (text.length + 1)).filter fun i ↦ token.isPrefixOf (text.drop i)

theorem mem_occurrences {token text : Text} {i : Nat} :
    i ∈ occurrences token text ↔
      ∃ before after, text = before ++ token ++ after ∧ before.length = i := by
  rw [occurrences, List.mem_filter, List.mem_range, List.isPrefixOf_iff_prefix]
  constructor
  · rintro ⟨hi, after, hafter⟩
    refine ⟨text.take i, after, ?_, List.length_take_of_le (Nat.le_of_lt_succ hi)⟩
    rw [List.append_assoc, hafter, List.take_append_drop]
  · rintro ⟨before, after, rfl, rfl⟩
    refine ⟨?_, after, ?_⟩
    · rw [List.length_append, List.length_append]
      omega
    · rw [List.append_assoc, List.drop_left]

/-- `text.rfind(token)` -/
def rfind (token text : Text) : Option Nat := (occurrences token text).getLast?

end Text

/-- What separates words, as `str.isspace` has it. -/
def isSpace (c : Char) : Bool :=
  let n := c.toNat
  decide (9 ≤ n ∧ n ≤ 13) || decide (28 ≤ n ∧ n ≤ 32) || n == 0x85 || n == 0xa0 || n == 0x1680 ||
    decide (0x2000 ≤ n ∧ n ≤ 0x200a) || n == 0x2028 || n == 0x2029 || n == 0x202f ||
    n == 0x205f || n == 0x3000

/-- `text.strip()` -/
def Text.strip (text : Text) : Text :=
  ((text.dropWhile isSpace).reverse.dropWhile isSpace).reverse

def stripText (s : String) : String := String.ofList (Text.strip s.toList)

/-- A capital, as `str.upper` makes it of the letters of the words that texts are compared with. -/
def upper (c : Char) : Char := if c.toNat = 0x131 then 'I' else c.toUpper

def upperText (s : String) : String := String.ofList (s.toList.map upper)

/-- A character that is a given small letter when case is ignored. Besides its capital, `i` has the
two dotted and dotless letters, `s` the long one and `k` the sign for kelvin. -/
def sameLetter (letter c : Char) : Bool :=
  c == letter || c.toLower == letter ||
    (letter == 'i' && (c.toNat == 0x130 || c.toNat == 0x131)) ||
    (letter == 's' && c.toNat == 0x17f) || (letter == 'k' && c.toNat == 0x212a)

end HibikiCore
