namespace Latchkey.Text

/-- The characters with the Unicode property White_Space. -/
def isBlank (c : Char) : Bool :=
  let n := c.toNat
  (0x09 ≤ n && n ≤ 0x0D) || n == 0x20 || n == 0x85 || n == 0xA0 || n == 0x1680 ||
    (0x2000 ≤ n && n ≤ 0x200A) || n == 0x2028 || n == 0x2029 || n == 0x202F || n == 0x205F ||
    n == 0x3000

/-- The text without the blanks it begins and ends with. -/
def trim (cs : List Char) : List Char :=
  ((cs.dropWhile isBlank).reverse.dropWhile isBlank).reverse

/-- The text before the first `sep` and the text after it, if there is one. -/
def splitFirst (sep : Char) : List Char → Option (List Char × List Char)
  | [] => none
  | c :: cs =>
    if c = sep then some ([], cs)
    else (splitFirst sep cs).map fun (before, after) => (c :: before, after)

/-- The text without one `c` at its end, if it ends in one. -/
def withoutLast (c : Char) (cs : List Char) : List Char :=
  if cs.getLast? = some c then cs.dropLast else cs

/-- What follows the first character outside `p` is shorter than the whole. -/
theorem length_lt_of_dropWhile {p : Char → Bool} {cs after : List Char} {c : Char}
    (h : cs.dropWhile p = c :: after) : after.length < cs.length := by
  have := (List.dropWhile_suffix (l := cs) p).length_le
  rw [h, List.length_cons] at this
  omega

end Latchkey.Text
