/-!
# Occurrence of one text in another

A text occurs in another when it stands there as an unbroken run of characters.
The empty text occurs in every text.
-/

namespace CivicRegistry.Text

/-- Whether `needle` stands somewhere in the given characters as an unbroken
run. -/
def occursIn (needle : List Char) : List Char → Bool
  | [] => needle.isEmpty
  | c :: rest => needle.isPrefixOf (c :: rest) || occursIn needle rest

/-- The search finds a text exactly where it is an unbroken run of the other. -/
theorem occursIn_eq_true_iff {needle hay : List Char} :
    occursIn needle hay = true ↔ needle <:+: hay := by
  induction hay with
  | nil => simp [occursIn]
  | cons c rest ih => simp [occursIn, ih, List.infix_cons_iff]

end CivicRegistry.Text
