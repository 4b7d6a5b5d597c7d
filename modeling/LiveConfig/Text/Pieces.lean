/-!
Cutting a text at a separator.
-/

namespace LiveConfig.Text

/-- The pieces between the separators; one more than there are separators. -/
def cut (sep : Char) : List Char → List (List Char)
  | [] => [[]]
  | c :: cs =>
    if c = sep then [] :: cut sep cs
    else
      match cut sep cs with
      | [] => [[c]]
      | p :: ps => (c :: p) :: ps

theorem cut_ne_nil (sep : Char) (cs : List Char) : cut sep cs ≠ [] := by
  cases cs with
  | nil => simp [cut]
  | cons c cs =>
    unfold cut
    split
    · simp
    · split <;> simp

/-- The pieces of a text. -/
def pieces (sep : Char) (s : String) : List String := (cut sep s.toList).map String.ofList

end LiveConfig.Text
