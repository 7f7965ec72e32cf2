/-!
Texts read as segments between a separator character: paths between `/`, dotted names between `.`.
-/

namespace LayerCheck.Segments

def splitChars (sep : Char) : List Char → List (List Char)
  | [] => [[]]
  | c :: cs =>
    if c = sep then
      [] :: splitChars sep cs
    else
      match splitChars sep cs with
      | [] => [[c]]
      | w :: ws => (c :: w) :: ws

/-- The segments of a text; a text without the separator is one segment. -/
def split (sep : Char) (s : String) : List String :=
  (splitChars sep s.toList).map String.ofList

def join (sep : Char) (segments : List String) : String :=
  (String.singleton sep).intercalate segments

/-- The text after the last separator. -/
def last (sep : Char) (s : String) : String :=
  (split sep s).getLastD s

/-- The text before the first separator. -/
def first (sep : Char) (s : String) : String :=
  String.ofList (s.toList.takeWhile (· ≠ sep))

theorem splitChars_ne_nil (sep : Char) (cs : List Char) : splitChars sep cs ≠ [] := by
  cases cs with
  | nil => simp [splitChars]
  | cons c cs =>
    rw [splitChars]
    split
    · simp
    · split <;> simp

end LayerCheck.Segments
