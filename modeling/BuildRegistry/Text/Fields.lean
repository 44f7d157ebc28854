/-
  Texts cut at a separator and joined again. Cutting never loses anything: joining the fields
  gives the text back, and there is always at least one field.
-/

namespace BuildRegistry.Text

/-- The stretches between separators, empty ones included. -/
def splitAt (sep : Char) : List Char → List (List Char)
  | [] => [[]]
  | c :: s =>
    if c = sep then [] :: splitAt sep s
    else match splitAt sep s with
      | [] => [[c]]
      | f :: fs => (c :: f) :: fs

def joinWith (sep : Char) : List (List Char) → List Char
  | [] => []
  | [f] => f
  | f :: fs => f ++ sep :: joinWith sep fs

theorem splitAt_ne_nil (sep : Char) (s : List Char) : splitAt sep s ≠ [] := by
  cases s with
  | nil => simp [splitAt]
  | cons c s =>
    simp only [splitAt]
    split
    · simp
    · split <;> simp

theorem joinWith_cons_cons (sep : Char) (f g : List Char) (fs : List (List Char)) :
    joinWith sep (f :: g :: fs) = f ++ sep :: joinWith sep (g :: fs) := rfl

theorem joinWith_splitAt (sep : Char) (s : List Char) : joinWith sep (splitAt sep s) = s := by
  induction s with
  | nil => rfl
  | cons c s ih =>
    have hne := splitAt_ne_nil sep s
    match hs : splitAt sep s with
    | [] => exact absurd hs hne
    | f :: fs =>
      rw [hs] at ih
      by_cases h : c = sep
      · rw [splitAt, if_pos h, hs, joinWith_cons_cons, ih, h]
        rfl
      · rw [splitAt, if_neg h, hs]
        cases fs with
        | nil => simpa [joinWith] using ih
        | cons g gs =>
          rw [joinWith_cons_cons] at ih
          simp only [joinWith_cons_cons, List.cons_append, ih]

/-- The text before and after the first separator. -/
def cutAt (sep : Char) : List Char → Option (List Char × List Char)
  | [] => none
  | c :: s => if c = sep then some ([], s) else (cutAt sep s).map fun r => (c :: r.1, r.2)

/-- Whether `pattern` occurs in a text. -/
def occursIn (pattern : List Char) : List Char → Bool
  | [] => pattern.isEmpty
  | c :: s => pattern.isPrefixOf (c :: s) || occursIn pattern s

end BuildRegistry.Text
