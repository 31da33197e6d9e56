/-!
    Cutting a sequence at every occurrence of one element, and text as lines.

    `cut` keeps empty pieces, so gluing the pieces together again with the separator gives the
    sequence back (`intercalate_cut`). A text read as lines has no piece after its last line feed,
    and a line does not keep the carriage return before its line feed. -/

namespace LineShell

variable {α : Type} [DecidableEq α]

/-- The pieces between occurrences of `sep`, empty ones included. -/
def cut (sep : α) (cs : List α) : List (List α) :=
  cs.foldr (fun c ps => if c = sep then [] :: ps else ps.modifyHead (c :: ·)) [[]]

theorem cut_cons (sep c : α) (cs : List α) :
    cut sep (c :: cs) =
      if c = sep then [] :: cut sep cs else (cut sep cs).modifyHead (c :: ·) := rfl

omit [DecidableEq α] in
theorem intercalate_modifyHead (sep : List α) (c : α) :
    ∀ {ps : List (List α)}, ps ≠ [] →
      sep.intercalate (ps.modifyHead (c :: ·)) = c :: sep.intercalate ps
  | [p], _ => by simp [List.intercalate]
  | p :: q :: ps, _ => by simp [List.intercalate]

theorem cut_ne_nil (sep : α) : ∀ cs : List α, cut sep cs ≠ []
  | [] => by simp [cut]
  | c :: cs => by
    rw [cut_cons]
    split
    · simp
    · cases h : cut sep cs with
      | nil => exact absurd h (cut_ne_nil sep cs)
      | cons p ps => simp

/-- Cutting loses only the separators. -/
theorem intercalate_cut (sep : α) : ∀ cs : List α, [sep].intercalate (cut sep cs) = cs
  | [] => by simp [cut, List.intercalate]
  | c :: cs => by
    have ih := intercalate_cut sep cs
    rw [cut_cons]
    split
    · next h =>
      cases hc : cut sep cs with
      | nil => exact absurd hc (cut_ne_nil sep cs)
      | cons p ps => rw [hc] at ih; simp [List.intercalate, h] at ih ⊢; exact ih
    · rw [intercalate_modifyHead _ _ (cut_ne_nil sep cs), ih]

/-- The pieces that hold something. -/
def cutNonempty (sep : α) (cs : List α) : List (List α) := (cut sep cs).filter (· ≠ [])

/-- A line without the carriage return at its end, if it has one. -/
def dropReturn (cs : List Char) : List Char :=
  if cs.getLast? = some '\r' then cs.dropLast else cs

/-- The lines of a text. A line feed ends a line, and so does a carriage return with a line feed;
    what follows the last line feed is a line only if it holds something, and is kept as it is. -/
def lines (text : String) : List String :=
  let pieces := cut '\n' text.toList
  let ended := pieces.dropLast.map dropReturn
  let unended := pieces.getLast?.toList.filter (· ≠ [])
  (ended ++ unended).map String.ofList

/-- The text that holds each entry as a line of its own. -/
def unlines (entries : List String) : String :=
  String.ofList (entries.flatMap fun entry => entry.toList ++ ['\n'])

/-- Words with one space between them. -/
def spaced (words : List String) : String := " ".intercalate words

end LineShell
