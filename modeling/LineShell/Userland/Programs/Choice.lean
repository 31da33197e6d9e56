import LineShell.Userland.Programs.Call
/-!
    Values of options that are words.

    The value of such an option is one of several words, or the start of one as long as no word of
    another meaning starts like that. -/

namespace LineShell

/-- The words that an option has for values, with their meanings. Words of one meaning stand
    together. -/
structure WordChoice (α : Type) where
  /-- The word of the option. -/
  option : String
  values : List (String × α)

namespace WordChoice

variable {α : Type} [DecidableEq α]

/-- Words with equal meanings side by side. -/
def synonyms : List (String × α) → List (List String × α)
  | [] => []
  | (word, meaning) :: rest => match synonyms rest with
    | (words, same) :: more =>
      if same = meaning then (word :: words, same) :: more
      else ([word], meaning) :: (words, same) :: more
    | [] => [([word], meaning)]

/-- The meaning of a value, or what is wrong with it. -/
def find (w : WordChoice α) (c : Call) (text : Text) : Except Text α :=
  let fault (kind : Text) : Except Text α :=
    let shown (word : String) : Text := c.charset.quotedWord word
    .error (kind ++ " argument " ++ c.charset.quotedWord text ++ " for "
      ++ shown ("--" ++ w.option) ++ "\nValid arguments are:"
      ++ (synonyms w.values).flatMap fun e =>
        "\n  - ".toList ++ ", ".toList.intercalate (e.1.map shown))
  match w.values.find? (·.1.toList = text), w.values.filter fun e => text.isPrefixOf e.1.toList with
  | some e, _ => .ok e.2
  | none, e :: rest => if rest.all (·.2 = e.2) then .ok e.2 else fault "ambiguous"
  | none, [] => fault "invalid"

end WordChoice

end LineShell
