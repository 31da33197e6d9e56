import LineShell.Userland.Script.Name
/-!
    Escapes in what scripts print. -/

namespace LineShell.Script

/-- Whether a character is an octal digit. -/
def isOctal (c : Char) : Bool := '0' ≤ c && c ≤ '7'

/-- The character that up to three octal digits stand for. -/
def octalChar (ds : Text) : Char :=
  Char.ofNat (ds.foldl (fun n c => 8 * n + (c.toNat - '0'.toNat)) 0 % 256)

/-- The character that an escape stands for, given what follows the backslash, and the rest. What
    is no escape leaves the backslash alone. -/
def readEscape (t : Text) : Char × Text :=
  match t with
  | '\\' :: rest => ('\\', rest)
  | 'a' :: rest => ('\x07', rest)
  | 'b' :: rest => ('\x08', rest)
  | 'e' :: rest => ('\x1b', rest)
  | 'f' :: rest => ('\x0c', rest)
  | 'n' :: rest => ('\n', rest)
  | 'r' :: rest => ('\r', rest)
  | 't' :: rest => ('\t', rest)
  | 'v' :: rest => ('\x0b', rest)
  | t =>
    let ds := (t.take 3).takeWhile isOctal
    if ds = [] then ('\\', t) else (octalChar ds, t.drop ds.length)

/-- A text with its escapes replaced, and whether it asks for everything after it to be left out. -/
def unescape : Nat → Text → Text × Bool
  | 0, _ => ([], false)
  | _ + 1, [] => ([], false)
  | n + 1, '\\' :: rest =>
    match rest with
    | 'c' :: _ => ([], true)
    | rest =>
      let rest := match rest with
        | '0' :: d :: more => if isOctal d then d :: more else rest
        | rest => rest
      let (c, rest) := readEscape rest
      let (t, stop) := unescape n rest
      (c :: t, stop)
  | n + 1, c :: rest =>
    let (t, stop) := unescape n rest
    (c :: t, stop)

/-- What `echo` prints for words: their escapes are replaced, and the first of them may ask for
    there to be no line feed at the end. -/
def echoed (words : List Text) : Text :=
  let (words, ending) : List Text × Text := match words with
    | ['-', 'n'] :: rest => (rest, [])
    | words => (words, ['\n'])
  go ending words
where
  /-- The words one after the other. -/
  go (ending : Text) : List Text → Text
    | [] => ending
    | [w] =>
      let (t, stop) := unescape (w.length + 1) w
      if stop then t else t ++ ending
    | w :: rest =>
      let (t, stop) := unescape (w.length + 1) w
      if stop then t else t ++ ' ' :: go ending rest

end LineShell.Script
