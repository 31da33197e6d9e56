import LineShell.Userland.Script.Quoting
import LineShell.Userland.Script.Token
/-!
    From the text of a script to its commands.

    A script is read one complete command at a time (`readCommand`), because what a command does
    may change how the next one is read. Reading takes fuel, and more than the text is long is
    always enough. -/

namespace LineShell.Script

open Reading

/-! ### Lists -/

/-- Where a list of commands stands. -/
inductive ListKind where
  /-- It is a command of the script itself, and ends with its line. -/
  | line
  /-- It stands in a command and must not be empty. -/
  | inner
  /-- It may be empty. -/
  | optional
  deriving DecidableEq

/-- One command after another. -/
def joined (before : Option Cmd) (c : Cmd) : Cmd :=
  match before with
  | none => c
  | some b => .next b c

/-- A command that the shell does not wait for. -/
def Cmd.inBackground : Cmd → Cmd
  | .pipeline stages _ => .pipeline stages true
  | .redirected line body redirects => .background line body redirects
  | c => .background 0 c []

/-- A command with redirections of its own. -/
def Cmd.withRedirects (c : Cmd) (line : Nat) (redirects : List Redirection) : Cmd :=
  match redirects, c with
  | [], c => c
  | _, .subshell _ body _ => .subshell line body redirects
  | _, c => .redirected line c redirects

mutual

/-- Reads pieces to the end of their place; the latest stand first in `done`. `depth` counts the
    open parentheses of an arithmetic expression. -/
def readPieces : Nat → Place → Nat → List Piece → Reading Word
  | 0, _, _, done => return done.reverse
  | n + 1, p, depth, done => do
    match ← peekOn with
    | none => match p.unfinished with
      | some message => fail message
      | none => return done.reverse
    | some '\\' =>
      advance
      match ← peek with
      | none => readPieces n p depth (.escaped '\\' :: done)
      | some c =>
        advance
        if p.isQuoted ∧ ¬ p.escapes c then
          readPieces n p depth (.escaped c :: .escaped '\\' :: done)
        else readPieces n p depth (.escaped c :: done)
    | some '\x27' =>
      if p.isQuoted then
        advance
        readPieces n p depth (.escaped '\x27' :: done)
      else
        advance
        let text ← singleQuoted
        readPieces n p depth (.quote :: (text.map Piece.escaped).reverse ++ .quote :: done)
    | some '\x22' =>
      advance
      match p.setting with
      | .word | .delimiter | .braces =>
        let setting : Setting := if p.setting = .delimiter then .delimiterQuotes else .quotes
        let inside ← readPieces n ⟨setting, p.inBraces, false⟩ 0 []
        readPieces n p depth (.quote :: inside.reverse ++ .quote :: done)
      | .quotedBraces =>
        let inside ← readPieces n ⟨.innerQuotes, true, p.inDocument⟩ 0 []
        let mark : List Piece := if p.inDocument then [] else [.quote]
        readPieces n p depth (mark ++ inside.reverse ++ mark ++ done)
      | .quotes | .delimiterQuotes | .innerQuotes => return done.reverse
      | .arithmetic | .document => readPieces n p depth (.escaped '\x22' :: done)
    | some '$' =>
      advance
      let pieces ← if p.isDelimiter then pure [p.piece '$'] else readDollar n p
      readPieces n p depth (pieces.reverse ++ done)
    | some '\x60' =>
      advance
      if p.isDelimiter then readPieces n p depth (p.piece '\x60' :: done)
      else
        let text ← commandQuoted p.isQuoted ((← get).rest.length + 1) []
        let body ← readQuotedCommand n text
        readPieces n p depth (.command body :: done)
    | some '\x7d' =>
      advance
      match p.setting with
      | .braces | .quotedBraces => return done.reverse
      | _ => readPieces n p depth (p.piece '\x7d' :: done)
    | some c =>
      if p.setting ∈ [.word, .delimiter] ∧ endsWord c then return done.reverse
      else if p.setting = .arithmetic ∧ c = '(' then
        advance
        readPieces n p (depth + 1) (.escaped c :: done)
      else if p.setting = .arithmetic ∧ c = ')' then
        advance
        if depth > 0 then readPieces n p (depth - 1) (.escaped c :: done)
        else if ← accept ')' then return done.reverse
        else readPieces n p depth (.escaped c :: done)
      else if isActive c then
        advance
        if c = '\n' then startLine
        readPieces n p depth (p.piece c :: done)
      else
        let text ← takeWhile fun c => !isActive c
        readPieces n p depth ((text.map p.piece).reverse ++ done)

/-- Reads what stands after a dollar sign. -/
def readDollar : Nat → Place → Reading (List Piece)
  | 0, _ => return [.char '$']
  | n + 1, p => do
    match ← peekOn with
    | some '(' =>
      advance
      if ← accept '(' then
        return [.arithmetic (← readPieces n ⟨.arithmetic, false, p.inDocument⟩ 0 [])]
      else return [.command (← readInnerCommand n)]
    | some '\x7b' =>
      advance
      match ← readBraced ((← get).rest.length + 1) with
      | (name, none) => return [.parameter name .value false []]
      | (name, some (modifier, colon)) =>
        let word ← readPieces n (p.braces modifier.cuts) 0 []
        return [.parameter name modifier colon word]
    | some c =>
      if isNameStart c then
        return [.parameter (← name ((← get).rest.length + 1) []) .value false []]
      else if isSpecialParameter c then
        advance
        return [.parameter [c] .value false []]
      else return [p.piece '$']
    | none => return [p.piece '$']

/-- Reads a command up to the parenthesis that closes it. -/
def readInnerCommand : Nat → Reading Cmd
  | 0 => return .skip
  | n + 1 => do
    let outer ← get
    set { outer with awaited := [], document := none }
    let body ← readList n .optional none
    match ← readToken n .none with
    | .sign ")" => pure ()
    | _ => unexpected (some (.sign ")"))
    modify fun r => { r with awaited := outer.awaited, document := outer.document }
    return body.getD .skip

/-- Reads a text as a command of its own. -/
def readQuotedCommand : Nat → Text → Reading Cmd
  | 0, _ => return .skip
  | n + 1, text => do
    let outer ← get
    set { outer with
      rest := text, line := 1, last := .newline, again := false, openAliases := [], awaited := []
      document := none }
    let body ← readList n .optional none
    modify fun r => { outer with
      documents := r.documents, nextDocument := r.nextDocument, again := false }
    return body.getD .skip

/-- Reads the here-documents that are awaited. -/
def readDocuments : Nat → Reading Unit
  | 0 => return
  | n + 1 => do
    match (← get).awaited with
    | [] => return
    | d :: awaited =>
      modify fun r => { r with awaited }
      let body ← if d.literal then
          let text ← documentLines d ((← get).rest.length + 1) []
          pure (text.map Piece.escaped)
        else
          let outer ← get
          set { outer with document := some d, behind := [] }
          startLine
          let body ← readPieces n ⟨.document, false, true⟩ 0 []
          modify fun r => { r with
            rest := r.behind, document := outer.document, behind := outer.behind }
          pure body
      modify fun r => { r with documents := (d.number, body) :: r.documents }
      readDocuments n

/-- Reads a token. -/
def readToken : Nat → Checks → Reading Token
  | 0, _ => return .ending
  | n + 1, checks => do
    let r ← get
    let (token, chained) ← if r.again then pure (r.last, false) else scanToken n .word
    modify fun r => { r with again := false, last := token }
    match token with
    | .newline =>
      if checks.newlines then
        readDocuments n
        readToken n checks
      else return token
    | .word w => match w.plain? with
      | none => return token
      | some text =>
        let name := String.ofList text
        if checks.reserved ∧ name ∈ reservedWords then
          modify fun r => { r with last := .reserved name }
          return .reserved name
        if checks.aliases ∨ chained then
          match ← alias? text with
          | some value =>
            openAlias text value
            readToken n checks
          | none => return token
        else return token
    | _ => return token

/-- Scans a token; also whether an alias before it asks for it to be looked up. -/
def scanToken : Nat → Setting → Reading (Token × Bool)
  | 0, _ => return (.ending, false)
  | n + 1, setting => do
    let _ ← takeWhile (· ∈ [' ', '\t'])
    let chained ← closeAliases
    let sign (text : String) : Reading (Token × Bool) := return (.sign text, chained)
    match ← peekOn with
    | none => return (.ending, chained)
    | some ' ' | some '\t' => scanToken n setting
    | some '#' =>
      let _ ← takeWhile (· ≠ '\n')
      scanToken n setting
    | some '\n' =>
      advance
      return (.newline, chained)
    | some '&' =>
      advance
      if ← accept '&' then sign "&&" else sign "&"
    | some '|' =>
      advance
      if ← accept '|' then sign "||" else sign "|"
    | some ';' =>
      advance
      if ← accept ';' then sign ";;" else sign ";"
    | some '(' =>
      advance
      sign "("
    | some ')' =>
      advance
      sign ")"
    | some _ =>
      let w ← readPieces n ⟨setting, false, false⟩ 0 []
      let descriptor : Option (Option Nat) := match w with
        | [] => some none
        | [.char c] => if c.isDigit then some (some (c.toNat - '0'.toNat)) else none
        | _ => none
      match ← peek, descriptor with
      | some c, some descriptor =>
        if c ∈ ['<', '>'] then
          advance
          return (← readRedirectSign c descriptor, chained)
        else return (.word w, chained)
      | _, _ => return (.word w, chained)

/-- Reads the word that a redirection needs. -/
def readTarget : Nat → Nat → RedirectKind → Reading Redirection
  | 0, _, _ => fail []
  | n + 1, descriptor, kind => do
    let token ← match kind with
      | .document _ =>
        let (token, _) ← scanToken n .delimiter
        modify fun r => { r with last := token }
        pure token
      | _ => readToken n .none
    match token with
    | .word w => redirectionOf descriptor kind w
    | _ => unexpected none

/-- Reads a list of commands. -/
def readList : Nat → ListKind → Option Cmd → Reading (Option Cmd)
  | 0, _, before => return before
  | n + 1, kind, before => do
    match ← readToken n (if kind = .line then .command else .later) with
    | .newline =>
      readDocuments n
      return before
    | .ending =>
      readDocuments n
      modify fun r => { r with again := true, last := .ending }
      return before
    | token =>
      pushBack
      if kind ≠ .line ∧ (kind = .optional ∨ before.isSome) ∧ token.endsList then return before
      let c ← readAndOr n
      match ← readToken n .none with
      | .sign "&" => readList n kind (some (joined before c.inBackground))
      | .sign ";" => readList n kind (some (joined before c))
      | .newline | .ending =>
        pushBack
        readList n kind (some (joined before c))
      | _ =>
        if kind = .line then unexpected none
        pushBack
        return some (joined before c)

/-- Reads a list that must not be empty. -/
def readBody : Nat → Reading Cmd
  | 0 => return .skip
  | n + 1 => return (← readList n .inner none).getD .skip

/-- Reads pipelines that depend on each other. -/
def readAndOr : Nat → Reading Cmd
  | 0 => return .skip
  | n + 1 => do
    let first ← readPipeline n .none
    readOthers n first

/-- Reads the pipelines that depend on one. -/
def readOthers : Nat → Cmd → Reading Cmd
  | 0, c => return c
  | n + 1, c => do
    match ← readToken n .none with
    | .sign "&&" => readOthers n (.also c (← readPipeline n .later))
    | .sign "||" => readOthers n (.otherwise c (← readPipeline n .later))
    | _ =>
      pushBack
      return c

/-- Reads a pipeline. -/
def readPipeline : Nat → Checks → Reading Cmd
  | 0, _ => return .skip
  | n + 1, checks => do
    let negated ← match ← readToken n checks with
      | .reserved "!" =>
        let _ ← readToken n .command
        pushBack
        pure true
      | _ =>
        pushBack
        pure false
    let first ← readCommandPart n
    let stages ← readStages n [first]
    let c : Cmd := match stages with
      | [c] => c
      | stages => .pipeline stages false
    return if negated then .negate c else c

/-- Reads the other commands of a pipeline; the latest stand first in `done`. -/
def readStages : Nat → List Cmd → Reading (List Cmd)
  | 0, done => return done.reverse
  | n + 1, done => do
    match ← readToken n .none with
    | .sign "|" =>
      let _ ← readToken n .later
      pushBack
      let c ← readCommandPart n
      readStages n (c :: done)
    | _ =>
      pushBack
      return done.reverse

/-- Takes the token that has to come next. -/
def require : Nat → Token → Checks → Reading Unit
  | 0, _, _ => return
  | n + 1, wanted, checks => do
    match wanted, ← readToken n checks with
    | .reserved name, .reserved found => if name = found then return else unexpected (some wanted)
    | .sign text, .sign found => if text = found then return else unexpected (some wanted)
    | _, _ => unexpected (some wanted)

/-- Reads a simple or a compound command. -/
def readCommandPart : Nat → Reading Cmd
  | 0 => return .skip
  | n + 1 => do
    let line := (← get).line
    let compound ← match ← readToken n .none with
      | .reserved "if" =>
        let c ← readBranch n
        require n (.reserved "fi") .none
        pure c
      | .reserved "while" => readLoop n true
      | .reserved "until" => readLoop n false
      | .reserved "for" => readEach n line
      | .reserved "case" => readChoice n line
      | .sign "(" =>
        let body ← readBody n
        require n (.sign ")") .none
        pure (.subshell line body [])
      | .reserved "\x7b" =>
        let body ← readBody n
        require n (.reserved "\x7d") .none
        pure body
      | .word _ | .redirection _ _ =>
        pushBack
        return ← readSimple n line true [] [] []
      | _ => unexpected none
    let redirects ← readRedirects n []
    return compound.withRedirects line redirects

/-- Reads the redirections after a compound command; the latest stand first in `done`. -/
def readRedirects : Nat → List Redirection → Reading (List Redirection)
  | 0, done => return done.reverse
  | n + 1, done => do
    match ← readToken n (if done = [] then .command else .none) with
    | .redirection descriptor kind =>
      let r ← readTarget n descriptor kind
      readRedirects n (r :: done)
    | _ =>
      pushBack
      return done.reverse

/-- Reads a branch after its `if` or `elif`. -/
def readBranch : Nat → Reading Cmd
  | 0 => return .skip
  | n + 1 => do
    let condition ← readBody n
    require n (.reserved "then") .none
    let yes ← readBody n
    match ← readToken n .none with
    | .reserved "elif" => return .branch condition yes (some (← readBranch n))
    | .reserved "else" => return .branch condition yes (some (← readBody n))
    | _ =>
      pushBack
      return .branch condition yes none

/-- Reads a loop after its `while` or `until`. -/
def readLoop : Nat → Bool → Reading Cmd
  | 0, _ => return .skip
  | n + 1, succeeding => do
    let condition ← readBody n
    require n (.reserved "do") .none
    let body ← readBody n
    require n (.reserved "done") .none
    return .loop succeeding condition body

/-- Reads a loop over words after its `for`. -/
def readEach : Nat → Nat → Reading Cmd
  | 0, _ => return .skip
  | n + 1, line => do
    let name ← match ← readToken n .none with
      | .word w => match w.plain? with
        | some text => if isName text then pure text else fail "Bad for loop variable"
        | none => fail "Bad for loop variable"
      | _ => fail "Bad for loop variable"
    let words ← match ← readToken n .later with
      | .reserved "in" =>
        let words ← readWords n []
        match (← get).last with
        | .newline | .sign ";" => pure words
        | _ => unexpected none
      | .sign ";" => pure [allArguments]
      | _ =>
        pushBack
        pure [allArguments]
    require n (.reserved "do") .later
    let body ← readBody n
    require n (.reserved "done") .none
    return .each line name words body

/-- Reads words to the first token that is none; the latest stand first in `done`. -/
def readWords : Nat → List Word → Reading (List Word)
  | 0, done => return done.reverse
  | n + 1, done => do
    match ← readToken n .none with
    | .word w => readWords n (w :: done)
    | _ => return done.reverse

/-- Reads a choice after its `case`. -/
def readChoice : Nat → Nat → Reading Cmd
  | 0, _ => return .skip
  | n + 1, line => do
    match ← readToken n .none with
    | .word subject =>
      require n (.reserved "in") .later
      return .choose line subject (← readCases n [])
    | _ => unexpected (some (.word []))

/-- Reads the cases of a choice; the latest stand first in `done`. -/
def readCases : Nat → List (List Word × Cmd) → Reading (List (List Word × Cmd))
  | 0, done => return done.reverse
  | n + 1, done => do
    match ← readToken n ⟨true, true, false⟩ with
    | .reserved "esac" => return done.reverse
    | token =>
      let token ← match token with
        | .sign "(" => readToken n .none
        | token => pure token
      let patterns ← readPatterns n token []
      match (← get).last with
      | .sign ")" => pure ()
      | _ => unexpected (some (.sign ")"))
      let body := (← readList n .optional none).getD .skip
      let done := (patterns, body) :: done
      match ← readToken n ⟨true, true, false⟩ with
      | .reserved "esac" => return done.reverse
      | .sign ";;" => readCases n done
      | _ => unexpected (some (.sign ";;"))

/-- Reads the patterns of a case from its first token; the latest stand first in `done`. -/
def readPatterns : Nat → Token → List Word → Reading (List Word)
  | 0, _, done => return done.reverse
  | n + 1, token, done => do
    let w : Word := match token with
      | .word w => w
      | .reserved name => name.toList.map Piece.char
      | _ => []
    match ← readToken n .none with
    | .sign "|" => readPatterns n (← readToken n .none) (w :: done)
    | _ => return (w :: done).reverse

/-- Reads a simple command, or the definition of a function. Words that set variables stand before
    all others; the latest stand first in the lists. -/
def readSimple : Nat → Nat → Bool → List Word → List Word → List Redirection → Reading Cmd
  | 0, _, _, _, _, _ => return .skip
  | n + 1, line, starting, assigns, words, redirects => do
    match ← readToken n ⟨false, false, starting⟩ with
    | .word w =>
      if starting ∧ w.assignment?.isSome then
        readSimple n line true (w :: assigns) words redirects
      else readSimple n line false assigns (w :: words) redirects
    | .redirection descriptor kind =>
      let r ← readTarget n descriptor kind
      readSimple n line starting assigns words (r :: redirects)
    | token =>
      let finished : Reading Cmd := do
        pushBack
        return .simple line assigns.reverse words.reverse redirects.reverse
      match token, assigns, words, redirects with
      | .sign "(", [], [w], [] =>
        require n (.sign ")") .none
        match w.plain? with
        | some name =>
          if isName name ∧ String.ofList name ∉ specialBuiltins then
            let _ ← readToken n .later
            pushBack
            return .define name (← readCommandPart n)
          else fail "Bad function name"
        | none => fail "Bad function name"
      | _, _, _, _ => finished

end

/-- The word that a text is when it is read like a here-document. -/
def documentWord (text : Text) : Word :=
  match (readPieces (8 * text.length + 64) ⟨.document, false, true⟩ 0 []).run
      (.ofText text [] 0 false) with
  | .ok w _ => w
  | .error _ _ => text.map .char

/-- What comes of reading a script's next command. -/
inductive Reply where
  /-- The script has ended. -/
  | ending
  /-- A command, and whether the script ends with it. -/
  | command (c : Cmd) (final : Bool)

/-- Reads the next complete command. -/
def readCommand : Reading Reply := do
  let r ← get
  let found ← readList (8 * r.rest.length + 64) .line none
  let r ← get
  let atEnd := r.again && (match r.last with
    | .ending => true
    | _ => false)
  match found with
  | some c => return .command c atEnd
  | none => return if atEnd then .ending else .command .skip false

end LineShell.Script
