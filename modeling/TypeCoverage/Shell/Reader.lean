import TypeCoverage.Shell.Cursor

/-!
# Reading shell scripts

`Cursor.next` reads the next complete command from a cursor, which is the list of commands
up to the end of a line, so that a script can be run while it is read.  A here-document
follows the line on which it is announced; the words of all documents are kept apart from
the commands, by numbers.  A word in the place of a command that is an alias is replaced by
the text of the alias, and the text is read on.

Each reader uses up fuel on its way down, and the length of the text bounds the depth.
-/

namespace TypeCoverage.Shell

/-- Which words a token may be besides a plain one, and whether line breaks are passed
over before it. -/
structure Checks where
  newlines : Bool := false
  reserved : Bool := false
  aliases : Bool := false

/-- The checks where a command may begin on a later line. -/
def Checks.command : Checks := ⟨true, true, true⟩

mutual

/-- What follows a dollar sign. -/
def readDollar : Nat → Quoting → Reading Part
  | 0, _ => Reading.fail .openBrace
  | fuel + 1, quoting => do
    match ← Reading.peek? with
    | some '(' =>
      Reading.advance
      if (← Reading.peek?) = some '(' then
        Reading.advance
        return .arithmetic (← readSpan fuel (.arithmetic 0) []).reverse
      else readOutput fuel
    | some '\x7b' =>
      Reading.advance
      readBraced fuel quoting
    | some c =>
      if isSpecialParameter c then
        Reading.advance
        return .parameter (String.ofList [c]) .plain
      else if isNameChar c then return .parameter (← Reading.takeAll isNameChar fuel) .plain
      else return .bare "$"
    | none => return .bare "$"

/-- The commands between parentheses behind a dollar sign. -/
def readOutput : Nat → Reading Part
  | 0 => Reading.fail .openBrace
  | fuel + 1 => do
    let outer := (← get).announced
    modify fun c => { c with announced := [] }
    let script? ← readList fuel false true none
    let t ← readToken fuel {}
    if !t.isSign ")" then Reading.unexpected t (some (Token.marked ")"))
    let c ← get
    set { c with
      announced := outer
      documents := c.announced.map (fun a : Announced => (a.number, [])) ++ c.documents }
    return .output script?

/-- The commands between backquotes, which are a text of their own. -/
def readBackquoted : Nat → Bool → Reading Part
  | 0, _ => Reading.fail .openBackquote
  | fuel + 1, inMarks => do
    let text ← takeBackquoted inMarks ((← get).rest.length + 1) []
    let outer ← get
    set { outer with
      rest := text, line := 1, kept? := none, announced := [], unfoldings := [] }
    let script? ← readList fuel false true none
    readDocuments fuel
    let inner ← get
    set { outer with documents := inner.documents, fresh := inner.fresh }
    return .output script?

/-- A parameter in braces, after the opening one. -/
def readBraced : Nat → Quoting → Reading Part
  | 0, _ => Reading.fail .openBrace
  | fuel + 1, quoting => do
    match ← Reading.peek? with
    | none => readMalformed fuel quoting ""
    | some '#' =>
      Reading.advance
      match ← Reading.peek? with
      | none => readExpansion fuel quoting "#"
      | some c =>
        if isNameChar c then
          let test : Char → Bool := if c.isDigit then Char.isDigit else isNameChar
          let name ← Reading.takeAll test fuel
          if (← Reading.peek?) = some '\x7d' then
            Reading.advance
            return .parameter name .length
          else readMalformed fuel quoting name
        else if c = '\x7d' || (← Reading.peekSecond?) ≠ some '\x7d' then
          readExpansion fuel quoting "#"
        else
          Reading.advance
          if isSpecialParameter c then
            let _ ← Reading.peek?
            Reading.advance
            return .parameter (String.ofList [c]) .length
          else readMalformed fuel quoting ""
    | some c =>
      if c.isDigit then readExpansion fuel quoting (← Reading.takeAll Char.isDigit fuel)
      else if isNameChar c then readExpansion fuel quoting (← Reading.takeAll isNameChar fuel)
      else if isSpecialParameter c then
        Reading.advance
        readExpansion fuel quoting (String.ofList [c])
      else
        if c ≠ '\x7d' then Reading.pass
        readMalformed fuel quoting ""

/-- An expansion that is none, up to the closing brace. -/
def readMalformed : Nat → Quoting → String → Reading Part
  | 0, _, _ => Reading.fail .openBrace
  | fuel + 1, quoting, name => do
    let _ ← readSpan fuel (.brace quoting false) []
    return .parameter name .malformed

/-- How a parameter in braces is expanded, after its name. -/
def readExpansion : Nat → Quoting → String → Reading Part
  | 0, _, _ => Reading.fail .openBrace
  | fuel + 1, quoting, name => do
    let fallback (orEmpty : Bool) (sign : Char) : Reading Part := do
      let kind? : Option Fallback := match sign with
        | '-' => some .use
        | '=' => some .assign
        | '+' => some .instead
        | '?' => some .demand
        | _ => none
      let word := (← readSpan fuel (.brace quoting false) []).reverse
      return .parameter name (match kind? with
        | some kind => .fallback kind orEmpty word
        | none => if orEmpty && sign = '\x7d' then .plain else .malformed)
    let trim (sign : Char) (short long : Trim) : Reading Part := do
      let isLong := (← Reading.peek?) = some sign
      if isLong then Reading.advance
      let pattern := (← readSpan fuel (.brace .none false) []).reverse
      return .parameter name (.trim (if isLong then long else short) pattern)
    match ← Reading.peek? with
    | none => readMalformed fuel quoting name
    | some c =>
      Reading.pass
      match c with
      | '\x7d' => return .parameter name .plain
      | ':' =>
        match ← Reading.peek? with
        | none => readMalformed fuel quoting name
        | some sign =>
          Reading.pass
          fallback true sign
      | '%' => trim '%' .shortestBack .longestBack
      | '#' => trim '#' .shortestFront .longestFront
      | sign => fallback false sign

/-- The parts of a stretch of text up to its end, the last one first, in front of those
before it. -/
def readSpan : Nat → Span → List Part → Reading (List Part)
  | 0, _, _ => Reading.fail .openBrace
  | fuel + 1, span, done => do
    match ← Reading.peek? with
    | none =>
      match span with
      | .word _ => return done
      | .line => return done
      | .arithmetic _ => Reading.fail .openArithmetic
      | .marks => Reading.fail .openQuote
      | .brace .marks _ => Reading.fail .openQuote
      | .brace _ _ => Reading.fail .openBrace
    | some c =>
      let literally : Reading (List Part) := do
        Reading.advance
        readSpan fuel span (Part.pushBare (String.ofList [c]) done)
      match c, span with
      | '\\', _ =>
        Reading.advance
        match (← get).rest with
        | [] => readSpan fuel span (.escaped "\\" :: done)
        | d :: _ =>
          Reading.advance
          if span.escapes d then readSpan fuel span (.escaped (String.ofList [d]) :: done)
          else readSpan fuel span (Part.pushBare (String.ofList ['\\', d]) done)
      | '$', .word true => literally
      | '`', .word true => literally
      | '$', _ =>
        Reading.advance
        match ← readDollar fuel span.quoting with
        | .bare text => readSpan fuel span (Part.pushBare text done)
        | part => readSpan fuel span (part :: done)
      | '`', _ =>
        Reading.advance
        let part ← readBackquoted fuel span.isQuoted
        readSpan fuel span (part :: done)
      | '"', .marks =>
        Reading.advance
        return done
      | '"', .brace .marks inner =>
        Reading.advance
        readSpan fuel (.brace .marks !inner) done
      | '"', .brace .document inner =>
        Reading.advance
        readSpan fuel (.brace .document !inner) done
      | '\x7d', .brace _ false =>
        Reading.advance
        return done
      | '(', .arithmetic depth =>
        Reading.advance
        readSpan fuel (.arithmetic (depth + 1)) (Part.pushBare "(" done)
      | ')', .arithmetic 0 =>
        Reading.advance
        if (← Reading.peek?) = some ')' then
          Reading.advance
          return done
        else readSpan fuel span (Part.pushBare ")" done)
      | ')', .arithmetic (depth + 1) =>
        Reading.advance
        readSpan fuel (.arithmetic depth) (Part.pushBare ")" done)
      | '\n', .line =>
        Reading.advance
        return Part.pushBare "\n" done
      | _, _ =>
        if span.isOrdinary c then
          let text ← Reading.takeWhile span.isOrdinary
          readSpan fuel span (Part.pushBare text done)
        else if !span.isQuoted && c = '"' then
          Reading.advance
          let inner := (← readSpan fuel .marks []).reverse
          readSpan fuel span (.quoted inner :: done)
        else if !span.isQuoted && c = '\'' then
          Reading.advance
          let text ← Reading.takeWhile (· ≠ '\'')
          if (← get).rest.isEmpty then Reading.fail .openQuote
          else
            Reading.advance
            readSpan fuel span (.quoted (if text.isEmpty then [] else [.bare text]) :: done)
        else match span with
          | .word _ => return done
          | _ => literally

/-- The lines of a document in which words are expanded, up to its delimiter. -/
def readDocument : Nat → Announced → List Part → Reading (List Part)
  | 0, _, done => return done
  | fuel + 1, a, done => do
    if (← Reading.peek?).isNone then return done
    else
      if a.dropsTabs then let _ ← Reading.takeWhile (· = '\t')
      let line := (← get).rest.takeWhile (· ≠ '\n')
      if line = a.delimiter then
        Reading.drop (line.length + 1)
        return done
      else readDocument fuel a (← readSpan fuel .line done)

/-- The documents that have been announced. -/
def readDocuments : Nat → Reading Unit
  | 0 => return
  | fuel + 1 => do
    match (← get).announced with
    | [] => return
    | a :: more =>
      modify fun c => { c with announced := more }
      let size := (← get).rest.length + 1
      let parts : Word ← if a.expands then do pure (← readDocument fuel a []).reverse
        else do pure [.bare (String.ofList (← takeDocument a size []))]
      modify fun c => { c with documents := (a.number, parts) :: c.documents }
      readDocuments fuel

/-- The next token of the text, unless one has been kept. -/
def scan : Nat → Reading Token
  | 0 => return .ending
  | fuel + 1 => do
    match (← get).kept? with
    | some t =>
      modify fun c => { c with kept? := none }
      return t
    | none =>
      skipBlanks fuel
      leaveAliases
      let doubled (c : Char) : Reading Token := do
        Reading.advance
        if (← Reading.peek?) = some c then
          Reading.advance
          return .sign (String.ofList [c, c])
        else return .sign (String.ofList [c])
      match ← Reading.peek? with
      | none => return .ending
      | some '\n' =>
        Reading.advance
        return .newline
      | some '&' => doubled '&'
      | some '|' => doubled '|'
      | some ';' => doubled ';'
      | some '(' =>
        Reading.advance
        return .sign "("
      | some ')' =>
        Reading.advance
        return .sign ")"
      | some '<' => readRedirection none
      | some '>' => readRedirection none
      | some c =>
        let second? ← if c.isDigit then Reading.peekSecond? else pure none
        if second? = some '<' || second? = some '>' then
          Reading.advance
          readRedirection (some (c.toNat - '0'.toNat))
        else
          let parts := (← readSpan fuel (.word false) []).reverse
          return .word parts (Part.isQuoted parts)

/-- The next token: a word may be a reserved one, or stand for the text of an alias. -/
def readToken : Nat → Checks → Reading Token
  | 0, _ => return .ending
  | fuel + 1, checks => do
    let t ← scan fuel
    match t with
    | .newline =>
      if checks.newlines then
        readDocuments fuel
        readToken fuel checks
      else return t
    | .word [.bare text] false =>
      if checks.reserved && reservedWords.contains text then return .reserved text
      else if checks.aliases || (← get).isOpen then
        if ← entersAlias text then readToken fuel checks else return t
      else return t
    | _ => return t

/-- A redirection after its sign. -/
def readRedirect : Nat → Option Nat → String → Reading Redirect
  | 0, _, _ => Reading.fail .openBrace
  | fuel + 1, stream?, sign => do
    let stream := stream?.getD (usualStream sign)
    if sign.startsWith "<<" then
      skipBlanks fuel
      let parts := (← readSpan fuel (.word true) []).reverse
      if parts.isEmpty then Reading.unexpected (← scan fuel) none
      else
        let c ← get
        let a : Announced :=
          { number := c.fresh
            delimiter := (Part.literal parts).toList
            dropsTabs := sign = "<<-"
            expands := !Part.isQuoted parts }
        set { c with announced := c.announced ++ [a], fresh := c.fresh + 1 }
        return .mk stream (.document a.number) []
    else
      match ← readToken fuel {} with
      | .word parts _ => return .mk stream (redirectionOf sign) parts
      | t => Reading.unexpected t none

/-- The redirections after a compound command. -/
def readRedirects : Nat → List Redirect → Checks → Reading (List Redirect)
  | 0, _, _ => Reading.fail .openBrace
  | fuel + 1, done, checks => do
    match ← readToken fuel checks with
    | .redirection stream? sign =>
      let redirect ← readRedirect fuel stream? sign
      readRedirects fuel (redirect :: done) {}
    | t =>
      Reading.keep t
      return done.reverse

/-- The words, assignments and redirections of a simple command, or the definition of a
function. -/
def readSimple : Nat → Nat → List (String × Word) → List Word → List Redirect → Reading Command
  | 0, _, _, _, _ => Reading.fail .openBrace
  | fuel + 1, line, assignments, words, redirects => do
    let t ← readToken fuel { aliases := words.isEmpty }
    let finish : Reading Command := do
      Reading.keep t
      return .simple line assignments.reverse words.reverse redirects.reverse
    match t with
    | .word parts _ =>
      match (if words.isEmpty then Part.assignment? parts else none) with
      | some assignment => readSimple fuel line (assignment :: assignments) words redirects
      | none => readSimple fuel line assignments (parts :: words) redirects
    | .redirection stream? sign =>
      let redirect ← readRedirect fuel stream? sign
      readSimple fuel line assignments words (redirect :: redirects)
    | .sign "(" =>
      match words, assignments, redirects with
      | [word], [], [] =>
        let closing ← readToken fuel {}
        if !closing.isSign ")" then Reading.unexpected closing (some (Token.marked ")"))
        match word with
        | [.bare name] =>
          if isName name && !specialNames.contains name then
            return .define name (← readCommand fuel .command)
          else Reading.fail .functionName
        | _ => Reading.fail .functionName
      | _, _, _ => finish
    | _ => finish

/-- The rest of a conditional after the reserved word that opens a branch. -/
def readBranch : Nat → Reading Command
  | 0 => Reading.fail .openBrace
  | fuel + 1 => do
    let test ← readBody fuel
    readReserved fuel "then"
    let yes ← readBody fuel
    let t ← readToken fuel {}
    if t.isReserved "elif" then return .choice test yes (some (← readBranch fuel))
    else if t.isReserved "else" then return .choice test yes (some (← readBody fuel))
    else
      Reading.keep t
      return .choice test yes none

/-- A reserved word that has to stand here. -/
def readReserved : Nat → String → Reading Unit
  | 0, _ => Reading.fail .openBrace
  | fuel + 1, text => do
    let t ← readToken fuel {}
    if t.isReserved text then return
    else Reading.unexpected t (some (Token.marked text))

/-- A list of commands that has at least one, unless the text ends: then what has to follow
the list is missing, too. -/
def readBody : Nat → Reading Command
  | 0 => Reading.fail .openBrace
  | fuel + 1 => do
    match ← readList fuel false false none with
    | some body => return body
    | none => return .simple 0 [] [] []

/-- The words that a loop goes through, up to the end of their list. -/
def readWords : Nat → List Word → Reading (List Word)
  | 0, _ => Reading.fail .openBrace
  | fuel + 1, done => do
    match ← readToken fuel {} with
    | .word parts _ => readWords fuel (parts :: done)
    | .newline => return done.reverse
    | .sign ";" => return done.reverse
    | t => Reading.unexpected t none

/-- The patterns of an arm, after the first one, up to the closing parenthesis. -/
def readPatterns : Nat → List Word → Reading (List Word)
  | 0, _ => Reading.fail .openBrace
  | fuel + 1, done => do
    let t ← readToken fuel {}
    match t with
    | .sign "|" =>
      match ← readToken fuel {} with
      | .word parts _ => readPatterns fuel (parts :: done)
      | _ => readPatterns fuel done
    | .sign ")" => return done.reverse
    | t => Reading.unexpected t (some (Token.marked ")"))

/-- The arms of a selection, up to its end. -/
def readArms : Nat → List (List Word × Option Command) →
    Reading (List (List Word × Option Command))
  | 0, _ => Reading.fail .openBrace
  | fuel + 1, done => do
    let t ← readToken fuel { newlines := true, reserved := true }
    if t.isReserved "esac" then return done.reverse
    else
      let t ← if t.isSign "(" then readToken fuel {} else pure t
      let first : List Word := match t with
        | .word parts _ => [parts]
        | .reserved text => [[.bare text]]
        | _ => []
      let patterns ← readPatterns fuel first
      let body? ← readList fuel false true none
      let t ← readToken fuel { newlines := true, reserved := true }
      if t.isReserved "esac" then return ((patterns, body?) :: done).reverse
      else if t.isSign ";;" then readArms fuel ((patterns, body?) :: done)
      else Reading.unexpected t (some (Token.marked ";;"))

/-- A command that begins with a reserved word or a parenthesis, or a simple one.
Redirections behind a group that is nothing but a subshell are those of the subshell, in
the place of its own. -/
def readCommand : Nat → Checks → Reading Command
  | 0, _ => Reading.fail .openBrace
  | fuel + 1, checks => do
    let line := (← get).line
    let t ← readToken fuel checks
    let afterwards : Checks := { reserved := true, aliases := true }
    let closed (body : Command) : Reading Command := do
      match ← readRedirects fuel [] afterwards with
      | [] => return body
      | redirects =>
        match body with
        | .subshell line inner _ => return .subshell line inner redirects
        | _ => return .redirected line body redirects
    match t with
    | .reserved "if" =>
      let body ← readBranch fuel
      readReserved fuel "fi"
      closed body
    | .reserved "\x7b" =>
      let body ← readBody fuel
      readReserved fuel "\x7d"
      closed body
    | .reserved "for" =>
      let name ← match ← readToken fuel {} with
        | .word [.bare name] _ => if isName name then pure name else Reading.fail .loopVariable
        | _ => Reading.fail .loopVariable
      let t ← readToken fuel .command
      let words ← if t.isReserved "in" then readWords fuel []
        else do
          if !t.isSign ";" then Reading.keep t
          pure [[.quoted [.parameter "@" .plain]]]
      let t ← readToken fuel .command
      if !t.isReserved "do" then Reading.unexpected t (some (Token.marked "do"))
      let body ← readBody fuel
      readReserved fuel "done"
      closed (.each line name words body)
    | .reserved "case" =>
      let subject ← match ← readToken fuel {} with
        | .word parts _ => pure parts
        | t => Reading.unexpected t (some "word")
      let t ← readToken fuel .command
      if !t.isReserved "in" then Reading.unexpected t (some (Token.marked "in"))
      closed (.select line subject (← readArms fuel []))
    | .reserved text =>
      if text = "while" || text = "until" then
        let test ← readBody fuel
        readReserved fuel "do"
        let body ← readBody fuel
        readReserved fuel "done"
        closed (.loop (text = "while") test body)
      else Reading.unexpected t none
    | .sign "(" =>
      let body ← readBody fuel
      let t ← readToken fuel {}
      if !t.isSign ")" then Reading.unexpected t (some (Token.marked ")"))
      return .subshell line body (← readRedirects fuel [] afterwards)
    | .word .. =>
      Reading.keep t
      readSimple fuel (← get).line [] [] []
    | .redirection .. =>
      Reading.keep t
      readSimple fuel (← get).line [] [] []
    | _ => Reading.unexpected t none

/-- The commands of a pipeline after the first one. -/
def readPiped : Nat → List Command → Reading (List Command)
  | 0, _ => Reading.fail .openBrace
  | fuel + 1, done => do
    let t ← readToken fuel {}
    if t.isSign "|" then
      let command ← readCommand fuel .command
      readPiped fuel (command :: done)
    else
      Reading.keep t
      return done.reverse

/-- A pipeline, which may be negated. -/
def readPipeline : Nat → Checks → Reading Command
  | 0, _ => Reading.fail .openBrace
  | fuel + 1, checks => do
    let t ← readToken fuel checks
    let isNegated := t.isReserved "!"
    if !isNegated then Reading.keep t
    let first ← readCommand fuel
      (if isNegated then { reserved := true, aliases := true } else {})
    let body ← match ← readPiped fuel [first] with
      | [command] => pure command
      | commands => pure (.pipe commands false)
    return if isNegated then .negated body else body

/-- Pipelines joined by signs, of which the first one has been read. -/
def readJoined : Nat → Command → Reading Command
  | 0, _ => Reading.fail .openBrace
  | fuel + 1, first => do
    let t ← readToken fuel {}
    if t.isSign "&&" then readJoined fuel (.both first (← readPipeline fuel .command))
    else if t.isSign "||" then readJoined fuel (.either first (← readPipeline fuel .command))
    else
      Reading.keep t
      return first

/-- A list of commands: up to the end of the line, or up to a token that closes it, which
is kept.  `mayClose` tells that the list may end here. -/
def readList : Nat → Bool → Bool → Option Command → Reading (Option Command)
  | 0, _, _, _ => Reading.fail .openBrace
  | fuel + 1, isLine, mayClose, done? => do
    let t ← readToken fuel { newlines := !isLine, reserved := true, aliases := true }
    match t with
    | .newline =>
      readDocuments fuel
      return done?
    | .ending =>
      readDocuments fuel
      Reading.keep t
      return done?
    | _ =>
      Reading.keep t
      if mayClose && !isLine && t.closes then return done?
      else
        let next ← readJoined fuel (← readPipeline fuel {})
        let line := (← get).line
        let t ← readToken fuel {}
        let next : Command := if t.isSign "&" then
            match next with
            | .pipe commands _ => .pipe commands true
            | .redirected line body redirects => .background line body redirects
            | body => .background line body []
          else next
        let done : Command := match done? with
          | some before => .sequence before next
          | none => next
        match t with
        | .ending =>
          readDocuments fuel
          Reading.keep t
          return some done
        | .newline =>
          Reading.keep t
          readList fuel isLine true (some done)
        | _ =>
          if t.isSign "&" || t.isSign ";" then readList fuel isLine true (some done)
          else if isLine then Reading.unexpected t none
          else
            Reading.keep t
            return some done

end

namespace Cursor

/-- A cursor at the beginning of a text. -/
def ofText (text : String) : Cursor := { rest := text.toList }

/-- Whether the text has come to its end. -/
def atEnd (c : Cursor) : Bool := c.kept? matches some .ending

/-- The fuel for reading on from a cursor. -/
def fuel (c : Cursor) : Nat := 64 * (c.rest.length + 1000)

/-- The next complete command, unless the line is empty, and the cursor after it, which
has one more document for each that the command has. -/
def next (c : Cursor) (aliases : List (String × String)) (documents : List (Nat × Word)) :
    Except SyntaxFault (Option Command × Cursor) :=
  (readList c.fuel true false none).run
    { c with
      kept? := none
      announced := []
      documents := documents
      fresh := documents.length
      aliases := aliases }

/-- The word that a whole text is if it is read as the lines of a document. -/
def document (text : String) (aliases : List (String × String)) : Except SyntaxFault Word :=
  let c := { ofText text with aliases := aliases }
  let read := readDocument c.fuel
    { number := 0, delimiter := ['\n'], dropsTabs := false, expands := true } []
  (read.run c).map fun (parts, _) => parts.reverse

end Cursor

end TypeCoverage.Shell
