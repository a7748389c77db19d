import TypeCoverage.Shell.Ended
import TypeCoverage.Shell.Lookup
import TypeCoverage.Shell.Parameter
import TypeCoverage.Shell.Reader
import TypeCoverage.Shell.Tool

/-!
# Running shell scripts

A script is run command by command while it is read.  A command is an action on the
machine: it sets the status, and may end the function, the loop or the shell around it.
A shell in parentheses, in a pipe or in the background and a program are processes of
their own, of which only what processes share is kept; a command that is the last one of
a text takes the place of the shell.

Each function uses up fuel on its way down and in each round of a loop; a script that uses
up all of it does not end.  `isLast` tells that nothing is to be done after a command, and
`isTested` that its failure does not end the shell.
-/

namespace TypeCoverage.Shell

open Decimal
open Action (attempt finally_ say complain setStatus warn fail)

/-- The fuel for a script. -/
def scriptFuel : Nat := 100000

/-- The fuel that a round of a loop has to have. -/
def roundFuel : Nat := 1000

/-- How many functions may run inside each other. -/
def functionLimit : Nat := 1000

/-- How many texts may run inside each other. -/
def nestingLimit : Nat := 1000

/-- How long the words of a command may be; a script with longer ones counts as one that
does not end. -/
def lengthLimit : Nat := tenTo 6

/-- Writes the words of a command to where the standard error led. -/
def trace (front : String) (error? : Option Stream) (words : List String) : Action Unit := do
  match error? with
  | some (.sink sink) =>
    modify (·.emit sink (Text.held (front ++ String.intercalate " " words ++ "\n")))
  | _ => return

mutual

/-- The pieces that a word expands to. -/
def expandWord : Nat → Mode → Word → Action (List Piece)
  | 0, _, _ => throw .endless
  | fuel + 1, mode, word => do
    let parts := mode.tilde.expand (← get) word
    return (← parts.mapM fun part => expandPart fuel mode part).flatten

/-- The pieces that a part of a word expands to. -/
def expandPart : Nat → Mode → Part → Action (List Piece)
  | 0, _, _ => throw .endless
  | fuel + 1, mode, part => do
    let value (text : String) : List Piece := Piece.ofValue mode.isQuoted mode.splits text
    match part with
    | .bare text =>
      if mode.isInner then return value text else return Piece.solid mode.isQuoted text
    | .escaped text => return Piece.solid true text
    | .quoted [.parameter "@" .plain] =>
      if !mode.splits then
        return .marks :: Piece.ofValue true false (((← get).parameter? mode "@").getD "")
      else
        let texts := (← get).parameters.map fun text => .marks :: Piece.solid true text
        return List.intercalate [.cut false] texts
    | .quoted parts =>
      let mode := { mode with isQuoted := true, tilde := .nowhere }
      return .marks :: ((← expandWord fuel mode parts) ++ [.marks])
    | .parameter name expansion => expandParameter fuel mode name expansion
    | .arithmetic parts =>
      let text := Piece.text (← expandWord fuel .document parts)
      return value (← Action.calculate text)
    | .output none => return []
    | .output (some script) => return value (← capture fuel script)

/-- The pieces that a parameter expands to. -/
def expandParameter : Nat → Mode → String → Expansion → Action (List Piece)
  | 0, _, _, _ => throw .endless
  | fuel + 1, mode, name, expansion => do
    let m ← get
    let value? := m.parameter? mode name
    let pieces (text : String) : List Piece := Piece.ofValue mode.isQuoted mode.splits text
    match expansion with
    | .malformed => fail "Bad substitution"
    | .plain =>
      Action.demandSet name value?
      return (value?.map pieces).getD [.edge]
    | .length =>
      Action.demandSet name value?
      return pieces (numeral (m.lengthOf name))
    | .trim kind pattern =>
      Action.demandSet name value?
      let field := Piece.field (← expandWord fuel .pattern pattern)
      return pieces (trimmed (value?.getD "") kind field)
    | .fallback kind orEmpty word =>
      let isAbsent := value?.isNone || (orEmpty && value? = some "")
      match kind, isAbsent with
      | .use, true => expandWord fuel mode.inner word
      | .instead, false => expandWord fuel mode.inner word
      | .instead, true => return [.edge]
      | .assign, true =>
        let mode' := { mode.inner with splits := false }
        let text := Piece.text (← expandWord fuel mode' word)
        if !isName name then fail (name ++ ": bad variable name")
        Action.assign name text
        return pieces text
      | .demand, true =>
        let text := Piece.text (← expandWord fuel { mode.inner with splits := false } word)
        fail (name ++ ": " ++
          (if !word.isEmpty then text
            else if orEmpty then "parameter not set or null" else "parameter not set"))
      | _, false => return pieces (value?.getD "")

/-- The text that a word expands to. -/
def expandText : Nat → Mode → Word → Action String
  | 0, _, _ => throw .endless
  | fuel + 1, mode, word => return Piece.text (← expandWord fuel mode word)

/-- What a script writes, without the line breaks at its end. -/
def capture : Nat → Command → Action String
  | 0, _ => throw .endless
  | fuel + 1, script => do
    let m ← get
    let (id, m) := m.openBuffer
    let inner := m.fork.setStream 1 (.sink (.buffer id))
    let (flow, inner) := inner.apart (runShellBody fuel (runCommand fuel true false script))
    let after := m.after inner m.clock
    let after := after.passTo (after.releaseOf id)
    let bytes := (after.bytesOf id).filter (· ≠ 0)
    set ({ after.closeBuffer id with captured := inner.endStatus flow })
    match flow with
    | .endless => throw .endless
    | .killed n => if !Signal.isQuiet n then complain (Signal.text n)
    | _ => pure ()
    return Text.holding (bytes.reverse.dropWhile (· = 10)).reverse

/-- The texts of redirections; the words of here-documents are expanded only when they are
opened. -/
def redirectTargets : Nat → List Redirect → Action (List (Nat × Redirection × String))
  | 0, _ => throw .endless
  | fuel + 1, redirects =>
    redirects.mapM fun
      | .mk stream (.document n) _ => return (stream, .document n, "")
      | .mk stream kind word => do
        return (stream, kind, ← expandText fuel .whole word)

/-- Opens what redirections name. -/
def openAll : Nat → List (Nat × Redirection × String) → Action Unit
  | 0, _ => throw .endless
  | fuel + 1, targets =>
    targets.forM fun (stream, kind, text) => do
      let text ← match kind with
        | .document n => expandText fuel .document (((← get).documents.lookup n).getD [])
        | _ => pure text
      openStream stream kind text

/-- Opens what redirections name.  The answer tells whether that has failed, which does not
end the shell. -/
def openSafely : Nat → List (Nat × Redirection × String) → Action Bool
  | 0, _ => throw .endless
  | fuel + 1, targets => do
    match ← attempt (openAll fuel targets) with
    | .ok () => return false
    | .error .fail => return true
    | .error flow => throw flow

/-- Expands the words of a command, of which some have become texts already. -/
def expandArguments : Nat → List String → List Word → Action (List String)
  | 0, _, _ => throw .endless
  | _ + 1, done, [] => return done
  | fuel + 1, done, word :: words => do
    let m ← get
    let texts ← if m.expectsAssignments done && (Part.assignment? word).isSome then
        pure [← expandText fuel { splits := false, tilde := .assignment } word]
      else do
        let pieces ← expandWord fuel .fields word
        pure ((← get).textsOf pieces)
    expandArguments fuel (done ++ texts) words

/-- Runs a simple command. -/
def runSimple : Nat → Bool → Bool → List (String × Word) → List Word → List Redirect →
    Action Unit
  | 0, _, _, _, _, _ => throw .endless
  | fuel + 1, isLast, isTested, assignments, words, redirects => do
    modify fun m => { m with captured := 0 }
    let texts ← expandArguments fuel [] words
    if lengthLimit < total (texts.map String.length) then throw .endless
    let targets ← redirectTargets fuel redirects
    let m ← get
    let error? := m.stream? 2
    let saved := m.streamsAt (redirects.map Redirect.stream)
    let isSpecial := texts.head?.any specialNames.contains
    let i : Invocation := match texts with
      | [] => ⟨"", [], true, false⟩
      | name :: args => invocation (texts.length + 1) ⟨name, args, true, false⟩
    let isExec := i.name = "exec"
    let isLocal := !texts.isEmpty && !isSpecial
    if ← openSafely fuel targets then
      modify (·.restoreStreams saved)
      setStatus 2
      if isSpecial then throw .fail
    else
      let marks := isLocal || (isExec && 1 < texts.length)
      let run (shown : List String) : Action Unit := do
        if (← get).has 'x' then trace (← traceMark fuel) error? (shown ++ texts)
        if texts.isEmpty then setStatus (← get).captured
        else invoke fuel isLast isTested isSpecial i
      finally_ (runAssigned fuel isLocal marks [] assignments run) fun m =>
        if isExec then m else m.restoreStreams saved

/-- Runs a command after some assignments, which are undone after it if they are local to it.
The command is told how they look. -/
def runAssigned : Nat → Bool → Bool → List String → List (String × Word) →
    (List String → Action Unit) → Action Unit
  | 0, _, _, _, _, _ => throw .endless
  | _ + 1, _, _, shown, [], run => run shown
  | fuel + 1, isLocal, marks, shown, (name, word) :: assignments, run => do
    let text ← expandText fuel .value word
    if lengthLimit < text.length then throw .endless
    let old? := (← get).variable_ name
    finally_ (do
      Action.assign name text
      if marks then modify (·.mark name)
      runAssigned fuel isLocal marks (shown ++ [name ++ "=" ++ text]) assignments run)
      fun m => if isLocal then m.restoreVariable name old? else m

/-- The text in front of the words of a command that is run: the value of `PS4` is expanded,
unless that fails. -/
def traceMark : Nat → Action String
  | 0 => throw .endless
  | fuel + 1 => do
    let m ← get
    let text := (m.value? "PS4").getD ""
    set { m with options := m.options.filter (· ≠ 'x') }
    let result ← attempt do
      match Cursor.document text m.aliases with
      | .ok word => expandText fuel .document word
      | .error fault =>
        modify fun m => { m with line := fault.line }
        fail fault.cause.message
    modify fun after => { after with options := m.options, line := m.line }
    match result with
    | .ok front => return front
    | .error .fail => return text
    | .error flow => throw flow

/-- Runs the command of an invocation: a function, a part of the shell or a program. -/
def invoke : Nat → Bool → Bool → Bool → Invocation → Action Unit
  | 0, _, _, _, _ => throw .endless
  | fuel + 1, isLast, isTested, isSpecial, i => do
    let m ← get
    let function? := if i.allowsFunction then m.functions.lookup i.name else none
    match function? with
    | some body => runFunction fuel isTested i.args body
    | none =>
      if specialNames.contains i.name || Builtin.regularNames.contains i.name then
        match ← attempt (runBuiltin fuel isTested i) with
        | .ok () => return
        | .error .fail => if isSpecial then throw .fail
        | .error flow => throw flow
      else
        let searchPath := if i.isUsual then Launch.usualSearchPath else m.searchPath
        runProgram fuel (isLast && !m.hasActions) searchPath i.name i.args

/-- Runs the body of a function. -/
def runFunction : Nat → Bool → List String → Command → Action Unit
  | 0, _, _, _ => throw .endless
  | fuel + 1, isTested, args, body => do
    let m ← get
    if functionLimit ≤ m.depth then
      fail ("Maximum function recursion depth (" ++ numeral functionLimit ++ ") reached")
    set { m with
      parameters := args
      locals? := some []
      savedOptions? := none
      loops := 0
      depth := m.depth + 1
      optionIndex := 1
      optionOffset := 0 }
    let result ← attempt (runCommand fuel false isTested body)
    modify fun inner => { inner.restoreLocals with
      parameters := m.parameters
      locals? := m.locals?
      savedOptions? := m.savedOptions?
      loops := m.loops
      depth := m.depth
      optionIndex := m.optionIndex
      optionOffset := m.optionOffset }
    match result with
    | .ok () => return
    | .error .back => return
    | .error flow => throw flow

/-- Runs a command that is a part of the shell. -/
def runBuiltin : Nat → Bool → Invocation → Action Unit
  | 0, _, _ => throw .endless
  | fuel + 1, isTested, i => do
    let speaker? := (← get).speaker?
    modify fun m => { m with speaker? := some i.name, lost := false }
    finally_ (do
      match i.name, Builtin.named? i.name with
      | _, some run => run i.args
      | "eval", none =>
        let (_, words) ← Action.options "" i.args
        runText fuel false isTested false (String.intercalate " " words)
      | ".", none =>
        let (_, operands) ← Action.options "" i.args
        match operands with
        | [] => setStatus 0
        | name :: _ =>
          let file ← sourcedFile name
          let text ← scriptText file
          modify fun m => { m with speaker? := some file }
          match ← attempt (runText fuel false false true text) with
          | .ok () => return
          | .error .back => return
          | .error flow => throw flow
      | "exec", none =>
        let (_, operands) ← Action.options "" i.args
        match operands with
        | [] => setStatus 0
        | name :: args =>
          let m ← get
          match Launch.ofReplacement m.find m.searchPath name args with
          | .ok launch =>
            modify Machine.asProgram
            runLaunch fuel launch
          | .error (why, status) =>
            warn (name ++ ": " ++ Launch.words why)
            setStatus status
          throw .exit
      | _, none =>
        let (letters, operands) ← Action.options "pvV" i.args
        let path? := if Options.has letters 'p' then some Launch.usualSearchPath else none
        let isLong := Options.has letters 'V'
        match operands with
        | [] => setStatus 0
        | name :: _ =>
          if letters.all (·.1 = 'p') then setStatus 0
          else setStatus (← Builtin.describe isLong path? name)
      if (← get).lost then
        warn (i.name ++ ": I/O error")
        modify fun m => { m with status := m.status ||| 1 })
      fun m => { m with speaker? := speaker?, lost := false }

/-- Runs a program, which may take the place of the shell. -/
def runProgram : Nat → Bool → String → String → List String → Action Unit
  | 0, _, _, _, _ => throw .endless
  | fuel + 1, inPlace, searchPath, name, args => do
    let m ← get
    match Launch.ofCommand m.find searchPath name args with
    | .error (why, status) =>
      warn (name ++ ": " ++ Launch.words why)
      setStatus status
    | .ok launch =>
      if inPlace then
        modify Machine.asProgram
        runLaunch fuel launch
        throw .exit
      else
        let m := if name.toList.contains '/' || m.known.contains name then m
          else { m with known := m.known ++ [name] }
        set m
        let end_ := m.fork.asProgram.apart (runLaunch fuel launch)
        await m.clock end_

/-- Runs a launched program in a process to its end. -/
def runLaunch : Nat → Launch → Action Unit
  | 0, _ => throw .endless
  | fuel + 1, launch => do
    match launch.program with
    | .shell =>
      modify (·.asShell launch.zero)
      runShellBody fuel (runShell fuel launch.args)
    | .native path =>
      -- Nothing is known of native programs but those of the system.
      complain (path ++ ": cannot execute binary file: " ++ Launch.words .noFormat)
      setStatus (Launch.statusOf .noFormat)
    | .plain path =>
      modify (·.asShell "/bin/sh")
      runShellBody fuel (runShell fuel (path :: launch.args))
    | .tool name =>
      match Tool.named? name with
      | some run => run launch.zero launch.args
      | none =>
        match name with
        | "timeout" => runTimeout fuel launch.zero launch.args
        | "nohup" =>
          if launch.args.isEmpty then Tool.misuse launch.zero "missing operand" 125
          else runIn fuel launch.zero (launch.zero ++ ": failed to run command ") launch.args
        | _ => runEnv fuel launch.zero launch.args
      if (← get).lost then
        complain (launch.zero ++ ": write error: Bad file descriptor")
        setStatus 1

/-- Runs a program in the place of another one. -/
def runIn : Nat → String → String → List String → Action Unit
  | 0, _, _, _ => throw .endless
  | fuel + 1, zero, front, words => do
    let name := words.headD ""
    let m ← get
    let searchPath := (m.value? "PATH").getD Launch.spareSearchPath
    match Launch.ofName m.find searchPath name (words.drop 1) with
    | .ok launch => runLaunch fuel launch
    | .error why =>
      complain (front ++ Tool.marked name ++ ": "
        ++ (if why = .missing then "No such file or directory"
          else if why = .notDirectory then "Not a directory" else Launch.words why))
      setStatus (if Launch.statusOf why = 126 then 126 else 127)
      let _ := zero
      throw .exit

/-- Runs a program in a changed environment, or lists the environment. -/
def runEnv : Nat → String → List String → Action Unit
  | 0, _, _ => throw .endless
  | fuel + 1, zero, args => do
    let (letters, operands) ← match Options.readFront "i0u:C:".toList (args.length + 1)
        (args.map fun a => if a = "--ignore-environment" then "-i" else a) with
      | .ok parsed => pure parsed
      | .error fault => Tool.misuse zero (match fault, args with
          | .unknown '-', a :: _ => (Options.Fault.unknownWord a).complaint
          | _, _ => fault.complaint) 125
    let isBare := Options.has letters 'i' || operands.head? = some "-"
    let operands := if operands.head? = some "-" then operands.drop 1 else operands
    let settings := operands.takeWhile (·.toList.contains '=')
    if isBare then modify fun m => { m with variables_ := [] }
    (letters.filter (·.1 = 'u')).forM fun (_, name) => modify (·.removeVariable name)
    settings.forM fun setting =>
      let (name, value?) := Builtin.assignmentOf setting
      modify fun m => (m.assign name (value?.getD "")).mark name
    match operands.drop settings.length with
    | [] =>
      let m ← get
      say (String.join (m.environment.map fun (name, value) => name ++ "=" ++ value ++ "\n"))
      setStatus 0
    | words => runIn fuel zero (zero ++ ": ") words

/-- Runs a program for some time at most. -/
def runTimeout : Nat → String → List String → Action Unit
  | 0, _, _ => throw .endless
  | fuel + 1, zero, args => do
    let (letters, operands) ← match Options.read "s:k:" args with
      | .ok parsed => pure parsed
      | .error fault => Tool.misuse zero fault.complaint 125
    match operands with
    | limit :: name :: words =>
      setStatus 0
      let limit? ← Tool.duration zero limit
      if (← get).status ≠ 0 then
        Tool.hint zero
        setStatus 125
        throw .exit
      let m ← get
      let front := zero ++ ": failed to run command "
      let (flow, inner) := m.fork.apart (runIn fuel zero front (name :: words))
      let signal := ((Options.value? letters 's').bind (Signal.number? 1)).getD Signal.terminate
      match limit? with
      | some limit =>
        if limit = 0 || inner.clock ≤ m.clock + limit then await m.clock (flow, inner)
        else
          set ((m.beside (inner.recorded m.pid m.clock)).passTo (m.clock + limit))
          let m ← get
          let running := m.lifetimes.filter fun l => inner.pid ≤ l.pid && m.clock < l.ends
          running.forM fun l => modify (·.send l.pid signal)
          if signal = Signal.kill then throw (.killed signal)
          setStatus 124
      | none => await m.clock (flow, inner)
    | _ =>
      Tool.hint zero
      setStatus 125

/-- Runs a shell on its arguments. -/
def runShell : Nat → List String → Action Unit
  | 0, _ => throw .endless
  | fuel + 1, args => do
    let (operands, _) ← Builtin.putOptions true (args.length + 1) args
    let m ← get
    let isText := m.has 'c'
    set { m with options := m.options.filter (· ≠ 'c') }
    let readsInput := m.has 's'
    let runInput : Action Unit := do
      match (← get).takeInput? with
      | some (bytes, m) =>
        set m
        runText fuel false false true (Text.holding bytes)
      | none => setStatus 0
    if isText then
      match operands with
      | [] => fail "-c requires an argument"
      | text :: rest =>
        modify fun m => { m with zero := rest.headD m.zero, parameters := rest.drop 1 }
        runText fuel (!readsInput) false false text
        if readsInput then runInput
    else match operands, readsInput with
      | file :: rest, false =>
        let text ← scriptText file
        modify fun m => { m with zero := file, parameters := rest }
        runText fuel false false true text
      | _, _ =>
        modify fun m => { m with parameters := operands }
        runInput

/-- Runs the text of a script from its beginning. -/
def runText : Nat → Bool → Bool → Bool → String → Action Unit
  | 0, _, _, _, _ => throw .endless
  | fuel + 1, isLast, isTested, isFile, text => do
    let nesting := (← get).nesting
    if nestingLimit < nesting then throw (.killed 11)
    modify fun m => { m with nesting := nesting + 1 }
    finally_ (runFrom fuel isLast isTested isFile false (.ofText text))
      fun m => { m with nesting := nesting }

/-- Runs the text of a script from a cursor on; `hasRun` tells that a command has been run
already. -/
def runFrom : Nat → Bool → Bool → Bool → Bool → Cursor → Action Unit
  | 0, _, _, _, _, _ => throw .endless
  | fuel + 1, isLast, isTested, isFile, hasRun, cursor => do
    let m ← get
    match cursor.next m.aliases m.documents with
    | .error fault =>
      modify fun m => { m with line := fault.line }
      fail fault.cause.message
    | .ok (command?, next) =>
      modify fun m => { m with documents := next.documents, reached := next.line }
      if isFile && m.has 'v' then
        let length := cursor.rest.length - next.rest.length
        modify (·.printError (Text.held (String.ofList (cursor.rest.take length))))
      let hasRun ← match command? with
        | none => pure hasRun
        | some command =>
          if m.has 'n' then pure hasRun
          else do
            runCommand fuel (isLast && next.atEnd) isTested command
            pure true
      if !next.atEnd then runFrom fuel isLast isTested isFile hasRun next
      else if !hasRun then setStatus 0

/-- Runs a shell to its end, with the action for it. -/
def runShellBody : Nat → Action Unit → Action Unit
  | 0, _ => throw .endless
  | fuel + 1, body => do
    match ← attempt body with
    | .error .endless => throw .endless
    | .error (.killed n) => throw (.killed n)
    | _ =>
      let m ← get
      match m.traps.lookup 0 with
      | none => throw .exit
      | some action =>
        set { m with
          traps := m.traps.filter (·.1 ≠ 0)
          statusBefore? := some m.status
          loops := 0 }
        match ← attempt (runText fuel false false false action) with
        | .error .exit => throw .exit
        | .error .fail => throw .exit
        | .error .endless => throw .endless
        | .error (.killed n) => throw (.killed n)
        | _ =>
          setStatus m.status
          throw .exit

/-- Does what is to be done about the signals that have come. -/
def heed : Nat → Action Unit
  | 0 => throw .endless
  | fuel + 1 => do
    let m ← get
    match m.due m.clock with
    | [] => return
    | s :: _ =>
      set { m with sendings := m.sendings.filter fun other =>
        !(other.pid = s.pid && other.signal = s.signal && other.time ≤ m.clock) }
      match (if s.signal = Signal.kill then none else m.traps.lookup s.signal) with
      | none =>
        if s.signal = Signal.stop then throw .endless
        else if !Signal.isHarmless s.signal then
          modify fun m => { m with clock := s.time }
          throw (.killed s.signal)
      | some action =>
        if !action.isEmpty then
          let before? := m.statusBefore?
          modify fun m => { m with statusBefore? := some (before?.getD m.status) }
          runText fuel false false false action
          modify fun m' => { m' with status := m.status, statusBefore? := before? }
      heed fuel

/-- Runs a command. -/
def runCommand : Nat → Bool → Bool → Command → Action Unit
  | 0, _, _, _ => throw .endless
  | fuel + 1, isLast, isTested, command => do
    let m ← get
    if commandLimit < m.commands then throw .endless
    if m.has 'n' then return ← heed fuel
    set { m with commands := m.commands + 1 }
    let isChecked ← match command with
      | .simple line assignments words redirects =>
        modify fun m => { m with line := line }
        runSimple fuel isLast isTested assignments words redirects
        pure true
      | .subshell line body redirects =>
        modify fun m => { m with line := line }
        runSubshell fuel isLast isTested body redirects
        pure true
      | .pipe commands false =>
        let start := (← get).clock
        let ends ← runPiped fuel start isTested false none commands
        let finish := (ends.filter (·.flow ≠ .endless)).foldl (fun t e => max t e.clock) start
        let endless := (ends.filter (·.flow = .endless)).map (·.pid)
        modify fun m => { m.passTo finish with
          lifetimes := m.lifetimes.map fun l =>
            if endless.contains l.pid then { l with ends := min l.ends finish } else l }
        ends.forM fun e => if e.flow = .endless then pure () else conclude e
        match ends.getLast? with
        | some e => if e.flow = .endless then throw .endless
        | none => pure ()
        pure true
      | .pipe commands true =>
        let m ← get
        let ends ← runPiped fuel m.clock isTested true none commands
        let world := (← get).toWorld
        let finish := ends.foldl (fun t e => max t e.clock) m.clock
        set (m.beside world)
        match ends.getLast? with
        | some e => modify (·.withJob { e with clock := finish })
        | none => pure ()
        pure true
      | .background line body redirects =>
        let m := { (← get) with line := line }
        let (flow, inner) := m.background.apart (runShellBody fuel (do
          openAll fuel (← redirectTargets fuel redirects)
          runCommand fuel true false body))
        set ((m.beside (inner.recorded m.pid m.clock)).withJob (inner.ended flow))
        pure true
      | .redirected line body redirects =>
        modify fun m => { m with line := line }
        let targets ← redirectTargets fuel redirects
        let saved := (← get).streamsAt (redirects.map Redirect.stream)
        finally_ (do
          if ← openSafely fuel targets then setStatus 2
          else runCommand fuel false isTested body) (·.restoreStreams saved)
        pure false
      | .negated body =>
        runCommand fuel false true body
        modify fun m => { m with status := if m.status = 0 then 1 else 0 }
        pure false
      | .both first second =>
        runCommand fuel false true first
        if (← get).status = 0 then runCommand fuel isLast isTested second
        pure false
      | .either first second =>
        runCommand fuel false true first
        if (← get).status ≠ 0 then runCommand fuel isLast isTested second
        pure false
      | .sequence first second =>
        runCommand fuel false isTested first
        runCommand fuel isLast isTested second
        pure false
      | .choice test yes no? =>
        runCommand fuel false true test
        if (← get).status = 0 then runCommand fuel isLast isTested yes
        else
          match no? with
          | some no => runCommand fuel isLast isTested no
          | none => setStatus 0
        pure false
      | .loop whileTrue test body =>
        let loops := (← get).loops
        modify fun m => { m with loops := loops + 1 }
        finally_ (runLoop fuel isTested whileTrue test body 0) fun m => { m with loops := loops }
        pure false
      | .each line name words body =>
        modify fun m => { m with line := line }
        let texts := (← words.mapM fun word => do
          let pieces ← expandWord fuel .fields word
          return (← get).textsOf pieces).flatten
        let loops := (← get).loops
        modify fun m => { m with loops := loops + 1 }
        if texts.isEmpty then setStatus 0
        finally_ (runEach fuel isTested name texts body) fun m => { m with loops := loops }
        pure false
      | .select line subject arms =>
        modify fun m => { m with line := line }
        let text ← expandText fuel .whole subject
        runArms fuel isLast isTested text arms
        pure false
      | .define name body =>
        modify fun m => { m with
          functions := (name, body) :: m.functions.filter (·.1 ≠ name)
          status := 0 }
        pure false
    heed fuel
    let m ← get
    if isChecked && !isTested && m.has 'e' && m.status ≠ 0 then throw .exit

/-- Runs a body in a shell inside this one, or in its place. -/
def runSubshell : Nat → Bool → Bool → Command → List Redirect → Action Unit
  | 0, _, _, _, _ => throw .endless
  | fuel + 1, isLast, isTested, body, redirects => do
    let m ← get
    let run : Action Unit := do
      openAll fuel (← redirectTargets fuel redirects)
      runCommand fuel true isTested body
    if isLast && !m.hasActions then
      run
      throw .exit
    else await m.clock (m.fork.apart (runShellBody fuel run))

/-- Runs commands of which each reads what the one before it writes; all of them begin at one
moment.  The answer tells how they end. -/
def runPiped : Nat → Nat → Bool → Bool → Option Source → List Command → Action (List Ended)
  | 0, _, _, _, _, _ => throw .endless
  | _ + 1, _, _, _, _, [] => return []
  | fuel + 1, start, isTested, isBackground, input?, command :: commands => do
    let m ← get
    let (id, m) := if commands.isEmpty then (0, m) else m.openBuffer
    let inner := match input? with
      | some s => m.fork.withSource 0 s
      | none => if isBackground then m.background else m.fork
    let inner := if commands.isEmpty then inner else inner.setStream 1 (.sink (.buffer id))
    let (flow, inner) := inner.apart (runShellBody fuel (runCommand fuel true isTested command))
    let after := { m.after inner start with clock := start }
    if commands.isEmpty then
      set after
      return [inner.ended flow]
    else
      let source := after.sourceOf id
      set (after.closeBuffer id)
      let more ← runPiped fuel start isTested isBackground (some source) commands
      return inner.ended flow :: more

/-- Runs a loop; `status` is that of the round before. -/
def runLoop : Nat → Bool → Bool → Command → Command → Nat → Action Unit
  | 0, _, _, _, _, _ => throw .endless
  | fuel + 1, isTested, whileTrue, test, body, status => do
    if timeLimit < (← get).clock || fuel < roundFuel then throw .endless
    match ← attempt (runCommand fuel false true test) with
    | .ok () =>
      if ((← get).status = 0) = whileTrue then
        match ← attempt (runCommand fuel false isTested body) with
        | .ok () => runLoop fuel isTested whileTrue test body (← get).status
        | .error (.again 1) => runLoop fuel isTested whileTrue test body (← get).status
        | .error (.leave 1) => return
        | .error (.again (n + 1)) => throw (.again n)
        | .error (.leave (n + 1)) => throw (.leave n)
        | .error flow => throw flow
      else setStatus status
    | .error (.again 1) => runLoop fuel isTested whileTrue test body status
    | .error (.leave 1) => setStatus status
    | .error (.again (n + 1)) => throw (.again n)
    | .error (.leave (n + 1)) => throw (.leave n)
    | .error flow => throw flow

/-- Runs a body for each of some texts. -/
def runEach : Nat → Bool → String → List String → Command → Action Unit
  | 0, _, _, _, _ => throw .endless
  | _ + 1, _, _, [], _ => return
  | fuel + 1, isTested, name, text :: texts, body => do
    Action.assign name text
    match ← attempt (runCommand fuel false isTested body) with
    | .ok () => runEach fuel isTested name texts body
    | .error (.again 1) => runEach fuel isTested name texts body
    | .error (.leave 1) => return
    | .error (.again (n + 1)) => throw (.again n)
    | .error (.leave (n + 1)) => throw (.leave n)
    | .error flow => throw flow

/-- Runs the first arm with a pattern that matches. -/
def runArms : Nat → Bool → Bool → String → List (List Word × Option Command) → Action Unit
  | 0, _, _, _, _ => throw .endless
  | _ + 1, _, _, _, [] => setStatus 0
  | fuel + 1, isLast, isTested, subject, (patterns, body?) :: arms => do
    let isFound ← patterns.anyM fun pattern => do
      return isArm subject (Piece.field (← expandWord fuel .pattern pattern))
    if !isFound then runArms fuel isLast isTested subject arms
    else
      match body? with
      | some body => runCommand fuel isLast isTested body
      | none => setStatus 0

end

end TypeCoverage.Shell
