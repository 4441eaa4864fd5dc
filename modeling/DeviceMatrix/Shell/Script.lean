import DeviceMatrix.Shell.Command

/-! Shell scripts read as commands: simple commands with assignments and redirections, loops, the
choice by pattern, conditions, groups, functions, and commands joined by pipes, `&&` and `||`.
A script is read line by line: `Script.next` takes the commands of a line, and more lines where
a command goes on. -/
namespace DeviceMatrix.Shell

structure SyntaxError where
  line : Nat
  text : String
  deriving DecidableEq, Repr

inductive Arrow where
  | file (opening : Opening)
  | duplicate
  | document (stripped : Bool)
  deriving DecidableEq, Repr

inductive Token where
  | word (word : Word)
  | arrow (arrow : Arrow) (descriptor : Nat)
  | newline
  | semicolon
  | armEnd
  | both
  | either
  | bar
  | ampersand
  | openBracket
  | closeBracket
  | ending

/-- Words that stand for others at the start of a command. -/
abbrev Aliases := List (String × List Char)

/-- How far a script has been read. -/
structure Cursor where
  rest : List Char
  line : Nat := 1
  /-- Lines behind this one that have been read as here documents. -/
  taken : Nat := 0
  held : Option Token := none
  aliases : Aliases := []
  /-- Aliases that are under way, and how much of the script stands behind them. -/
  busy : List (String × Nat) := []

abbrev Reader := StateT Cursor (Except SyntaxError)

namespace Script

/-- What ends a stretch of a word. -/
inductive Closing where
  /-- A character that words do not hold. -/
  | blank
  | brace
  | quote
  | brackets
  | nothing
  deriving DecidableEq, Repr

structure Setting where
  closing : Closing
  /-- Between double quotes, or as if it were. -/
  double : Bool := false
  braced : Bool := false
  document : Bool := false
  /-- Nothing is replaced. -/
  exact : Bool := false

def fail {α : Type} (text : String) : Reader α := do throw ⟨(← get).line, text⟩

def hold (token : Token) : Reader Unit := modify ({ · with held := some token })

def rawNext? : Reader (Option Char) := do
  let cursor ← get
  match cursor.rest with
  | [] => return none
  | c :: rest =>
    if c = '\n' then
      set { cursor with rest, line := cursor.line + 1 + cursor.taken, taken := 0 }
    else set { cursor with rest }
    return some c

/-- Leaves out a character that belongs to nothing; a line end there is not counted. -/
def skip : Reader Unit := modify fun cursor => { cursor with rest := cursor.rest.tail }

/-- A text less the line ends behind a backslash in front of it, and how many there were. -/
def skipJoints : List Char → List Char × Nat
  | '\\' :: '\n' :: rest =>
    let (rest, count) := skipJoints rest
    (rest, count + 1)
  | rest => (rest, 0)

def peek? : Reader (Option Char) := do
  let cursor ← get
  match cursor.rest with
  | '\\' :: '\n' :: _ =>
    let (rest, count) := skipJoints cursor.rest
    set { cursor with rest, line := cursor.line + count }
    return rest.head?
  | rest => return rest.head?

def next? : Reader (Option Char) := do
  let _ ← peek?
  rawNext?

def takes (c : Char) : Reader Bool := do
  if (← peek?) = some c then
    let _ ← rawNext?
    return true
  else return false

/-- The characters of a kind in front of a text, what follows, and the lines joined there. -/
def span (kind : Char → Bool) : List Char → List Char × List Char × Nat
  | '\\' :: '\n' :: rest =>
    let (taken, rest, count) := span kind rest
    (taken, rest, count + 1)
  | c :: rest =>
    if kind c then
      let (taken, rest, count) := span kind rest
      (c :: taken, rest, count)
    else ([], c :: rest, 0)
  | [] => ([], [], 0)

def takeWhile (kind : Char → Bool) : Reader (List Char) := do
  let cursor ← get
  let (taken, rest, count) := span kind cursor.rest
  set { cursor with rest, line := cursor.line + count }
  return taken

def isBreak (c : Char) : Bool :=
  isSpacing c || c == ';' || c == '&' || c == '|' || c == '<' || c == '>' || c == '(' || c == ')'

def isSpecial (c : Char) : Bool := ['@', '*', '#', '?', '$', '!', '-'].contains c

def special (c : Char) : Parameter :=
  match c with
  | '@' => .arguments
  | '*' => .joined
  | '#' => .count
  | '?' => .status
  | '$' => .process
  | '!' => .background
  | _ => .options

/-- Characters behind which a backslash between double quotes is not kept. -/
def isActive (setting : Setting) (c : Char) : Bool :=
  c == '\\' || c == '\x60' || c == '$' ||
    (c == '"' && !(setting.document && !setting.braced)) || (c == '}' && setting.braced)

def unclosed {α : Type} (setting : Setting) : Reader α :=
  if setting.closing = .brackets then fail "Missing '))'"
  else if setting.double && !setting.document then fail "Unterminated quoted string"
  else fail "Missing '\x7d'"

def takeQuote (setting : Setting) : Reader (List Char) := do
  let cursor ← get
  let text := cursor.rest.takeWhile (· ≠ '\x27')
  let lines := text.count '\n'
  let line := if lines = 0 then cursor.line else cursor.line + lines + cursor.taken
  let taken := if lines = 0 then cursor.taken else 0
  match cursor.rest.drop text.length with
  | [] =>
    set { cursor with rest := [], line, taken }
    if setting.document then unclosed setting else fail "Unterminated quoted string"
  | _ :: rest =>
    set { cursor with rest, line, taken }
    return text

/-- The script up to a backtick, in reverse, what follows, and the lines gone through. -/
def ticked (double : Bool) : List Char → (done : List Char) → (lines : Nat) →
    List Char × Option (List Char) × Nat
  | [], done, lines => (done, none, lines)
  | '\\' :: c :: rest, done, lines =>
    if c = '\n' then ticked double rest done (lines + 1)
    else if c = '\\' ∨ c = '\x60' ∨ c = '$' ∨ (double ∧ c = '"') then
      ticked double rest (c :: done) lines
    else ticked double rest (c :: '\\' :: done) lines
  | c :: rest, done, lines =>
    if c = '\x60' then (done, some rest, lines)
    else ticked double rest (c :: done) (if c = '\n' then lines + 1 else lines)

def takeTicked (double : Bool) : Reader (List Char) := do
  let cursor ← get
  let (done, rest, lines) := ticked double cursor.rest [] 0
  set { cursor with rest := rest.getD [], line := cursor.line + lines }
  if rest.isNone then fail "EOF in backquote substitution"
  return done.reverse

abbrev Use := Word → Form

/-- What the sign behind the name of a parameter asks for, and whether a pattern follows it. A
sign that asks for nothing is left out. -/
def use? : Reader (Option (Use × Bool)) := do
  let orEmpty ← takes ':'
  let taken (use : Use) : Reader (Option (Use × Bool)) := do
    let _ ← rawNext?
    return some (use, false)
  let trimmed (sign : Char) (back : Bool) : Reader (Option (Use × Bool)) := do
    let _ ← rawNext?
    let longest ← takes sign
    return some (.trimmed back longest, true)
  match ← peek?, orEmpty with
  | some '-', _ => taken (.fallback orEmpty false)
  | some '=', _ => taken (.fallback orEmpty true)
  | some '+', _ => taken (.instead orEmpty)
  | some '?', _ => taken (.required orEmpty)
  | some '%', false => trimmed '%' true
  | some '#', false => trimmed '#' false
  | some '}', false => return some (fun _ => .value, false)
  | some '}', true => taken .extended
  | _, _ =>
    skip
    return none

def plainName (c : Char) : Reader Parameter := do
  if c.isDigit then return .position (Decimal.value (← takeWhile Char.isDigit))
  else return .named (String.ofList (← takeWhile isNameChar))

def bracedName? : Reader (Option (Parameter × Bool)) := do
  match ← peek? with
  | none => return none
  | some c =>
    if isNameStart c || c.isDigit then return some (← plainName c, false)
    if c = '}' then return none
    skip
    if c = '#' then
      match ← peek? with
      | some d =>
        if isNameStart d || d.isDigit then return some (← plainName d, true)
        if isSpecial d then
          let before ← get
          let _ ← rawNext?
          if (← peek?) = some '}' then return some (special d, true)
          set before
        return some (.count, false)
      | none => return some (.count, false)
    return if isSpecial c then some (special c, false) else none

/-- The lines up to one that is the mark, and what follows, with the number of lines taken. Tabs
in front of lines go where `stripped` is set. Where a backslash joins lines, the mark is not
looked for in the second. -/
def document (stripped raw : Bool) (mark : List Char) :
    Nat → (joined : Bool) → List Char → List (List Char) × List Char × Nat
  | 0, _, s => ([], s, 0)
  | _, _, [] => ([], [], 0)
  | fuel + 1, joined, s =>
    let line := s.takeWhile (· ≠ '\n')
    let rest := s.drop line.length
    let line := if stripped && !joined then line.dropWhile (· = '\t') else line
    if line = mark ∧ !joined then ([], rest.tail, 1)
    else
      let joins := !raw && (line.reverse.takeWhile (· = '\\')).length % 2 = 1
      let (lines, left, count) := document stripped raw mark fuel joins rest.tail
      ((if rest.isEmpty then line else line ++ ['\n']) :: lines, left, count + 1)

def takeDocument (stripped raw : Bool) (mark : List Char) : Reader (List Char) := do
  let cursor ← get
  let line := cursor.rest.takeWhile (· ≠ '\n')
  let below := (cursor.rest.drop line.length).tail
  let (lines, left, count) := document stripped raw mark (below.length + 1) false below
  set { cursor with rest := line ++ '\n' :: left, taken := cursor.taken + count }
  return lines.flatten

def reserved : List String :=
  ["!", "case", "do", "done", "elif", "else", "esac", "fi", "for", "if", "in", "then", "until",
    "while", "\x7b", "\x7d"]

def isClosing (word : String) : Bool :=
  ["do", "done", "elif", "else", "esac", "fi", "then", "\x7d"].contains word

def keyword? : Token → Option String
  | .word word => (Word.bare? word).bind fun text =>
    let text := String.ofList text
    if reserved.contains text then some text else none
  | _ => none

def closes : Token → Bool
  | .closeBracket | .armEnd => true
  | token => (keyword? token).any isClosing

def called : Token → String
  | .word _ => "word"
  | .arrow _ _ => "redirection"
  | .newline => "newline"
  | .semicolon => "\";\""
  | .armEnd => "\";;\""
  | .both => "\"&&\""
  | .either => "\"||\""
  | .bar => "\"|\""
  | .ampersand => "\"&\""
  | .openBracket => "\"(\""
  | .closeBracket => "\")\""
  | .ending => "end of file"

def calledFirst (token : Token) : String :=
  match keyword? token with
  | some word => "\"" ++ word ++ "\""
  | none => called token

def misplaced {α : Type} (token : Token) : Reader α := fail (calledFirst token ++ " unexpected")

def expected {α : Type} (what found : String) : Reader α :=
  fail (found ++ " unexpected (expecting " ++ what ++ ")")

/-- Commands whose name a function cannot have. -/
def isSpecialCommand (name : String) : Bool :=
  [".", ":", "break", "continue", "eval", "exec", "exit", "export", "readonly", "return", "set",
    "shift", "times", "trap", "unset"].contains name

def substitute (word : Word) : Reader Bool := do
  let cursor ← get
  if cursor.aliases.isEmpty then return false
  match Word.bare? word with
  | none => return false
  | some text =>
    let name := String.ofList text
    let left := cursor.rest.length
    let busy := cursor.busy.filter (·.2 ≤ left)
    match cursor.aliases.lookup name with
    | none => return false
    | some value =>
      if reserved.contains name || busy.any (·.1 = name) then return false
      set { cursor with rest := value ++ cursor.rest, busy := (name, left) :: busy }
      return true

/-- A simple command under way; its words stand in reverse. -/
structure Simple where
  assignments : List Word := []
  words : List Word := []
  redirects : List Redirect := []

def Simple.command (read : Simple) (line : Nat) : Command :=
  .simple line read.assignments.reverse read.words.reverse read.redirects.reverse

/-- The words that a loop goes through that names none. -/
def allArguments : List Word := [[.parameter .arguments .value true]]

def addQuoted (inner : Word) (done : List Part) : List Part :=
  match inner with
  | [.parameter .arguments .value _] => inner ++ done
  | _ => inner.foldl (fun done part => match part with
    | .plain text | .quoted text => text.foldl (fun done c => Word.add true c done) done
    | part => part :: done) (Word.mark done)

def takeArrow : Reader Arrow := do
  if ← takes '>' then
    if ← takes '>' then return .file .appending
    if ← takes '|' then return .file .overwriting
    if ← takes '&' then return .duplicate
    return .file .writing
  let _ ← rawNext?
  if ← takes '<' then return .document (← takes '-')
  if ← takes '&' then return .duplicate
  if ← takes '>' then return .file .both
  return .file .reading

def descriptor? : Word → Option (Option Nat)
  | [] => some none
  | [.plain [c]] => if c.isDigit then some (some (Decimal.digitValue c)) else none
  | _ => none

def Arrow.descriptor (first : Option Char) : Nat := if first = some '>' then 1 else 0

mutual

/-- A stretch of a word; `depth` counts open brackets in an expression, and `done` is what has
been read, in reverse. -/
def parts : Nat → Setting → (depth : Nat) → (done : List Part) → Reader Word
  | 0, setting, _, _ => unclosed setting
  | fuel + 1, setting, depth, done => do
    match ← peek? with
    | none =>
      if setting.closing = .blank ∨ setting.closing = .nothing then return Word.finish done
      else unclosed setting
    | some c =>
      if setting.closing = .blank && isBreak c then return Word.finish done
      let _ ← rawNext?
      let inExpression : Bool := setting.closing = .brackets
      if c = '\\' then
        match ← rawNext? with
        | none => parts fuel setting depth (Word.add true '\\' done)
        | some d =>
          let kept := (setting.double || inExpression) && !isActive setting d
          parts fuel setting depth
            (Word.add true d (if kept then Word.add true '\\' done else done))
      else if c = '\x27' && !setting.double && !inExpression then
        let text ← takeQuote setting
        parts fuel setting depth
          (text.foldl (fun done c => Word.add (!setting.document) c done) (Word.mark done))
      else if c = '"' && setting.closing = .quote then return Word.finish done
      else if c = '"' && !inExpression && !(setting.document && !setting.braced) then
        let inner ← parts fuel { setting with closing := .quote, double := true } 0 []
        parts fuel setting depth (addQuoted inner done)
      else if c = '}' && setting.closing = .brace then return Word.finish done
      else if c = '$' && !setting.exact then
        match ← dollar fuel setting with
        | some (.parameter which (.extended word) quoted) =>
          let _ ← parts fuel setting depth []
          return Word.finish (.parameter which (.extended word) quoted :: done)
        | some part => parts fuel setting depth (part :: done)
        | none => parts fuel setting depth (Word.add setting.double c done)
      else if c = '\x60' && !setting.exact then
        let text ← takeTicked (setting.double || inExpression)
        let outer ← get
        set ({ rest := text, aliases := outer.aliases } : Cursor)
        let commands ← list fuel false true
        set outer
        parts fuel setting depth (.printed commands setting.double :: done)
      else if c = '(' && inExpression then
        parts fuel setting (depth + 1) (Word.add setting.double c done)
      else if c = ')' && inExpression then
        if depth = 0 then
          if ← takes ')' then return Word.finish done
          else parts fuel setting depth (Word.add setting.double c done)
        else parts fuel setting (depth - 1) (Word.add setting.double c done)
      else parts fuel setting depth (Word.add setting.double c done)

/-- What a dollar sign and the text behind it stand for; before anything else it stands for
itself. -/
def dollar : Nat → Setting → Reader (Option Part)
  | 0, _ => return none
  | fuel + 1, setting => do
    let inner (trimming : Bool) : Setting :=
      { closing := .brace, braced := true, document := setting.document
        double := !trimming && (setting.double || setting.closing = .brackets) }
    match ← peek? with
    | none => return none
    | some '(' =>
      let _ ← rawNext?
      if ← takes '(' then
        let expression ← parts fuel { closing := .brackets, document := setting.document } 0 []
        return some (.arithmetic expression setting.double)
      else
        let commands ← list fuel false true
        match ← token fuel with
        | .closeBracket => return some (.printed commands setting.double)
        | other => expected "\")\"" (calledFirst other)
    | some '\x7b' =>
      let _ ← rawNext?
      match ← bracedName? with
      | none =>
        let _ ← parts fuel (inner false) 0 []
        return some .unreadable
      | some (which, true) =>
        if ← takes '}' then return some (.parameter which .size setting.double)
        let _ ← parts fuel (inner false) 0 []
        return some .unreadable
      | some (which, false) =>
        match ← use? with
        | none =>
          let _ ← parts fuel (inner false) 0 []
          return some .unreadable
        | some (use, trimming) =>
          let word ← parts fuel (inner trimming) 0 []
          return some (.parameter which (use word) setting.double)
    | some c =>
      if isNameStart c then
        let name ← takeWhile isNameChar
        return some (.parameter (.named (String.ofList name)) .value setting.double)
      else if c.isDigit then
        let _ ← rawNext?
        return some (.parameter (.position (Decimal.digitValue c)) .value setting.double)
      else if isSpecial c then
        let _ ← rawNext?
        return some (.parameter (special c) .value setting.double)
      else return none

def token : Nat → Reader Token
  | 0 => return .ending
  | fuel + 1 => do
    if let some held := (← get).held then
      modify ({ · with held := none })
      return held
    match ← peek? with
    | none => return .ending
    | some c =>
      let sign (one : Token) : Reader Token := do
        let _ ← rawNext?
        return one
      let doubled (one two : Token) : Reader Token := do
        let _ ← rawNext?
        return if ← takes c then two else one
      match c with
      | ' ' | '\t' => do
        let _ ← rawNext?
        token fuel
      | '#' => do
        modify fun cursor => { cursor with rest := cursor.rest.dropWhile (· ≠ '\n') }
        token fuel
      | '\n' => sign .newline
      | ';' => doubled .semicolon .armEnd
      | '&' => doubled .ampersand .both
      | '|' => doubled .bar .either
      | '(' => sign .openBracket
      | ')' => sign .closeBracket
      | _ => do
        let word ← parts fuel { closing := .blank } 0 []
        let behind ← peek?
        if behind = some '<' ∨ behind = some '>' then
          match descriptor? word with
          | some descriptor =>
            return .arrow (← takeArrow) (descriptor.getD (Arrow.descriptor behind))
          | none => return .word word
        else return .word word

def tokenBelow : Nat → Reader Token
  | 0 => return .ending
  | fuel + 1 => do
    match ← token fuel with
    | .newline => tokenBelow fuel
    | other => return other

/-- The next token where a command may begin, so that aliases stand for their texts. -/
def first : Nat → (below : Bool) → Reader Token
  | 0, _ => return .ending
  | fuel + 1, below => do
    match ← if below then tokenBelow fuel else token fuel with
    | .word word => if ← substitute word then first fuel below else return .word word
    | other => return other

/-- The commands up to a token that closes them or, on a line of its own, to the end of the
line. Unless there may be none, there is at least one. -/
def list : Nat → (single mayBeNone : Bool) → Reader (List Command)
  | 0, _, _ => return []
  | fuel + 1, single, mayBeNone => do
    match ← first fuel (!single) with
    | .newline => return []
    | .ending =>
      hold .ending
      return []
    | start =>
      hold start
      if !single && mayBeNone && closes start then return []
      let command ← joined fuel
      let line := (← get).line
      match ← token fuel with
      | .ending =>
        hold .ending
        return [command]
      | .newline => if single then return [command] else return command :: (← list fuel single true)
      | .ampersand => return .background line command :: (← list fuel single true)
      | .semicolon => return command :: (← list fuel single true)
      | other =>
        if single then misplaced other
        hold other
        return [command]

def joined : Nat → Reader Command
  | 0 => misplaced .ending
  | fuel + 1 => do joinedTo fuel (← piped fuel)

def joinedTo : Nat → Command → Reader Command
  | 0, command => return command
  | fuel + 1, left => do
    match ← token fuel with
    | .both => do
      hold (← first fuel true)
      joinedTo fuel (.both left (← piped fuel))
    | .either => do
      hold (← first fuel true)
      joinedTo fuel (.either left (← piped fuel))
    | other => do
      hold other
      return left

def piped : Nat → Reader Command
  | 0 => misplaced .ending
  | fuel + 1 => do
    let start ← token fuel
    let negated := keyword? start = some "!"
    if negated then hold (← first fuel false) else hold start
    let command ← stages fuel
    return if negated then .negated command else command

def stages : Nat → Reader Command
  | 0 => misplaced .ending
  | fuel + 1 => do
    let start ← command fuel
    match ← moreStages fuel with
    | [] => return start
    | more => return .piped (start :: more)

def moreStages : Nat → Reader (List Command)
  | 0 => return []
  | fuel + 1 => do
    match ← token fuel with
    | .bar => do
      hold (← first fuel true)
      let start ← command fuel
      return start :: (← moreStages fuel)
    | other => do
      hold other
      return []

def expect : Nat → String → Reader Unit
  | 0, _ => misplaced .ending
  | fuel + 1, word => do
    let found ← token fuel
    if keyword? found ≠ some word then expected ("\"" ++ word ++ "\"") (calledFirst found)

def command : Nat → Reader Command
  | 0 => misplaced .ending
  | fuel + 1 => do
    let start ← token fuel
    let line := (← get).line
    match keyword? start with
    | some "if" => redirected fuel line (← branch fuel)
    | some "while" => redirected fuel line (← whilst fuel true)
    | some "until" => redirected fuel line (← whilst fuel false)
    | some "for" => redirected fuel line (← each fuel line)
    | some "case" => redirected fuel line (← choose fuel line)
    | some "\x7b" => do
      let body ← list fuel false false
      expect fuel "\x7d"
      redirected fuel line (.group body)
    | some _ => misplaced start
    | none =>
      match start with
      | .openBracket => do
        let body ← list fuel false false
        match ← token fuel with
        | .closeBracket => return .apart line body (← redirects fuel)
        | other => expected "\")\"" (calledFirst other)
      | .word _ | .arrow _ _ => do
        hold start
        simple fuel line true {}
      | other => misplaced other

def redirected : Nat → (line : Nat) → Command → Reader Command
  | 0, _, command => return command
  | fuel + 1, line, command => do
    match ← redirects fuel with
    | [] => return command
    | found => return .redirected line command found

def branch : Nat → Reader Command
  | 0 => misplaced .ending
  | fuel + 1 => do
    let condition ← list fuel false false
    expect fuel "then"
    let body ← list fuel false false
    let behind ← token fuel
    match keyword? behind with
    | some "elif" => return .branch condition body [← branch fuel]
    | some "else" => do
      let otherwise ← list fuel false false
      expect fuel "fi"
      return .branch condition body otherwise
    | _ => do
      hold behind
      expect fuel "fi"
      return .branch condition body []

def whilst : Nat → (success : Bool) → Reader Command
  | 0, _ => misplaced .ending
  | fuel + 1, success => do
    let condition ← list fuel false false
    expect fuel "do"
    let body ← list fuel false false
    expect fuel "done"
    return .whilst success condition body

def each : Nat → (line : Nat) → Reader Command
  | 0, _ => misplaced .ending
  | fuel + 1, line => do
    let name ← match ← token fuel with
      | .word word => pure ((Word.bare? word).getD [])
      | _ => pure []
    unless isName name do fail "Bad for loop variable"
    let behind ← tokenBelow fuel
    let items ← if keyword? behind = some "in" then words fuel else
      if !(behind matches .semicolon) then hold behind
      pure allArguments
    let start ← first fuel true
    if keyword? start ≠ some "do" then expected "\"do\"" (calledFirst start)
    let body ← list fuel false false
    expect fuel "done"
    return .each line (String.ofList name) items body

def words : Nat → Reader (List Word)
  | 0 => return []
  | fuel + 1 => do
    match ← token fuel with
    | .word word => return word :: (← words fuel)
    | .newline | .semicolon => return []
    | other => fail (called other ++ " unexpected")

def choose : Nat → (line : Nat) → Reader Command
  | 0, _ => misplaced .ending
  | fuel + 1, line => do
    match ← token fuel with
    | .word subject => do
      let behind ← tokenBelow fuel
      if keyword? behind ≠ some "in" then expected "\"in\"" (calledFirst behind)
      return .choose line subject (← arms fuel)
    | other => expected "word" (called other)

def arms : Nat → Reader (List (List Word × List Command))
  | 0 => return []
  | fuel + 1 => do
    let start ← tokenBelow fuel
    if keyword? start = some "esac" then return []
    let start ← match start with
      | .openBracket => token fuel
      | start => pure start
    let patterns ← patterns fuel start
    let body ← list fuel false true
    let behind ← tokenBelow fuel
    if keyword? behind = some "esac" then return [(patterns, body)]
    match behind with
    | .armEnd => return (patterns, body) :: (← arms fuel)
    | other => expected "\";;\"" (calledFirst other)

def patterns : Nat → Token → Reader (List Word)
  | 0, _ => return []
  | fuel + 1, start => do
    let pattern := match start with
      | .word word => word
      | _ => []
    match ← token fuel with
    | .bar => return pattern :: (← patterns fuel (← token fuel))
    | .closeBracket => return [pattern]
    | other => expected "\")\"" (called other)

def redirects : Nat → Reader (List Redirect)
  | 0 => return []
  | fuel + 1 => do
    match ← token fuel with
    | .arrow arrow descriptor => do
      let redirect ← target fuel arrow descriptor
      return redirect :: (← redirects fuel)
    | other => do
      hold other
      return []

def target : Nat → Arrow → Nat → Reader Redirect
  | 0, _, _ => misplaced .ending
  | fuel + 1, arrow, descriptor => do
    match arrow with
    | .document stripped => do
      let _ ← takeWhile isBlank
      let behind ← peek?
      if behind.all isBreak then fail (called (← token fuel) ++ " unexpected")
      let word ← parts fuel { closing := .blank, exact := true } 0 []
      let raw := Word.isQuoted word
      let text ← takeDocument stripped raw (Word.literal word)
      if raw then return .text descriptor [.quoted text]
      let outer ← get
      set ({ rest := text, line := outer.line + 1, aliases := outer.aliases } : Cursor)
      let content ← parts fuel { closing := .nothing, double := true, document := true } 0 []
      set outer
      return .text descriptor content
    | .file opening =>
      match ← token fuel with
      | .word word => return .file descriptor opening word
      | other => fail (called other ++ " unexpected")
    | .duplicate =>
      match ← token fuel with
      | .word word => return .duplicate descriptor word
      | other => fail (called other ++ " unexpected")

/-- The rest of a simple command, which is still `beginning` as long as no word has been read
but assignments. -/
def simple : Nat → (line : Nat) → (beginning : Bool) → Simple → Reader Command
  | 0, line, _, read => return read.command line
  | fuel + 1, line, beginning, read => do
    match ← if beginning then first fuel false else token fuel with
    | .word word =>
      if beginning && (Word.assignment? word).isSome then
        simple fuel line true { read with assignments := word :: read.assignments }
      else simple fuel line false { read with words := word :: read.words }
    | .arrow arrow descriptor => do
      let redirect ← target fuel arrow descriptor
      simple fuel line beginning { read with redirects := redirect :: read.redirects }
    | .openBracket =>
      match read with
      | { assignments := [], words := [name], redirects := [] } =>
        match ← token fuel with
        | .closeBracket => function fuel name
        | other => expected "\")\"" (called other)
      | _ => do
        hold .openBracket
        return read.command line
    | other => do
      hold other
      return read.command line

def function : Nat → Word → Reader Command
  | 0, _ => misplaced .ending
  | fuel + 1, name => do
    let text := (Word.bare? name).getD []
    let name := String.ofList text
    if !isName text || isSpecialCommand name then fail "Bad function name"
    hold (← first fuel true)
    return .function name (← command fuel)

end

inductive Reading where
  | nothing
  /-- The commands of a line, whether the script ends there, and what is left of it. -/
  | commands (commands : List Command) (ended : Bool) (cursor : Cursor)
  | wrong (error : SyntaxError)

def isEnding : Option Token → Bool
  | some .ending => true
  | _ => false

/-- Reads a line, and more of them where a command goes on. -/
def next (cursor : Cursor) : Reading :=
  if isEnding cursor.held then .nothing
  else
    match list (16 * cursor.rest.length + 64) true false cursor with
    | .error error => .wrong error
    | .ok (commands, after) =>
      let ended := isEnding after.held
      if commands.isEmpty && ended then .nothing else .commands commands ended after

/-- A text in which parts are replaced as in a here document. -/
def template (text : List Char) : Word :=
  match parts (2 * text.length + 64) { closing := .nothing, double := true, document := true } 0 []
      { rest := text } with
  | .ok (word, _) => word
  | .error _ => [.quoted text]

end Script
end DeviceMatrix.Shell
