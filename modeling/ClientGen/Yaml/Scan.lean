import ClientGen.Fault

/-!
# YAML tokens

The first stage of reading YAML turns characters into tokens: indentation opens and
closes block collections, brackets and braces delimit flow collections, and scalars come
in five styles. A `key: value` pair is only recognised at its `:`, so the scanner keeps,
per flow level, the place where a simple key could have started, and puts the key token
(and a block mapping start when the key opens one) back at that place when the `:` comes.
A simple key must fit on one line and in 1024 characters.

The text has been checked for characters YAML does not allow, so the character `\x00`
marks the end of the input.
-/
namespace ClientGen.Yaml

/-- How a scalar was written. -/
inductive Style where
  | plain
  | single
  | double
  | literal
  | folded
  deriving Repr, DecidableEq, Inhabited

/-- A token of YAML text. -/
inductive Token where
  | streamEnd
  /-- A `%` directive: `YAML` with its version, `TAG` with a handle and a prefix, or
  another name. -/
  | yamlDirective (major minor : Nat)
  | tagDirective (handle pfx : String)
  | otherDirective
  | documentStart
  | documentEnd
  | blockSequenceStart
  | blockMappingStart
  | blockEnd
  | flowSequenceStart
  | flowSequenceEnd
  | flowMappingStart
  | flowMappingEnd
  | blockEntry
  | flowEntry
  | key
  | value
  | alias (name : String)
  | anchor (name : String)
  /-- A tag: its handle, if written, and its suffix. -/
  | tag (handle : Option String) (suffix : String)
  | scalar (text : String) (style : Style)
  deriving Repr, DecidableEq, Inhabited

/-- Where a simple key could start. -/
structure SimpleKey where
  /-- The number of tokens before it. -/
  tokenNumber : Nat
  /-- Whether it must be a key: it starts a line at the block indentation. -/
  required : Bool
  index : Nat
  line : Nat
  column : Nat
  deriving Inhabited

/-- The scanner's state. -/
structure Scanner where
  src : Array Char
  pos : Nat
  line : Nat
  column : Nat
  flowLevel : Nat
  /-- The indentation of the innermost block collection, `-1` outside any. -/
  indent : Int
  indents : List Int
  allowSimpleKey : Bool
  /-- The possible simple key of each flow level. -/
  keys : List (Nat × SimpleKey)
  tokens : Array Token
  done : Bool
  deriving Inhabited

/-- A step of the scanner. -/
abbrev ScanM := StateT Scanner (Except Fault)

/-- Stops on malformed text. -/
def malformed {α : Type} : ScanM α := throw (.malformedYaml .scanner)

/-- A line break character. -/
def isBreak (c : Char) : Bool :=
  c = '\r' || c = '\n' || c = '\x85' || c = '\u2028' || c = '\u2029'

/-- A line break or the end. -/
def isBreakOrEnd (c : Char) : Bool := c = '\x00' || isBreak c

/-- A space, a tab, a line break or the end. -/
def isBlankOrEnd (c : Char) : Bool := c = ' ' || c = '\t' || isBreakOrEnd c

/-- A space, a line break or the end. -/
def isSpaceOrEnd (c : Char) : Bool := c = ' ' || isBreakOrEnd c

/-- An ASCII letter or digit, `-` or `_`: the characters of anchors and tag handles. -/
def isWordChar (c : Char) : Bool :=
  ('0' ≤ c && c ≤ '9') || ('A' ≤ c && c ≤ 'Z') || ('a' ≤ c && c ≤ 'z') || c = '-' || c = '_'

/-- A character of a tag URI, escapes aside. -/
def isUriChar (c : Char) : Bool :=
  isWordChar c || "-;/?:@&=+$,_.!~*'()[]%".toList.contains c

/-- A hexadecimal digit. -/
def isHex (c : Char) : Bool :=
  ('0' ≤ c && c ≤ '9') || ('A' ≤ c && c ≤ 'F') || ('a' ≤ c && c ≤ 'f')

/-- The character `k` places ahead. -/
def peekAt (k : Nat) : ScanM Char := do
  let s ← get
  pure (s.src.getD (s.pos + k) '\x00')

/-- The current character. -/
def peek : ScanM Char := peekAt 0

/-- Moves one character ahead, counting lines and columns; a byte order mark takes no
column. -/
def forwardOne : ScanM Unit := modify fun s =>
  let ch := s.src.getD s.pos '\x00'
  let next := s.src.getD (s.pos + 1) '\x00'
  let pos := s.pos + 1
  if ch = '\n' || ch = '\x85' || ch = '\u2028' || ch = '\u2029' || (ch = '\r' && next ≠ '\n') then
    { s with pos, line := s.line + 1, column := 0 }
  else if ch = '\uFEFF' then { s with pos }
  else { s with pos, column := s.column + 1 }

/-- Moves `n` characters ahead. -/
def forward : Nat → ScanM Unit
  | 0 => pure ()
  | n + 1 => do forwardOne; forward n

/-- The next `n` characters. -/
def ahead (n : Nat) : ScanM String := do
  let s ← get
  pure (String.ofList ((List.range n).map fun i => s.src.getD (s.pos + i) '\x00'))

/-- The number of characters left, the end marker included. -/
def remaining : ScanM Nat := do
  let s ← get
  pure (s.src.size + 1 - s.pos)

/-- Moves ahead while `p` holds, at most `fuel` characters. -/
def skipWhileFuel (p : Char → Bool) : Nat → ScanM Unit
  | 0 => pure ()
  | fuel + 1 => do
    if p (← peek) then
      forwardOne
      skipWhileFuel p fuel

/-- Moves ahead while `p` holds; `p` never holds at the end. -/
def skipWhile (p : Char → Bool) : ScanM Unit := do skipWhileFuel p (← remaining)

/-- How many characters from `k` places ahead satisfy `p`, at most `fuel`. -/
def countFrom (p : Char → Bool) (k : Nat) : Nat → ScanM Nat
  | 0 => pure 0
  | fuel + 1 => do
    if p (← peekAt k) then return 1 + (← countFrom p (k + 1) fuel) else pure 0

/-- How many characters ahead satisfy `p`. -/
def countWhile (p : Char → Bool) : ScanM Nat := do countFrom p 0 (← remaining)

/-- Reads a line break: a carriage return and line feed, or a lone one of them, read as
`\n`; the other breaks as themselves. Nothing when no break comes. -/
def lineBreak : ScanM String := do
  let ch ← peek
  if ch = '\r' || ch = '\n' || ch = '\x85' then
    if ch = '\r' && (← peekAt 1) = '\n' then forward 2 else forwardOne
    pure "\n"
  else if ch = '\u2028' || ch = '\u2029' then
    forwardOne
    pure (String.singleton ch)
  else pure ""

/-- Adds a token at the end. -/
def addToken (t : Token) : ScanM Unit := modify fun s => { s with tokens := s.tokens.push t }

/-- Puts a token at place `i`. -/
def insertToken (i : Nat) (t : Token) : ScanM Unit := modify fun s =>
  { s with tokens := (s.tokens.extract 0 i).push t ++ s.tokens.extract i s.tokens.size }

/-- Drops the possible simple key of the current flow level; one that had to be a key
cannot be dropped. -/
def removeSimpleKey : ScanM Unit := do
  let s ← get
  match s.keys.lookup s.flowLevel with
  | some k =>
    if k.required then malformed
    else set { s with keys := s.keys.filter (·.1 ≠ s.flowLevel) }
  | none => pure ()

/-- Drops the possible simple keys that can no longer be keys: those on an earlier line or
too far back. -/
def dropStaleKeys : ScanM Unit := do
  let s ← get
  let stale := s.keys.filter fun (_, k) => k.line ≠ s.line || s.pos - k.index > 1024
  if stale.any (·.2.required) then malformed
  set { s with keys := s.keys.filter fun (_, k) => !(k.line ≠ s.line || s.pos - k.index > 1024) }

/-- Remembers that a simple key could start here. -/
def saveSimpleKey : ScanM Unit := do
  let s ← get
  let required := s.flowLevel = 0 && s.indent = (s.column : Int)
  if s.allowSimpleKey then
    removeSimpleKey
    let s ← get
    let key : SimpleKey := ⟨s.tokens.size, required, s.pos, s.line, s.column⟩
    set { s with keys := (s.flowLevel, key) :: s.keys.filter (·.1 ≠ s.flowLevel) }

/-- Closes the block collections indented deeper than `column`. -/
def unwindFuel (column : Int) : Nat → ScanM Unit
  | 0 => pure ()
  | fuel + 1 => do
    let s ← get
    if s.flowLevel = 0 && s.indent > column then
      match s.indents with
      | top :: rest =>
        set { s with indent := top, indents := rest, tokens := s.tokens.push .blockEnd }
        unwindFuel column fuel
      | [] => pure ()

/-- Closes the block collections indented deeper than `column`. -/
def unwindIndent (column : Int) : ScanM Unit := do unwindFuel column ((← get).indents.length)

/-- Opens a block indentation at `column` when it is deeper than the current one. -/
def addIndent (column : Int) : ScanM Bool := do
  let s ← get
  if s.indent < column then
    set { s with indents := s.indent :: s.indents, indent := column }
    pure true
  else pure false

/-- Sets whether a simple key may start next. -/
def allowKey (b : Bool) : ScanM Unit := modify fun s => { s with allowSimpleKey := b }

/-- Skips spaces, comments and line breaks up to the next token; a line break in block
context lets a simple key start. -/
def toNextTokenFuel : Nat → ScanM Unit
  | 0 => pure ()
  | fuel + 1 => do
    skipWhile (· = ' ')
    if (← peek) = '#' then skipWhile fun c => !isBreakOrEnd c
    let br ← lineBreak
    if br ≠ "" then
      if (← get).flowLevel = 0 then allowKey true
      toNextTokenFuel fuel

/-- Skips to the next token; a byte order mark at the very start is skipped too. -/
def toNextToken : ScanM Unit := do
  let s ← get
  if s.pos = 0 && (← peek) = '\uFEFF' then forwardOne
  toNextTokenFuel (← remaining)

/-- The end of the stream. -/
def fetchStreamEnd : ScanM Unit := do
  unwindIndent (-1)
  removeSimpleKey
  modify fun s => { s with allowSimpleKey := false, keys := [], done := true }
  addToken .streamEnd

/-- A name of ASCII letters, digits, `-` and `_`, which must not be empty. -/
def wordName : ScanM String := do
  let n ← countWhile isWordChar
  if n = 0 then malformed
  let name ← ahead n
  forward n
  pure name

/-- A decimal number of a version. -/
def versionNumber : ScanM Nat := do
  let n ← countWhile fun c => '0' ≤ c && c ≤ '9'
  if n = 0 then malformed
  let digits ← ahead n
  forward n
  pure (digits.toList.foldl (fun acc c => acc * 10 + (c.toNat - '0'.toNat)) 0)

/-- A tag handle: `!`, `!!` or `!word!`. -/
def tagHandle : ScanM String := do
  if (← peek) ≠ '!' then malformed
  let mut length := 1
  if (← peekAt 1) ≠ ' ' then
    length := 1 + (← countFrom isWordChar 1 (← remaining))
    if (← peekAt length) ≠ '!' then
      forward length
      malformed
    length := length + 1
  let handle ← ahead length
  forward length
  pure handle

/-- The value of a hexadecimal digit. -/
def hexValue (c : Char) : Nat :=
  if '0' ≤ c && c ≤ '9' then c.toNat - '0'.toNat
  else if 'a' ≤ c && c ≤ 'f' then c.toNat - 'a'.toNat + 10
  else c.toNat - 'A'.toNat + 10

/-- The characters of UTF-8 bytes, when they are valid. -/
def decodeUtf8 (bytes : List UInt8) : Option String :=
  let text := String.fromUTF8? (ByteArray.mk bytes.toArray)
  text

/-- Reads `%XX` escapes of a URI, which must spell UTF-8. -/
def uriEscapesFuel (acc : List UInt8) : Nat → ScanM String
  | 0 => malformed
  | fuel + 1 => do
    if (← peek) = '%' then
      let a ← peekAt 1
      let b ← peekAt 2
      if !(isHex a && isHex b) then malformed
      forward 3
      uriEscapesFuel (acc ++ [(hexValue a * 16 + hexValue b).toUInt8]) fuel
    else
      match decodeUtf8 acc with
      | some s => pure s
      | none => malformed

/-- The URI of a tag, escapes decoded; it must not be empty. -/
def tagUriFuel (acc : String) : Nat → ScanM String
  | 0 => pure acc
  | fuel + 1 => do
    let ch ← peek
    if ch = '%' then
      let decoded ← uriEscapesFuel [] (← remaining)
      tagUriFuel (acc ++ decoded) fuel
    else if isUriChar ch then
      forwardOne
      tagUriFuel (acc.push ch) fuel
    else
      if acc.isEmpty then malformed
      pure acc

/-- The URI of a tag. -/
def tagUri : ScanM String := do tagUriFuel "" (← remaining)

/-- The rest of a directive line: spaces, a comment, then a break. -/
def directiveLineEnd : ScanM Unit := do
  skipWhile (· = ' ')
  if (← peek) = '#' then skipWhile fun c => !isBreakOrEnd c
  if !isBreakOrEnd (← peek) then malformed
  let _ ← lineBreak

/-- A directive line. -/
def scanDirective : ScanM Token := do
  forwardOne
  let name ← wordName
  if !isSpaceOrEnd (← peek) then malformed
  let token ← if name = "YAML" then do
      skipWhile (· = ' ')
      let major ← versionNumber
      if (← peek) ≠ '.' then malformed
      forwardOne
      let minor ← versionNumber
      if !isSpaceOrEnd (← peek) then malformed
      pure (Token.yamlDirective major minor)
    else if name = "TAG" then do
      skipWhile (· = ' ')
      let handle ← tagHandle
      if (← peek) ≠ ' ' then malformed
      skipWhile (· = ' ')
      let pfx ← tagUri
      if !isSpaceOrEnd (← peek) then malformed
      pure (Token.tagDirective handle pfx)
    else do
      skipWhile fun c => !isBreakOrEnd c
      pure Token.otherDirective
  directiveLineEnd
  pure token

/-- A directive. -/
def fetchDirective : ScanM Unit := do
  unwindIndent (-1)
  removeSimpleKey
  allowKey false
  addToken (← scanDirective)

/-- A document start or end marker. -/
def fetchDocumentIndicator (t : Token) : ScanM Unit := do
  unwindIndent (-1)
  removeSimpleKey
  allowKey false
  forward 3
  addToken t

/-- An opening bracket or brace. -/
def fetchFlowStart (t : Token) : ScanM Unit := do
  saveSimpleKey
  modify fun s => { s with flowLevel := s.flowLevel + 1 }
  allowKey true
  forwardOne
  addToken t

/-- A closing bracket or brace; one that closes nothing cannot be parsed. -/
def fetchFlowEnd (t : Token) : ScanM Unit := do
  removeSimpleKey
  let s ← get
  if s.flowLevel = 0 then throw (.malformedYaml .parser)
  set { s with flowLevel := s.flowLevel - 1 }
  allowKey false
  forwardOne
  addToken t

/-- A comma between flow entries. -/
def fetchFlowEntry : ScanM Unit := do
  allowKey true
  removeSimpleKey
  forwardOne
  addToken .flowEntry

/-- A `-` entry of a block sequence. -/
def fetchBlockEntry : ScanM Unit := do
  let s ← get
  if s.flowLevel = 0 then
    if !s.allowSimpleKey then malformed
    if ← addIndent s.column then addToken .blockSequenceStart
  allowKey true
  removeSimpleKey
  forwardOne
  addToken .blockEntry

/-- A `?` complex key. -/
def fetchKey : ScanM Unit := do
  let s ← get
  if s.flowLevel = 0 then
    if !s.allowSimpleKey then malformed
    if ← addIndent s.column then addToken .blockMappingStart
  allowKey ((← get).flowLevel = 0)
  removeSimpleKey
  forwardOne
  addToken .key

/-- A `:` value indicator: it completes the simple key before it, if any. -/
def fetchValue : ScanM Unit := do
  let s ← get
  match s.keys.lookup s.flowLevel with
  | some k =>
    set { s with keys := s.keys.filter (·.1 ≠ s.flowLevel) }
    insertToken k.tokenNumber .key
    if s.flowLevel = 0 then
      if ← addIndent k.column then insertToken k.tokenNumber .blockMappingStart
    allowKey false
  | none =>
    if s.flowLevel = 0 then
      if !s.allowSimpleKey then malformed
      if ← addIndent s.column then addToken .blockMappingStart
    allowKey (s.flowLevel = 0)
    removeSimpleKey
  forwardOne
  addToken .value

/-- An anchor or alias name after its indicator, which must end at a delimiter. -/
def scanAnchorName : ScanM String := do
  forwardOne
  let name ← wordName
  let ch ← peek
  if !(isBlankOrEnd ch || "?:,]\x7d%@`".toList.contains ch) then malformed
  pure name

/-- An alias or an anchor. -/
def fetchAnchorLike (isAlias : Bool) : ScanM Unit := do
  saveSimpleKey
  allowKey false
  let name ← scanAnchorName
  addToken (if isAlias then .alias name else .anchor name)

/-- A tag: verbatim `!<uri>`, the lone `!`, or a handle and a suffix. -/
def scanTag : ScanM Token := do
  let ch ← peekAt 1
  let token ← if ch = '<' then do
      forward 2
      let suffix ← tagUri
      if (← peek) ≠ '>' then malformed
      forwardOne
      pure (Token.tag none suffix)
    else if isBlankOrEnd ch then do
      forwardOne
      pure (Token.tag none "!")
    else do
      let n ← countFrom (fun c => !isSpaceOrEnd c && c ≠ '!') 1 (← remaining)
      let handle ← if (← peekAt (n + 1)) = '!' then tagHandle
        else do forwardOne; pure "!"
      let suffix ← tagUri
      pure (Token.tag (some handle) suffix)
  if !isSpaceOrEnd (← peek) then malformed
  pure token

/-- A tag. -/
def fetchTag : ScanM Unit := do
  saveSimpleKey
  allowKey false
  addToken (← scanTag)

/-- The chomping and indentation indicators of a block scalar. -/
def blockIndicators : ScanM (Option Bool × Option Nat) := do
  let ch ← peek
  let digit (c : Char) : Bool := '0' ≤ c && c ≤ '9'
  let result ← if ch = '+' || ch = '-' then do
      forwardOne
      let c ← peek
      if digit c then
        if c = '0' then malformed
        forwardOne
        pure (some (decide (ch = '+')), some (c.toNat - '0'.toNat))
      else pure (some (decide (ch = '+')), none)
    else if digit ch then do
      if ch = '0' then malformed
      forwardOne
      let c ← peek
      if c = '+' || c = '-' then
        forwardOne
        pure (some (decide (c = '+')), some (ch.toNat - '0'.toNat))
      else pure (none, some (ch.toNat - '0'.toNat))
    else pure (none, none)
  if !isSpaceOrEnd (← peek) then malformed
  pure result

/-- The line breaks of a block scalar's leading empty lines, with the deepest indentation
among them. -/
def blockIndentationFuel (breaks : String) (maxIndent : Nat) : Nat → ScanM (String × Nat)
  | 0 => pure (breaks, maxIndent)
  | fuel + 1 => do
    let ch ← peek
    if ch = ' ' then
      forwardOne
      let col := (← get).column
      blockIndentationFuel breaks (max maxIndent col) fuel
    else if isBreak ch then
      let br ← lineBreak
      blockIndentationFuel (breaks ++ br) maxIndent fuel
    else pure (breaks, maxIndent)

/-- Skips indentation up to `indent` columns. -/
def skipIndentFuel (indent : Nat) : Nat → ScanM Unit
  | 0 => pure ()
  | fuel + 1 => do
    if (← get).column < indent && (← peek) = ' ' then
      forwardOne
      skipIndentFuel indent fuel

/-- The line breaks between lines of a block scalar, indentation up to `indent` skipped. -/
def blockBreaksFuel (indent : Nat) (breaks : String) : Nat → ScanM String
  | 0 => pure breaks
  | fuel + 1 => do
    if isBreak (← peek) then
      let br ← lineBreak
      skipIndentFuel indent (← remaining)
      blockBreaksFuel indent (breaks ++ br) fuel
    else pure breaks

/-- The line breaks after a block scalar line. -/
def blockBreaks (indent : Nat) : ScanM String := do
  skipIndentFuel indent (← remaining)
  blockBreaksFuel indent "" (← remaining)

/-- The lines of a block scalar at indentation `indent`. -/
def blockLinesFuel (folded : Bool) (indent : Nat) (chunks breaks lastBreak : String) :
    Nat → ScanM (String × String × String)
  | 0 => pure (chunks, breaks, lastBreak)
  | fuel + 1 => do
    let s ← get
    if s.column = indent && (← peek) ≠ '\x00' then
      let chunks := chunks ++ breaks
      let leadingNonSpace := (← peek) ≠ ' ' && (← peek) ≠ '\t'
      let n ← countWhile fun c => !isBreakOrEnd c
      let text ← ahead n
      forward n
      let chunks := chunks ++ text
      let br ← lineBreak
      let breaks ← blockBreaks indent
      let s ← get
      if s.column = indent && (← peek) ≠ '\x00' then
        let next ← peek
        let chunks := if folded && br = "\n" && leadingNonSpace && next ≠ ' ' && next ≠ '\t' then
            (if breaks.isEmpty then chunks ++ " " else chunks)
          else chunks ++ br
        blockLinesFuel folded indent chunks breaks br fuel
      else pure (chunks, breaks, br)
    else pure (chunks, breaks, lastBreak)

/-- A literal (`|`) or folded (`>`) block scalar. -/
def scanBlockScalar (folded : Bool) : ScanM Token := do
  forwardOne
  let (chomping, increment) ← blockIndicators
  skipWhile (· = ' ')
  if (← peek) = '#' then skipWhile fun c => !isBreakOrEnd c
  if !isBreakOrEnd (← peek) then malformed
  let _ ← lineBreak
  let s ← get
  let minIndent : Nat := if s.indent + 1 < 1 then 1 else (s.indent + 1).toNat
  let (breaks, indent) ← match increment with
    | none => do
      let (breaks, maxIndent) ← blockIndentationFuel "" 0 (← remaining)
      pure (breaks, max minIndent maxIndent)
    | some inc => do
      let indent := minIndent + inc - 1
      pure (← blockBreaks indent, indent)
  let (chunks, breaks, lastBreak) ← blockLinesFuel folded indent "" breaks "" (← remaining)
  let chunks := if chomping = some false then chunks else chunks ++ lastBreak
  let chunks := if chomping = some true then chunks ++ breaks else chunks
  pure (.scalar chunks (if folded then .folded else .literal))

/-- A block scalar. -/
def fetchBlockScalar (folded : Bool) : ScanM Unit := do
  allowKey true
  removeSimpleKey
  addToken (← scanBlockScalar folded)

/-- The characters of an escape `\x`, `\u` or `\U` of the given width. -/
def escapedCode (width : Nat) : ScanM Char := do
  let digits ← ahead width
  if !digits.toList.all isHex then malformed
  forward width
  let code := digits.toList.foldl (fun acc c => acc * 16 + hexValue c) 0
  if code > 0x10FFFF then throw .badValue
  if code ≥ 0xD800 && code ≤ 0xDFFF then throw .badValue
  pure (Char.ofNat code)

/-- The character a one-letter escape stands for. -/
def escapeReplacement (c : Char) : Option Char :=
  match c with
  | '0' => some '\x00'
  | 'a' => some '\x07'
  | 'b' => some '\x08'
  | 't' => some '\t'
  | '\t' => some '\t'
  | 'n' => some '\n'
  | 'v' => some '\x0b'
  | 'f' => some '\x0c'
  | 'r' => some '\r'
  | 'e' => some '\x1b'
  | ' ' => some ' '
  | '"' => some '"'
  | '/' => some '/'
  | '\\' => some '\\'
  | 'N' => some '\x85'
  | '_' => some '\xa0'
  | 'L' => some '\u2028'
  | 'P' => some '\u2029'
  | _ => none

/-- The line breaks inside a quoted scalar; a document marker there is malformed. -/
def flowBreaksFuel (acc : String) : Nat → ScanM String
  | 0 => pure acc
  | fuel + 1 => do
    let pre ← ahead 3
    if (pre = "---" || pre = "...") && isBlankOrEnd (← peekAt 3) then malformed
    skipWhile fun c => c = ' ' || c = '\t'
    if isBreak (← peek) then
      let br ← lineBreak
      flowBreaksFuel (acc ++ br) fuel
    else pure acc

/-- Characters of a quoted scalar up to the next white space or quote, escapes read. -/
def quotedTextFuel (double : Bool) (acc : String) : Nat → ScanM String
  | 0 => pure acc
  | fuel + 1 => do
    let n ← countWhile fun c => !(c = '\'' || c = '"' || c = '\\' || isBlankOrEnd c)
    let text ← ahead n
    forward n
    let acc := acc ++ text
    let ch ← peek
    if !double && ch = '\'' && (← peekAt 1) = '\'' then
      forward 2
      quotedTextFuel double (acc.push '\'') fuel
    else if (double && ch = '\'') || (!double && (ch = '"' || ch = '\\')) then
      forwardOne
      quotedTextFuel double (acc.push ch) fuel
    else if double && ch = '\\' then
      forwardOne
      let e ← peek
      match escapeReplacement e with
      | some r =>
        forwardOne
        quotedTextFuel double (acc.push r) fuel
      | none =>
        if e = 'x' || e = 'u' || e = 'U' then
          forwardOne
          let c ← escapedCode (if e = 'x' then 2 else if e = 'u' then 4 else 8)
          quotedTextFuel double (acc.push c) fuel
        else if isBreak e then
          let _ ← lineBreak
          let breaks ← flowBreaksFuel "" (← remaining)
          quotedTextFuel double (acc ++ breaks) fuel
        else malformed
    else pure acc

/-- White space inside a quoted scalar: spaces and tabs as written, line breaks folded. -/
def quotedSpaces : ScanM String := do
  let n ← countWhile fun c => c = ' ' || c = '\t'
  let blanks ← ahead n
  forward n
  let ch ← peek
  if ch = '\x00' then malformed
  if isBreak ch then
    let br ← lineBreak
    let breaks ← flowBreaksFuel "" (← remaining)
    let first := if br ≠ "\n" then br else if breaks.isEmpty then " " else ""
    pure (first ++ breaks)
  else pure blanks

/-- The rest of a quoted scalar up to its closing quote. -/
def quotedRestFuel (double : Bool) (quote : Char) (acc : String) : Nat → ScanM String
  | 0 => malformed
  | fuel + 1 => do
    if (← peek) = quote then
      forwardOne
      pure acc
    else
      let spaces ← quotedSpaces
      let text ← quotedTextFuel double "" (← remaining)
      quotedRestFuel double quote (acc ++ spaces ++ text) fuel

/-- A single- or double-quoted scalar. -/
def scanQuoted (double : Bool) : ScanM Token := do
  let quote ← peek
  forwardOne
  let first ← quotedTextFuel double "" (← remaining)
  let text ← quotedRestFuel double quote first (← remaining)
  pure (.scalar text (if double then .double else .single))

/-- A quoted scalar. -/
def fetchQuoted (double : Bool) : ScanM Unit := do
  saveSimpleKey
  allowKey false
  addToken (← scanQuoted double)

/-- The white space after a line of a plain scalar, folded; nothing at a document marker,
which ends the scalar. -/
def plainSpaces : ScanM (Option String) := do
  let n ← countWhile (· = ' ')
  let blanks ← ahead n
  forward n
  if isBreak (← peek) then
    let br ← lineBreak
    allowKey true
    let atMarker : ScanM Bool := do
      let pre ← ahead 3
      pure ((pre = "---" || pre = "...") && isBlankOrEnd (← peekAt 3))
    if ← atMarker then return none
    let rec more (breaks : String) : Nat → ScanM (Option String)
      | 0 => pure (some breaks)
      | fuel + 1 => do
        let ch ← peek
        if ch = ' ' then
          forwardOne
          more breaks fuel
        else if isBreak ch then
          let b ← lineBreak
          if ← atMarker then return none
          more (breaks ++ b) fuel
        else pure (some breaks)
    match ← more "" (← remaining) with
    | none => pure none
    | some breaks =>
      let first := if br ≠ "\n" then br else if breaks.isEmpty then " " else ""
      pure (some (first ++ breaks))
  else pure (some blanks)

/-- Whether the character `k` places ahead ends a plain scalar's line part. -/
def plainStop (flow : Bool) (k : Nat) : ScanM Bool := do
  let ch ← peekAt k
  let next ← peekAt (k + 1)
  pure (isBlankOrEnd ch ||
    (ch = ':' && (isBlankOrEnd next || (flow && ",[]\x7b\x7d".toList.contains next))) ||
    (flow && ",?[]\x7b\x7d".toList.contains ch))

/-- The length of the next part of a plain scalar, at most `fuel`. -/
def plainLengthFuel (flow : Bool) (k : Nat) : Nat → ScanM Nat
  | 0 => pure k
  | fuel + 1 => do
    if ← plainStop flow k then pure k else plainLengthFuel flow (k + 1) fuel

/-- The parts of a plain scalar, with `spaces` waiting to join the next part. -/
def plainFuel (indent : Int) (acc spaces : String) : Nat → ScanM String
  | 0 => pure acc
  | fuel + 1 => do
    if (← peek) = '#' then return acc
    let flow := (← get).flowLevel ≠ 0
    let n ← plainLengthFuel flow 0 (← remaining)
    if n = 0 then return acc
    allowKey false
    let text ← ahead n
    forward n
    let acc := acc ++ spaces ++ text
    match ← plainSpaces with
    | none => pure acc
    | some sp =>
      let s ← get
      if sp.isEmpty || (← peek) = '#' || (s.flowLevel = 0 && (s.column : Int) < indent) then
        pure acc
      else plainFuel indent acc sp fuel

/-- A plain scalar. -/
def fetchPlain : ScanM Unit := do
  saveSimpleKey
  allowKey false
  let indent := (← get).indent + 1
  let text ← plainFuel indent "" "" (← remaining)
  addToken (.scalar text .plain)

/-- Whether a plain scalar may start here. -/
def canStartPlain : ScanM Bool := do
  let ch ← peek
  let next ← peekAt 1
  let flow := (← get).flowLevel ≠ 0
  pure (!(isBlankOrEnd ch || "-?:,[]\x7b\x7d#&*!|>'\"%@`".toList.contains ch) ||
    (!isBlankOrEnd next && (ch = '-' || (!flow && (ch = '?' || ch = ':')))))

/-- Whether a document marker (`---` or `...`) starts at this column-0 position. -/
def atDocumentMarker (marker : String) : ScanM Bool := do
  let s ← get
  pure (s.column = 0 && (← ahead 3) = marker && isBlankOrEnd (← peekAt 3))

/-- Reads the next tokens. -/
def fetchMore : ScanM Unit := do
  toNextToken
  dropStaleKeys
  unwindIndent (← get).column
  let ch ← peek
  let s ← get
  let flow := s.flowLevel ≠ 0
  let nextBlank := isBlankOrEnd (← peekAt 1)
  if ch = '\x00' then fetchStreamEnd
  else if ch = '%' && s.column = 0 then fetchDirective
  else if ch = '-' && (← atDocumentMarker "---") then fetchDocumentIndicator .documentStart
  else if ch = '.' && (← atDocumentMarker "...") then fetchDocumentIndicator .documentEnd
  else if ch = '[' then fetchFlowStart .flowSequenceStart
  else if ch = '{' then fetchFlowStart .flowMappingStart
  else if ch = ']' then fetchFlowEnd .flowSequenceEnd
  else if ch = '}' then fetchFlowEnd .flowMappingEnd
  else if ch = ',' then fetchFlowEntry
  else if ch = '-' && nextBlank then fetchBlockEntry
  else if ch = '?' && (flow || nextBlank) then fetchKey
  else if ch = ':' && (flow || nextBlank) then fetchValue
  else if ch = '*' then fetchAnchorLike true
  else if ch = '&' then fetchAnchorLike false
  else if ch = '!' then fetchTag
  else if ch = '|' && !flow then fetchBlockScalar false
  else if ch = '>' && !flow then fetchBlockScalar true
  else if ch = '\'' then fetchQuoted false
  else if ch = '"' then fetchQuoted true
  else if ← canStartPlain then fetchPlain
  else malformed

/-- Reads tokens until the end of the stream. -/
def scanFuel : Nat → ScanM Unit
  | 0 => malformed
  | fuel + 1 => do
    if (← get).done then pure ()
    else
      fetchMore
      scanFuel fuel

/-- Whether YAML allows a character in a document. -/
def isPrintable (c : Char) : Bool :=
  let n := c.toNat
  n = 0x09 || n = 0x0A || n = 0x0D || (0x20 ≤ n && n ≤ 0x7E) || n = 0x85 ||
    (0xA0 ≤ n && n ≤ 0xD7FF) || (0xE000 ≤ n && n ≤ 0xFFFD) || (0x10000 ≤ n && n ≤ 0x10FFFF)

/-- The tokens of a text; the stream end is the last. -/
def tokens (text : String) : Except Fault (Array Token) := do
  if !text.toList.all isPrintable then throw (.malformedYaml .reader)
  let src := text.toList.toArray
  let start : Scanner := ⟨src, 0, 0, 0, 0, -1, [], true, [], #[], false⟩
  let ((), s) ← (scanFuel (src.size + 2)).run start
  pure s.tokens

end ClientGen.Yaml
