import ClientGen.Yaml.Scan
import ClientGen.Yaml.Resolve

/-!
# YAML nodes

The second stage reads the tokens as a stream holding at most one document, whose nodes
are scalars, sequences and mappings, each with a tag. A tag written with a handle is
expanded with the handles of the document's `%TAG` directives and the two standard ones;
a plain scalar without a tag gets the tag its text implies, and any other untagged node
the tag of its kind. An anchor names a node that aliases later in the document repeat; an
alias of a name not yet anchored, or an anchor given twice, is malformed.
-/
namespace ClientGen.Yaml

/-- A node of a document, with its full tag. -/
inductive Node where
  | scalar (tag : String) (text : String)
  | sequence (tag : String) (items : List Node)
  | mapping (tag : String) (pairs : List (Node × Node))
  deriving Repr, Inhabited

/-- The tag of a node. -/
def Node.tag : Node → String
  | .scalar t _ | .sequence t _ | .mapping t _ => t

/-- The prefix of the standard tags. -/
def standardPrefix : String := "tag:yaml.org,2002:"

/-- The tag handles every document knows. -/
def defaultHandles : List (String × String) := [("!", "!"), ("!!", standardPrefix)]

/-- The composer's state: the tokens, the place reached, the handles of the current
document and the anchors met so far. -/
structure Composer where
  tokens : Array Token
  pos : Nat
  handles : List (String × String)
  anchors : List (String × Node)
  deriving Inhabited

/-- A step of the composer. -/
abbrev ComposeM := StateT Composer (Except Fault)

/-- Stops on tokens that do not form nodes. -/
def unparsable {α : Type} : ComposeM α := throw (.malformedYaml .parser)

/-- The next token. -/
def nextToken : ComposeM Token := do
  let c ← get
  pure (c.tokens.getD c.pos .streamEnd)

/-- Moves past the next token. -/
def advance : ComposeM Unit := modify fun c => { c with pos := c.pos + 1 }

/-- Whether the next token is one of `ts`. -/
def nextIs (ts : List Token) : ComposeM Bool := do pure (ts.contains (← nextToken))

/-- The empty scalar that stands for an omitted node. -/
def emptyNode : Node := .scalar (standardPrefix ++ "null") ""

/-- The full tag of a tag token. -/
def expandTag (handle : Option String) (suffix : String) : ComposeM String := do
  match handle with
  | none => pure suffix
  | some h =>
    match (← get).handles.lookup h with
    | some pfx => pure (pfx ++ suffix)
    | none => unparsable

/-- The anchor and the tag written before a node, in either order. -/
def nodeProperties : ComposeM (Option String × Option String) := do
  match ← nextToken with
  | .anchor name =>
    advance
    match ← nextToken with
    | .tag h s =>
      advance
      pure (some name, some (← expandTag h s))
    | _ => pure (some name, none)
  | .tag h s =>
    advance
    let tag ← expandTag h s
    match ← nextToken with
    | .anchor name =>
      advance
      pure (some name, some tag)
    | _ => pure (none, some tag)
  | _ => pure (none, none)

/-- Records a node under its anchor. -/
def remember (anchor : Option String) (n : Node) : ComposeM Node := do
  if let some name := anchor then
    modify fun c => { c with anchors := (name, n) :: c.anchors }
  pure n

/-- The tag of a collection: the written one, or the tag of its kind. -/
def collectionTag (tag : Option String) (kind : String) : String :=
  match tag with
  | some t => if t = "!" then standardPrefix ++ kind else t
  | none => standardPrefix ++ kind

mutual

/-- A node. In block context block collections may start here; with `indentless` also a
sequence of `-` entries at the indentation of the mapping around it. `fuel` bounds the
nesting, which the number of tokens bounds. -/
def node (fuel : Nat) (block indentless : Bool) : ComposeM Node := do
  match fuel with
  | 0 => unparsable
  | fuel + 1 =>
    match ← nextToken with
    | .alias name =>
      advance
      match (← get).anchors.lookup name with
      | some n => pure n
      | none => throw (.malformedYaml .composer)
    | _ =>
      let (anchor, tag) ← nodeProperties
      if let some name := anchor then
        if ((← get).anchors.lookup name).isSome then throw (.malformedYaml .composer)
      let t ← nextToken
      if indentless && t = .blockEntry then
        remember anchor (.sequence (collectionTag tag "seq") (← indentlessItems fuel []))
      else
        match t with
        | .scalar text style =>
          advance
          let resolved := match tag with
            | none => if style = .plain then implicitTag text else standardPrefix ++ "str"
            | some "!" => implicitTag text
            | some t => t
          remember anchor (.scalar resolved text)
        | .flowSequenceStart =>
          advance
          remember anchor (.sequence (collectionTag tag "seq") (← flowItems fuel true []))
        | .flowMappingStart =>
          advance
          remember anchor (.mapping (collectionTag tag "map") (← flowPairs fuel true []))
        | .blockSequenceStart =>
          if block then
            advance
            remember anchor (.sequence (collectionTag tag "seq") (← blockItems fuel []))
          else emptyOrFail anchor tag
        | .blockMappingStart =>
          if block then
            advance
            remember anchor (.mapping (collectionTag tag "map") (← blockPairs fuel []))
          else emptyOrFail anchor tag
        | _ => emptyOrFail anchor tag

/-- The empty scalar of a node that has only an anchor or a tag; without either there is
no node. -/
def emptyOrFail (anchor : Option String) (tag : Option String) : ComposeM Node := do
  match anchor, tag with
  | none, none => unparsable
  | _, some t => if t = "!" then remember anchor emptyNode else remember anchor (.scalar t "")
  | _, none => remember anchor emptyNode

/-- A node, or the empty scalar when one of `stops` comes next. -/
def nodeOrEmpty (fuel : Nat) (block indentless : Bool) (stops : List Token) :
    ComposeM Node := do
  if ← nextIs stops then pure emptyNode else node fuel block indentless

/-- The entries of a block sequence, up to its block end. -/
def blockItems (fuel : Nat) (acc : List Node) : ComposeM (List Node) := do
  match fuel with
  | 0 => unparsable
  | fuel + 1 =>
    match ← nextToken with
    | .blockEntry =>
      advance
      let item ← nodeOrEmpty fuel true false [.blockEntry, .blockEnd]
      blockItems fuel (acc ++ [item])
    | .blockEnd =>
      advance
      pure acc
    | _ => unparsable

/-- The `-` entries of a sequence written at the indentation of its mapping. -/
def indentlessItems (fuel : Nat) (acc : List Node) : ComposeM (List Node) := do
  match fuel with
  | 0 => unparsable
  | fuel + 1 =>
    if (← nextToken) = .blockEntry then
      advance
      let item ← nodeOrEmpty fuel true false [.blockEntry, .key, .value, .blockEnd]
      indentlessItems fuel (acc ++ [item])
    else pure acc

/-- The pairs of a block mapping, up to its block end. -/
def blockPairs (fuel : Nat) (acc : List (Node × Node)) : ComposeM (List (Node × Node)) := do
  match fuel with
  | 0 => unparsable
  | fuel + 1 =>
    match ← nextToken with
    | .key =>
      advance
      let k ← nodeOrEmpty fuel true true [.key, .value, .blockEnd]
      let v ← if (← nextToken) = .value then do
          advance
          nodeOrEmpty fuel true true [.key, .value, .blockEnd]
        else pure emptyNode
      blockPairs fuel (acc ++ [(k, v)])
    | .blockEnd =>
      advance
      pure acc
    | _ => unparsable

/-- The entries of a flow sequence, up to its closing bracket; `first` before the first
entry, which no comma precedes. A `key: value` entry is a mapping of one pair. -/
def flowItems (fuel : Nat) (first : Bool) (acc : List Node) : ComposeM (List Node) := do
  match fuel with
  | 0 => unparsable
  | fuel + 1 =>
    if (← nextToken) = .flowSequenceEnd then
      advance
      return acc
    if !first then
      if (← nextToken) = .flowEntry then advance else unparsable
    match ← nextToken with
    | .key =>
      advance
      let k ← nodeOrEmpty fuel false false [.value, .flowEntry, .flowSequenceEnd]
      let v ← if (← nextToken) = .value then do
          advance
          nodeOrEmpty fuel false false [.flowEntry, .flowSequenceEnd]
        else pure emptyNode
      flowItems fuel false (acc ++ [.mapping (standardPrefix ++ "map") [(k, v)]])
    | .flowSequenceEnd => flowItems fuel false acc
    | _ =>
      let item ← node fuel false false
      flowItems fuel false (acc ++ [item])

/-- The pairs of a flow mapping, up to its closing brace; an entry without `:` has an empty
value. -/
def flowPairs (fuel : Nat) (first : Bool) (acc : List (Node × Node)) :
    ComposeM (List (Node × Node)) := do
  match fuel with
  | 0 => unparsable
  | fuel + 1 =>
    if (← nextToken) = .flowMappingEnd then
      advance
      return acc
    if !first then
      if (← nextToken) = .flowEntry then advance else unparsable
    match ← nextToken with
    | .key =>
      advance
      let k ← nodeOrEmpty fuel false false [.value, .flowEntry, .flowMappingEnd]
      let v ← if (← nextToken) = .value then do
          advance
          nodeOrEmpty fuel false false [.flowEntry, .flowMappingEnd]
        else pure emptyNode
      flowPairs fuel false (acc ++ [(k, v)])
    | .flowMappingEnd => flowPairs fuel false acc
    | _ =>
      let k ← node fuel false false
      flowPairs fuel false (acc ++ [(k, emptyNode)])

end

/-- Reads the directives before an explicit document into its handles. -/
def directivesFuel (version : Bool) (handles : List (String × String)) :
    Nat → ComposeM (List (String × String))
  | 0 => pure handles
  | fuel + 1 => do
    match ← nextToken with
    | .yamlDirective major _ =>
      if version || major ≠ 1 then unparsable
      advance
      directivesFuel true handles fuel
    | .tagDirective h p =>
      if (handles.lookup h).isSome then unparsable
      advance
      directivesFuel version (handles ++ [(h, p)]) fuel
    | .otherDirective =>
      advance
      directivesFuel version handles fuel
    | _ => pure (handles ++ defaultHandles.filter fun (h, _) => (handles.lookup h).isNone)

/-- Skips document end markers. -/
def skipDocumentEnds : Nat → ComposeM Unit
  | 0 => pure ()
  | fuel + 1 => do
    if (← nextToken) = .documentEnd then
      advance
      skipDocumentEnds fuel

/-- The explicit document that starts here, if the stream has not ended: its directives,
its start marker and its content, which may be empty. -/
def explicitDocument (fuel : Nat) : ComposeM (Option Node) := do
  skipDocumentEnds fuel
  if (← nextToken) = .streamEnd then return none
  let handles ← directivesFuel false [] fuel
  if (← nextToken) ≠ .documentStart then unparsable
  advance
  modify fun c => { c with handles, anchors := [] }
  let content ← if ← nextIs [.otherDirective, .documentStart, .documentEnd, .streamEnd] then
      pure emptyNode
    else node fuel true false
  if (← nextToken) = .documentEnd then advance
  pure (some content)

/-- The one document of a token stream, if any. A second document is malformed. -/
def document (tokens : Array Token) : Except Fault (Option Node) := do
  let fuel := tokens.size + 1
  let step : ComposeM (Option Node) := do
    let first ← match ← nextToken with
      | .yamlDirective _ _ | .tagDirective _ _ | .otherDirective | .documentStart | .streamEnd =>
        explicitDocument fuel
      | _ =>
        modify fun c => { c with handles := defaultHandles }
        let content ← node fuel true false
        if (← nextToken) = .documentEnd then advance
        pure (some content)
    if first.isSome then
      skipDocumentEnds fuel
      if (← nextToken) ≠ .streamEnd then
        let _ ← directivesFuel false [] fuel
        if (← nextToken) = .documentStart then throw (.malformedYaml .composer)
        unparsable
    pure first
  let (result, _) ← step.run ⟨tokens, 0, defaultHandles, []⟩
  pure result

end ClientGen.Yaml
