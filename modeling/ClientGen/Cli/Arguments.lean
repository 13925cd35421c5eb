import ClientGen.Cli.Options
import ClientGen.Text.Similar

/-!
# Reading the command line

The words of a command line are read from left to right. A word of two or more characters
that starts with `-` is an option: `--name` or `--name=value` for a long flag, and `-x` for
a one-letter flag, where several letters may follow one dash and the rest of the word after
a letter that takes a value is that value. A flag that takes a value takes the next word
when none is attached, whatever it looks like. `--` ends the options: every word after it
is positional. Any other word is positional.

A later value of a flag replaces an earlier one, and the order the flags were first given
in is kept, since the parameters are checked in that order. The first positional word is
the document; the others are extra and refused once every parameter has been checked.
-/
namespace ClientGen.Cli

/-- Why a command line is refused. -/
inductive UsageError where
  /-- A flag that names no option, with the long flags that are close to it. -/
  | noSuchOption (flag : String) (close : List String)
  /-- A flag given last, without the value it takes. -/
  | needsValue (flag : String)
  /-- A value attached to a flag that takes none. -/
  | takesNoValue (flag : String)
  /-- A value a parameter refuses. -/
  | invalid (hint message : String)
  /-- The argument, not given. -/
  | missing (hint : String)
  /-- Positional words beyond the argument. -/
  | extra (words : List String)
  deriving Repr, DecidableEq, Inhabited

/-- The message of a usage error. -/
def UsageError.message : UsageError → String
  | .noSuchOption flag [] => "No such option: " ++ flag
  | .noSuchOption flag [one] => "No such option: " ++ flag ++ " Did you mean " ++ one ++ "?"
  | .noSuchOption flag close =>
    let sorted := close.mergeSort fun a b => decide (a ≤ b)
    "No such option: " ++ flag ++ " (Possible options: " ++ ", ".intercalate sorted ++ ")"
  | .needsValue flag => "Option '" ++ flag ++ "' requires an argument."
  | .takesNoValue flag => "Option '" ++ flag ++ "' does not take a value."
  | .invalid hint message => "Invalid value for " ++ hint ++ ": " ++ message
  | .missing hint => "Missing argument " ++ hint ++ "."
  | .extra [word] => "Got unexpected extra argument (" ++ word ++ ")"
  | .extra words => "Got unexpected extra arguments (" ++ " ".intercalate words ++ ")"

/-- What a command line gives: the last value of each parameter given (empty for a flag),
the parameters in the order they were given, and the positional words. -/
structure Invocation where
  values : List (String × String)
  order : List String
  positional : List String
  deriving Repr, Inhabited

namespace Invocation

/-- The command line that gives nothing. -/
def empty : Invocation := ⟨[], [], []⟩

/-- The invocation with a parameter given a value. -/
def give (r : Invocation) (p : Param) (value : String) : Invocation :=
  { r with values := r.values.filter (·.1 ≠ p.name) ++ [(p.name, value)], order := r.order ++ [p.name] }

/-- The value given to a parameter, if it was given. -/
def value? (r : Invocation) (name : String) : Option String := r.values.lookup name

/-- The position at which a parameter was first given. -/
def position? (r : Invocation) (name : String) : Option Nat := r.order.idxOf? name

end Invocation

/-- Reads the letters after a single dash. A letter whose option takes a value takes the
rest of the word, or else the next word; the words left are returned. -/
def shortFlags (letters : List Char) (rest : List String) (r : Invocation) :
    Except UsageError (List String × Invocation) :=
  match letters with
  | [] => .ok (rest, r)
  | c :: more =>
    let flag := String.ofList ['-', c]
    match shortParam? flag with
    | none => .error (.noSuchOption flag [])
    | some p =>
      if p.takesValue then
        match (if more.isEmpty then rest else String.ofList more :: rest) with
        | [] => .error (.needsValue flag)
        | v :: rest => .ok (rest, r.give p v)
      else shortFlags more rest (r.give p "")

/-- A word split at its first `=`, if it has one. -/
def splitAttached (word : String) : String × Option String :=
  match word.splitOn "=" with
  | name :: value :: more => (name, some ("=".intercalate (value :: more)))
  | _ => (word, none)

/-- Reads the words of a command line; `fuel` bounds the number of words. -/
def readWords : Nat → List String → Invocation → Except UsageError Invocation
  | 0, _, r => .ok r
  | _ + 1, [], r => .ok r
  | fuel + 1, word :: rest, r =>
    if word = "--" then .ok { r with positional := r.positional ++ rest }
    else if word.startsWith "-" && word.length > 1 then
      let (name, attached) := splitAttached word
      match longParam? name with
      | some p =>
        if p.takesValue then
          match (match attached with | some v => v :: rest | none => rest) with
          | [] => .error (.needsValue name)
          | v :: rest => readWords fuel rest (r.give p v)
        else if attached.isSome then .error (.takesNoValue name)
        else readWords fuel rest (r.give p "")
      | none =>
        if word.startsWith "--" then .error (.noSuchOption name (Text.closeMatches name longFlags))
        else
          match shortFlags (word.toList.drop 1) rest r with
          | .ok (rest, r) => readWords fuel rest r
          | .error e => .error e
    else readWords fuel rest { r with positional := r.positional ++ [word] }

/-- What a command line gives. -/
def readCommandLine (words : List String) : Except UsageError Invocation :=
  readWords (words.length + 1) words Invocation.empty

end ClientGen.Cli
