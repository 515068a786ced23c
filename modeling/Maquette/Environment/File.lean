import Maquette.Environment.Basic
import Maquette.Text.Line

/-!
# Settings files

A file of settings completes an environment: what it sets counts where the
environment has no value of its own.

A setting is a line `NAME=value`, with `export` in front of it if one likes. A
value in quotation marks goes on to the closing one, over lines if need be, and
knows escapes; any other value ends with its line, or at white space with a `#`
after it. A line that is none of this sets nothing, and the next line is read as
if it were not there: a part of a line that cannot be read gives the text that
it is at, so that the line can be left from there.

In a value, `${NAME}` stands for the value that the name has by then, and
`${NAME:-text}` for the text if it has none.
-/

namespace Maquette.EnvironmentFile

open Text

/-- A name in a file, with the value that it is set to if there is one. -/
abbrev Entry := String × Option String

/-- White space within a line. -/
def isGap (c : Char) : Bool :=
  isBlank c && c != '\n'

/-- The text after the white space that the line goes on with. -/
def skipGap (s : List Char) : List Char :=
  s.dropWhile isGap

/-- The text behind the end of the line. -/
def nextLine (s : List Char) : List Char :=
  (s.dropWhile (· ≠ '\n')).drop 1

/-- The text after the word `export`, if white space follows it. -/
def skipExport (s : List Char) : List Char :=
  let word := "export".toList
  let rest := s.drop word.length
  if word.isPrefixOf s && rest.head?.any isGap then skipGap rest else s

/-- A character that a name without quotation marks goes on with. -/
def isNameChar (c : Char) : Bool :=
  c != '=' && c != '#' && !isBlank c

/-- The name that a line begins with. A comment has none. -/
def readName (s : List Char) :
    Except (List Char) (Option (List Char) × List Char) :=
  match s with
  | '#' :: _ => .ok (none, s)
  | '\'' :: rest =>
    match rest.takeWhile (· ≠ '\''), rest.dropWhile (· ≠ '\'') with
    | [], _ => .error s
    | _, [] => .error s
    | name, _ :: after => .ok (some name, after)
  | _ =>
    match s.takeWhile isNameChar with
    | [] => .error s
    | name => .ok (some name, s.dropWhile isNameChar)

/-- The text in front of the first quotation mark without a backslash before it,
and the text behind that mark. -/
def splitAtMark (mark : Char) (escaped : Bool) : List Char → Option (List Char × List Char)
  | [] => none
  | c :: rest =>
    if c = mark ∧ escaped = false then some ([], rest)
    else (splitAtMark mark (c = '\\') rest).map fun (inner, after) => (c :: inner, after)

/-- The text in front of the last quotation mark, and the text behind it. -/
def splitAtLast (mark : Char) (s : List Char) : Option (List Char × List Char) :=
  match s.reverse.dropWhile (· ≠ mark) with
  | [] => none
  | _ :: inner => some (inner.reverse, (s.reverse.takeWhile (· ≠ mark)).reverse)

/-- The text up to the closing quotation mark, and the text behind it. A mark
with a backslash in front of it closes only if no other one does. -/
def splitQuoted (mark : Char) (s : List Char) : Option (List Char × List Char) :=
  splitAtMark mark false s <|> splitAtLast mark s

/-- The character that a letter after a backslash stands for between quotation
marks. -/
def escapedChar? (mark c : Char) : Option Char :=
  if c = '\\' ∨ c = '\'' then some c
  else if mark = '\'' then none
  else if c = '"' then some '"'
  else if c = 'a' then some '\x07'
  else if c = 'b' then some '\x08'
  else if c = 'f' then some '\x0c'
  else if c = 'n' then some '\n'
  else if c = 'r' then some '\r'
  else if c = 't' then some '\t'
  else if c = 'v' then some '\x0b'
  else none

/-- A text between quotation marks with its escapes read. A backslash that
begins none stands for itself. -/
def unescaped (mark : Char) : List Char → List Char
  | [] => []
  | [c] => [c]
  | c :: next :: rest =>
    if c = '\\' then
      match escapedChar? mark next with
      | some meant => meant :: unescaped mark rest
      | none => c :: unescaped mark (next :: rest)
    else c :: unescaped mark (next :: rest)

/-- A value without quotation marks, up to white space with a `#` after it. -/
def beforeComment : List Char → List Char
  | [] => []
  | c :: rest =>
    if isBlank c ∧ (rest.dropWhile isBlank).head? = some '#' then []
    else c :: beforeComment rest

/-- The value after an equals sign. -/
def readValue (s : List Char) : Except (List Char) (List Char × List Char) :=
  match s with
  | [] => .ok ([], s)
  | c :: rest =>
    if c = '\'' ∨ c = '"' then
      match splitQuoted c rest with
      | some (inner, after) => .ok (unescaped c inner, after)
      | none => .error s
    else
      .ok (trimRight (beforeComment (s.takeWhile (· ≠ '\n'))), s.dropWhile (· ≠ '\n'))

/-- The text after a comment, if the line goes on with one. -/
def skipComment (s : List Char) : List Char :=
  match skipGap s with
  | '#' :: rest => rest.dropWhile (· ≠ '\n')
  | _ => s

/-- The text behind the end of a line that has nothing more. -/
def endLine (s : List Char) : Except (List Char) (List Char) :=
  match skipGap s with
  | [] => .ok []
  | c :: rest => if c = '\n' then .ok rest else .error s

/-- The entry that a line writes, if it is none of a comment. -/
def readLine (s : List Char) : Except (List Char) (Option Entry × List Char) := do
  let (name, afterName) ← readName (skipExport s)
  let (value, afterValue) ←
    match skipGap afterName with
    | '=' :: rest => do
      let (value, after) ← readValue (skipGap rest)
      pure (some value, after)
    | rest => pure (none, rest)
  let after ← endLine (skipComment afterValue)
  return (name.map fun name => (String.ofList name, value.map String.ofList), after)

/-- The entries that the lines of a text write, with fuel for every line. -/
def entriesOf : (fuel : Nat) → List Char → List Entry
  | 0, _ => []
  | fuel + 1, s =>
    match s.dropWhile isBlank with
    | [] => []
    | line =>
      match readLine line with
      | .ok (entry, after) => entry.toList ++ entriesOf fuel after
      | .error wrong => entriesOf fuel (nextLine wrong)

def entries (text : String) : List Entry :=
  let s := plainLineEnds text.toList
  entriesOf (s.length + 1) s

/-- The name between the brackets of a variable, the text it has by default, and
what follows the closing bracket. -/
def placeholderAt? (s : List Char) : Option (List Char × List Char × List Char) :=
  let name := s.takeWhile fun c => c ≠ '\x7d' ∧ c ≠ ':'
  match s.drop name.length with
  | '\x7d' :: after => some (name, [], after)
  | ':' :: '-' :: rest =>
    let default := rest.takeWhile (· ≠ '\x7d')
    match rest.drop default.length with
    | '\x7d' :: after => some (name, default, after)
    | _ => none
  | _ => none

/-- A value with its variables replaced, with fuel for every character. -/
def expand (meaning : String → Option String) : (fuel : Nat) → List Char → List Char
  | 0, s => s
  | _, [] => []
  | fuel + 1, c :: rest =>
    match c, rest with
    | '$', '\x7b' :: inside =>
      match placeholderAt? inside with
      | some (name, default, after) =>
        ((meaning (String.ofList name)).map String.toList).getD default ++
          expand meaning fuel after
      | none => c :: expand meaning fuel rest
    | _, _ => c :: expand meaning fuel rest

/-- What a name means after some entries: its value in the environment, else the
one that it was set to last. A name without a value means nothing. -/
def meaning (environment : Environment) (before : List Entry) (name : String) : Option String :=
  match environment.lookup name with
  | some value => some value
  | none => (before.lookup name).map (·.getD "")

/-- The entries with their variables replaced, the last one in front. -/
def resolve (environment : Environment) (entries : List Entry) : List Entry :=
  entries.foldl (fun before (name, value) =>
    (name, value.map fun text =>
      String.ofList (expand (meaning environment before) text.length text.toList)) ::
        before.filter (·.1 ≠ name)) []

def additions (environment : Environment) (text : String) : List (String × String) :=
  (resolve environment (entries text)).filterMap fun (name, value) =>
    if (environment.lookup name).isSome then none else value.map (name, ·)

end Maquette.EnvironmentFile

namespace Maquette.Environment

def completedBy (environment : Environment) (file : String) : Except Fault Environment := do
  let added ← ofEntries (EnvironmentFile.additions environment file).reverse
  return environment ++ added

end Maquette.Environment
