import Maquette.Dart.Literal
import Maquette.Text.Line

/-!
# Dart code

Generated code is built as a tree of expressions and statements and printed at
the end, so that brackets are balanced, commas trail and columns line up by
construction.

A call sets every argument on a line of its own, two columns further in than the
line that the call begins on. A displayed text is the one part of an expression
whose characters are not ours, and it may contain characters that end a line
without ending the literal. They matter only for `moved`: the code of a moved
expression is printed first and then indented as a finished text, line by line.
-/

namespace Maquette.Dart

mutual

/-- An expression. -/
inductive Expr
  /-- Code without line breaks. -/
  | code (text : String)
  /-- Code over several lines; each later line is so many columns further in. -/
  | broken (first : String) (more : List (Nat × String))
  /-- A displayed text. -/
  | text (value : String)
  /-- A call on one line. -/
  | apply (callee : String) (argument : Expr)
  /-- A call with a line for every argument. -/
  | call (callee : String) (arguments : List Argument)
  /-- A list with a line for every item. -/
  | list (items : List Expr)
  /-- A list of items that are laid out already. -/
  | rows (items : List String)
  /-- A function with a body. -/
  | closure (parameters : String) (body : List Statement)
  /-- An expression that is indented as a finished text. -/
  | moved (value : Expr)

/-- An argument of a call. -/
inductive Argument
  | positional (value : Expr)
  | named (label : String) (value : Expr)

/-- A statement or declaration. -/
inductive Statement
  /-- A line of code, or a comment. -/
  | line (text : String)
  /-- The result of a function. -/
  | result (value : Expr)
  /-- A head with a body in braces. -/
  | block (head : String) (body : List Statement)
  /-- An empty line. -/
  | gap

end

def spaces (n : Nat) : String :=
  String.ofList (List.replicate n ' ')

/-- The later lines of code that is broken over several lines. -/
def continuation (column : Nat) : List (Nat × String) → String
  | [] => ""
  | (deeper, line) :: rest => "\n" ++ spaces (column + deeper) ++ line ++ continuation column rest

/-- Items that are laid out already, a comma after each. -/
def rowLines : List String → String
  | [] => ""
  | item :: rest => item ++ ",\n" ++ rowLines rest

mutual

/-- The text of an expression on a line that begins in the given column. -/
def Expr.print (column : Nat) : Expr → String
  | .code text => text
  | .broken first more => first ++ continuation column more
  | .text value => quoted value
  | .apply callee argument => callee ++ "(" ++ argument.print column ++ ")"
  | .call callee arguments =>
    callee ++ "(\n" ++ printArguments (column + 2) arguments ++ spaces column ++ ")"
  | .list items => "[\n" ++ printItems (column + 2) items ++ spaces column ++ "]"
  | .rows items => "[\n" ++ rowLines items ++ spaces column ++ "]"
  | .closure parameters body =>
    parameters ++ " \x7b\n" ++ printBody (column + 2) body ++ spaces column ++ "\x7d"
  | .moved value => String.ofList (Text.hang column (value.print 0).toList)

/-- The arguments of a call, each on a line in the given column. -/
def printArguments (column : Nat) : List Argument → String
  | [] => ""
  | .positional value :: rest =>
    spaces column ++ value.print column ++ ",\n" ++ printArguments column rest
  | .named label value :: rest =>
    spaces column ++ label ++ ": " ++ value.print column ++ ",\n" ++ printArguments column rest

/-- The items of a list, each on a line in the given column. -/
def printItems (column : Nat) : List Expr → String
  | [] => ""
  | item :: rest => spaces column ++ item.print column ++ ",\n" ++ printItems column rest

/-- The statements of a body, each on a line in the given column. -/
def printBody (column : Nat) : List Statement → String
  | [] => ""
  | .line text :: rest => spaces column ++ text ++ "\n" ++ printBody column rest
  | .result value :: rest =>
    spaces column ++ "return " ++ value.print column ++ ";\n" ++ printBody column rest
  | .block head body :: rest =>
    spaces column ++ head ++ " \x7b\n" ++ printBody (column + 2) body ++ spaces column ++
      "\x7d\n" ++ printBody column rest
  | .gap :: rest => "\n" ++ printBody column rest

end

end Maquette.Dart
