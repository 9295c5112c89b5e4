import WindowActions.Joint

/-!
# Programs as they are written

The tree of a program, before any name in it is looked up:

    list      := { statement | ';' | newline }
    statement := '[' [ test ] ']' statement [ '|' statement ] | '{' list '}' | NAME { option }
    test      := NAME [ '=' operand ] [ (',' | '|') test ]
    option    := NAME ':' operand
    operand   := WORD | TEXT | '{' list '}'

Names stand in the tree as they are spelled, and so do options that are given twice.
-/

namespace WindowActions

mutual

inductive Operand where
  | text (chars : String)
  | list (body : List Statement)

inductive Statement where
  | action (name : String) (options : List (String × Operand))
  /-- Statements between braces, in the place of one. -/
  | block (body : List Statement)
  /-- A statement for the clients that pass a test, and one for when there are none. -/
  | conditional (test : Option (List Test)) (accepted : Statement) (otherwise : Option Statement)

structure Test where
  key : String
  operand : Option Operand
  joint : Joint

end

abbrev Program := List Statement

end WindowActions
