import Console.Text.Decimal
import Console.Text.Shortest
import Console.Text.Quoted
import Console.Text.Lines

/-!
# Values

The values that expressions have and that sessions are about.  A value has two texts: the text
it is displayed as, and the text it is inspected as, in which strings are quoted.
-/

namespace Console

/-- A value.  An object is known by its name only. -/
inductive Value where
  | nil
  | bool (value : Bool)
  | int (value : Int64)
  | float (value : Float)
  | string (text : String)
  | list (items : List Value)
  | object (name : String)
  deriving Repr

instance : Inhabited Value := ⟨.nil⟩

namespace Value

/-- The target of the outermost session. -/
def main : Value := .object "main"

/-- The name of a value's type. -/
def typeName : Value → String
  | nil => "nil"
  | bool _ => "bool"
  | int _ => "int"
  | float _ => "float"
  | string _ => "string"
  | list _ => "list"
  | object _ => "object"

/-- The text a value is inspected as. -/
def inspect : Value → String
  | nil => "nil"
  | bool value => if value then "true" else "false"
  | int value => integerText value
  | float value => floatText value
  | string text => quotedText text
  | list items => "[" ++ joinWith ", " (items.map inspect) ++ "]"
  | object name => name

/-- The text a value is displayed as: nothing for `nil`, a string as it is, all else as it is
inspected. -/
def display : Value → String
  | nil => ""
  | string text => text
  | value => value.inspect

@[simp] theorem inspect_nil : inspect nil = "nil" := by rw [inspect]

@[simp] theorem inspect_int (value : Int64) : inspect (int value) = integerText value := by
  rw [inspect]

@[simp] theorem inspect_string (text : String) : inspect (string text) = quotedText text := by
  rw [inspect]

@[simp] theorem inspect_list (items : List Value) :
    inspect (list items) = "[" ++ joinWith ", " (items.map inspect) ++ "]" := by
  rw [inspect]

@[simp] theorem inspect_object (name : String) : inspect (object name) = name := by rw [inspect]

end Value

end Console
