import MountainRange.Text.Surrogate
import MountainRange.Value
set_option autoImplicit false

/-!
# Issues with a payload

A payload is read field by field, and everything that is wrong with it is reported at
once: each issue tells the place, what is wrong there, and the value that was found.
-/

namespace MountainRange.Payload

/-- A step on the way to a place inside a payload. -/
inductive Place where
  | name (t : Text)
  | index (i : Nat)
  deriving DecidableEq, Repr

/-- What is wrong at a place. -/
inductive Complaint where
  /-- A field is not there. -/
  | missing
  /-- The payload is no object. -/
  | notObject
  /-- A text spells no integer. -/
  | integerText
  /-- A text in place of an integer cannot be written in bytes. -/
  | unencodable
  /-- An integer is too large to be read. -/
  | integerSize
  /-- A number has a fraction. -/
  | fraction
  /-- A number is not finite. -/
  | notFinite
  /-- A value is of no kind that an integer is read from. -/
  | integerKind
  /-- An integer is below zero. -/
  | negative
  /-- A value is no text. -/
  | textKind
  /-- A value is no list. -/
  | listKind
  /-- A value breaks a rule of its field. -/
  | rule (text : Text)
  /-- A message is no JSON. -/
  | unreadable (cause : String)
  deriving DecidableEq, Repr

namespace Complaint

/-- The name of a complaint. -/
def name : Complaint → String
  | .missing => "missing"
  | .notObject => "model_attributes_type"
  | .integerText => "int_parsing"
  | .unencodable => "string_unicode"
  | .integerSize => "int_parsing_size"
  | .fraction => "int_from_float"
  | .notFinite => "finite_number"
  | .integerKind => "int_type"
  | .negative => "greater_than_equal"
  | .textKind => "string_type"
  | .listKind => "list_type"
  | .rule _ => "value_error"
  | .unreadable _ => "json_invalid"

/-- The text of a complaint. -/
def message : Complaint → Text
  | .missing => "Field required"
  | .notObject => "Input should be a valid dictionary or object to extract fields from"
  | .integerText => "Input should be a valid integer, unable to parse string as an integer"
  | .unencodable =>
      "Input should be a valid string, unable to parse raw data as a unicode string"
  | .integerSize => "Unable to parse input string as an integer, exceeded maximum size"
  | .fraction => "Input should be a valid integer, got a number with a fractional part"
  | .notFinite => "Input should be a finite number"
  | .integerKind => "Input should be a valid integer"
  | .negative => "Input should be greater than or equal to 0"
  | .textKind => "Input should be a valid string"
  | .listKind => "Input should be a valid list"
  | .rule text => "Value error, " ++ text
  | .unreadable _ => "JSON decode error"

/-- What a complaint tells beyond its text. -/
def context? : Complaint → Option Value
  | .negative => some (.object [("ge", .int 0)])
  | .rule _ => some (.object [("error", .object [])])
  | .unreadable cause => some (.object [("error", .text cause)])
  | _ => none

end Complaint

/-- A complaint about the value at a place. -/
structure Issue where
  place : List Place
  complaint : Complaint
  input : Value
  deriving Repr

/-- A place as a value. -/
def Place.toValue : Place → Value
  | .name t => .text t
  | .index i => .int i

namespace Issue

/-- An issue as part of an answer, its place below some other. -/
def toValue (above : List Place) (issue : Issue) : Value :=
  let told : List (Text × Value) :=
    [("type", .text issue.complaint.name),
     ("loc", .array ((above ++ issue.place).map Place.toValue)),
     ("msg", .text issue.complaint.message), ("input", issue.input)]
  match issue.complaint.context? with
  | none => .object told
  | some context => .object (told ++ ([("ctx", context)] : List (Text × Value)))

end Issue

/-- The first of the broken rules whose text cannot be written in bytes: then nothing
else is reported. -/
def ruleError? (issues : List Issue) : Option Text.EncodeError :=
  issues.findSome? fun issue =>
    match issue.complaint with
    | .rule text => Text.encodeError? text
    | _ => none

/-- A value, or all that is wrong with it. -/
abbrev Checked (α : Type) : Type := Except (List Issue) α

namespace Checked

variable {α β : Type}

/-- Both of two values, or all that is wrong with either. -/
def both : Checked α → Checked β → Checked (α × β)
  | .ok x, .ok y => .ok (x, y)
  | .ok _, .error f => .error f
  | .error e, .ok _ => .error e
  | .error e, .error f => .error (e ++ f)

/-- All of some values, or all that is wrong with any. -/
def all : List (Checked α) → Checked (List α)
  | [] => .ok []
  | x :: rest => (both x (all rest)).map fun (a, as) => a :: as

/-- A single issue. -/
def issue (place : List Place) (complaint : Complaint) (input : Value) : Checked α :=
  .error [⟨place, complaint, input⟩]

end Checked

end MountainRange.Payload
