import MountainRange.FieldText
import MountainRange.Payload.Integer
import MountainRange.Scheme
set_option autoImplicit false

/-!
# Payloads

The messages that ask for a verdict on a structured proof, for a verdict on an encoded
request, and for the commitment of a deposit.  Unknown fields are ignored; the issues
of a payload come in the order of its fields.
-/

namespace MountainRange.Payload

/-! ## Fields -/

/-- The fields of an object by name. -/
abbrev Fields : Type := List (Text × Value)

/-- Reads a field that has to be there. -/
def required {α : Type} (fields : Fields) (name : Text)
    (read : List Place → Value → Checked α) : Checked α :=
  match Value.field? fields name with
  | some v => read [.name name] v
  | none => .issue [.name name] .missing (.object fields)

/-- Reads a field that has a default. -/
def optional {α : Type} (fields : Fields) (name : Text) (default : α)
    (read : List Place → Value → Checked α) : Checked α :=
  match Value.field? fields name with
  | some v => read [.name name] v
  | none => .ok default

/-- Reads an integer. -/
def integer (place : List Place) (v : Value) : Checked Int :=
  match integerOf v with
  | .ok n => .ok n
  | .error complaint => .issue place complaint v

/-- Reads an integer that is not below zero. -/
def natural (place : List Place) (v : Value) : Checked Nat := do
  let n ← integer place v
  if n < 0 then .issue place .negative v else return n.toNat

/-- Reads a text. -/
def text (place : List Place) : Value → Checked Text
  | .text t => .ok t
  | v => .issue place .textKind v

/-- Reads a list of items, each at a place of its own. -/
def list {α : Type} (item : List Place → Value → Checked α) (place : List Place) :
    Value → Checked (List α)
  | .array items => .all (items.mapIdx fun i v => item (place ++ [.index i]) v)
  | v => .issue place .listKind v

/-! ## Rules -/

/-- What is wrong with a text that has to be hexadecimal. -/
def hexFault? (t : Text) : Option Text :=
  match FieldText.afterMark t with
  | none | some [] => some "Must be a hex string starting with '0x'"
  | some digits => if digits.all Text.isHexDigit then none else some ("Invalid hex string: " ++ t)

/-- Reads a hexadecimal text. -/
def hex (place : List Place) (v : Value) : Checked Text := do
  let t ← text place v
  match hexFault? t with
  | none => return t
  | some fault => .issue place (.rule fault) v

/-- Reads a hexadecimal text or nothing. -/
def hexOrNull (place : List Place) : Value → Checked (Option Text)
  | .null => .ok none
  | v => some <$> hex place v

/-- Reads a list of hexadecimal texts; the first that is none is reported for the
whole list. -/
def hexList (place : List Place) (v : Value) : Checked (List Text) := do
  let items ← list text place v
  match items.findSome? hexFault? with
  | none => return items
  | some fault => .issue place (.rule fault) v

/-- Reads a mode. -/
def mode (place : List Place) (v : Value) : Checked Mode := do
  let n ← integer place v
  match Mode.ofNumber? n with
  | some m => return m
  | none => .issue place (.rule "mode must be 1 (wide) or 2 (compact)") v

/-- Reads a slot: a text stays as it is, and what stands for an integer becomes one.
Anything else is both no integer and no text. -/
def slot (place : List Place) : Value → Checked Value
  | .text t => .ok (.text t)
  | v =>
      match integerOf v with
      | .ok n => .ok (.int n)
      | .error complaint =>
          .error [⟨place ++ [.name "int"], complaint, v⟩, ⟨place ++ [.name "str"], .textKind, v⟩]

/-! ## The payloads -/

/-- A structured proof, its digests as hexadecimal text. -/
structure Proof where
  mode : Mode
  root : Text
  leaf : Text
  expectedLeaf : Option Text
  leafIndex : Nat
  size : Nat
  siblings : List Text
  peaks : List Text
  deriving DecidableEq, Repr

/-- Reads a structured proof. -/
def Proof.read (fields : Fields) : Checked Proof := do
  let (mode, root, leaf, expectedLeaf, leafIndex, size, siblings, peaks) ←
    .both (required fields "mode" Payload.mode) <|
    .both (required fields "root" hex) <|
    .both (required fields "leaf" hex) <|
    .both (optional fields "expected_leaf" none hexOrNull) <|
    .both (required fields "leaf_index" natural) <|
    .both (required fields "mmr_size" natural) <|
    .both (optional fields "siblings" [] hexList) <|
    (optional fields "peaks" [] hexList)
  return { mode, root, leaf, expectedLeaf, leafIndex, size, siblings, peaks }

/-- Reads the slots of an encoded request. -/
def readSlots (fields : Fields) : Checked (List Value) := required fields "fields" (list slot)

/-- The data of a deposit, its recipient as text. -/
structure Deposit where
  recipient : Text
  amount : Nat
  nonce : Nat
  timestamp : Nat
  deriving DecidableEq, Repr

/-- Reads the data of a deposit. -/
def Deposit.read (fields : Fields) : Checked Deposit := do
  let (recipient, amount, nonce, timestamp) ←
    .both (required fields "recipient" text) <|
    .both (required fields "amount" natural) <|
    .both (required fields "nonce" natural) <|
    (required fields "timestamp" natural)
  return { recipient, amount, nonce, timestamp }

end MountainRange.Payload
