import CertRenewal.Json.Value
import CertRenewal.Text.Decimal

/-
  Problems with values that come from outside, and the collecting of them: a record with several
  bad fields is refused with all its problems, in the order of the fields.
-/

namespace CertRenewal.Validation

/-- What can be wrong with a value. -/
inductive Problem where
  | missing
  | notObject
  | notText
  | brokenText
  | tooShort (least : Nat)
  | tooLong (most : Nat)
  | blank
  | notInteger
  | unreadableInteger
  | oversizedInteger
  | fractionalInteger
  | infiniteInteger
  | notFlag
  | unreadableFlag
deriving DecidableEq, Repr

/-- A number of characters in words. -/
def characters (n : Nat) : String :=
  String.ofList (Decimal.digits n) ++ (if n = 1 then " character" else " characters")

namespace Problem

/-- The code of a problem. -/
def code : Problem → String
  | missing => "missing"
  | notObject => "model_attributes_type"
  | notText => "string_type"
  | brokenText => "string_unicode"
  | tooShort _ => "string_too_short"
  | tooLong _ => "string_too_long"
  | blank => "value_error"
  | notInteger => "int_type"
  | unreadableInteger => "int_parsing"
  | oversizedInteger => "int_parsing_size"
  | fractionalInteger => "int_from_float"
  | infiniteInteger => "finite_number"
  | notFlag => "bool_type"
  | unreadableFlag => "bool_parsing"

/-- The wording of a problem. -/
def message : Problem → String
  | missing => "Field required"
  | notObject => "Input should be a valid dictionary or object to extract fields from"
  | notText => "Input should be a valid string"
  | brokenText => "Input should be a valid string, unable to parse raw data as a unicode string"
  | tooShort least => "String should have at least " ++ characters least
  | tooLong most => "String should have at most " ++ characters most
  | blank => "Value error, must not be blank"
  | notInteger => "Input should be a valid integer"
  | unreadableInteger => "Input should be a valid integer, unable to parse string as an integer"
  | oversizedInteger =>
    "Unable to parse input string as an integer, exceeded maximum size"
  | fractionalInteger => "Input should be a valid integer, got a number with a fractional part"
  | infiniteInteger => "Input should be a finite number"
  | notFlag => "Input should be a valid boolean"
  | unreadableFlag => "Input should be a valid boolean, unable to interpret input"

/-- What is said about a problem beside its wording. -/
def context? : Problem → Option Json
  | tooShort least => some (.object [("min_length", .int least)])
  | tooLong most => some (.object [("max_length", .int most)])
  | blank => some (.object [("error", .object [])])
  | _ => none

end Problem

/-- A problem with the value at a place. -/
structure FieldError where
  place : List String
  problem : Problem
  input : Json
deriving Repr

/-- A value, or all problems that were found instead. -/
inductive Checked (α : Type) where
  | good (value : α)
  | bad (errors : List FieldError)
deriving Repr

namespace Checked

variable {α β : Type}

/-- Applies a checked function to a checked value, with the problems of both in order. -/
def ap (f : Checked (α → β)) (x : Checked α) : Checked β :=
  match f, x with
  | good f, good a => good (f a)
  | good _, bad es => bad es
  | bad es, good _ => bad es
  | bad es, bad fs => bad (es ++ fs)

instance : Applicative Checked where
  pure := good
  seq f x := ap f (x ())

/-- The problems that were found. -/
def errors : Checked α → List FieldError
  | good _ => []
  | bad es => es

@[simp] theorem errors_pure (a : α) : (pure a : Checked α).errors = [] := rfl

/-- The problems of an application are those of its parts, one after the other. -/
@[simp] theorem errors_seq (f : Checked (α → β)) (x : Checked α) :
    (f <*> x).errors = f.errors ++ x.errors := by
  cases f <;> cases x <;> simp [Seq.seq, ap, errors]

@[simp] theorem errors_map (f : α → β) (x : Checked α) : (f <$> x).errors = x.errors := by
  cases x <;> rfl

end Checked

/-- The value at a place as a check of it leaves it. -/
def checkAt {α : Type} (place : List String) (check : Json → Except Problem α) (v : Json) :
    Checked α :=
  match check v with
  | .ok a => .good a
  | .error p => .bad [⟨place, p, v⟩]

end CertRenewal.Validation
