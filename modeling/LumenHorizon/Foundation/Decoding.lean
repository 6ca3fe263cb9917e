import LumenHorizon.Foundation.Fallible
import LumenHorizon.Foundation.Json

/-! # Decoding of JSON values

A decoder takes a value for a datum, or says what is wrong at which place of the value. A member
is required, or it is optional: then a member that is absent and one that is null are the same.
-/

namespace LumenHorizon.Foundation.Decoding
open Json

inductive CodingKey where
  | member (name : String)
  | index (i : ℕ)
deriving DecidableEq, Repr

inductive DecodingError where
  | dataCorrupted (path : List CodingKey)
  | keyNotFound (name : String) (path : List CodingKey)
  | valueNotFound (path : List CodingKey)
  | typeMismatch (path : List CodingKey)
deriving DecidableEq, Repr

/-- The error of a part, for the whole. -/
def DecodingError.under (key : CodingKey) : DecodingError → DecodingError
  | dataCorrupted path => dataCorrupted (key :: path)
  | keyNotFound name path => keyNotFound name (key :: path)
  | valueNotFound path => valueNotFound (key :: path)
  | typeMismatch path => typeMismatch (key :: path)

abbrev Decoder (α : Type) := JsonValue → Except DecodingError α

/-- The error of a value that a decoder does not expect. -/
def unexpected : JsonValue → DecodingError
  | .null => .valueNotFound []
  | _ => .typeMismatch []

def text : Decoder String
  | .string text => .ok text
  | value => .error (unexpected value)

def boolean : Decoder Bool
  | .bool b => .ok b
  | value => .error (unexpected value)

section Containers

variable {α : Type}

def number (read : Numeral → Option α) : Decoder α
  | .number n =>
    match read n with
    | some a => .ok a
    | none => .error (.dataCorrupted [])
  | value => .error (unexpected value)

def itemsFrom (decode : Decoder α) : ℕ → List JsonValue → Except DecodingError (List α)
  | _, [] => .ok []
  | i, value :: values => do
    let a ← (decode value).mapError (DecodingError.under (.index i))
    let as ← itemsFrom decode (i + 1) values
    .ok (a :: as)

def items (decode : Decoder α) : Decoder (List α)
  | .array values => itemsFrom decode 0 values
  | value => .error (unexpected value)

def container : Decoder (List (String × JsonValue))
  | .object members => .ok members
  | value => .error (unexpected value)

def memberNamed (members : List (String × JsonValue)) (name : String) : Option JsonValue :=
  (members.find? fun member => member.1 = name).map Prod.snd

variable (members : List (String × JsonValue)) (name : String) (decode : Decoder α)

def required : Except DecodingError α :=
  match memberNamed members name with
  | none => .error (.keyNotFound name [])
  | some value => (decode value).mapError (DecodingError.under (.member name))

def ifPresent : Except DecodingError (Option α) :=
  match memberNamed members name with
  | none | some .null => .ok none
  | some value => ((decode value).map some).mapError (DecodingError.under (.member name))

variable {members name decode}

theorem number_eq_ok {read : Numeral → Option α} {n : Numeral} {a : α} (h : read n = some a) :
    number read (.number n) = .ok a := by
  rw [number, h]

theorem required_of_named {value : JsonValue} (h : memberNamed members name = some value) :
    required members name decode = (decode value).mapError (DecodingError.under (.member name)) := by
  rw [required, h]

theorem required_eq_ok {value : JsonValue} {a : α} (h : memberNamed members name = some value)
    (hdecode : decode value = .ok a) : required members name decode = .ok a := by
  rw [required_of_named h, hdecode]
  rfl

theorem ifPresent_null (h : memberNamed members name = some .null) :
    ifPresent members name decode = .ok none := by
  rw [ifPresent, h]

theorem ifPresent_of_named {value : JsonValue} (h : memberNamed members name = some value)
    (hnull : value ≠ .null) : ifPresent members name decode =
      ((decode value).map some).mapError (DecodingError.under (.member name)) := by
  rw [ifPresent, h]
  cases value with
  | null => exact absurd rfl hnull
  | _ => rfl

theorem ifPresent_eq_ok {value : JsonValue} {a : α} (h : memberNamed members name = some value)
    (hnull : value ≠ .null) (hdecode : decode value = .ok a) :
    ifPresent members name decode = .ok (some a) := by
  rw [ifPresent_of_named h hnull, hdecode]
  rfl

theorem itemsFrom_append_error {i : ℕ} {front values : List JsonValue} {value : JsonValue}
    {error : DecodingError} (hfront : ∀ value ∈ front, ∃ a, decode value = .ok a)
    (hvalue : decode value = .error error) :
    itemsFrom decode i (front ++ value :: values) =
      .error (error.under (.index (i + front.length))) := by
  induction front generalizing i with
  | nil =>
    rw [List.nil_append, itemsFrom, hvalue]
    rfl
  | cons head front ih =>
    obtain ⟨⟨a, hhead⟩, hfront⟩ := List.forall_mem_cons.mp hfront
    rw [List.cons_append, itemsFrom, hhead, Except.mapError, ok_bind, ih hfront, error_bind,
      List.length_cons, Nat.add_right_comm, Nat.add_assoc]

end Containers

end LumenHorizon.Foundation.Decoding
