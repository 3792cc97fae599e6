import Componentry.Numeral.Double

/-!
# Values

The values that a settings file holds. Objects keep the order in which their keys were first
written; a repeated key keeps its place and takes the last value. The keys in a settings file are
texts. A list that is made into an object may bring other keys, which are compared by value.
-/

namespace Componentry

/-- What a field of an object is found under. -/
inductive Json.Key
  /-- The absent value. -/
  | null
  /-- A truth value. -/
  | bool (value : Bool)
  /-- An integer. -/
  | int (value : Int)
  /-- A number of the floating-point format. -/
  | float (value : Numeral.Double)
  /-- A text. -/
  | text (value : Text)
  deriving DecidableEq, Repr, Inhabited

/-- A text stands for itself as a key. -/
instance : Coe Text Json.Key := ⟨.text⟩

namespace Json.Key

/-- The integer that a key is equal to, if there is one. The truth values equal one and zero. -/
def integer? : Key → Option Int
  | .bool true => some 1
  | .bool false => some 0
  | .int n => some n
  | .float x => x.toInt?
  | _ => none

/-- Two keys are equal as values, so that an integer is equal to the fraction of the same value. -/
def same (a b : Key) : Bool :=
  match a.integer?, b.integer? with
  | some m, some n => m = n
  | none, none => a = b
  | _, _ => false

theorem same_text (k : Key) (t : Text) : same k (.text t) = decide (k = .text t) := by
  cases k with
  | bool b => cases b <;> simp [same, integer?]
  | float x => cases h : x.toInt? <;> simp [same, integer?, h]
  | _ => simp [same, integer?]

theorem same_comm (a b : Key) : same a b = same b a := by
  unfold same
  cases a.integer? <;> cases b.integer? <;> grind

end Json.Key

/-- A value of a settings file. -/
inductive Json
  /-- The absent value. -/
  | null
  /-- A truth value. -/
  | bool (value : Bool)
  /-- A number without point or exponent. -/
  | int (value : Int)
  /-- A number with a point or an exponent. -/
  | float (value : Numeral.Double)
  /-- A text. -/
  | string (value : Text)
  /-- A list. -/
  | array (elements : List Json)
  /-- A section, as its keys with their values in the order of the keys. -/
  | object (fields : List (Json.Key × Json))
  deriving Inhabited

namespace Json

/-- The fields of an object, as its keys with their values in order. -/
abbrev Fields := List (Key × Json)

/-- A key as a value. -/
def Key.value : Key → Json
  | .null => .null
  | .bool b => .bool b
  | .int n => .int n
  | .float x => .float x
  | .text t => .string t

/-- A value as a key, which lists and objects cannot be. -/
def key? : Json → Option Key
  | .null => some .null
  | .bool b => some (.bool b)
  | .int n => some (.int n)
  | .float x => some (.float x)
  | .string t => some (.text t)
  | _ => none

/-- A value counts as nothing: it is absent, false, zero or empty. -/
def isNothing : Json → Bool
  | .null => true
  | .bool b => !b
  | .int n => n = 0
  | .float (.finite _ m _) => m = 0
  | .float _ => false
  | .string t => t.isEmpty
  | .array elements => elements.isEmpty
  | .object fields => fields.isEmpty

/-- The value under the text `key`. -/
def find? (key : Text) : Fields → Option Json
  | [] => none
  | (k, v) :: fields => if k = .text key then some v else find? key fields

/-- Fields in which `key` has the value `value`: in its place if it is there, at the end if not. -/
def put (key : Key) (value : Json) : Fields → Fields
  | [] => [(key, value)]
  | (k, v) :: fields => if k.same key then (k, value) :: fields else (k, v) :: put key value fields

/-- Fields from key and value pairs in which keys may be repeated. -/
def ofPairs (pairs : Fields) : Fields :=
  pairs.foldl (fun fields (key, value) => put key value fields) []

@[simp]
theorem find?_put_self (key : Text) (value : Json) (fields : Fields) :
    find? key (put key value fields) = some value := by
  induction fields with
  | nil => simp [put, find?]
  | cons field fields ih =>
    by_cases h : field.1 = .text key <;> simp [put, find?, Key.same_text, h, ih]

theorem find?_put_of_ne {key : Key} {other : Text} (h : .text other ≠ key) (value : Json)
    (fields : Fields) : find? other (put key value fields) = find? other fields := by
  induction fields with
  | nil => simp [put, find?, h.symm]
  | cons field fields ih =>
    by_cases ho : field.1 = .text other
    · have hk : (Key.text other).same key = false := by
        rw [Key.same_comm, Key.same_text]
        simpa using h.symm
      simp [put, find?, ho, hk]
    · cases hk : field.1.same key <;> simp [put, find?, ho, hk, ih]

end Json

end Componentry
