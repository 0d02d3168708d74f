import StyleHost.Value
import StyleHost.Error
import StyleHost.Sort.Spec

/-!
# Sort keys

The key of an item is the value of the selected expression, coerced to the data type of the sort
specification. A numeric key is read from the string-value, so booleans and infinities are not
numbers there. A text key whose expression fails is absent; a numeric one is not a number.

* `SortKey.ofValue` : the coercion of a value.
* `SortKey.ofResult` : the key of an evaluation that may have failed.
* `SortKey.compare` : the order of two keys of one level. Absent keys come first and keys that are
  not numbers before numbers, in either direction.
-/

namespace StyleHost

/-- The key of one item at one level. -/
inductive SortKey where
  | text (s : String)
  | number (x : Double)
  /-- A numeric key whose value was not a number. -/
  | notANumber
deriving DecidableEq

namespace SortKey

/-- The coercion of a value to the data type of a key. -/
def ofValue (v : Value) : DataType → SortKey
  | .text => .text v.stringValue
  | .number =>
    let x := Number.parse v.stringValue
    if x.isNaN then .notANumber else .number x

/-- The key that stands for a failed evaluation. -/
def ofFailure : DataType → Option SortKey
  | .text => none
  | .number => some .notANumber

/-- The key of an evaluation; absent if a text key could not be evaluated. -/
def ofResult (result : Except EngineError Value) (dataType : DataType) : Option SortKey :=
  match result with
  | .ok v => some (ofValue v dataType)
  | .error _ => ofFailure dataType

/-- An order of two ordinary keys in a direction. -/
def directed (order : SortOrder) (o : Ordering) : Ordering :=
  match order with
  | .ascending => o
  | .descending => o.swap

/-- The order of two keys of one level under the direction `order`. Texts compare by `collate`.
Keys of two data types, which one level never holds, tie. -/
def compare (collate : String → String → Ordering) (order : SortOrder) :
    Option SortKey → Option SortKey → Ordering
  | none, none => .eq
  | none, some _ => .lt
  | some _, none => .gt
  | some .notANumber, some .notANumber => .eq
  | some .notANumber, some _ => .lt
  | some _, some .notANumber => .gt
  | some (.number x), some (.number y) => directed order ((x.compare? y).getD .eq)
  | some (.text x), some (.text y) => directed order (collate x y)
  | some (.number _), some (.text _) => directed order .eq
  | some (.text _), some (.number _) => directed order .eq

end SortKey

end StyleHost
