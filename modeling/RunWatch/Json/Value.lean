import RunWatch.Binary64.Decimal

/-!
# JSON values

The values that requests, replies and the state file carry.  Integers within sixty-four bits stay
integers, every other number is a `Binary64`; an object lists its members in ascending order of their
keys, which is the order they are written in.

`Members.insert`, `Members.erase` and `Members.find?` are the operations on objects, and
`Value.ofMembers` builds an object from members in any order.
-/

namespace RunWatch.Json

/-! ## Numbers -/

/-- An integer that fits in sixty-four bits, signed or unsigned. -/
structure Integer where
  val : Int
  inRange : -0x8000000000000000 ≤ val ∧ val < 0x10000000000000000
  deriving DecidableEq

/-- A JSON number. -/
inductive Number where
  | integer (i : Integer)
  | float (x : Binary64)
  deriving DecidableEq

namespace Number

/-- The integer as a number, when it fits. -/
def ofInt? (i : Int) : Option Number :=
  if h : -0x8000000000000000 ≤ i ∧ i < 0x10000000000000000 then some (.integer ⟨i, h⟩) else none

/-- An unsigned word as a number. -/
def ofUInt64 (n : UInt64) : Number :=
  .integer ⟨n.toNat, by have := n.toNat_lt; omega⟩

/-- A natural number as a number of sixty-four bits; higher bits are dropped. -/
def ofNat (n : Nat) : Number :=
  ofUInt64 (UInt64.ofNat n)

/-- The number as an unsigned word: integers that are not negative only. -/
def toUInt64? : Number → Option UInt64
  | .integer i => if 0 ≤ i.val then some (UInt64.ofNat i.val.toNat) else none
  | .float _ => none

/-- The number with zero in place of minus zero. -/
def plain : Number → Number
  | .integer i => .integer i
  | .float x => .float (if x.isZero then .zero false else x)

/-- The number as a binary64 number, rounding an integer. -/
def toBinary64? : Number → Option Binary64
  | .integer i => Binary64.ofInt? i.val
  | .float x => some x

/-- The number a numeral stands for.  A numeral of digits alone is an integer if it fits, except for
minus zero; all others are floating-point numbers and may be out of range. -/
def ofDecimal? (d : Decimal) : Option Number :=
  let floating := (Decimal.value? d).map Number.float
  match d.fraction, d.exponent with
  | none, none =>
    let n := Text.ofDigits d.whole
    if d.negative then
      if n = 0 then floating else (ofInt? (-(n : Int))).or floating
    else (ofInt? n).or floating
  | _, _ => floating

end Number

/-! ## Values -/

/-- A JSON value. -/
inductive Value where
  | null
  | bool (b : Bool)
  | number (n : Number)
  | string (s : String)
  | array (items : List Value)
  | object (members : List (String × Value))
  deriving Inhabited

/-- The members of an object, keys ascending. -/
abbrev Members := List (String × Value)

namespace Members

/-- The members with `key` standing for `value`, whatever it stood for before. -/
def insert (key : String) (value : Value) : Members → Members
  | [] => [(key, value)]
  | (k, v) :: rest =>
    if key < k then (key, value) :: (k, v) :: rest
    else if key = k then (key, value) :: rest
    else (k, v) :: insert key value rest

/-- The members without `key`. -/
def erase (key : String) (ms : Members) : Members :=
  ms.filter fun m => m.1 ≠ key

/-- The value that `key` stands for. -/
def find? (key : String) (ms : Members) : Option Value :=
  (List.find? (fun m => m.1 = key) ms).map Prod.snd

/-- Whether `key` stands for a value. -/
def contains (key : String) (ms : Members) : Bool :=
  ms.any fun m => m.1 = key

/-- Members in any order, brought into order; of equal keys the last one counts. -/
def ofList (ms : List (String × Value)) : Members :=
  ms.foldl (fun acc m => acc.insert m.1 m.2) []

end Members

namespace Value

/-- The object with these members, given in any order. -/
def ofMembers (ms : List (String × Value)) : Value :=
  .object (Members.ofList ms)

/-! ## Equality -/

mutual

/-- Equality of two values, decided member by member. -/
def decideEq : (a b : Value) → Decidable (a = b)
  | .null, .null => isTrue rfl
  | .bool x, .bool y =>
    if h : x = y then isTrue (by rw [h]) else isFalse fun e => h (by injection e)
  | .number x, .number y =>
    if h : x = y then isTrue (by rw [h]) else isFalse fun e => h (by injection e)
  | .string x, .string y =>
    if h : x = y then isTrue (by rw [h]) else isFalse fun e => h (by injection e)
  | .array x, .array y =>
    match decideEqItems x y with
    | isTrue h => isTrue (by rw [h])
    | isFalse h => isFalse fun e => h (by injection e)
  | .object x, .object y =>
    match decideEqMembers x y with
    | isTrue h => isTrue (by rw [h])
    | isFalse h => isFalse fun e => h (by injection e)
  | .null, .bool _ | .null, .number _ | .null, .string _ | .null, .array _ | .null, .object _
  | .bool _, .null | .bool _, .number _ | .bool _, .string _ | .bool _, .array _ | .bool _, .object _
  | .number _, .null | .number _, .bool _ | .number _, .string _ | .number _, .array _
  | .number _, .object _
  | .string _, .null | .string _, .bool _ | .string _, .number _ | .string _, .array _
  | .string _, .object _
  | .array _, .null | .array _, .bool _ | .array _, .number _ | .array _, .string _
  | .array _, .object _
  | .object _, .null | .object _, .bool _ | .object _, .number _ | .object _, .string _
  | .object _, .array _ => isFalse (fun e => by cases e)

/-- Equality of two lists of values. -/
def decideEqItems : (a b : List Value) → Decidable (a = b)
  | [], [] => isTrue rfl
  | [], _ :: _ => isFalse (fun e => by cases e)
  | _ :: _, [] => isFalse (fun e => by cases e)
  | x :: xs, y :: ys =>
    match decideEq x y, decideEqItems xs ys with
    | isTrue h, isTrue hs => isTrue (by rw [h, hs])
    | isFalse h, _ => isFalse fun e => h (by injection e)
    | _, isFalse hs => isFalse fun e => hs (by injection e)

/-- Equality of two lists of members. -/
def decideEqMembers : (a b : List (String × Value)) → Decidable (a = b)
  | [], [] => isTrue rfl
  | [], _ :: _ => isFalse (fun e => by cases e)
  | _ :: _, [] => isFalse (fun e => by cases e)
  | (j, x) :: xs, (k, y) :: ys =>
    if hk : j = k then
      match decideEq x y, decideEqMembers xs ys with
      | isTrue h, isTrue hs => isTrue (by rw [hk, h, hs])
      | isFalse h, _ => isFalse fun e => h (by injection e with e _; injection e)
      | _, isFalse hs => isFalse fun e => hs (by injection e)
    else isFalse fun e => hk (by injection e with e _; injection e)

end

instance : DecidableEq Value := decideEq

/-! ## Sameness -/

mutual

/-- The value with zero in place of minus zero.  Two values that are equal in this form carry the same numbers. -/
def plain : Value → Value
  | .null => .null
  | .bool b => .bool b
  | .number n => .number n.plain
  | .string s => .string s
  | .array items => .array (plainItems items)
  | .object members => .object (plainMembers members)

/-- The items with zero in place of minus zero. -/
def plainItems : List Value → List Value
  | [] => []
  | v :: vs => plain v :: plainItems vs

/-- The members with zero in place of minus zero. -/
def plainMembers : List (String × Value) → List (String × Value)
  | [] => []
  | (k, v) :: rest => (k, plain v) :: plainMembers rest

end

end Value

end RunWatch.Json
