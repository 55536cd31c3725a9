/-
JSON values.

Integers from -2 ^ 63 to 2 ^ 64 - 1 are kept as they are; every other number is a binary float. An object is the list of
its members in order; reading and `Members.insert` keep names distinct: a repeated name keeps its first place and takes
the last value.

- `Json`, `Number`, `Members`
- `Members.get?`, `Members.insert`, `Members.ofList`
- `Json.mapStrings`: the same tree with every string leaf mapped by a function
- `Json.depth`: how many arrays and objects lie inside each other
-/
import CommentDigest.Assoc
import CommentDigest.Binary64.Basic

namespace CommentDigest

/-- a JSON number -/
inductive Number where
  | int (value : Int)
  | float (value : Binary64)
  deriving DecidableEq, Repr, Inhabited

/-- the integers kept exactly -/
def Number.fits (value : Int) : Bool := -(twoTo 63 : Int) ≤ value && value < twoTo 64

/-- a JSON value -/
inductive Json where
  | null
  | bool (value : Bool)
  | number (value : Number)
  | string (value : String)
  | array (items : List Json)
  | object (members : List (String × Json))
  deriving Repr, Inhabited

/-- the members of an object, in order -/
abbrev Members := List (String × Json)

namespace Json

mutual
/-- equality of values, member order included -/
def decEq : (a b : Json) → Decidable (a = b)
  | .null, .null => isTrue rfl
  | .bool a, .bool b => if h : a = b then isTrue (by rw [h]) else isFalse (by simpa using h)
  | .number a, .number b => if h : a = b then isTrue (by rw [h]) else isFalse (by simpa using h)
  | .string a, .string b => if h : a = b then isTrue (by rw [h]) else isFalse (by simpa using h)
  | .array a, .array b =>
    match decEqItems a b with
    | isTrue h => isTrue (by rw [h])
    | isFalse h => isFalse (by simpa using h)
  | .object a, .object b =>
    match decEqMembers a b with
    | isTrue h => isTrue (by rw [h])
    | isFalse h => isFalse (by simpa using h)
  | .null, .bool _ | .null, .number _ | .null, .string _ | .null, .array _ | .null, .object _ => isFalse (by simp)
  | .bool _, .null | .bool _, .number _ | .bool _, .string _ | .bool _, .array _ | .bool _, .object _ =>
    isFalse (by simp)
  | .number _, .null | .number _, .bool _ | .number _, .string _ | .number _, .array _ | .number _, .object _ =>
    isFalse (by simp)
  | .string _, .null | .string _, .bool _ | .string _, .number _ | .string _, .array _ | .string _, .object _ =>
    isFalse (by simp)
  | .array _, .null | .array _, .bool _ | .array _, .number _ | .array _, .string _ | .array _, .object _ =>
    isFalse (by simp)
  | .object _, .null | .object _, .bool _ | .object _, .number _ | .object _, .string _ | .object _, .array _ =>
    isFalse (by simp)

def decEqItems : (a b : List Json) → Decidable (a = b)
  | [], [] => isTrue rfl
  | [], _ :: _ => isFalse (by simp)
  | _ :: _, [] => isFalse (by simp)
  | x :: xs, y :: ys =>
    match decEq x y, decEqItems xs ys with
    | isTrue h, isTrue t => isTrue (by rw [h, t])
    | isFalse h, _ => isFalse (by intro e; exact h (List.cons.inj e).1)
    | _, isFalse t => isFalse (by intro e; exact t (List.cons.inj e).2)

def decEqMembers : (a b : List (String × Json)) → Decidable (a = b)
  | [], [] => isTrue rfl
  | [], _ :: _ => isFalse (by simp)
  | _ :: _, [] => isFalse (by simp)
  | (k, x) :: xs, (l, y) :: ys =>
    match decEq x y, decEqMembers xs ys with
    | isTrue h, isTrue t =>
      if e : k = l then isTrue (by rw [h, t, e])
      else isFalse (by intro q; exact e (congrArg Prod.fst (List.cons.inj q).1))
    | isFalse h, _ => isFalse (by intro q; exact h (congrArg Prod.snd (List.cons.inj q).1))
    | _, isFalse t => isFalse (by intro q; exact t (List.cons.inj q).2)
end

instance : DecidableEq Json := decEq

end Json

/-! ## Members -/

namespace Members

/-- the value under a name -/
def get? (ms : Members) (name : String) : Option Json := Assoc.find? (· == ·) name ms

/-- a new name goes last; a known name keeps its place and takes the value -/
def insert (ms : Members) (name : String) (v : Json) : Members := Assoc.put (· == ·) name v ms

/-- the members written one after another -/
def ofList (pairs : List (String × Json)) : Members := Assoc.collect (· == ·) pairs

end Members

namespace Json

/-! ## Parts -/

/-- the member of an object -/
def member? (v : Json) (name : String) : Option Json :=
  match v with
  | .object ms => Members.get? ms name
  | _ => none

def asString? : Json → Option String
  | .string s => some s
  | _ => none

def isString (v : Json) : Bool := v.asString?.isSome

/-! ## Trees -/

mutual
/-- every string leaf mapped; names, numbers, order and lengths are kept -/
def mapStrings (f : String → String) : Json → Json
  | .string s => .string (f s)
  | .array xs => .array (mapStringsItems f xs)
  | .object ms => .object (mapStringsMembers f ms)
  | .null => .null
  | .bool b => .bool b
  | .number n => .number n

def mapStringsItems (f : String → String) : List Json → List Json
  | [] => []
  | x :: xs => mapStrings f x :: mapStringsItems f xs

def mapStringsMembers (f : String → String) : List (String × Json) → List (String × Json)
  | [] => []
  | (k, v) :: ms => (k, mapStrings f v) :: mapStringsMembers f ms
end

mutual
/-- nesting of arrays and objects; a scalar has depth 0 -/
def depth : Json → Nat
  | .array xs => depthItems xs + 1
  | .object ms => depthMembers ms + 1
  | .null | .bool _ | .number _ | .string _ => 0

def depthItems : List Json → Nat
  | [] => 0
  | x :: xs => max (depth x) (depthItems xs)

def depthMembers : List (String × Json) → Nat
  | [] => 0
  | (_, v) :: ms => max (depth v) (depthMembers ms)
end

end Json

end CommentDigest
