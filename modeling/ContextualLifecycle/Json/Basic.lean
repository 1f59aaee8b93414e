import ContextualLifecycle.Binary64

namespace ContextualLifecycle

/-- A JSON number: an integer between -2^63 and 2^64 - 1, or else a floating-point number. -/
inductive Json.Number where
  | integer (value : Int)
  | real (value : Binary64)
deriving DecidableEq, Repr, Inhabited

inductive Json where
  | null
  | bool (value : Bool)
  | number (value : Json.Number)
  | string (value : String)
  | array (items : List Json)
  | object (members : List (String × Json))
deriving Repr, Inhabited

namespace Json

def ofNat (n : Nat) : Json := number (.integer n)

/-- Puts a member into members in ascending order; a member of the same key is replaced. -/
def insertMember (key : String) (value : Json) : List (String × Json) → List (String × Json)
  | [] => [(key, value)]
  | (k, v) :: rest =>
    if key < k then (key, value) :: (k, v) :: rest
    else if key = k then (key, value) :: rest
    else (k, v) :: insertMember key value rest

def ofMembers (members : List (String × Json)) : Json :=
  object (members.foldl (fun sorted (key, value) => insertMember key value sorted) [])

def member? (key : String) : Json → Option Json
  | object members => members.lookup key
  | _ => none

mutual

def eqv : Json → Json → Bool
  | null, null => true
  | bool a, bool b => a == b
  | number a, number b => a == b
  | string a, string b => a == b
  | array as, array bs => eqvItems as bs
  | object as, object bs => eqvMembers as bs
  | _, _ => false

def eqvItems : List Json → List Json → Bool
  | [], [] => true
  | a :: as, b :: bs => a.eqv b && eqvItems as bs
  | _, _ => false

def eqvMembers : List (String × Json) → List (String × Json) → Bool
  | [], [] => true
  | (k, a) :: as, (l, b) :: bs => k == l && a.eqv b && eqvMembers as bs
  | _, _ => false

end

instance : BEq Json := ⟨eqv⟩

end Json

end ContextualLifecycle
