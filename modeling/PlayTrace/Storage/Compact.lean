/-!
# Compact structures

Structures of numbered fields as bytes. Integers are written seven bits at a time, the lowest first,
with negative ones folded between the positive ones; a field is announced by the distance of its
number from that of the field before it and by the form of its value.
-/

namespace PlayTrace

/-- A value of a compact structure. -/
inductive Compact where
  | int32 (n : Int)
  | int64 (n : Int)
  | text (s : String)
  | list (form : UInt8) (items : List Compact)
  /-- fields by ascending number -/
  | record (fields : List (Nat × Compact))

namespace Compact

/-- The number that announces the form of a value. -/
def form : Compact → UInt8
  | int32 _ => 5
  | int64 _ => 6
  | text _ => 8
  | list _ _ => 9
  | record _ => 12

/-- The form of texts. -/
def textForm : UInt8 := 8

/-- The form of integers of 32 bits. -/
def int32Form : UInt8 := 5

/-- The form of structures. -/
def recordForm : UInt8 := 12

/-- A natural number, seven bits at a time. -/
def groups : Nat → Nat → List UInt8
  | 0, _ => []
  | fuel + 1, n =>
    if n < 128 then [n.toUInt8] else (128 + n % 128).toUInt8 :: groups fuel (n / 128)

/-- A natural number as bytes. -/
def natBytes (n : Nat) : List UInt8 := groups (n.log2 + 1) n

/-- An integer as bytes. -/
def intBytes (n : Int) : List UInt8 :=
  natBytes (if 0 ≤ n then 2 * n.toNat else 2 * (-n).toNat - 1)

/-- The head of a list: how many items of which form it has. -/
def listHead (form : UInt8) (count : Nat) : List UInt8 :=
  if count < 15 then [count.toUInt8 * 16 + form] else (240 + form) :: natBytes count

/-- The head of a field, given the number of the field before it. -/
def fieldHead (before number : Nat) (form : UInt8) : List UInt8 :=
  [(number - before).toUInt8 * 16 + form]

mutual

/-- A value as bytes. -/
def bytes : Compact → List UInt8
  | int32 n => intBytes n
  | int64 n => intBytes n
  | text s => natBytes s.utf8ByteSize ++ s.toUTF8.toList
  | list form items => listHead form items.length ++ itemBytes items
  | record fields => fieldBytes 0 fields

/-- The items of a list as bytes. -/
def itemBytes : List Compact → List UInt8
  | [] => []
  | v :: vs => bytes v ++ itemBytes vs

/-- The fields of a structure as bytes, given the number of the field before them. -/
def fieldBytes (before : Nat) : List (Nat × Compact) → List UInt8
  | [] => [0]
  | (number, v) :: fs => fieldHead before number v.form ++ bytes v ++ fieldBytes number fs

end

end Compact

end PlayTrace
