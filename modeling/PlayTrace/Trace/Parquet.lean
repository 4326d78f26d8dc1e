import PlayTrace.Storage.Compact
import PlayTrace.Trace.Log

/-!
# Trace logs as Parquet files

A trace log as the bytes of a Parquet file: one group of rows, in which every column is one page of
plain values, followed by a description of all that.
-/

namespace PlayTrace

namespace Parquet

/-- The form of the values of a column. -/
inductive ColumnForm where
  | int64
  | text
deriving DecidableEq

/-- The number that a Parquet file has for a form. -/
def ColumnForm.code : ColumnForm → Int
  | int64 => 2
  | text => 6

/-- A column of a file. -/
structure Column where
  name : String
  form : ColumnForm
  /-- the values, one after the other -/
  page : List UInt8

/-- A natural number in little-endian order. -/
def littleEndian : Nat → Nat → List UInt8
  | 0, _ => []
  | width + 1, n => (n % 256).toUInt8 :: littleEndian width (n / 256)

/-- An integer of 64 bits. -/
def int64Bytes (n : Int) : List UInt8 := littleEndian 8 (n.emod 0x10000000000000000).toNat

/-- A text with its length in front. -/
def textBytes (s : String) : List UInt8 := littleEndian 4 s.utf8ByteSize ++ s.toUTF8.toList

/-- The columns of a trace log. -/
def columns (rows : List LogRow) : List Column :=
  let texts (f : LogRow → String) := rows.flatMap fun r => textBytes (f r)
  let ints (f : LogRow → Int) := rows.flatMap fun r => int64Bytes (f r)
  let pages := [(.text, texts LogRow.episodeId), (.text, texts LogRow.kind),
    (.int64, ints fun r => r.index), (.int64, ints LogRow.turn), (.text, texts LogRow.atom)]
  logColumnNames.zipWith (fun name (p : ColumnForm × List UInt8) => ⟨name, p.1, p.2⟩) pages

/-- The header of a page and its values. -/
def chunk (count : Nat) (c : Column) : List UInt8 :=
  Compact.bytes (.record [
    (1, .int32 0),
    (2, .int32 c.page.length),
    (3, .int32 c.page.length),
    (5, .record [(1, .int32 count), (2, .int32 0), (3, .int32 3), (4, .int32 3)])]) ++ c.page

/-- The description of a column in the schema. -/
def schemaOf (c : Column) : Compact :=
  .record ([(1, .int32 c.form.code), (3, .int32 0), (4, .text c.name)] ++
    match c.form with
    | .text => [(6, .int32 0)]
    | .int64 => [])

/-- The description of the chunk of a column, given where it begins and how long it is. -/
def describe (count start length : Nat) (c : Column) : Compact :=
  .record [(2, .int64 start), (3, .record [
    (1, .int32 c.form.code),
    (2, .list Compact.int32Form [.int32 0]),
    (3, .list Compact.textForm [.text c.name]),
    (4, .int32 0),
    (5, .int64 count),
    (6, .int64 length),
    (7, .int64 length),
    (9, .int64 start)])]

/-- The descriptions of the chunks of columns, the first of which begins at `start`. -/
def describeAll (count : Nat) : Nat → List Column → List Compact
  | _, [] => []
  | start, c :: cs =>
    let length := (chunk count c).length
    describe count start length c :: describeAll count (start + length) cs

/-- The mark at both ends of a file. -/
def mark : List UInt8 := "PAR1".toUTF8.toList

/-- The description at the end of a file. -/
def footer (count : Nat) (cs : List Column) : List UInt8 :=
  let size := (cs.flatMap (chunk count)).length
  Compact.bytes (.record [
    (1, .int32 1),
    (2, .list Compact.recordForm
      (.record [(4, .text "schema"), (5, .int32 cs.length)] :: cs.map schemaOf)),
    (3, .int64 count),
    (4, .list Compact.recordForm [.record [
      (1, .list Compact.recordForm (describeAll count mark.length cs)),
      (2, .int64 size),
      (3, .int64 count)]])])

/-- A trace log as the bytes of a file. -/
def encode (rows : List LogRow) : List UInt8 :=
  let cs := columns rows
  let tail := footer rows.length cs
  mark ++ cs.flatMap (chunk rows.length) ++ tail ++ littleEndian 4 tail.length ++ mark

end Parquet

end PlayTrace
