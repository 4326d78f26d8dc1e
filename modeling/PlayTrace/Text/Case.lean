import PlayTrace.Text.CaseTable

/-!
# Capitals

Writing a text in capitals, character by character. Every character outside the two tables and the
ASCII letters is its own capital form.

`lowerAscii` is the opposite for the ASCII letters alone. It is used only to compare with words
made of such letters, none of which is the small form of a character outside ASCII.
-/

namespace PlayTrace.Text

/-- The capital form of a character outside ASCII. -/
def capitalBeyondAscii (c : Char) : List Char :=
  match capitalSequences.find? fun e => e.1 == c.toNat with
  | some e => e.2.map Char.ofNat
  | none =>
    let n := c.toNat
    match capitalRuns.find? fun r => r.first ≤ n && n ≤ r.last && (n - r.first) % r.step == 0 with
    | some r => [Char.ofNat (n + r.offset).toNat]
    | none => [c]

/-- The capital form of a character. -/
def capital (c : Char) : List Char :=
  if c.toNat < 128 then [c.toUpper] else capitalBeyondAscii c

/-- The text in capitals. -/
def upper (s : String) : String :=
  String.ofList (s.toList.flatMap capital)

/-- The text with its ASCII capitals made small. -/
def lowerAscii (s : String) : String :=
  s.map Char.toLower

end PlayTrace.Text
