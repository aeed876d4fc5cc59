import Telemetry.Text.Numbered

/-!
# Quoted text

Text between double quotes, for people to read. Quotes and backslashes are escaped, a few controls
have letters of their own, and every other character that cannot be seen is shown by its number.

## Main definitions

* `quote`: the quoted form.
-/

namespace Telemetry.Text

/-- One character inside quotes. -/
def quoteChar (c : Char) : List Char :=
  match c.toNat with
  | 0x00 => ['\\', '0']
  | 0x09 => ['\\', 't']
  | 0x0a => ['\\', 'n']
  | 0x0d => ['\\', 'r']
  | 0x22 => ['\\', c]
  | 0x5c => ['\\', c]
  | n =>
    if isNumbered c then
      ['\\', 'u', Char.ofNat 0x7b] ++ Nat.toDigits 16 n ++ [Char.ofNat 0x7d]
    else [c]

def quote (s : String) : String :=
  let mark := Char.ofNat 0x22
  String.ofList (mark :: s.toList.flatMap quoteChar ++ [mark])

end Telemetry.Text
