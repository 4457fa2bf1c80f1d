import Cohort.Text.Letter

/-! # Quoted display of texts in messages -/

namespace Cohort.Text

/-- Whether a character is shown by its code point: it leaves no ink, or it would attach to the
quote before it. -/
def isHidden (c : Char) : Bool :=
  if c.toNat < 128 then c.toNat < 32 || c.toNat == 127
  else isGraphemeExtend c || (Category.of c).isInvisible

/-- A character between quotes. -/
def showChar (c : Char) : List Char :=
  match c with
  | '\t' => ['\\', 't']
  | '\r' => ['\\', 'r']
  | '\n' => ['\\', 'n']
  | '"' => ['\\', '"']
  | '\\' => ['\\', '\\']
  | '\x00' => ['\\', '0']
  | c =>
    if isHidden c then ['\\', 'u', '\x7b'] ++ Nat.toDigits 16 c.toNat ++ ['\x7d'] else [c]

/-- A text between double quotes, with the characters escaped that would not show as themselves. -/
def quoted (s : String) : String :=
  String.ofList ('"' :: s.toList.flatMap showChar ++ ['"'])

end Cohort.Text
