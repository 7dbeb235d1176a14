import CardText.Unicode.Printable

/-! Quoted text. A quotation stays on one line: a character that is not printable, or
that would join the one before it, is shown by its number. -/
namespace CardText.Text

def hexDigits (n : Nat) : List Char := Nat.toDigits 16 n

def quotedChar (c : Char) : List Char :=
  match c with
  | '"' => ['\\', '"']
  | '\\' => ['\\', '\\']
  | '\n' => ['\\', 'n']
  | '\r' => ['\\', 'r']
  | '\t' => ['\\', 't']
  | '\x00' => ['\\', '0']
  | c =>
      if Unicode.isExtendingMark c || !Unicode.isPrintable c then
        ['\\', 'u', '\x7b'] ++ hexDigits c.toNat ++ ['\x7d']
      else [c]

def quotedChars (text : List Char) : List Char :=
  '"' :: text.flatMap quotedChar ++ ['"']

def quoted (text : String) : String := String.ofList (quotedChars text.toList)

end CardText.Text
