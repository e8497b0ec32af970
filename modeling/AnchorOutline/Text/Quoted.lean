import AnchorOutline.Unicode.Property

/-!
# Quoted texts

A text between double quotes, in a form that shows every character: quotes, backslashes and the
common control characters by a backslash and a letter, and whatever would not be seen on its own
(unprintable, ignorable and combining characters) by its number between braces.

* `isPlain` : the characters that stand for themselves;
* `quote` : the quoted form of a text;
* `quoteList` : the quoted forms of several texts between brackets.
-/

namespace AnchorOutline.Text

open Unicode

/-- Printable characters of version 17.0 that are unassigned in the tables. -/
def laterPrintable : CharSet := CharSet.decode
  "88F C5C CDC 1ACF-1ADD 1AE0-1AEB 20C1 2B96 A7CE-A7CF A7D2 A7D4 A7F1 FBC3-FBD2 FD90-FD91
  FDC8-FDCE 10940-10959 10EC5-10EC7 10ED0-10ED8 10EFA-10EFB 11B60-11B67 11DB0-11DDB 11DE0-11DE9
  16EA0-16EB8 16EBB-16ED3 16FF2-16FF6 187F8-187FF 18D09-18D1E 18D80-18DF2 1CCFA-1CCFC
  1CEBA-1CED0 1CEE0-1CEF0 1E6C0-1E6DE 1E6E0-1E6F5 1E6FE-1E6FF 1F6D8 1F777-1F77A 1F8D0-1F8D8
  1FA54-1FA57 1FA8A 1FA8E 1FAC8 1FACD 1FAEA 1FAEF 1FBFA 2B73A-2B73F 2CEA2-2CEAD 323B0-33479"

/-- Those of them that combine with the character before. -/
def laterCombining : CharSet := CharSet.decode
  "1ACF-1ADD 1AE0-1AEB 10EFA-10EFB 11B60 11B62-11B64 11B66 1E6E3 1E6E6 1E6EE-1E6EF 1E6F5"

/-- Letters, marks, numbers, punctuation, symbols and the space, but for characters that combine
with others or are ignored. -/
def plainChars : CharSet :=
  (CharSet.unions [Category.letters, Category.marks, Category.numbers, Category.punctuation,
    Category.symbols, CharSet.singleton ' ', laterPrintable]).diff
    (CharSet.unions [Property.graphemeExtend, laterCombining, Property.defaultIgnorable])

/-- Whether a character stands for itself between quotes. -/
def isPlain (c : Char) : Bool := plainChars.contains c

/-- The hexadecimal digits of a number, in lower case and without leading zeros. -/
def hexDigits (n : Nat) : List Char := Nat.toDigits 16 n

def quoteChar (c : Char) : List Char :=
  match c with
  | '"' => ['\\', '"']
  | '\\' => ['\\', '\\']
  | '\n' => ['\\', 'n']
  | '\r' => ['\\', 'r']
  | '\t' => ['\\', 't']
  | c =>
    if c.toNat = 0 then ['\\', '0']
    else if isPlain c then [c]
    else ['\\', 'u', '{'] ++ hexDigits c.toNat ++ ['}']

def quote (s : String) : String := String.ofList ('"' :: s.toList.flatMap quoteChar ++ ['"'])

def quoteList (xs : List String) : String := "[" ++ ", ".intercalate (xs.map quote) ++ "]"

end AnchorOutline.Text
