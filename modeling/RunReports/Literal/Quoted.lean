import RunReports.Text.Digits
import RunReports.Text.Printable

/-! # Quoted texts

A text as a string literal of the notebook's language. The quote is the single one, unless
the text holds a single quote and no double one. The backslash, the quote, line feeds,
carriage returns and tabs have short escapes, and every other character that is not
printable is written by its code point with two, four or eight hexadecimal digits. -/
namespace RunReports.Literal

open RunReports.Text

def quoteFor (s : List Char) : Char :=
  if s.contains '\x27' && !s.contains '"' then '"' else '\x27'

def escapeChar (quote c : Char) : List Char :=
  let n := c.toNat
  if c = quote || c = '\\' then ['\\', c]
  else if c = '\n' then ['\\', 'n']
  else if c = '\r' then ['\\', 'r']
  else if c = '\t' then ['\\', 't']
  else if isPrintable c then [c]
  else if n < 0x100 then '\\' :: 'x' :: hexDigits 2 n
  else if n < 0x10000 then '\\' :: 'u' :: hexDigits 4 n
  else '\\' :: 'U' :: hexDigits 8 n

def quoted (s : List Char) : List Char :=
  let quote := quoteFor s
  quote :: s.flatMap (escapeChar quote) ++ [quote]

def quotedText (s : String) : String := String.ofList (quoted s.toList)

end RunReports.Literal
