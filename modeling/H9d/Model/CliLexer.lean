import H9d.Core.Decimal
import H9d.Core.LongestMatch
import H9d.Model.CLIParsingDriver

/-! # The scanner of the command line

The rules of the scanner in their order. The one that matches most of the input is taken, and of several
ones the first.
-/

namespace H9d

open Cxx LongestMatch

namespace CliLexer

/-- Operators and keywords. -/
inductive Literal
  | minus | plus | star | slash | lparen | rparen | assign | colon
  | cli | clearCache | h9d | tcpclient | nodes | devs | discover | list | reloadDescription | node
  | reset | info | reg | set | get | setbit | clearbit | togglebit | dev | status | method
  deriving DecidableEq, Repr

def Literal.text : Literal → List Char
  | minus => ['-']
  | plus => ['+']
  | star => ['*']
  | slash => ['/']
  | lparen => ['(']
  | rparen => [')']
  | assign => ['=']
  | colon => [':']
  | cli => "cli".toList
  | clearCache => "clear_cache".toList
  | h9d => "h9d".toList
  | tcpclient => "tcpclient".toList
  | nodes => "nodes".toList
  | devs => "devs".toList
  | discover => "discover".toList
  | list => "list".toList
  | reloadDescription => "reload_description".toList
  | node => "node".toList
  | reset => "reset".toList
  | info => "info".toList
  | reg => "reg".toList
  | set => "set".toList
  | get => "get".toList
  | setbit => "setbit".toList
  | clearbit => "clearbit".toList
  | togglebit => "togglebit".toList
  | dev => "dev".toList
  | status => "status".toList
  | method => "method".toList

def Literal.all : List Literal :=
  [minus, plus, star, slash, lparen, rparen, assign, colon, cli, clearCache, h9d, tcpclient, nodes, devs, discover,
    list, reloadDescription, node, reset, info, reg, set, get, setbit, clearbit, togglebit, dev, status, method]

inductive Token
  | lfSemicolon
  | literal (l : Literal)
  | number (n : BitVec 32)
  | string (val : List Char)
  | quotedString (val : List Char)
  deriving DecidableEq, Repr

inductive Pattern
  | comment
  | whiteSpace
  | lfSemicolon
  | literal (l : Literal)
  | decimal
  | binary
  | hexadecimal
  | string
  | quotedString
  | other
  deriving DecidableEq, Repr

def rules : List Pattern :=
  [.comment, .whiteSpace, .lfSemicolon] ++ Literal.all.map .literal ++
    [.decimal, .binary, .hexadecimal, .string, .quotedString, .other]

def isWhite (c : Char) : Bool := c == ' ' || c == '\t' || c == '\n'

def isWord (c : Char) : Bool := c.isAlphanum || c == '_'

/-- The longest match of `([0-9A-Za-z_]|(\\[ ]))+`. -/
def wordLength : List Char → ℕ
  | [] => 0
  | '\\' :: ' ' :: rest => wordLength rest + 2
  | c :: rest => if isWord c then wordLength rest + 1 else 0

/-- Up to `max` digits behind what a number begins with, and at least one. -/
def digitsBehind (start : ℕ) (isDigit : Char → Bool) (max : ℕ) (rest : List Char) : ℕ :=
  let digits := min max (rest.takeWhile isDigit).length
  if digits = 0 then 0 else start + digits

def isBit (c : Char) : Bool := c == '0' || c == '1'

/-- The longest matches of `#.*`, of a class of characters, and of `b[01]{1,32}`. -/
def commentLength : List Char → ℕ
  | '#' :: rest => (rest.takeWhile (· ≠ '\n')).length + 1
  | _ => 0

def classLength (isIn : Char → Bool) : List Char → ℕ
  | c :: _ => if isIn c then 1 else 0
  | [] => 0

def binaryLength : List Char → ℕ
  | 'b' :: rest => digitsBehind 1 isBit 32 rest
  | _ => 0

/-- The longest match of `0[xX][0-9a-fA-F]{1,8}`. -/
def hexadecimalLength : List Char → ℕ
  | '0' :: x :: rest => if x = 'x' ∨ x = 'X' then digitsBehind 2 (fun c => (digit? c).isSome) 8 rest else 0
  | _ => 0

/-- The longest match of `\"[^\n\"]+\"`. -/
def quotedLength : List Char → ℕ
  | '"' :: rest =>
      let val := rest.takeWhile fun c => c ≠ '\n' ∧ c ≠ '"'
      if val ≠ [] ∧ (rest.drop val.length).head? = some '"' then val.length + 2 else 0
  | _ => 0

/-- The longest match of `.|[^ \t\n]+`. -/
def otherLength : List Char → ℕ
  | c :: rest => if c = '\n' then 0 else max 1 ((c :: rest).takeWhile (!isWhite ·)).length
  | [] => 0

/-- How much of the input a pattern matches. -/
def Pattern.length : Pattern → List Char → ℕ
  | comment => commentLength
  | whiteSpace => classLength isWhite
  | lfSemicolon => classLength fun c => c == ';' || c == '\n'
  | literal l => fun input => if l.text <+: input then l.text.length else 0
  | decimal => fun input => (input.takeWhile Char.isDigit).length
  | binary => binaryLength
  | hexadecimal => hexadecimalLength
  | string => wordLength
  | quotedString => quotedLength
  | other => otherLength

inductive Action
  | skip
  | token (t : Token)
  /-- `yy::parser::syntax_error`, which the parser reports -/
  | syntaxError (what : List Char)
  | throws (e : StringError)
  | fault (e : MemoryFault)
  deriving DecidableEq, Repr

/-- `c_str`, and a string made of it. -/
def cStr (s : List Char) : CString := ⟨s.takeWhile (· ≠ nul), fun member => by simpa using List.mem_takeWhile_imp member⟩

/-- What a rule does with the text that it matched. -/
def Pattern.action : Pattern → List Char → Action
  | comment, _ | whiteSpace, _ => .skip
  | lfSemicolon, _ => .token .lfSemicolon
  | literal l, _ => .token (.literal l)
  | decimal, yytext =>
      match stoi yytext with
      | .ok n => .token (.number (BitVec.ofInt 32 n))
      | .error e => .throws e
  -- `std::stoul` holds these numbers, and the assignment to an `int` wraps
  | binary, yytext => .token (.number (BitVec.ofNat 32 (numberIn 2 yytext.tail)))
  | hexadecimal, yytext => .token (.number (BitVec.ofNat 32 (numberIn 16 (yytext.drop 2))))
  | string, yytext =>
      match CLIParsingDriver.unescape (cStr yytext) with
      | .ok val => .token (.string val.chars)
      | .error e => .fault e
  | quotedString, yytext => .token (.quotedString yytext.tail.dropLast)
  | other, yytext => .syntaxError ("invalid input: ".toList ++ yytext)

/-- One match, and the input behind it. -/
def next (input : List Char) : Option (Action × List Char) :=
  (longest Pattern.length input rules).map fun (pattern, n) => (pattern.action (input.take n), input.drop n)

/-- How the input ends for the parser. -/
inductive Ending
  | eof
  | syntaxError (what : List Char)
  | throws (e : StringError)
  | fault (e : MemoryFault)
  deriving DecidableEq, Repr

/-- The token of a match stands in front of those of the input behind it. -/
def continueScan (scanRest : List Char → List Token × Ending) : Option (Action × List Char) → List Token × Ending
  | none => ([], .eof)
  | some (.skip, rest) => scanRest rest
  | some (.token t, rest) => (t :: (scanRest rest).1, (scanRest rest).2)
  | some (.syntaxError what, _) => ([], .syntaxError what)
  | some (.throws e, _) => ([], .throws e)
  | some (.fault e, _) => ([], .fault e)

/-- Each match is one character at least. -/
def scanFrom : ℕ → List Char → List Token × Ending
  | 0, _ => ([], .eof)
  | fuel + 1, input => continueScan (scanFrom fuel) (next input)

/-- The tokens of a line up to its end or the first error. -/
def scan (str : CString) : List Token × Ending := scanFrom str.chars.length str.chars

end CliLexer

end H9d
