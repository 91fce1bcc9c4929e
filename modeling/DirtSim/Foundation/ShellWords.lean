import Mathlib.Data.List.Basic
import Mathlib.Tactic.Common

/-! # How a shell splits a command

Outside quotes, blanks end words and operator characters are tokens of their own. A backslash quotes
the next byte, single quotes every byte up to the next one (`Shell.scan_single`), double quotes all
but expansions. Quoting is recorded with each byte, since what the shell does next depends on it.
-/

namespace DirtSim.Foundation.Shell

def tab : UInt8 := 9
def newline : UInt8 := 10
def space : UInt8 := 32
def doubleQuote : UInt8 := 34
def numberSign : UInt8 := 35
def dollar : UInt8 := 36
def singleQuote : UInt8 := 39
def backslash : UInt8 := 92
def backquote : UInt8 := 96

def isBlank (c : UInt8) : Bool := c = space || c = tab

/-- The bytes of the operators for redirection, pipes, lists and groups. -/
def isOperator (c : UInt8) : Bool := [38, 40, 41, 59, 60, 62, 124].contains c

structure WordByte where
  byte : UInt8
  quoted : Bool
deriving DecidableEq

inductive Token
  | word (bytes : List WordByte)
  | operator (c : UInt8)
  | newline
deriving DecidableEq

inductive Mode
  | plain | escaped | single | double | doubleEscaped | comment
deriving DecidableEq

/-- What has been read: whole tokens, and the word that has begun. -/
structure Scanner where
  mode : Mode := .plain
  current : Option (List WordByte) := none
  tokens : List Token := []

namespace Scanner

def put (scanner : Scanner) (c : UInt8) (quoted : Bool) : Scanner :=
  { scanner with current := some (scanner.current.getD [] ++ [{ byte := c, quoted := quoted }]) }

/-- A word begins where its first quote stands, even if nothing is between the quotes. -/
def begin (scanner : Scanner) : Scanner :=
  { scanner with current := some (scanner.current.getD []) }

def endWord (scanner : Scanner) : Scanner :=
  match scanner.current with
  | none => scanner
  | some bytes => { scanner with current := none, tokens := scanner.tokens ++ [.word bytes] }

def emit (scanner : Scanner) (token : Token) : Scanner :=
  { scanner.endWord with tokens := scanner.endWord.tokens ++ [token] }

def enter (scanner : Scanner) (mode : Mode) : Scanner := { scanner with mode := mode }

def stepPlain (scanner : Scanner) (c : UInt8) : Scanner :=
  if c = backslash then scanner.enter .escaped
  else if c = singleQuote then scanner.begin.enter .single
  else if c = doubleQuote then scanner.begin.enter .double
  else if isBlank c then scanner.endWord
  else if c = newline then scanner.emit .newline
  else if isOperator c then scanner.emit (.operator c)
  else if c = numberSign ∧ scanner.current = none then scanner.enter .comment
  else scanner.put c false

def step (scanner : Scanner) (c : UInt8) : Scanner :=
  match scanner.mode with
  | .plain => scanner.stepPlain c
  | .escaped =>
      -- A quoted newline continues the line.
      if c = newline then scanner.enter .plain else (scanner.put c true).enter .plain
  | .single => if c = singleQuote then scanner.enter .plain else scanner.put c true
  | .double =>
      if c = doubleQuote then scanner.enter .plain
      else if c = backslash then scanner.enter .doubleEscaped
      else scanner.put c (decide (c ≠ dollar ∧ c ≠ backquote))
  | .doubleEscaped =>
      if c = newline then scanner.enter .double
      else if [dollar, backquote, doubleQuote, backslash].contains c then
        (scanner.put c true).enter .double
      else ((scanner.put backslash true).put c true).enter .double
  | .comment => if c = newline then (scanner.enter .plain).emit .newline else scanner

/-- The tokens of a command that ends here, if nothing is left open. -/
def finish (scanner : Scanner) : Option (List Token) :=
  match scanner.mode with
  | .plain | .comment => some scanner.endWord.tokens
  | .escaped | .single | .double | .doubleEscaped => none

end Scanner

def scan (scanner : Scanner) (bytes : List UInt8) : Scanner := bytes.foldl Scanner.step scanner

/-- The tokens of a command, which ends where its first zero byte stands. -/
def tokens (command : List UInt8) : Option (List Token) :=
  (scan {} (command.takeWhile (· ≠ 0))).finish

def quotedBytes (bytes : List UInt8) : List WordByte :=
  bytes.map fun c => { byte := c, quoted := true }

/-- The shell sees these words and nothing else, and every byte of them is quoted. -/
def SplitsInto (command : List UInt8) (argv : List (List UInt8)) : Prop :=
  ∃ words : List (List WordByte), tokens command = some (words.map .word) ∧
    words.map (List.map WordByte.byte) = argv ∧ ∀ word ∈ words, ∀ c ∈ word, c.quoted

theorem scan_append (scanner : Scanner) (first second : List UInt8) :
    scan scanner (first ++ second) = scan (scan scanner first) second := List.foldl_append

section

variable (read : List WordByte) (done : List Token)

/-- Between single quotes, a byte other than the quote stands for itself. -/
theorem scan_single {c : UInt8} (other : c ≠ singleQuote) :
    scan { mode := .single, current := some read, tokens := done } [c] =
      { mode := .single, current := some (read ++ quotedBytes [c]), tokens := done } :=
  if_neg other

/-- The quote itself is written by leaving the quotes, quoting it with a backslash, and going back. -/
theorem scan_reopened :
    scan { mode := .single, current := some read, tokens := done }
        [singleQuote, backslash, singleQuote, singleQuote] =
      { mode := .single, current := some (read ++ quotedBytes [singleQuote]), tokens := done } :=
  rfl

theorem scan_opened :
    scan { mode := .plain, current := none, tokens := done } [singleQuote] =
      { mode := .single, current := some [], tokens := done } := rfl

theorem scan_closed :
    scan { mode := .single, current := some read, tokens := done } [singleQuote] =
      { mode := .plain, current := some read, tokens := done } := rfl

theorem scan_space :
    scan { mode := .plain, current := some read, tokens := done } [space] =
      { mode := .plain, current := none, tokens := done ++ [.word read] } := rfl

end

theorem splitsInto_of_words {command : List UInt8} {argv : List (List UInt8)}
    (split : tokens command = some (argv.map fun arg => .word (quotedBytes arg))) :
    SplitsInto command argv := by
  refine ⟨argv.map quotedBytes, ?_, ?_, ?_⟩
  · rw [split, List.map_map]
    rfl
  · rw [List.map_map]
    refine (List.map_congr_left fun arg _ => ?_).trans (List.map_id argv)
    rw [Function.comp_apply, quotedBytes, List.map_map]
    exact List.map_id arg
  · intro word member c inside
    obtain ⟨arg, _, rfl⟩ := List.mem_map.mp member
    obtain ⟨byte, _, rfl⟩ := List.mem_map.mp inside
    rfl

end DirtSim.Foundation.Shell
