import BuildRegistry.Text.Blank
import BuildRegistry.Text.LetterTable

/-
  Files of variable settings, one `name=value` on a line. Values may be quoted, may go on over
  line breaks inside quotes or after a backslash, and may name other variables after a dollar
  sign. Reading stops at the first line that is wrong; the settings before it count.
-/

namespace BuildRegistry.EnvFile

/-! Lines -/

/-- Where the scan for the end of a line stands. -/
inductive Scan where
  | ready
  | blank
  | escape
  | weak
  | weakEscape
  | strong
  | strongEscape
deriving DecidableEq, Repr

/-- What a character outside quotes leads to. -/
def Scan.outside (c : Char) : Scan :=
  if c = '\\' then .escape
  else if c = '"' then .weak
  else if c = '\'' then .strong
  else .ready

/-- The next stand; none where a comment begins. -/
def Scan.next : Scan → Char → Option Scan
  | .ready, c =>
    some (if Text.isBlank c && c ≠ '\n' && c ≠ '\r' then .blank else outside c)
  | .blank, c => if c = '#' then none else some (outside c)
  | .escape, _ => some .ready
  | .weak, c => some (if c = '\\' then .weakEscape else if c = '"' then .ready else .weak)
  | .weakEscape, _ => some .weak
  | .strong, c => some (if c = '\\' then .strongEscape else if c = '\'' then .ready else .strong)
  | .strongEscape, _ => some .strong

/-- Scans text up to a comment: what comes before it, and the stand if none begins. -/
def scan : Scan → List Char → List Char × Option Scan
  | st, [] => ([], some st)
  | st, c :: s =>
    match st.next c with
    | none => ([], none)
    | some st => let (kept, last) := scan st s; (c :: kept, last)

/-- The text cut after every line break. -/
def brokenLines : List Char → List (List Char)
  | [] => []
  | c :: s =>
    if c = '\n' then [c] :: brokenLines s
    else match brokenLines s with
      | [] => [[c]]
      | l :: ls => (c :: l) :: ls

def isComment (s : List Char) : Bool := (Text.trimStart s).head? = some '#'

/-- Without the line break at its end. -/
def withoutBreak (s : List Char) : List Char :=
  match s.reverse with
  | '\n' :: '\r' :: r => r.reverse
  | '\n' :: r => r.reverse
  | _ => s

/-- Lines that hang together joined into one, `begun` being the one that is not complete. The last
is none if the text ends inside of it. -/
def wholeLines (begun : List Char) (st : Scan) : List (List Char) → List (Option (List Char))
  | [] => if st = .ready then [] else [none]
  | l :: ls =>
    if isComment (begun ++ l) then wholeLines [] .ready ls
    else match scan st l with
      | (kept, none) => some (begun ++ kept) :: wholeLines [] .ready ls
      | (_, some .ready) => some (withoutBreak (begun ++ l)) :: wholeLines [] .ready ls
      | (_, some st) => wholeLines (begun ++ l) st ls

/-! Values -/

inductive Quote where
  | plain
  | weak
  | strong
deriving DecidableEq, Repr

/-- What the reading of a value is about: its text, the character after a backslash, the name of a
variable, such a name between braces, or what follows the value. -/
inductive Phase where
  | text
  | escape
  | name
  | braced
  | ended
  | comment
deriving DecidableEq, Repr

structure Reading where
  quote : Quote
  phase : Phase
  name : List Char
  output : List Char
deriving DecidableEq, Repr

/-- The character that a backslash and a letter stand for. -/
def escapeOf (c : Char) : Option Char :=
  if c = 'n' then some '\n'
  else if ['\\', '\'', '"', '$', ' '].contains c then some c
  else none

namespace Reading

def start : Reading := ⟨.plain, .text, [], []⟩

def push (r : Reading) (c : Char) : Reading := { r with output := r.output ++ [c] }

/-- Puts in the value of the variable that was named. -/
def substituted (value : List Char → List Char) (r : Reading) : Reading :=
  { r with name := [], output := r.output ++ value r.name }

/-- One more character of the text outside and inside weak quotes. -/
def takeText (r : Reading) (c : Char) : Reading :=
  if c = '$' then { r with phase := .name }
  else if c = '\\' then { r with phase := .escape }
  else if r.quote = .weak then if c = '"' then { r with quote := .plain } else r.push c
  else if c = '\'' then { r with quote := .strong }
  else if c = '"' then { r with quote := .weak }
  else if c = ' ' || c = '\t' then { r with phase := .ended }
  else r.push c

/-- One more character of a variable's name, or the one after it. -/
def takeName (value : List Char → List Char) (r : Reading) (c : Char) : Reading :=
  if Text.LetterTable.alphanumeric.contains c then { r with name := r.name ++ [c] }
  else if c = '\x7b' && r.name.isEmpty then { r with phase := .braced }
  else if c = '$' then r.substituted value
  else ({ r.substituted value with phase := .text }).push c

/-- Takes one more character; none if it may not stand there. -/
def take (value : List Char → List Char) (r : Reading) (c : Char) : Option Reading :=
  match r.phase with
  | .comment => some r
  | .ended =>
    if c = ' ' || c = '\t' then some r
    else if c = '#' then some { r with phase := .comment }
    else none
  | .escape => (escapeOf c).map fun d => ({ r with phase := .text }).push d
  | .text =>
    if r.quote = .strong then
      some (if c = '\'' then { r with quote := .plain } else r.push c)
    else some (r.takeText c)
  | .name => some (r.takeName value c)
  | .braced =>
    some (if c = '\x7d' then { r.substituted value with phase := .text }
      else { r with name := r.name ++ [c] })

/-- The value when the text has ended; none if a quote or a brace is still open. -/
def result (value : List Char → List Char) (r : Reading) : Option (List Char) :=
  if r.phase = .braced || r.quote ≠ .plain then none else some (r.substituted value).output

end Reading

/-- Reads a value in which variables have the values given. -/
def valueOf (value : List Char → List Char) (s : List Char) : Option (List Char) := do
  (← s.foldlM (Reading.take value) .start).result value

/-! Settings -/

def isNameStart (c : Char) : Bool := c.isAlpha || c = '_'

def isNameChar (c : Char) : Bool := c.isAlphanum || c = '_' || c = '.'

/-- A name at the front of a text, and the rest without white space in front. -/
def name? (s : List Char) : Option (List Char × List Char) :=
  if s.head?.any isNameStart then
    some (s.takeWhile isNameChar, Text.trimStart (s.dropWhile isNameChar))
  else none

def equals? : List Char → Option (List Char)
  | '=' :: s => some (Text.trimStart s)
  | _ => none

/-- The name that a line sets and the text of its value. The word `export` may stand in front, and
is a name itself when an equals sign follows it. -/
def setting? (s : List Char) : Option (List Char × List Char) := do
  let (name, s) ← name? s
  if name = "export".toList && (equals? s).isNone then
    let (name, s) ← name? s
    return (name, ← equals? s)
  else return (name, ← equals? s)

/-- Variables and their values. -/
abbrev Env := List (String × String)

def Env.set (e : Env) (name value : String) : Env :=
  if (e.lookup name).isSome then e.map fun v => if v.1 = name then (name, value) else v
  else e ++ [(name, value)]

/-- The value of a name in an environment, which is kept as texts `name=value`: what follows the
name and an equals sign in the first text that begins so. -/
def Env.value? (e : Env) (name : List Char) : Option (List Char) :=
  if name.isEmpty then none
  else
    let front := name ++ ['=']
    ((e.map fun v => v.1.toList ++ '=' :: v.2.toList).find? front.isPrefixOf).map
      (·.drop front.length)

/-- The environment, and what the lines of a file have set so far. -/
structure State where
  env : Env
  own : Env
deriving DecidableEq, Repr

/-- A variable's value, which the environment gives before the file does; nothing if it has none. -/
def State.value (st : State) (name : List Char) : List Char :=
  (st.env.value? name).getD ((st.own.lookup (String.ofList name)).getD "").toList

/-- Sets a variable unless the environment has it and may not be overridden. -/
def State.set (override : Bool) (st : State) (name value : String) : State :=
  { env := if override || (st.env.lookup name).isNone then st.env.set name value else st.env
    own := st.own.set name value }

/-- Carries out a line; none if it is wrong. -/
def line (override : Bool) (st : State) (s : List Char) : Option State :=
  let s := Text.trimChars s
  if s.isEmpty || s.head? = some '#' then some st
  else do
    let (name, rest) ← setting? s
    let value ← if rest.isEmpty || rest.head? = some '#' then some [] else valueOf st.value rest
    return st.set override (String.ofList name) (String.ofList value)

def lines (override : Bool) : State → List (Option (List Char)) → State
  | st, some l :: ls =>
    match line override st l with
    | some st => lines override st ls
    | none => st
  | st, _ => st

/-- The mark that may stand in front of a text. -/
def byteOrderMark : Char := '\uFEFF'

/-- The environment with the settings of a file, in place of earlier ones if `override` says so. -/
def load (override : Bool) (e : Env) (file : String) : Env :=
  let s := file.toList
  let s := if s.head? = some byteOrderMark then s.drop 1 else s
  (lines override ⟨e, []⟩ (wholeLines [] .ready (brokenLines s))).env

end BuildRegistry.EnvFile
