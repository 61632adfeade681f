/-
# Value.Reader -- JSON text as values

Reading goes in two passes over the text, each a fold with an explicit state and so total: characters
make tokens (`tokens?`), tokens make a value on a stack of brackets part way through (`Machine`).
A name that comes twice in a record keeps its place and takes the later value.  The bare words of
`NonFiniteNames.json` are read as the doubles they name.
-/
import Deliberation.Value.Basic
import Deliberation.Number.Reading

set_option autoImplicit false

namespace Deliberation.Value

/-! ## Tokens -/

inductive Token where
  | openList
  | closeList
  | openRecord
  | closeRecord
  | comma
  | colon
  | text (s : String)
  | scalar (v : Value)

/-- Where the lexer stands: between tokens, in a bare word or number, or in a string.  Characters
already read are held latest first; `high` is a surrogate that waits for its partner. -/
inductive Lexing where
  | between
  | bare (read : List Char)
  | string (read : List Char) (high : Option Nat)
  | escape (read : List Char) (high : Option Nat)
  | unit (read : List Char) (high : Option Nat) (left : Nat) (code : Nat)

/-- The scalar that a bare word or number stands for. -/
def ofBare? (cs : List Char) : Option Value :=
  if cs = "null".toList then some null
  else if cs = "true".toList then some (bool true)
  else if cs = "false".toList then some (bool false)
  else if cs = "NaN".toList then some (real .nan)
  else if cs = "Infinity".toList then some (real (.infinite false))
  else if cs = "-Infinity".toList then some (real (.infinite true))
  else (Number.ofChars? cs).map number

/-- The value of a hexadecimal digit. -/
def hexValue? (c : Char) : Option Nat :=
  if '0' ≤ c ∧ c ≤ '9' then some (c.toNat - '0'.toNat)
  else if 'a' ≤ c ∧ c ≤ 'f' then some (c.toNat - 'a'.toNat + 10)
  else if 'A' ≤ c ∧ c ≤ 'F' then some (c.toNat - 'A'.toNat + 10)
  else none

/-- The replacement for a surrogate without a partner. -/
def loneSurrogate : Char := Char.ofNat 0xFFFD

/-- What was read, with a surrogate that found no partner replaced. -/
def settle (read : List Char) : Option Nat → List Char
  | none => read
  | some _ => loneSurrogate :: read

/-- The string after one escaped 16-bit unit. -/
def afterUnit (read : List Char) (high : Option Nat) (code : Nat) : Lexing :=
  if 0xD800 ≤ code ∧ code < 0xDC00 then .string (settle read high) (some code)
  else if 0xDC00 ≤ code ∧ code < 0xE000 then
    match high with
    | some h => .string (Char.ofNat (0x10000 + (h - 0xD800) * 0x400 + (code - 0xDC00)) :: read) none
    | none => .string (loneSurrogate :: read) none
  else .string (Char.ofNat code :: settle read high) none

/-- The character that a single-letter escape stands for. -/
def escaped? : Char → Option Char
  | '"' => some '"'
  | '\\' => some '\\'
  | '/' => some '/'
  | 'n' => some '\n'
  | 'r' => some '\r'
  | 't' => some '\t'
  | 'b' => some (Char.ofNat 8)
  | 'f' => some (Char.ofNat 12)
  | _ => none

/-- One character between tokens. -/
def startToken (done : List Token) (c : Char) : Option (List Token × Lexing) :=
  match c with
  | ' ' | '\t' | '\n' | '\r' => some (done, .between)
  | '[' => some (.openList :: done, .between)
  | ']' => some (.closeList :: done, .between)
  | '\x7b' => some (.openRecord :: done, .between)
  | '\x7d' => some (.closeRecord :: done, .between)
  | ',' => some (.comma :: done, .between)
  | ':' => some (.colon :: done, .between)
  | '"' => some (done, .string [] none)
  | _ => some (done, .bare [c])

/-- A character that may stand in a bare word or number. -/
def isBare (c : Char) : Bool := c.isAlphanum || c == '+' || c == '-' || c == '.'

/-- One character, given the tokens so far (latest first) and where the lexer stands. -/
def lexStep (state : List Token × Lexing) (c : Char) : Option (List Token × Lexing) :=
  let (done, mode) := state
  match mode with
  | .between => startToken done c
  | .bare read =>
    if isBare c then some (done, .bare (c :: read))
    else do startToken (.scalar (← ofBare? read.reverse) :: done) c
  | .string read high =>
    if c = '"' then some (.text (String.ofList (settle read high).reverse) :: done, .between)
    else if c = '\\' then some (done, .escape read high)
    else some (done, .string (c :: settle read high) none)
  | .escape read high =>
    if c = 'u' then some (done, .unit read high 4 0)
    else do return (done, .string ((← escaped? c) :: settle read high) none)
  | .unit read high left code => do
    let code := 16 * code + (← hexValue? c)
    if left ≤ 1 then return (done, afterUnit read high code)
    else return (done, .unit read high (left - 1) code)

/-- The tokens of a text; none where it breaks off or holds a malformed one. -/
def tokens? (cs : List Char) : Option (List Token) := do
  match ← cs.foldlM lexStep ([], .between) with
  | (done, .between) => return done.reverse
  | (done, .bare read) => return (Token.scalar (← ofBare? read.reverse) :: done).reverse
  | _ => none

/-! ## Values -/

/-- A bracket part way through, its items or fields latest first. -/
inductive Frame where
  | items (done : List Value)
  | fields (done : List (String × Value)) (name : String)

/-- What the next token has to be. -/
inductive Expecting where
  | value
  | itemOrClose
  | nameOrClose (done : List (String × Value))
  | name (done : List (String × Value))
  | colon (done : List (String × Value)) (name : String)
  | separator
  | nothing (v : Value)

/-- The brackets that are open, innermost first, and what comes next.  The bracket whose next token
is a name, a colon or its close stands in `Expecting`, not on the stack. -/
structure Machine where
  stack : List Frame
  expecting : Expecting

/-- The fields in order, a later value under an earlier name taking its place. -/
def ofFields (done : List (String × Value)) : Value :=
  record (done.reverse.foldl (fun fields f => setField f.1 f.2 fields) [])

/-- A finished value goes into the innermost open bracket. -/
def Machine.deliver (v : Value) : List Frame → Machine
  | [] => ⟨[], .nothing v⟩
  | .items done :: stack => ⟨.items (v :: done) :: stack, .separator⟩
  | .fields done name :: stack => ⟨.fields ((name, v) :: done) name :: stack, .separator⟩

/-- The beginning of a value. -/
def Machine.begin? (stack : List Frame) : Token → Option Machine
  | .openList => some ⟨.items [] :: stack, .itemOrClose⟩
  | .openRecord => some ⟨stack, .nameOrClose []⟩
  | .text s => some (deliver (Value.text s) stack)
  | .scalar v => some (deliver v stack)
  | _ => none

def Machine.step (m : Machine) (token : Token) : Option Machine :=
  match m.expecting, token with
  | .value, token => begin? m.stack token
  | .itemOrClose, .closeList =>
    match m.stack with
    | .items done :: stack => some (deliver (list done.reverse) stack)
    | _ => none
  | .itemOrClose, token => begin? m.stack token
  | .nameOrClose done, .closeRecord => some (deliver (ofFields done) m.stack)
  | .nameOrClose done, .text name => some ⟨m.stack, .colon done name⟩
  | .name done, .text name => some ⟨m.stack, .colon done name⟩
  | .colon done name, .colon => some ⟨.fields done name :: m.stack, .value⟩
  | .separator, .comma =>
    match m.stack with
    | .items done :: stack => some ⟨.items done :: stack, .value⟩
    | .fields done _ :: stack => some ⟨stack, .name done⟩
    | [] => none
  | .separator, .closeList =>
    match m.stack with
    | .items done :: stack => some (deliver (list done.reverse) stack)
    | _ => none
  | .separator, .closeRecord =>
    match m.stack with
    | .fields done _ :: stack => some (deliver (ofFields done) stack)
    | _ => none
  | _, _ => none

/-- The one value that a list of tokens makes. -/
def ofTokens? (tokens : List Token) : Option Value := do
  match ← tokens.foldlM Machine.step ⟨[], .value⟩ with
  | ⟨[], .nothing v⟩ => some v
  | _ => none

/-- The value of a JSON text. -/
def ofJson? (s : String) : Option Value := do ofTokens? (← tokens? s.toList)

end Deliberation.Value
