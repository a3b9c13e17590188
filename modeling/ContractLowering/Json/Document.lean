import ContractLowering.Json.Token

/-! # Documents

The tokens of a document drive a stack of open containers. A document is accepted when it
has left exactly one value and no container is open. At most `maxDepth` containers are open
at once.
-/

namespace ContractLowering

/-- An open container with what it holds so far, the items of an array in reverse order; the
name is that of the member whose value is awaited. -/
inductive Container where
  | array (items : List Json)
  | object (members : Members)
  | member (members : Members) (name : String)

/-- What may come next: a value, a value or the end of a new array, a member name, a member
name or the end of a new object, a colon, a comma or an end, or nothing. -/
inductive Expected where
  | value
  | firstItem
  | name
  | firstName
  | colon
  | comma
  | done (result : Json)

/-- A reader between two tokens, with the innermost container in front. -/
structure Reading where
  stack : List Container
  expected : Expected

namespace Reading

def maxDepth : Nat := 127

def start : Reading := ⟨[], .value⟩

/-- Hand a complete value to the container around it. -/
def complete (value : Json) : List Container → Option Reading
  | [] => some ⟨[], .done value⟩
  | .array items :: stack => some ⟨.array (value :: items) :: stack, .comma⟩
  | .member members name :: stack => some ⟨.object (members.insert name value) :: stack, .comma⟩
  | .object _ :: _ => none

def enter (container : Container) (expected : Expected) (stack : List Container) : Option Reading :=
  if stack.length < maxDepth then some ⟨container :: stack, expected⟩ else none

/-- The first token of a value. -/
def value (token : Token) (stack : List Container) : Option Reading :=
  match token with
  | .null => complete .null stack
  | .boolean b => complete (.boolean b) stack
  | .number n => complete (.number n) stack
  | .text s => complete (.text s) stack
  | .openArray => enter (.array []) .firstItem stack
  | .openObject => enter (.object []) .firstName stack
  | _ => none

/-- The end of the innermost container. -/
def close (token : Token) (stack : List Container) : Option Reading :=
  match token, stack with
  | .closeArray, .array items :: stack => complete (.array items.reverse) stack
  | .closeObject, .object members :: stack => complete (.object members) stack
  | _, _ => none

def memberName (token : Token) (stack : List Container) : Option Reading :=
  match token, stack with
  | .text name, .object members :: stack => some ⟨.member members name :: stack, .colon⟩
  | _, _ => none

def step (reading : Reading) (token : Token) : Option Reading :=
  match reading.expected with
  | .value => value token reading.stack
  | .firstItem =>
    if token = .closeArray then close token reading.stack else value token reading.stack
  | .name => memberName token reading.stack
  | .firstName =>
    if token = .closeObject then close token reading.stack else memberName token reading.stack
  | .colon => if token = .colon then some ⟨reading.stack, .value⟩ else none
  | .comma =>
    match token, reading.stack with
    | .comma, .array _ :: _ => some ⟨reading.stack, .value⟩
    | .comma, .object _ :: _ => some ⟨reading.stack, .name⟩
    | _, _ => close token reading.stack
  | .done _ => none

def result? (reading : Reading) : Option Json :=
  match reading.expected with
  | .done value => some value
  | _ => none

end Reading

/-- The value that a sequence of tokens spells. -/
def Json.ofTokens? (tokens : List Token) : Option Json :=
  (tokens.foldlM Reading.step Reading.start).bind Reading.result?

/-- The value that a text spells. -/
def Json.parse? (source : String) : Option Json :=
  (Token.readAll source.toList).bind Json.ofTokens?

end ContractLowering
